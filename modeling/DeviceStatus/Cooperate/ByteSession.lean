import DeviceStatus.Cooperate.Strings

/-!
# Messages on a session

One direction of a session between two devices, as the bytes that are under way and those that wait
in the circle buffer of the receiver. Together they are the packets that have been sent and not yet
arrived, among them those of other modules. Each delivery completes some of them, and the handler
of the cooperation gets the messages among these as they were sent.

## Main definitions

* `Segment` — a packet on the wire and the message that it is, if any.
* `Link`, `Session` — these packets, or segments, are under way.
-/

namespace DeviceStatus.Cooperation

open Framing (Format)
open Ipc (NetPacket CircleStreamBuffer Waits packetFormat headSize)
open Ipc.DSoftbusAdapter (onBytes handlePackets handleSessionData LooksLikePackets)

/-! ## Packets that are taken off a buffer -/

section Taken

/-- The packet at the head of a buffer holds its payload. -/
theorem holds_takeOff {c : CircleStreamBuffer} {p : Ipc.Packet} {rest : List UInt8}
    (h : Ipc.Packet.decode c.content = some (p, rest)) :
    c.takeOff.1.Holds c.takeOff.1.content.payload := by
  obtain ⟨⟨-, size, -⟩, filled, -⟩ := CircleStreamBuffer.takeOff_spec h
  have short : c.data.length ≤ Ipc.MAX_PACKET_BUF_SIZE := by
    have length : c.data.length = c.head.size.toInt.toNat := Ipc.StreamBuffer.length_bytes ..
    omega
  have holds := holds_fill c.head.idMsg short
  have content := (NetPacket.fill_of_le c.head.idMsg short).2
  rw [filled] at holds content
  simpa only [content] using holds

theorem holds_of_mem_handlePackets {turns : ℕ} {c : CircleStreamBuffer} {pkt : NetPacket}
    (h : pkt ∈ (handlePackets turns c).1) : pkt.Holds pkt.content.payload := by
  induction turns generalizing c with
  | zero => cases h
  | succ turns ih =>
    cases decoded : Ipc.Packet.decode c.content with
    | none =>
      rw [Ipc.DSoftbusAdapter.handlePackets_of_none decoded] at h
      cases h
    | some taken =>
      rw [Ipc.DSoftbusAdapter.handlePackets_of_some decoded] at h
      rcases List.mem_cons.mp h with rfl | later
      · exact holds_takeOff decoded
      · exact ih later

theorem holds_of_mem_onBytes {data : List UInt8} {c : CircleStreamBuffer} {pkt : NetPacket}
    (h : pkt ∈ (onBytes data c).1.packets) : pkt.Holds pkt.content.payload := by
  simp only [onBytes, handleSessionData] at h
  split_ifs at h
  · cases h
  · exact holds_of_mem_handlePackets h
  · cases h
  · cases h

end Taken

/-- A packet on the wire; `packet?` is the message that the handler of the cooperation gets. -/
structure Segment where
  content : Ipc.Packet
  packet? : Option DSoftbusPacket
  valid : packetFormat.valid content
  arrives : ∀ pkt : NetPacket, pkt.content = content → pkt.Holds content.payload →
    ∀ networkId, DSoftbusWire.onPacket networkId pkt =
      packet?.map (DSoftbusPacket.onPacket networkId)
  plain : ∀ packet ∈ packet?, ∀ s ∈ packet.strings, Plain s

namespace Segment

/-- The segment of a message. -/
theorem exists_of_packet {packet : DSoftbusPacket} (plain : ∀ s ∈ packet.strings, Plain s) :
    ∃ segment : Segment, segment.packet? = some packet ∧ packet.wire = segment.content.encode := by
  obtain ⟨sent, encoded, bytes⟩ := DSoftbusPacket.exists_sendPacket plain
  obtain ⟨id, holds, written⟩ := packet.message.builds_encode sent encoded
  rw [DSoftbusPacket.packet_message] at id holds written
  refine ⟨⟨sent.content, some packet, ?_, ?_, ?_⟩, rfl, ?_⟩
  · rw [Ipc.packetFormat_valid, NetPacket.length_payload_content]
    exact holds.ordered.wPos_le
  · intro pkt same readable networkId
    have payload : sent.content.payload = packet.bytesUpTo packet.optional.length [] := by
      rw [DSoftbusPacket.bytesUpTo, List.append_nil, List.take_length]
      exact written
    rw [payload] at readable
    rw [DSoftbusWire.onPacket_eq networkId ((congrArg Ipc.Packet.msgId same).trans id)
      (fun s hs => (plain s hs).nulFree) readable, DSoftbusPacket.keep_of_le (Nat.le_refl _)]
    rfl
  · rintro _ ⟨⟩
    exact plain
  · rw [DSoftbusPacket.wire, encoded, Option.bind_some, bytes, Option.getD_some]

/-- The segment of a packet that no handler of the cooperation takes. -/
theorem exists_of_other {packet : NetPacket}
    (other : DSoftbusWire.handles packet.msgId = none)
    (sent : (Ipc.DSoftbusAdapter.sendPacket packet).isSome) :
    ∃ segment : Segment, segment.packet? = none ∧
      Ipc.DSoftbusAdapter.sendPacket packet = some segment.content.encode := by
  have bytes := Ipc.DSoftbusAdapter.sendPacket_of_made (Ipc.DSoftbusAdapter.made_of_isSome sent)
  refine ⟨⟨packet.content, none, ?_, ?_, ?_⟩, rfl, bytes⟩
  · have accepted : ∀ pkt ∈ [packet], (Ipc.DSoftbusAdapter.sendPacket pkt).isSome := by
      simpa using sent
    exact Ipc.DSoftbusAdapter.valid_of_accepted accepted _ (by simp)
  · intro pkt same _ networkId
    have id : pkt.msgId = packet.msgId := congrArg Ipc.Packet.msgId same
    rw [DSoftbusWire.onPacket, id, other]
    rfl
  · rintro _ ⟨⟩

/-- The messages among some segments. -/
def packets (segments : List Segment) : List DSoftbusPacket := segments.filterMap packet?

@[simp] theorem packets_nil : packets [] = [] := rfl

@[simp] theorem packets_append (segments segments' : List Segment) :
    packets (segments ++ segments') = packets segments ++ packets segments' :=
  List.filterMap_append

/-- What the handler makes of packets that have arrived. -/
theorem filterMap_onPacket {networkId : NetworkId} {pkts : List NetPacket}
    {segments : List Segment} (same : pkts.map NetPacket.content = segments.map content)
    (holds : ∀ pkt ∈ pkts, pkt.Holds pkt.content.payload) :
    pkts.filterMap (DSoftbusWire.onPacket networkId) =
      (packets segments).map (DSoftbusPacket.onPacket networkId) := by
  induction segments generalizing pkts with
  | nil =>
    obtain rfl := List.map_eq_nil_iff.mp same
    rfl
  | cons segment segments ih =>
    cases pkts with
    | nil => cases same
    | cons pkt pkts =>
      obtain ⟨head, tail⟩ := List.cons_eq_cons.mp same
      obtain ⟨here, later⟩ := List.forall_mem_cons.mp holds
      have arrives := segment.arrives pkt head (head ▸ here) networkId
      have rest := ih tail later
      cases message : segment.packet? with
      | none =>
        rw [message] at arrives
        simpa [packets, arrives, message] using rest
      | some packet =>
        rw [message] at arrives
        simpa [packets, arrives, message] using rest

end Segment

/-! ## The packets under way -/

variable {ps : List Ipc.Packet} {segments : List Segment} {wire chunk rest : List UInt8}
  {buf : CircleStreamBuffer}

/-- What the buffer holds and the bytes under way are the packets. -/
structure Link (ps : List Ipc.Packet) (wire : List UInt8) (buf : CircleStreamBuffer) : Prop where
  waits : Waits ps wire buf
  whole : buf.content ++ wire = packetFormat.stream ps

namespace Link

theorem new : Link [] [] .new where
  waits := Ipc.waits_new (List.prefix_refl _)
  whole := rfl

/-- One more packet is sent. -/
theorem send (h : Link ps wire buf) (p : Ipc.Packet) :
    Link (ps ++ [p]) (wire ++ p.encode) buf := by
  have whole : buf.content ++ (wire ++ p.encode) = packetFormat.stream (ps ++ [p]) := by
    rw [← List.append_assoc, h.whole, Format.stream_append]
    simp
  refine ⟨⟨h.waits.status, ?_, whole ▸ List.prefix_refl _⟩, whole⟩
  cases ps with
  | nil =>
    have empty : buf.content = [] := (List.append_eq_nil_iff.mp h.whole).1
    rw [empty]
    exact packetFormat.received_of_lt (packetFormat.length_encode_pos _)
  | cons first ps =>
    refine packetFormat.received_of_lt (not_le.mp fun complete => ?_)
    have none := h.waits.unfinished
    rw [Format.received, if_pos complete] at none
    cases none

/-- Several packets are sent. -/
theorem sendAll (h : Link ps wire buf) (more : List Ipc.Packet) :
    Link (ps ++ more) (wire ++ more.flatMap Ipc.Packet.encode) buf := by
  induction more generalizing ps wire with
  | nil => simpa using h
  | cons p more ih => simpa using ih (h.send p)

/-- Some bytes have arrived, and the packets that they complete have come off the buffer. -/
theorem advance (h : Link ps (chunk ++ rest) buf) {buf' : CircleStreamBuffer}
    (length : buf'.content.length = packetFormat.residue ps (buf.content.length + chunk.length))
    (waits : Waits (packetFormat.pending ps (buf.content.length + chunk.length)) rest buf') :
    Link (packetFormat.pending ps (buf.content.length + chunk.length)) rest buf' := by
  refine ⟨waits, waits.start.eq_of_length ?_⟩
  have parts := packetFormat.received_append_pending ps (buf.content.length + chunk.length)
  have all := congrArg List.length h.whole
  have sizes := packetFormat.residue_add ps (buf.content.length + chunk.length)
  have both := congrArg (fun qs => (packetFormat.stream qs).length) parts
  simp only [Format.stream_append, List.length_append] at all both length ⊢
  omega

/-- Some bytes arrive: the first of the packets come off the buffer. -/
theorem deliver (h : Link ps (chunk ++ rest) buf) (valid : ∀ p ∈ ps, packetFormat.valid p)
    (looks : LooksLikePackets chunk)
    (fits : buf.content.length + chunk.length ≤ Ipc.MAX_STREAM_BUF_SIZE) :
    ∃ arrived left, ps = arrived ++ left ∧ Link left rest (onBytes chunk buf).2 ∧
      (onBytes chunk buf).1.packets.map NetPacket.content = arrived := by
  obtain ⟨packets, -, length, waits⟩ :=
    Ipc.DSoftbusAdapter.onBytes_of_fits valid h.waits looks fits
  exact ⟨_, _, (packetFormat.received_append_pending ps _).symm, h.advance length waits, packets⟩

/-- When no byte is under way, no packet is. -/
theorem done (h : Link ps [] buf) : ps = [] := by
  have whole := h.whole
  rw [List.append_nil] at whole
  have none := h.waits.unfinished
  rw [whole, packetFormat.received_stream] at none
  exact none

end Link

/-- What the buffer holds and the bytes under way are the segments. -/
abbrev Session (segments : List Segment) : List UInt8 → CircleStreamBuffer → Prop :=
  Link (segments.map Segment.content)

namespace Session

/-- One more packet is sent. -/
theorem send (h : Session segments wire buf) (segment : Segment) :
    Session (segments ++ [segment]) (wire ++ segment.content.encode) buf := by
  simpa [Session] using Link.send h segment.content

/-- Several packets are sent. -/
theorem sendAll (h : Session segments wire buf) (more : List Segment) :
    Session (segments ++ more) (wire ++ more.flatMap (·.content.encode)) buf := by
  simpa [Session, List.flatMap_map] using Link.sendAll h (more.map Segment.content)

/-- Some bytes arrive: the first of the packets reach the handlers as they were sent. -/
theorem deliver (h : Session segments (chunk ++ rest) buf) (looks : LooksLikePackets chunk)
    (fits : buf.content.length + chunk.length ≤ Ipc.MAX_STREAM_BUF_SIZE) :
    ∃ arrived left, segments = arrived ++ left ∧ Session left rest (onBytes chunk buf).2 ∧
      ∀ networkId, (onBytes chunk buf).1.packets.filterMap (DSoftbusWire.onPacket networkId) =
        (Segment.packets arrived).map (DSoftbusPacket.onPacket networkId) := by
  have valid : ∀ p ∈ segments.map Segment.content, packetFormat.valid p := by
    intro p hp
    obtain ⟨segment, -, rfl⟩ := List.mem_map.mp hp
    exact segment.valid
  obtain ⟨contents, later, parts, session, packets⟩ := Link.deliver h valid looks fits
  obtain ⟨arrived, left, rfl, rfl, rfl⟩ := List.map_eq_append_iff.mp parts
  exact ⟨arrived, left, rfl, session, fun networkId =>
    Segment.filterMap_onPacket packets fun pkt => holds_of_mem_onBytes⟩

/-- When no byte is under way, no packet is. -/
theorem done (h : Session segments [] buf) : segments = [] :=
  List.map_eq_nil_iff.mp (Link.done h)

end Session

end DeviceStatus.Cooperation
