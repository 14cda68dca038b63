import DeviceStatus.Ipc.StreamSocket

/-!
# The dsoftbus reassembler

What `DSoftbusAdapterImpl::OnBytes` makes of the bytes that a peer sends on one session. A
delivery is taken for raw data or for packet data by its first four bytes; packet data goes to
the circle buffer of the session, from which `HandleSessionData` takes the packets. The packets
arrive as they were sent exactly when no delivery looks like something else and each one fits
behind the unfinished packet.
-/

namespace DeviceStatus.Ipc

open Bytes Framing

namespace DSoftbusAdapter

/-- The loop of `HandleSessionData`, with at most so many turns to go. What it passes to
`HandlePacket` is returned as a list. -/
def handlePackets : Nat → CircleStreamBuffer → List NetPacket × CircleStreamBuffer
  | 0, circleBuffer => ([], circleBuffer)
  | turns + 1, circleBuffer =>
    if headSize ≤ circleBuffer.residualSize then
      let head := circleBuffer.head
      if head.size.toInt < 0 ∨ (MAX_PACKET_BUF_SIZE : Int) < head.size.toInt then
        ([], circleBuffer)
      else if (circleBuffer.residualSize : Int) < head.size.toInt + headSize then
        ([], circleBuffer)
      else
        let (filled, packet) := NetPacket.fill head.idMsg circleBuffer.data
        if filled = false then ([], circleBuffer)
        else
          let (_, circleBuffer) := circleBuffer.seekReadPos packet.getPacketLength
          let (packets, circleBuffer) := handlePackets turns circleBuffer
          (packet :: packets, circleBuffer)
    else ([], circleBuffer)

/-- Every turn of the loop takes bytes off the buffer, so there are no more turns than bytes. -/
def handleSessionData (circleBuffer : CircleStreamBuffer) : List NetPacket × CircleStreamBuffer :=
  handlePackets circleBuffer.residualSize circleBuffer

/-- What the observers of the adapter are given. -/
structure Received where
  packets : List NetPacket := []
  rawData : List (List UInt8) := []

/-- `OnBytes`, for a session with the buffer `circleBuffer`. -/
def onBytes (data : List UInt8) (circleBuffer : CircleStreamBuffer) :
    Received × CircleStreamBuffer :=
  if sizeof UInt32 ≤ data.length then
    if (ofImage (data.take (sizeof UInt32)) : UInt32) < MAX_MESSAGE_ID then
      let (written, circleBuffer) := circleBuffer.write data
      if written = false then ({}, circleBuffer)
      else
        let (packets, circleBuffer) := handleSessionData circleBuffer
        ({ packets }, circleBuffer)
    else ({ rawData := [data] }, circleBuffer)
  else ({}, circleBuffer)

/-- What the observers are given while deliveries arrive one by one. -/
def feed : List (List UInt8) → CircleStreamBuffer → Received
  | [], _ => {}
  | data :: later, circleBuffer =>
    let (first, circleBuffer) := onBytes data circleBuffer
    let rest := feed later circleBuffer
    { packets := first.packets ++ rest.packets, rawData := first.rawData ++ rest.rawData }

/-- The bytes that `SendPacket` hands to the softbus, when it sends something. -/
def sendPacket (packet : NetPacket) : Option (List UInt8) :=
  let (made, buffer) := packet.makeData {}
  if made = false then none
  else if MAX_PACKET_BUF_SIZE < buffer.size then none
  else some buffer.written

/-! ## The loop on the content of the buffer -/

theorem handlePackets_of_none {c : CircleStreamBuffer} (h : Packet.decode c.content = none)
    (turns : Nat) : handlePackets turns c = ([], c) := by
  cases turns with
  | zero => rfl
  | succ turns =>
    rw [handlePackets]
    rcases CircleStreamBuffer.no_packet h with
      ⟨short, -⟩ | ⟨long, -, header⟩ | ⟨long, -, header, incomplete⟩
    · rw [if_neg (by omega)]
    · simp [header]
    · simp only [header, incomplete, if_true, ite_self]

theorem handlePackets_of_some {c : CircleStreamBuffer} {p : Packet} {rest : List UInt8}
    (h : Packet.decode c.content = some (p, rest)) (turns : Nat) :
    handlePackets (turns + 1) c =
      (c.takeOff.1 :: (handlePackets turns c.takeOff.2).1,
        (handlePackets turns c.takeOff.2).2) := by
  obtain ⟨⟨long, header, complete⟩, filled, sought, -⟩ := CircleStreamBuffer.takeOff_spec h
  rw [handlePackets, if_pos (by omega)]
  simp only [header, complete, if_false, filled, sought, Bool.true_eq_false]

/-- The loop takes packets off the content until none is left as a whole. -/
theorem handlePackets_spec (turns : Nat) (c : CircleStreamBuffer) :
    (handlePackets turns c).1.map NetPacket.content = (packetFormat.split turns c.content).1 ∧
      (handlePackets turns c).2.content = (packetFormat.split turns c.content).2 ∧
      (handlePackets turns c).2.rwErrorStatus = c.rwErrorStatus := by
  induction turns generalizing c with
  | zero => exact ⟨rfl, rfl, rfl⟩
  | succ turns ih =>
    cases decoded : Packet.decode c.content with
    | none =>
      rw [handlePackets_of_none decoded, packetFormat.split_of_none decoded]
      exact ⟨rfl, rfl, rfl⟩
    | some taken =>
      obtain ⟨p, rest⟩ := taken
      obtain ⟨-, -, -, packet, after, status⟩ := CircleStreamBuffer.takeOff_spec decoded
      obtain ⟨packets, left, kept⟩ := ih c.takeOff.2
      rw [after] at packets left
      rw [packetFormat.split_of_some decoded, handlePackets_of_some decoded, List.map_cons,
        packet, packets]
      exact ⟨rfl, left, kept.trans status⟩

/-- More turns than bytes change nothing: the loop of the source ends. -/
theorem handlePackets_of_le {c : CircleStreamBuffer} {turns : Nat}
    (h : c.content.length ≤ turns) : handlePackets turns c = handleSessionData c := by
  have more (turns : Nat) : ∀ c : CircleStreamBuffer, c.content.length ≤ turns →
      handlePackets (turns + 1) c = handlePackets turns c := by
    induction turns with
    | zero =>
      intro c h
      have empty : c.content = [] := List.length_eq_zero_iff.mp (by omega)
      have stuck : Packet.decode c.content = none := by
        rw [empty]
        exact packetFormat.decode_nil
      rw [handlePackets_of_none stuck, handlePackets_of_none stuck]
    | succ turns ih =>
      intro c h
      cases decoded : Packet.decode c.content with
      | none => rw [handlePackets_of_none decoded, handlePackets_of_none decoded]
      | some taken =>
        obtain ⟨p, rest⟩ := taken
        obtain ⟨-, -, -, -, after, -⟩ := CircleStreamBuffer.takeOff_spec decoded
        have shorter : rest.length < c.content.length := by
          have whole := congrArg List.length (Packet.decode_eq_some.mp decoded).2
          have positive := packetFormat.length_encode_pos p
          rw [List.length_append, ← packetFormat_encode] at whole
          omega
        rw [handlePackets_of_some decoded, handlePackets_of_some decoded,
          ih c.takeOff.2 (by rw [after]; omega)]
  rw [handleSessionData, ← c.length_content]
  induction turns, h using Nat.le_induction with
  | base => rfl
  | succ turns h ih => rw [more turns c h, ih]

/-- After the loop no packet is left as a whole. -/
theorem handleSessionData_spec (c : CircleStreamBuffer) :
    ∃ rest, packetFormat.split c.content.length c.content =
        ((handleSessionData c).1.map NetPacket.content, rest) ∧
      (handleSessionData c).2.content = rest ∧ Packet.decode rest = none ∧
      (handleSessionData c).2.rwErrorStatus = c.rwErrorStatus := by
  obtain ⟨packets, left, status⟩ := handlePackets_spec c.content.length c
  rw [handlePackets_of_le (Nat.le_refl _)] at packets left status
  exact ⟨_, by rw [packets], left, packetFormat.decode_split_of_length_le (Nat.le_refl _), status⟩

/-! ## Deliveries -/

/-- A delivery that `OnBytes` takes for packet data. -/
def LooksLikePackets (data : List UInt8) : Prop :=
  sizeof UInt32 ≤ data.length ∧
    (ofImage (data.take (sizeof UInt32)) : UInt32) < MAX_MESSAGE_ID

variable {ps : List Packet} {rest data : List UInt8} {buf : CircleStreamBuffer}

theorem LooksLikePackets.ne_nil (h : LooksLikePackets data) : data ≠ [] := by
  rintro rfl
  exact absurd h.1 (by decide)

theorem onBytes_of_written (looks : LooksLikePackets data) (written : (buf.write data).1 = true) :
    onBytes data buf =
      ({ packets := (handleSessionData (buf.write data).2).1 },
        (handleSessionData (buf.write data).2).2) := by
  simp [onBytes, looks.1, looks.2, written]

/-- A delivery that is not packet data or does not fit brings no packet. -/
theorem onBytes_of_not (status : buf.rwErrorStatus = .ok)
    (small : data.length ≤ MAX_PACKET_BUF_SIZE)
    (h : ¬ (LooksLikePackets data ∧ buf.content.length + data.length ≤ MAX_STREAM_BUF_SIZE)) :
    (onBytes data buf).1.packets = [] ∧ (onBytes data buf).2.content = buf.content ∧
      (onBytes data buf).2.rwErrorStatus = .ok := by
  by_cases long : sizeof UInt32 ≤ data.length
  · by_cases id : (ofImage (data.take (sizeof UInt32)) : UInt32) < MAX_MESSAGE_ID
    · have full : ¬ buf.content.length + data.length ≤ MAX_STREAM_BUF_SIZE :=
        fun fits => h ⟨⟨long, id⟩, fits⟩
      obtain ⟨refused, same_status, same⟩ :=
        CircleStreamBuffer.write_of_not_fits (c := buf) data (by
          unfold MAX_PACKET_BUF_SIZE MAX_STREAM_BUF_SIZE at small
          omega) full
      simp [onBytes, long, id, refused, same, same_status, status]
    · simp [onBytes, long, id, status]
  · simp [onBytes, long, status]

/-- A delivery of packet data that fits brings the packets that it completes. -/
theorem onBytes_of_fits (valid : ∀ p ∈ ps, packetFormat.valid p)
    (h : Waits ps (data ++ rest) buf) (looks : LooksLikePackets data)
    (fits : buf.content.length + data.length ≤ MAX_STREAM_BUF_SIZE) :
    (onBytes data buf).1.packets.map NetPacket.content =
        packetFormat.received ps (buf.content.length + data.length) ∧
      (onBytes data buf).1.rawData = [] ∧
      (onBytes data buf).2.content.length =
        packetFormat.residue ps (buf.content.length + data.length) ∧
      Waits (packetFormat.pending ps (buf.content.length + data.length)) rest
        (onBytes data buf).2 := by
  obtain ⟨written, status, content⟩ :=
    CircleStreamBuffer.write_of_fits h.status looks.ne_nil fits
  rw [onBytes_of_written looks written]
  obtain ⟨rest', split, left, -, kept⟩ := handleSessionData_spec (buf.write data).2
  have count : (packetFormat.received ps (buf.content.length + data.length)).length ≤
      (buf.content ++ data).length := by
    have parts := packetFormat.residue_add ps (buf.content.length + data.length)
    have each := packetFormat.length_le_length_stream
      (packetFormat.received ps (buf.content.length + data.length))
    rw [List.length_append]
    omega
  obtain ⟨tail, taken, -, next⟩ := h.advance valid count
  rw [content, taken, Prod.mk.injEq] at split
  exact ⟨split.1.symm, rfl, next _ (kept.trans status) (left.trans split.2.symm)⟩

/-- The observers never get more packet bytes than have arrived. -/
theorem length_stream_feed_le {chunks : List (List UInt8)} (status : buf.rwErrorStatus = .ok)
    (pieces : ∀ data ∈ chunks, data.length ≤ MAX_PACKET_BUF_SIZE) :
    (packetFormat.stream ((feed chunks buf).packets.map NetPacket.content)).length ≤
      buf.content.length + chunks.flatten.length := by
  induction chunks generalizing buf with
  | nil => simp [feed]
  | cons data chunks ih =>
    have small := pieces data (by simp)
    have later := fun piece h => pieces piece (List.mem_cons_of_mem data h)
    have both : (feed (data :: chunks) buf).packets =
        (onBytes data buf).1.packets ++ (feed chunks (onBytes data buf).2).packets := rfl
    rw [both, List.map_append, Format.stream_append, List.length_append, List.flatten_cons,
      List.length_append]
    by_cases h : LooksLikePackets data ∧ buf.content.length + data.length ≤ MAX_STREAM_BUF_SIZE
    · obtain ⟨looks, fits⟩ := h
      obtain ⟨written, status', content⟩ :=
        CircleStreamBuffer.write_of_fits status looks.ne_nil fits
      obtain ⟨rest', split, left, -, kept⟩ := handleSessionData_spec (buf.write data).2
      have parts := congrArg List.length (packetFormat.stream_split
        (buf.write data).2.content.length (buf.write data).2.content)
      rw [split, content, List.length_append, List.length_append] at parts
      have step := onBytes_of_written looks written
      have status'' : (onBytes data buf).2.rwErrorStatus = .ok := by
        rw [step]
        exact kept.trans status'
      have bound := ih status'' later
      rw [step, left] at bound
      rw [step]
      simp only at parts bound ⊢
      omega
    · obtain ⟨none, same, status'⟩ := onBytes_of_not status small h
      have bound := ih status' later
      rw [same] at bound
      rw [none]
      simp only [List.map_nil, Format.stream_nil, List.length_nil]
      omega

/-- Every delivery is taken for packet data and fits behind the unfinished packet; `sofar`
bytes have arrived before. -/
def AllTaken (ps : List Packet) (sofar : Nat) (chunks : List (List UInt8)) : Prop :=
  ∀ before data, before ++ [data] <+: chunks →
    LooksLikePackets data ∧
      packetFormat.residue ps (sofar + before.flatten.length) + data.length ≤ MAX_STREAM_BUF_SIZE

theorem allTaken_cons_iff {sofar : Nat} {chunks : List (List UInt8)}
    (h : packetFormat.received ps sofar = []) :
    AllTaken ps sofar (data :: chunks) ↔
      (LooksLikePackets data ∧ sofar + data.length ≤ MAX_STREAM_BUF_SIZE) ∧
      AllTaken (packetFormat.pending ps (sofar + data.length))
        (packetFormat.residue ps (sofar + data.length)) chunks := by
  have all_left := (packetFormat.residue_of_received_nil h).1
  have later (before : List (List UInt8)) :
      sofar + (data :: before).flatten.length = sofar + data.length + before.flatten.length := by
    rw [List.flatten_cons, List.length_append, Nat.add_assoc]
  rw [AllTaken, forall_piece_cons]
  refine and_congr ?_ ?_
  · simp [all_left]
  · refine forall₂_congr fun before piece => imp_congr_right fun _ => ?_
    rw [later, packetFormat.residue_add_bytes]

/-- By induction on the deliveries. A delivery that is not taken is missing in the end, since
the observers never get more than has arrived. -/
theorem delivers_iff (valid : ∀ p ∈ ps, packetFormat.valid p) {chunks : List (List UInt8)}
    (h : Waits ps chunks.flatten buf)
    (whole : buf.content.length + chunks.flatten.length = (packetFormat.stream ps).length)
    (pieces : ∀ data ∈ chunks, data ≠ [] ∧ data.length ≤ MAX_PACKET_BUF_SIZE) :
    ((feed chunks buf).packets.map NetPacket.content = ps ∧ (feed chunks buf).rawData = []) ↔
      AllTaken ps buf.content.length chunks := by
  induction chunks generalizing ps buf with
  | nil =>
    have none : ps = [] := by
      have all := packetFormat.received_stream ps
      rw [← whole, List.flatten_nil, List.length_nil, Nat.add_zero, h.unfinished] at all
      exact all.symm
    simp [feed, AllTaken, none]
  | cons data chunks ih =>
    obtain ⟨nonempty, small⟩ := pieces data (by simp)
    have later := fun piece h => pieces piece (List.mem_cons_of_mem data h)
    have waits : Waits ps (data ++ chunks.flatten) buf := h
    have packets : (feed (data :: chunks) buf).packets =
        (onBytes data buf).1.packets ++ (feed chunks (onBytes data buf).2).packets := rfl
    have raw : (feed (data :: chunks) buf).rawData =
        (onBytes data buf).1.rawData ++ (feed chunks (onBytes data buf).2).rawData := rfl
    rw [List.flatten_cons, List.length_append] at whole
    rw [allTaken_cons_iff h.unfinished, packets, raw, List.map_append]
    by_cases taken : LooksLikePackets data ∧
        buf.content.length + data.length ≤ MAX_STREAM_BUF_SIZE
    · obtain ⟨delivered, none, length, waits'⟩ := onBytes_of_fits valid waits taken.1 taken.2
      have count := packetFormat.residue_add ps (buf.content.length + data.length)
      have parts := packetFormat.received_append_pending ps (buf.content.length + data.length)
      have lengths := congrArg (fun qs => (packetFormat.stream qs).length) parts
      simp only [Format.stream_append, List.length_append] at lengths
      have rest := ih (fun p hp => valid p (packetFormat.mem_of_mem_pending hp)) waits'
        (by rw [length]; omega) later
      have cancel (qs : List Packet) :
          packetFormat.received ps (buf.content.length + data.length) ++ qs = ps ↔
            qs = packetFormat.pending ps (buf.content.length + data.length) := by
        constructor
        · intro all
          exact List.append_cancel_left (all.trans parts.symm)
        · rintro rfl
          exact parts
      rw [← length, ← rest, delivered, none, List.nil_append, cancel]
      exact (and_iff_right taken).symm
    · obtain ⟨none, same, status⟩ := onBytes_of_not h.status small taken
      have bound := length_stream_feed_le status
        fun piece hp => (later piece hp).2
      have positive : 0 < data.length := List.length_pos_iff.mpr nonempty
      constructor
      · rintro ⟨all, -⟩
        rw [none, List.map_nil, List.nil_append] at all
        rw [all, same] at bound
        omega
      · rintro ⟨first, -⟩
        exact absurd first taken

/-- What a peer puts on the wire with `SendPacket` for some packets. -/
def sent (pkts : List NetPacket) : List UInt8 :=
  pkts.flatMap fun pkt => (sendPacket pkt).getD []

theorem sendPacket_of_made {pkt : NetPacket} (made : (pkt.makeData {}).1 = true) :
    sendPacket pkt = some pkt.content.encode := by
  have written := NetPacket.written_makeData made
  have size : ¬ MAX_PACKET_BUF_SIZE < (pkt.makeData {}).2.size := by
    have length := congrArg List.length written
    rw [StreamBuffer.length_written, Packet.length_encode, NetPacket.length_payload_content]
      at length
    rw [StreamBuffer.size, length]
    exact Nat.not_lt.mpr (pkt.makeData_eq_true.mp made)
  simp [sendPacket, made, size, written]

theorem made_of_isSome {pkt : NetPacket} (h : (sendPacket pkt).isSome) :
    (pkt.makeData {}).1 = true := by
  cases made : (pkt.makeData {}).1 with
  | false => simp [sendPacket, made] at h
  | true => rfl

theorem sent_eq {pkts : List NetPacket} (accepted : ∀ pkt ∈ pkts, (sendPacket pkt).isSome) :
    sent pkts = packetFormat.stream (pkts.map NetPacket.content) := by
  induction pkts with
  | nil => rfl
  | cons pkt pkts ih =>
    have first := sendPacket_of_made (made_of_isSome (accepted pkt (by simp)))
    rw [List.map_cons, Format.stream_cons, ← ih fun q hq => accepted q (by simp [hq]),
      packetFormat_encode, sent, List.flatMap_cons, first]
    rfl

theorem valid_of_accepted {pkts : List NetPacket}
    (accepted : ∀ pkt ∈ pkts, (sendPacket pkt).isSome) :
    ∀ p ∈ pkts.map NetPacket.content, packetFormat.valid p := by
  intro p hp
  obtain ⟨pkt, hpkt, rfl⟩ := List.mem_map.mp hp
  have fits := pkt.makeData_eq_true.mp (made_of_isSome (accepted pkt hpkt))
  rw [packetFormat_valid, NetPacket.length_payload_content, MAX_PACKET_BUF_SIZE]
  omega

/-- The reassembler passes exactly the packets that were sent, and no raw data, exactly when
every delivery starts like a packet and fits behind the unfinished packet. -/
theorem reassembly_iff {pkts : List NetPacket} (accepted : ∀ pkt ∈ pkts, (sendPacket pkt).isSome)
    {chunks : List (List UInt8)} (cut : chunks.flatten = sent pkts)
    (pieces : ∀ data ∈ chunks, data ≠ [] ∧ data.length ≤ MAX_PACKET_BUF_SIZE) :
    ((feed chunks .new).packets.map NetPacket.content = pkts.map NetPacket.content ∧
        (feed chunks .new).rawData = []) ↔
      AllTaken (pkts.map NetPacket.content) 0 chunks := by
  have bytes := cut.trans (sent_eq accepted)
  exact delivers_iff (valid_of_accepted accepted) (waits_new (bytes ▸ List.prefix_refl _))
    (by simp [bytes]) pieces

/-- A packet with one number, and one with two. -/
def twoPackets : List NetPacket :=
  [{ msgId := 6, toStreamBuffer := StreamBuffer.put (1 : UInt32) {} },
    { msgId := 7, toStreamBuffer := (StreamBuffer.put (3 : UInt32) {}).put (4 : UInt32) }]

/-- Packets cut behind the header of the second one, whose payload looks like a packet. -/
theorem reassembly_twoPackets :
    (feed [(sent twoPackets).take 20, (sent twoPackets).drop 20] .new).packets.map
        NetPacket.content = twoPackets.map NetPacket.content ∧
      (feed [(sent twoPackets).take 20, (sent twoPackets).drop 20] .new).rawData = [] := by
  have accepted : ∀ pkt ∈ twoPackets, (sendPacket pkt).isSome := by decide +kernel
  have whole : [(sent twoPackets).take 20, (sent twoPackets).drop 20].flatten =
      sent twoPackets := by
    simp
  refine (reassembly_iff accepted whole (by decide +kernel)).mpr ?_
  simp only [AllTaken, LooksLikePackets, forall_piece_cons, List.prefix_nil, List.append_eq_nil_iff,
    List.cons_ne_nil, and_false, false_imp_iff, implies_true, and_true]
  decide +kernel

/-- A packet whose payload is eight bytes `0xff`. -/
def onesPacket : NetPacket :=
  { msgId := 6, toStreamBuffer := StreamBuffer.append {} (List.replicate 8 255) (by decide) }

/-- The packet, delivered as its header and its payload. -/
def splitDelivery : List (List UInt8) :=
  [image onesPacket.content.head, List.replicate 8 255]

theorem onesPacket_accepted : ∀ pkt ∈ [onesPacket], (sendPacket pkt).isSome := by
  have made : (onesPacket.makeData {}).1 = true := by
    rw [NetPacket.makeData_eq_true]
    decide
  simp [sendPacket_of_made made]

theorem splitDelivery_cut : splitDelivery.flatten = sent [onesPacket] := by
  rw [sent_eq onesPacket_accepted]
  simp [splitDelivery, Packet.encode, NetPacket.content, onesPacket]

/-- The payload is delivered on its own and taken for raw data. -/
theorem split_packet_is_lost :
    (∀ pkt ∈ [onesPacket], (sendPacket pkt).isSome) ∧
      splitDelivery.flatten = sent [onesPacket] ∧
      (∀ data ∈ splitDelivery, data ≠ [] ∧ data.length ≤ MAX_PACKET_BUF_SIZE) ∧
      ¬ ((feed splitDelivery .new).packets.map NetPacket.content =
            [onesPacket].map NetPacket.content ∧
          (feed splitDelivery .new).rawData = []) := by
  have pieces : ∀ data ∈ splitDelivery, data ≠ [] ∧ data.length ≤ MAX_PACKET_BUF_SIZE := by
    decide
  refine ⟨onesPacket_accepted, splitDelivery_cut, pieces, ?_⟩
  have bytes := splitDelivery_cut.trans (sent_eq onesPacket_accepted)
  rw [delivers_iff (valid_of_accepted onesPacket_accepted) (waits_new (bytes ▸ List.prefix_refl _))
    (by simp [bytes]) pieces]
  intro taken
  have payload : ¬ LooksLikePackets (List.replicate 8 255) := by
    unfold LooksLikePackets
    decide
  exact payload (taken [image onesPacket.content.head] (List.replicate 8 255) ⟨[], rfl⟩).1

end DSoftbusAdapter

end DeviceStatus.Ipc
