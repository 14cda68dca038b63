import DeviceStatus.Ipc.StreamSocket

/-!
# The stream reassembler

What `StreamServer::OnEpollRecv` makes of the bytes that a client sends: each `recv` is
written to the circle buffer of the session and the packets that are there as a whole are
handed to the callback. The receiver keeps up with the sender as long as every piece fits
behind the unfinished packet and completes no more packets than one call handles.
-/

namespace DeviceStatus.Ipc

open Framing

namespace StreamServer

/-- One turn of `OnEpollRecv`: `recv` has returned the bytes `szBuf`. When they do not fit in
the session's buffer they are dropped. -/
def onRecv (szBuf : List UInt8) (buf : CircleStreamBuffer) :
    List NetPacket × CircleStreamBuffer :=
  let (_, buf) := buf.write szBuf
  StreamSocket.onReadPackets buf

/-- The calls of the callback while pieces arrive one by one. -/
def feed : List (List UInt8) → CircleStreamBuffer → List NetPacket × CircleStreamBuffer
  | [], buf => ([], buf)
  | szBuf :: rest, buf =>
    let (pkts, buf) := onRecv szBuf buf
    let (more, buf) := feed rest buf
    (pkts ++ more, buf)

/-- The packets of a session that have been handed on. -/
def delivered (chunks : List (List UInt8)) (buf : CircleStreamBuffer) : List Packet :=
  (feed chunks buf).1.map NetPacket.content

@[simp] theorem delivered_nil (buf : CircleStreamBuffer) : delivered [] buf = [] := rfl

theorem delivered_cons (chunk : List UInt8) (chunks : List (List UInt8))
    (buf : CircleStreamBuffer) :
    delivered (chunk :: chunks) buf =
      (onRecv chunk buf).1.map NetPacket.content ++ delivered chunks (onRecv chunk buf).2 := by
  simp [delivered, feed]

variable {ps : List Packet} {rest chunk : List UInt8} {buf : CircleStreamBuffer}

/-- A piece that fits and does not complete too many packets is handled in full. -/
theorem onRecv_of_fits (valid : ∀ p ∈ ps, packetFormat.valid p)
    (h : Waits ps (chunk ++ rest) buf) (nonempty : chunk ≠ [])
    (fits : buf.content.length + chunk.length ≤ MAX_STREAM_BUF_SIZE)
    (few : (packetFormat.received ps (buf.content.length + chunk.length)).length ≤
      ONCE_PROCESS_NETPACKET_LIMIT) :
    (onRecv chunk buf).1.map NetPacket.content =
        packetFormat.received ps (buf.content.length + chunk.length) ∧
      (onRecv chunk buf).2.content.length =
        packetFormat.residue ps (buf.content.length + chunk.length) ∧
      Waits (packetFormat.pending ps (buf.content.length + chunk.length)) rest
        (onRecv chunk buf).2 := by
  obtain ⟨-, status, written⟩ := CircleStreamBuffer.write_of_fits h.status nonempty fits
  obtain ⟨tail, split, sound, next⟩ := h.advance valid few
  obtain ⟨packets, left⟩ :=
    StreamSocket.readPackets_spec ONCE_PROCESS_NETPACKET_LIMIT (buf.write chunk).2
  rw [written, split] at packets left
  simp only [sound, and_false, if_false] at left
  exact ⟨packets, next _ (StreamSocket.readPackets_rwErrorStatus status _) left⟩

/-- A piece that does not fit is lost, and no packet is handed on. -/
theorem onRecv_of_full (valid : ∀ p ∈ ps, packetFormat.valid p)
    (h : Waits ps (chunk ++ rest) buf) (small : chunk.length ≤ MAX_PACKET_BUF_SIZE)
    (full : ¬ buf.content.length + chunk.length ≤ MAX_STREAM_BUF_SIZE) :
    (onRecv chunk buf).1.map NetPacket.content = [] := by
  obtain ⟨-, -, same⟩ := CircleStreamBuffer.write_of_not_fits (c := buf) chunk (by
    unfold MAX_PACKET_BUF_SIZE MAX_STREAM_BUF_SIZE at small
    omega) full
  have before : buf.content <+: packetFormat.stream ps := (List.prefix_append _ _).trans h.start
  have few : (packetFormat.received ps buf.content.length).length ≤
      ONCE_PROCESS_NETPACKET_LIMIT := by simp [h.unfinished]
  obtain ⟨tail, split, -⟩ := packetFormat.split_of_prefix valid before few
  have packets := (StreamSocket.readPackets_spec ONCE_PROCESS_NETPACKET_LIMIT
    (buf.write chunk).2).1
  rw [same, split, h.unfinished] at packets
  exact packets

/-- One call hands on no more packets than the limit. -/
theorem length_onRecv_le (chunk : List UInt8) (buf : CircleStreamBuffer) :
    (onRecv chunk buf).1.length ≤ ONCE_PROCESS_NETPACKET_LIMIT := by
  have packets := (StreamSocket.readPackets_spec ONCE_PROCESS_NETPACKET_LIMIT
    (buf.write chunk).2).1
  have count := packetFormat.length_split_le ONCE_PROCESS_NETPACKET_LIMIT
    (buf.write chunk).2.content
  rw [← packets, List.length_map] at count
  exact count

theorem valid_of_fit (fit : ∀ p ∈ ps, p.encode.length ≤ MAX_STREAM_BUF_SIZE) :
    ∀ p ∈ ps, packetFormat.valid p := by
  intro p hp
  have := fit p hp
  rw [Packet.length_encode] at this
  rw [packetFormat_valid, MAX_PACKET_BUF_SIZE]
  omega

/-- One piece is handled as it should exactly when it fits and does not complete too many
packets: what does not fit would have completed one. -/
theorem onRecv_iff (fit : ∀ p ∈ ps, p.encode.length ≤ MAX_STREAM_BUF_SIZE)
    (h : Waits ps (chunk ++ rest) buf) (nonempty : chunk ≠ [])
    (small : chunk.length ≤ MAX_PACKET_BUF_SIZE) :
    (onRecv chunk buf).1.map NetPacket.content =
        packetFormat.received ps (buf.content.length + chunk.length) ↔
      buf.content.length + chunk.length ≤ MAX_STREAM_BUF_SIZE ∧
        (packetFormat.received ps (buf.content.length + chunk.length)).length ≤
          ONCE_PROCESS_NETPACKET_LIMIT := by
  have valid : ∀ p ∈ ps, packetFormat.valid p := valid_of_fit fit
  constructor
  · intro delivered
    have few := length_onRecv_le chunk buf
    rw [← List.length_map NetPacket.content, delivered] at few
    refine ⟨?_, few⟩
    by_contra full
    rw [onRecv_of_full valid h small full] at delivered
    cases ps with
    | nil =>
      have nothing := List.prefix_nil.mp h.start
      simp [nonempty] at nothing
    | cons p ps =>
      have := fit p (by simp)
      have complete : (packetFormat.encode p).length ≤ buf.content.length + chunk.length := by
        rw [packetFormat_encode]
        omega
      rw [Format.received, if_pos complete] at delivered
      exact List.cons_ne_nil _ _ delivered.symm
  · rintro ⟨fits, few⟩
    exact (onRecv_of_fits valid h nonempty fits few).1

/-- Every piece fits behind the unfinished packet and completes no more packets than one call
handles; `sofar` bytes have arrived before. -/
def KeepsUp (ps : List Packet) (sofar : Nat) (chunks : List (List UInt8)) : Prop :=
  ∀ before chunk, before ++ [chunk] <+: chunks →
    packetFormat.residue ps (sofar + before.flatten.length) + chunk.length ≤
        MAX_STREAM_BUF_SIZE ∧
      (packetFormat.completed ps (sofar + before.flatten.length) chunk.length).length ≤
        ONCE_PROCESS_NETPACKET_LIMIT

/-- At every moment the packets received in full are those handed on. -/
def Lossless (ps : List Packet) (chunks : List (List UInt8)) (buf : CircleStreamBuffer) : Prop :=
  ∀ before, before <+: chunks →
    delivered before buf =
      packetFormat.received ps (buf.content.length + before.flatten.length)

theorem keepsUp_cons_iff {sofar : Nat} {chunks : List (List UInt8)}
    (h : packetFormat.received ps sofar = []) :
    KeepsUp ps sofar (chunk :: chunks) ↔
      (sofar + chunk.length ≤ MAX_STREAM_BUF_SIZE ∧
        (packetFormat.received ps (sofar + chunk.length)).length ≤ ONCE_PROCESS_NETPACKET_LIMIT) ∧
      KeepsUp (packetFormat.pending ps (sofar + chunk.length))
        (packetFormat.residue ps (sofar + chunk.length)) chunks := by
  obtain ⟨all_left, all_pending⟩ := packetFormat.residue_of_received_nil h
  -- the bytes before a later piece start with this one
  have later (before : List (List UInt8)) :
      sofar + (chunk :: before).flatten.length = sofar + chunk.length + before.flatten.length := by
    rw [List.flatten_cons, List.length_append, Nat.add_assoc]
  rw [KeepsUp, forall_piece_cons]
  refine and_congr ?_ ?_
  · simp [Format.completed, all_left, all_pending]
  · refine forall₂_congr fun before piece => imp_congr_right fun _ => ?_
    rw [later, packetFormat.residue_add_bytes, packetFormat.completed_add]

theorem lossless_cons_iff {chunks : List (List UInt8)}
    (h : packetFormat.received ps buf.content.length = []) :
    Lossless ps (chunk :: chunks) buf ↔
      (onRecv chunk buf).1.map NetPacket.content =
          packetFormat.received ps (buf.content.length + chunk.length) ∧
        ∀ before, before <+: chunks →
          packetFormat.received ps (buf.content.length + chunk.length) ++
              delivered before (onRecv chunk buf).2 =
            packetFormat.received ps
              (buf.content.length + chunk.length + before.flatten.length) := by
  have later (before : List (List UInt8)) : buf.content.length + (chunk :: before).flatten.length =
      buf.content.length + chunk.length + before.flatten.length := by
    rw [List.flatten_cons, List.length_append, Nat.add_assoc]
  constructor
  · intro lossless
    have first : (onRecv chunk buf).1.map NetPacket.content =
        packetFormat.received ps (buf.content.length + chunk.length) := by
      simpa [delivered_cons] using lossless [chunk] (by simp)
    refine ⟨first, fun before arrived => ?_⟩
    have := lossless (chunk :: before) (by simpa using arrived)
    rwa [delivered_cons, first, later] at this
  · rintro ⟨first, lossless⟩ before arrived
    rcases before with _ | ⟨head, before⟩
    · simp [h]
    · obtain ⟨rfl, later_arrived⟩ := List.cons_prefix_cons.mp arrived
      rw [delivered_cons, first, later]
      exact lossless before later_arrived

/-- By induction on the pieces: before each one the buffer holds the beginning of the first
packet that is pending. -/
theorem lossless_iff_keepsUp (fit : ∀ p ∈ ps, p.encode.length ≤ MAX_STREAM_BUF_SIZE)
    {chunks : List (List UInt8)} (h : Waits ps chunks.flatten buf)
    (pieces : ∀ chunk ∈ chunks, chunk ≠ [] ∧ chunk.length ≤ MAX_PACKET_BUF_SIZE) :
    Lossless ps chunks buf ↔ KeepsUp ps buf.content.length chunks := by
  induction chunks generalizing ps buf with
  | nil => simp [Lossless, KeepsUp, h.unfinished]
  | cons chunk chunks ih =>
    obtain ⟨nonempty, small⟩ := pieces chunk (by simp)
    have waits : Waits ps (chunk ++ chunks.flatten) buf := h
    rw [lossless_cons_iff h.unfinished, keepsUp_cons_iff h.unfinished,
      ← onRecv_iff fit waits nonempty small]
    refine and_congr_right fun first => ?_
    obtain ⟨fits, few⟩ := (onRecv_iff fit waits nonempty small).mp first
    obtain ⟨-, length, waits'⟩ := onRecv_of_fits (valid_of_fit fit) waits nonempty fits few
    have rest := ih (fun p hp => fit p (packetFormat.mem_of_mem_pending hp)) waits'
      (fun piece hp => pieces piece (by simp [hp]))
    rw [← length, ← rest]
    refine forall₂_congr fun before _ => ?_
    rw [packetFormat.received_add ps (_ + _), length, List.append_cancel_left_eq]

/-- What a sender puts on the wire for some packets. -/
def sent (pkts : List NetPacket) : List UInt8 :=
  pkts.flatMap fun pkt => (pkt.makeData {}).2.written

theorem sent_eq {pkts : List NetPacket} (made : ∀ pkt ∈ pkts, (pkt.makeData {}).1 = true) :
    sent pkts = packetFormat.stream (pkts.map NetPacket.content) := by
  induction pkts with
  | nil => rfl
  | cons pkt pkts ih =>
    rw [List.map_cons, Format.stream_cons, packetFormat_encode,
      ← NetPacket.written_makeData (made pkt (by simp)),
      ← ih fun q hq => made q (by simp [hq])]
    rfl

theorem fit_of_made {pkts : List NetPacket}
    (made : ∀ pkt ∈ pkts, (pkt.makeData {}).1 = true) :
    ∀ p ∈ pkts.map NetPacket.content, p.encode.length ≤ MAX_STREAM_BUF_SIZE := by
  intro p hp
  obtain ⟨pkt, hpkt, rfl⟩ := List.mem_map.mp hp
  simpa using pkt.makeData_eq_true.mp (made pkt hpkt)

/-- The reassembler hands on every packet, in order, as soon as it has arrived in full,
exactly when each piece fits behind the unfinished packet and completes no more packets than
one call handles. -/
theorem reassembler_lossless_iff {pkts : List NetPacket}
    (made : ∀ pkt ∈ pkts, (pkt.makeData {}).1 = true) {chunks : List (List UInt8)}
    (cut : chunks.flatten <+: sent pkts)
    (pieces : ∀ chunk ∈ chunks, chunk ≠ [] ∧ chunk.length ≤ MAX_PACKET_BUF_SIZE) :
    Lossless (pkts.map NetPacket.content) chunks .new ↔
      KeepsUp (pkts.map NetPacket.content) 0 chunks :=
  lossless_iff_keepsUp (fit_of_made made) (waits_new (sent_eq made ▸ cut)) pieces

/-- A packet with a number, and one with a string. -/
def twoPackets : List NetPacket :=
  [{ msgId := 2, toStreamBuffer := StreamBuffer.put (7 : UInt32) {} },
    { msgId := 5, toStreamBuffer := StreamBuffer.putString [104, 105] {} }]

/-- The packets, cut in both headers. -/
def threeChunks : List (List UInt8) :=
  [(sent twoPackets).take 5, ((sent twoPackets).drop 5).take 12, (sent twoPackets).drop 17]

theorem reassembler_lossless_twoPackets :
    Lossless (twoPackets.map NetPacket.content) threeChunks .new := by
  refine (reassembler_lossless_iff (by decide +kernel) (by decide +kernel)
    (by decide +kernel)).mpr ?_
  simp only [KeepsUp, threeChunks, forall_piece_cons, List.prefix_nil, List.append_eq_nil_iff,
    List.cons_ne_nil, and_false, false_imp_iff, implies_true, and_true]
  decide +kernel

/-- A packet of the largest size that `MakeData` accepts. -/
def fullPacket : NetPacket :=
  { msgId := 2, toStreamBuffer := StreamBuffer.append {} (List.replicate 2040 0) (by
      rw [List.length_replicate]
      decide) }

theorem wPos_fullPacket : fullPacket.wPos = 2040 := by
  rw [fullPacket, StreamBuffer.wPos_append, List.length_replicate]

theorem made_fullPacket : (fullPacket.makeData {}).1 = true := by
  rw [NetPacket.makeData_eq_true, wPos_fullPacket]
  decide

theorem length_fullPacket : (fullPacket.makeData {}).2.written.length = 2048 := by
  rw [NetPacket.written_makeData made_fullPacket, ← NetPacket.getPacketLength_eq,
    NetPacket.getPacketLength, wPos_fullPacket, headSize]

/-- The bytes of two such packets, of which the first `recv` gets one. -/
def lateChunks : List (List UInt8) :=
  let bytes := sent [fullPacket, fullPacket]
  [bytes.take 1, (bytes.drop 1).take 2048, bytes.drop 2049]

/-- The second piece of `lateChunks` does not fit behind the byte that waits: it is lost, and
the first packet is not handed on although it has arrived. -/
theorem late_chunk_is_lost :
    (∀ pkt ∈ [fullPacket, fullPacket], (pkt.makeData {}).1 = true) ∧
      lateChunks.flatten = sent [fullPacket, fullPacket] ∧
      (∀ chunk ∈ lateChunks, chunk ≠ [] ∧ chunk.length ≤ MAX_PACKET_BUF_SIZE) ∧
      ¬ Lossless ([fullPacket, fullPacket].map NetPacket.content) lateChunks .new := by
  have made : ∀ pkt ∈ [fullPacket, fullPacket], (pkt.makeData {}).1 = true := by
    simpa using made_fullPacket
  have size : (sent [fullPacket, fullPacket]).length = 4096 := by
    simp only [sent, List.flatMap_cons, List.flatMap_nil, List.length_append, length_fullPacket,
      List.length_nil]
  have whole : lateChunks.flatten = sent [fullPacket, fullPacket] := by
    have middle := List.take_append_drop 2048 ((sent [fullPacket, fullPacket]).drop 1)
    rw [List.drop_drop] at middle
    simp only [lateChunks, List.flatten_cons, List.flatten_nil, List.append_nil, middle,
      List.take_append_drop]
  have lengths : lateChunks.map List.length = [1, 2048, 2047] := by
    simp [lateChunks, size]
  have pieces : ∀ chunk ∈ lateChunks, chunk ≠ [] ∧ chunk.length ≤ MAX_PACKET_BUF_SIZE := by
    intro chunk h
    have length : chunk.length ∈ [1, 2048, 2047] := lengths ▸ List.mem_map_of_mem h
    have : 0 < chunk.length ∧ chunk.length ≤ MAX_PACKET_BUF_SIZE := by
      generalize chunk.length = n at length
      simp only [List.mem_cons, List.not_mem_nil, or_false] at length
      rcases length with rfl | rfl | rfl <;> decide
    exact ⟨List.ne_nil_of_length_pos this.1, this.2⟩
  refine ⟨made, whole, pieces, ?_⟩
  rw [lossless_iff_keepsUp (fit_of_made made)
    (waits_new ((whole.trans (sent_eq made)) ▸ List.prefix_refl _)) pieces]
  intro keeps
  have second := (keeps [(sent [fullPacket, fullPacket]).take 1]
    (((sent [fullPacket, fullPacket]).drop 1).take 2048) ⟨[_], rfl⟩).1
  have waiting : packetFormat.residue ([fullPacket, fullPacket].map NetPacket.content) 1 = 1 := by
    rw [List.map_cons, Format.residue, if_neg]
    rw [packetFormat_encode, ← NetPacket.written_makeData made_fullPacket, length_fullPacket]
    decide
  have first_length : [(sent [fullPacket, fullPacket]).take 1].flatten.length = 1 := by
    rw [List.flatten_singleton, List.length_take, size]
    decide
  have second_length : (((sent [fullPacket, fullPacket]).drop 1).take 2048).length = 2048 := by
    rw [List.length_take, List.length_drop, size]
    decide
  rw [first_length, second_length, CircleStreamBuffer.content_new, List.length_nil, Nat.zero_add]
    at second
  have over_full : ¬ 1 + 2048 ≤ MAX_STREAM_BUF_SIZE := by decide
  exact over_full (waiting ▸ second)

end StreamServer

end DeviceStatus.Ipc
