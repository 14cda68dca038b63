import DeviceStatus.Ipc.DSoftbusSession

/-!
# What the receivers leave unread

A receiver that has taken every whole packet off its buffer can go on only when later bytes
can complete what is left. Both receivers admit a header that announces more bytes than the
buffer holds beside the header; `OnReadPackets` throws away what starts with a corrupt header,
`HandleSessionData` keeps it.
-/

namespace DeviceStatus.Ipc

open Bytes Framing

namespace Packet

/-- The payload size in the header of some bytes. -/
def headerSize (bs : List UInt8) : Int :=
  (ofImage (bs.take headSize) : PackHead).size.toInt

theorem corrupt_iff {bs : List UInt8} :
    corrupt bs ↔ headSize ≤ bs.length ∧
      (headerSize bs < 0 ∨ (MAX_PACKET_BUF_SIZE : Int) < headerSize bs) :=
  Iff.rfl

/-- Nothing can be taken off bytes that are short, corrupt or incomplete. -/
theorem decode_eq_none {bs : List UInt8} :
    decode bs = none ↔
      bs.length < headSize ∨ corrupt bs ∨
        headSize ≤ bs.length ∧ (bs.length : Int) < headSize + headerSize bs := by
  rw [corrupt_iff]
  by_cases short : bs.length < headSize
  · simp [decode, short]
  · have split : decode bs = none ↔
        (headerSize bs < 0 ∨ (MAX_PACKET_BUF_SIZE : Int) < headerSize bs) ∨
          ((bs.length - headSize : Nat) : Int) < headerSize bs := by
      unfold decode
      simp only [short, if_false]
      rw [← headerSize]
      split_ifs with corrupt incomplete <;> simp [corrupt] <;> omega
    rw [split]
    omega

/-- Later bytes can complete `bs`: its header is not there as a whole, or it announces a
packet that fits in the buffer. -/
def Completable (bs : List UInt8) : Prop :=
  bs.length < headSize ∨
    (0 ≤ headerSize bs ∧ (bs.length : Int) < headSize + headerSize bs ∧
      headSize + headerSize bs ≤ MAX_STREAM_BUF_SIZE)

end Packet

open Packet

/-- In a buffer, what follows some packets and has a bad header stops the receiver there. -/
theorem decode_eq_none_of_bad {c : CircleStreamBuffer} {ps : List Packet} {rest : List UInt8}
    (h : c.content = packetFormat.stream ps ++ rest) (long : headSize ≤ rest.length)
    (bad : headerSize rest < 0 ∨ (MAX_STREAM_BUF_SIZE : Int) < headSize + headerSize rest) :
    decode rest = none := by
  have bound := c.length_content_le
  rw [h, List.length_append] at bound
  rw [decode_eq_none, corrupt_iff]
  rcases bad with negative | large
  · exact .inr (.inl ⟨long, .inl negative⟩)
  · exact .inr (.inr ⟨long, by omega⟩)

theorem valid_of_content {c : CircleStreamBuffer} {ps : List Packet} {rest : List UInt8}
    (h : c.content = packetFormat.stream ps ++ rest) : ∀ p ∈ ps, packetFormat.valid p := by
  intro p hp
  obtain ⟨before, after, rfl⟩ := List.append_of_mem hp
  have bound := c.length_content_le
  rw [h, Format.stream_append, Format.stream_cons, packetFormat_encode] at bound
  simp only [List.length_append, length_encode] at bound
  rw [packetFormat_valid, MAX_PACKET_BUF_SIZE]
  omega

/-- Some packets of the buffer are followed by a header whose size is `Bad`. -/
def HasHeader (c : CircleStreamBuffer) (Bad : Int → Prop) : Prop :=
  ∃ ps rest, c.content = packetFormat.stream ps ++ rest ∧ headSize ≤ rest.length ∧
    Bad (headerSize rest)

/-- A size that the header check admits although header and payload do not fit. -/
def NeverFits (size : Int) : Prop :=
  (MAX_STREAM_BUF_SIZE : Int) < headSize + size ∧ size ≤ MAX_PACKET_BUF_SIZE

/-- A size of no packet that fits. -/
def NoPacket (size : Int) : Prop :=
  size < 0 ∨ (MAX_STREAM_BUF_SIZE : Int) < headSize + size

/-- `OnReadPackets` leaves what can be completed exactly when no packets of the buffer are
followed by a header whose size is admitted but does not fit. -/
theorem onReadPackets_completable_iff {c : CircleStreamBuffer}
    (few : (StreamSocket.onReadPackets c).1.length < ONCE_PROCESS_NETPACKET_LIMIT) :
    Completable (StreamSocket.onReadPackets c).2.content ↔ ¬ HasHeader c NeverFits := by
  obtain ⟨packets, left⟩ := StreamSocket.readPackets_spec ONCE_PROCESS_NETPACKET_LIMIT c
  have count := congrArg List.length packets
  rw [List.length_map] at count
  change (StreamSocket.onReadPackets c).1.length = _ at count
  change (StreamSocket.onReadPackets c).2.content = _ at left
  rw [count] at few
  rw [left]
  constructor
  · rintro completable ⟨ps, rest, whole, long, large, admitted⟩
    have stuck := decode_eq_none_of_bad whole long (.inr large)
    have valid := valid_of_content whole
    have sound : ¬ corrupt rest := by
      rw [corrupt_iff]
      unfold MAX_STREAM_BUF_SIZE headSize at large
      omega
    rw [whole] at few completable
    by_cases fits : ps.length ≤ ONCE_PROCESS_NETPACKET_LIMIT
    · rw [packetFormat.split_stream_append valid stuck fits] at completable
      simp only [sound, and_false, if_false, Completable] at completable
      omega
    · rw [packetFormat.split_stream_append_of_lt valid rest (by omega)] at few
      simp only [List.length_take] at few
      omega
  · intro none
    have parts := packetFormat.stream_split ONCE_PROCESS_NETPACKET_LIMIT c.content
    have stuck := packetFormat.decode_split_of_lt few
    generalize packetFormat.split ONCE_PROCESS_NETPACKET_LIMIT c.content = taken at *
    obtain ⟨ps, rest⟩ := taken
    simp only at parts stuck few ⊢
    by_cases corrupted : corrupt rest
    · simp [few, corrupted, Completable, headSize]
    · simp only [corrupted, and_false, if_false]
      rcases decode_eq_none.mp stuck with short | bad | ⟨long, incomplete⟩
      · exact .inl short
      · exact absurd bad corrupted
      · have fits : ¬ NeverFits (headerSize rest) := fun bad =>
          none ⟨ps, rest, parts.symm, long, bad⟩
        rw [corrupt_iff] at corrupted
        unfold NeverFits at fits
        exact .inr ⟨by omega, incomplete, by omega⟩

/-- `HandleSessionData` leaves what can be completed exactly when no packets of the buffer are
followed by a header whose size is no packet's. -/
theorem handleSessionData_completable_iff (c : CircleStreamBuffer) :
    Completable (DSoftbusAdapter.handleSessionData c).2.content ↔ ¬ HasHeader c NoPacket := by
  obtain ⟨left, split, content, stuck, -⟩ := DSoftbusAdapter.handleSessionData_spec c
  have parts := packetFormat.stream_split c.content.length c.content
  rw [split] at parts
  rw [content]
  constructor
  · rintro completable ⟨ps, rest, whole, long, bad⟩
    have count : ps.length ≤ c.content.length := by
      have := packetFormat.length_le_length_stream ps
      rw [whole, List.length_append]
      omega
    have taken := packetFormat.split_stream_append (valid_of_content whole)
      (decode_eq_none_of_bad whole long bad) count
    rw [← whole, split, Prod.mk.injEq] at taken
    rw [taken.2] at completable
    unfold NoPacket at bad
    unfold Completable at completable
    omega
  · intro none
    rcases decode_eq_none.mp stuck with short | bad | ⟨long, incomplete⟩
    · exact .inl short
    · refine absurd ⟨_, left, parts.symm, bad.1, ?_⟩ none
      have sizes := (corrupt_iff.mp bad).2
      unfold NoPacket
      unfold MAX_PACKET_BUF_SIZE at sizes
      omega
    · have fits : ¬ NoPacket (headerSize left) := fun bad => none ⟨_, left, parts.symm, long, bad⟩
      unfold NoPacket at fits
      exact .inr ⟨by omega, incomplete, by omega⟩

/-- What the two receivers leave unread can be completed exactly when the buffer holds no
header, after packets, that the receiver in question cannot get past. -/
theorem receivers_completable_iff (c : CircleStreamBuffer) :
    ((StreamSocket.onReadPackets c).1.length < ONCE_PROCESS_NETPACKET_LIMIT →
      (Completable (StreamSocket.onReadPackets c).2.content ↔ ¬ HasHeader c NeverFits)) ∧
    (Completable (DSoftbusAdapter.handleSessionData c).2.content ↔ ¬ HasHeader c NoPacket) :=
  ⟨onReadPackets_completable_iff, handleSessionData_completable_iff c⟩

/-- A buffer with two packets and the beginning of a third one. -/
def twoAndAHalf : CircleStreamBuffer :=
  (CircleStreamBuffer.new.write ((packetFormat.stream
    [{ msgId := 2, payload := [1, 2, 3] }, { msgId := 3, payload := [] }]) ++
      image ({ idMsg := 4, size := 9 } : PackHead) ++ [5])).2

/-- Both receivers leave the third packet to be completed, and no header that holds them up. -/
theorem receivers_completable_twoAndAHalf :
    ¬ HasHeader twoAndAHalf NeverFits ∧ ¬ HasHeader twoAndAHalf NoPacket := by
  have few : (StreamSocket.onReadPackets twoAndAHalf).1.length < ONCE_PROCESS_NETPACKET_LIMIT := by
    decide +kernel
  obtain ⟨reads, handles⟩ := receivers_completable_iff twoAndAHalf
  exact ⟨(reads few).mp (by unfold Completable; decide +kernel),
    handles.mp (by unfold Completable; decide +kernel)⟩

/-- A buffer to which a header with the size 2041 has been written. -/
def neverFits : CircleStreamBuffer :=
  (CircleStreamBuffer.new.write (image ({ idMsg := 2, size := 2041 } : PackHead))).2

/-- Neither receiver gets past a header that announces 2041 bytes. -/
theorem neverFits_wedges :
    ¬ ((StreamSocket.onReadPackets neverFits).1.length < ONCE_PROCESS_NETPACKET_LIMIT →
        Completable (StreamSocket.onReadPackets neverFits).2.content) ∧
      ¬ Completable (DSoftbusAdapter.handleSessionData neverFits).2.content := by
  have content : neverFits.content = image ({ idMsg := 2, size := 2041 } : PackHead) :=
    (CircleStreamBuffer.write_of_fits rfl (image_ne_nil _) (by decide)).2.2
  have header : neverFits.content = packetFormat.stream [] ++
      image ({ idMsg := 2, size := 2041 } : PackHead) := content
  constructor
  · intro claim
    have few : (StreamSocket.onReadPackets neverFits).1.length < ONCE_PROCESS_NETPACKET_LIMIT := by
      have packets := (StreamSocket.readPackets_spec ONCE_PROCESS_NETPACKET_LIMIT neverFits).1
      have count := packetFormat.length_le_length_stream
        (packetFormat.split ONCE_PROCESS_NETPACKET_LIMIT neverFits.content).1
      have parts := congrArg List.length
        (packetFormat.stream_split ONCE_PROCESS_NETPACKET_LIMIT neverFits.content)
      rw [List.length_append, content, TriviallyCopyable.length_image, sizeof_packHead] at parts
      have length := congrArg List.length packets
      rw [List.length_map, content] at length
      rw [content] at count
      change (StreamSocket.onReadPackets neverFits).1.length = _ at length
      unfold headSize at parts
      unfold ONCE_PROCESS_NETPACKET_LIMIT at *
      omega
    exact (onReadPackets_completable_iff few).mp (claim few)
      ⟨[], _, header, by decide, by unfold NeverFits; decide⟩
  · intro claim
    exact (handleSessionData_completable_iff neverFits).mp claim
      ⟨[], _, header, by decide, by unfold NoPacket; decide⟩

end DeviceStatus.Ipc
