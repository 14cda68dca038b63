import DeviceStatus.Ipc.CircleStreamBuffer
import DeviceStatus.Ipc.NetPacket

/-!
# Reading packets off a circle buffer

The loop of `stream_socket.cpp` that turns the bytes of a session into packets. What the
callback is called with is returned as a list. On the content of the buffer the loop is
`Format.split` of the wire format, up to what becomes of a corrupt header.
-/

namespace DeviceStatus.Ipc

open Bytes Framing

def ONCE_PROCESS_NETPACKET_LIMIT : Nat := 100

/-- `NetPacket pkt(idMsg)`, and `pkt.Write` of a payload that is not empty. -/
def NetPacket.fill (idMsg : MessageId) (payload : List UInt8) : Bool × NetPacket :=
  let pkt := NetPacket.ofId idMsg
  if 0 < payload.length then pkt.write payload else (true, pkt)

/-- The `PackHead` at the read position. -/
def CircleStreamBuffer.head (circBuf : CircleStreamBuffer) : PackHead :=
  ofImage (circBuf.bytes circBuf.rPos headSize)

/-- The payload that the header announces, as the receivers copy it. -/
def CircleStreamBuffer.data (circBuf : CircleStreamBuffer) : List UInt8 :=
  circBuf.bytes (circBuf.rPos + headSize) circBuf.head.size.toInt.toNat

namespace StreamSocket

/-- The loop of `OnReadPackets`, with at most so many turns to go. -/
def readPackets : Nat → CircleStreamBuffer → List NetPacket × CircleStreamBuffer
  | 0, circBuf => ([], circBuf)
  | limit + 1, circBuf =>
    let residualSize := circBuf.residualSize
    if residualSize < headSize then ([], circBuf)
    else
      let dataSize : Int := residualSize - headSize
      let head := circBuf.head
      if head.size.toInt < 0 ∨ (MAX_PACKET_BUF_SIZE : Int) < head.size.toInt then
        ([], circBuf.reset)
      else if dataSize < head.size.toInt then ([], circBuf)
      else
        let (filled, pkt) := NetPacket.fill head.idMsg circBuf.data
        if filled = false then ([], circBuf)
        else
          let (sought, circBuf) := circBuf.seekReadPos pkt.getPacketLength
          if sought = false then ([], circBuf.reset)
          else if circBuf.empty then ([pkt], circBuf.reset)
          else
            let (pkts, circBuf) := readPackets limit circBuf
            (pkt :: pkts, circBuf)

def onReadPackets (circBuf : CircleStreamBuffer) : List NetPacket × CircleStreamBuffer :=
  readPackets ONCE_PROCESS_NETPACKET_LIMIT circBuf

end StreamSocket

namespace NetPacket

theorem fill_of_le (idMsg : MessageId) {payload : List UInt8}
    (h : payload.length ≤ MAX_PACKET_BUF_SIZE) :
    (fill idMsg payload).1 = true ∧
      (fill idMsg payload).2.content = { msgId := idMsg, payload } := by
  by_cases empty : payload = []
  · simp [fill, empty, ofId, content]
  · have positive : 0 < payload.length := List.length_pos_iff.mpr empty
    have fits : (ofId idMsg).wPos + payload.length ≤ MAX_STREAM_BUF_SIZE := by
      simpa [ofId, MAX_PACKET_BUF_SIZE] using h
    have written : (ofId idMsg).toStreamBuffer.write payload =
        (true, (ofId idMsg).toStreamBuffer.append payload fits) :=
      StreamBuffer.write_of_fits rfl empty fits
    simp only [fill, positive, if_true, write, written, true_and, content,
      StreamBuffer.written_append]
    rfl

@[simp] theorem length_payload_content (pkt : NetPacket) :
    pkt.content.payload.length = pkt.wPos := by
  simp [content]

theorem getPacketLength_eq (pkt : NetPacket) :
    pkt.getPacketLength = pkt.content.encode.length := by
  simp [getPacketLength]

end NetPacket

/-- The header of some bytes announces a size that no packet has. -/
def Packet.corrupt (bs : List UInt8) : Prop :=
  headSize ≤ bs.length ∧
    ((ofImage (bs.take headSize) : PackHead).size.toInt < 0 ∨
      (MAX_PACKET_BUF_SIZE : Int) < (ofImage (bs.take headSize) : PackHead).size.toInt)

instance (bs : List UInt8) : Decidable (Packet.corrupt bs) :=
  inferInstanceAs (Decidable (_ ∧ _))

namespace CircleStreamBuffer

theorem head_eq {c : CircleStreamBuffer} (h : headSize ≤ c.content.length) :
    c.head = ofImage (c.content.take headSize) := by
  rw [head, StreamBuffer.bytes_rPos (by rwa [length_content] at h)]
  rfl

theorem data_eq {c : CircleStreamBuffer} {n : Nat} (h : headSize + n ≤ c.content.length) :
    c.bytes (c.rPos + headSize) n = (c.content.drop headSize).take n :=
  StreamBuffer.bytes_rPos_add (by rwa [length_content] at h)

/-- The packet at the head of the buffer, and the buffer after it. -/
def takeOff (c : CircleStreamBuffer) : NetPacket × CircleStreamBuffer :=
  let pkt := (NetPacket.fill c.head.idMsg c.data).2
  (pkt, (c.seekReadPos pkt.getPacketLength).2)

/-- The checks of a receiver and what it does with a packet that is there as a whole. -/
theorem takeOff_spec {c : CircleStreamBuffer} {p : Packet} {rest : List UInt8}
    (h : Packet.decode c.content = some (p, rest)) :
    (¬ c.residualSize < headSize ∧
      ¬ (c.head.size.toInt < 0 ∨ (MAX_PACKET_BUF_SIZE : Int) < c.head.size.toInt) ∧
      ¬ (c.residualSize : Int) < c.head.size.toInt + headSize) ∧
    NetPacket.fill c.head.idMsg c.data = (true, c.takeOff.1) ∧
    c.seekReadPos c.takeOff.1.getPacketLength = (true, c.takeOff.2) ∧
    c.takeOff.1.content = p ∧ c.takeOff.2.content = rest ∧
    c.takeOff.2.rwErrorStatus = c.rwErrorStatus := by
  obtain ⟨valid, whole⟩ := Packet.decode_eq_some.mp h
  have length := c.length_content
  rw [whole, List.length_append, Packet.length_encode] at length
  have long : headSize ≤ c.content.length := by
    rw [c.length_content]
    omega
  have first : c.content.take headSize = image p.head := by
    rw [whole, Packet.encode, List.append_assoc, List.take_left' (by simp)]
  have head : c.head = p.head := by
    rw [head_eq long, first, TriviallyCopyable.ofImage_image]
  have size : c.head.size.toInt = p.payload.length := by rw [head, Packet.size_head valid]
  have data : c.data = p.payload := by
    rw [CircleStreamBuffer.data, size, Int.toNat_natCast, data_eq (by rw [c.length_content]; omega),
      whole, Packet.encode, List.append_assoc, List.drop_left' (by simp), List.take_left' rfl]
  obtain ⟨filled, content⟩ := NetPacket.fill_of_le p.msgId valid
  have packet : NetPacket.fill c.head.idMsg c.data = NetPacket.fill p.msgId p.payload := by
    rw [data, head]
    rfl
  have taken : c.takeOff.1 = (NetPacket.fill p.msgId p.payload).2 := by
    simp only [takeOff, packet]
  have packetLength : c.takeOff.1.getPacketLength = p.encode.length := by
    rw [NetPacket.getPacketLength_eq, taken, content]
  obtain ⟨sought, after, status⟩ := seekReadPos_of_le (c := c) (n := p.encode.length) (by
    rw [whole, List.length_append]
    omega)
  have next : c.takeOff.2 = (c.seekReadPos p.encode.length).2 := by
    rw [← packetLength]
    dsimp only [takeOff]
  refine ⟨⟨by omega, ?_, by omega⟩, ?_, ?_, by rw [taken, content], ?_, by rw [next, status]⟩
  · rw [size]
    omega
  · rw [packet, taken]
    exact Prod.ext filled rfl
  · rw [packetLength, next]
    exact Prod.ext sought rfl
  · rw [next, after, whole, List.drop_left' rfl]

/-- The checks of a receiver on bytes that do not start with a whole packet. -/
theorem no_packet {c : CircleStreamBuffer} (h : Packet.decode c.content = none) :
    (c.residualSize < headSize ∧ ¬ Packet.corrupt c.content) ∨
    (¬ c.residualSize < headSize ∧ Packet.corrupt c.content ∧
      (c.head.size.toInt < 0 ∨ (MAX_PACKET_BUF_SIZE : Int) < c.head.size.toInt)) ∨
    (¬ c.residualSize < headSize ∧ ¬ Packet.corrupt c.content ∧
      ¬ (c.head.size.toInt < 0 ∨ (MAX_PACKET_BUF_SIZE : Int) < c.head.size.toInt) ∧
      (c.residualSize : Int) < c.head.size.toInt + headSize) := by
  have length := c.length_content
  by_cases short : c.residualSize < headSize
  · left
    exact ⟨short, fun corrupt => by have := corrupt.1; omega⟩
  · right
    have head := head_eq (c := c) (by omega)
    simp only [Packet.decode, ← head, length, short, if_false] at h
    simp only [Packet.corrupt, ← head, length]
    split_ifs at h with corrupt incomplete
    · left
      exact ⟨short, ⟨by omega, corrupt⟩, corrupt⟩
    · right
      exact ⟨short, fun both => corrupt both.2, corrupt, by omega⟩

end CircleStreamBuffer

/-- Bytes that start a stream of packets have no corrupt header. -/
theorem Packet.not_corrupt_of_prefix {ps : List Packet} (valid : ∀ p ∈ ps, packetFormat.valid p)
    {bs : List UInt8} (h : bs <+: packetFormat.stream ps) : ¬ Packet.corrupt bs := by
  rintro ⟨long, sizes⟩
  cases ps with
  | nil =>
    obtain rfl := List.prefix_nil.mp h
    simp [headSize] at long
  | cons p ps =>
    obtain ⟨more, whole⟩ := h
    have first : bs.take headSize = Bytes.image p.head := by
      have := congrArg (List.take headSize) whole
      rw [List.take_append_of_le_length long] at this
      rw [this, Format.stream_cons, packetFormat_encode, Packet.encode, List.append_assoc,
        List.take_left' (by simp)]
    have size := Packet.size_head (valid p (by simp))
    have bound := valid p (by simp)
    rw [first, TriviallyCopyable.ofImage_image, size] at sizes
    rw [packetFormat_valid] at bound
    omega

/-- The buffer holds the beginning of the first packet of `ps`, and `rest` goes on from it. -/
structure Waits (ps : List Packet) (rest : List UInt8) (buf : CircleStreamBuffer) : Prop where
  status : buf.rwErrorStatus = .ok
  unfinished : packetFormat.received ps buf.content.length = []
  start : buf.content ++ rest <+: packetFormat.stream ps

/-- When `chunk` is appended to the content, the packets that it completes can be taken off,
and what is left waits for the next ones. -/
theorem Waits.advance {ps : List Packet} {chunk rest : List UInt8} {buf : CircleStreamBuffer}
    (valid : ∀ p ∈ ps, packetFormat.valid p) (h : Waits ps (chunk ++ rest) buf) {limit : Nat}
    (few : (packetFormat.received ps (buf.content.length + chunk.length)).length ≤ limit) :
    ∃ tail, packetFormat.split limit (buf.content ++ chunk) =
        (packetFormat.received ps (buf.content.length + chunk.length), tail) ∧
      ¬ Packet.corrupt tail ∧
      ∀ buf' : CircleStreamBuffer, buf'.rwErrorStatus = .ok → buf'.content = tail →
        buf'.content.length = packetFormat.residue ps (buf.content.length + chunk.length) ∧
        Waits (packetFormat.pending ps (buf.content.length + chunk.length)) rest buf' := by
  have arrived : buf.content ++ chunk <+: packetFormat.stream ps := by
    refine List.IsPrefix.trans ?_ h.start
    rw [← List.append_assoc]
    exact List.prefix_append _ _
  obtain ⟨tail, split, length, start⟩ :=
    packetFormat.split_of_prefix valid arrived (by simpa using few)
  have sound : ¬ Packet.corrupt tail := Packet.not_corrupt_of_prefix
    (fun p hp => valid p (packetFormat.mem_of_mem_pending hp)) start
  have parts := packetFormat.stream_split limit (buf.content ++ chunk)
  rw [split] at parts
  rw [List.length_append] at split length parts
  refine ⟨tail, split, sound, fun buf' status content => ⟨by rw [content, length], status, ?_, ?_⟩⟩
  · rw [content, length]
    exact packetFormat.received_pending_residue ps _
  · have whole : packetFormat.stream (packetFormat.received ps
          (buf.content.length + chunk.length)) ++ (tail ++ rest) <+:
        packetFormat.stream (packetFormat.received ps (buf.content.length + chunk.length)) ++
          packetFormat.stream (packetFormat.pending ps (buf.content.length + chunk.length)) := by
      rw [← List.append_assoc, parts, ← Format.stream_append,
        packetFormat.received_append_pending, List.append_assoc]
      exact h.start
    rw [content]
    exact (List.prefix_append_right_inj _).mp whole

theorem waits_new {ps : List Packet} {rest : List UInt8}
    (start : rest <+: packetFormat.stream ps) : Waits ps rest .new where
  status := rfl
  unfinished := by
    cases ps with
    | nil => rfl
    | cons p ps => exact packetFormat.received_of_lt (packetFormat.length_encode_pos p)
  start := start

namespace StreamSocket

theorem readPackets_of_none {c : CircleStreamBuffer} (h : Packet.decode c.content = none)
    (limit : Nat) :
    readPackets (limit + 1) c =
      ([], if Packet.corrupt c.content then c.reset else c) := by
  rw [readPackets]
  rcases CircleStreamBuffer.no_packet h with
    ⟨short, sound⟩ | ⟨long, corrupt, header⟩ | ⟨long, sound, header, incomplete⟩
  · simp [short, sound]
  · simp [long, corrupt, header]
  · have missing : (c.residualSize : Int) - headSize < c.head.size.toInt := by omega
    simp only [long, sound, header, missing, if_true, if_false]

theorem readPackets_of_some {c : CircleStreamBuffer} {p : Packet} {rest : List UInt8}
    (h : Packet.decode c.content = some (p, rest)) (limit : Nat) :
    readPackets (limit + 1) c =
      if rest = [] then ([c.takeOff.1], c.takeOff.2.reset)
      else (c.takeOff.1 :: (readPackets limit c.takeOff.2).1,
        (readPackets limit c.takeOff.2).2) := by
  obtain ⟨⟨long, header, complete⟩, filled, sought, packet, after, status⟩ :=
    CircleStreamBuffer.takeOff_spec h
  have present : ¬ (c.residualSize : Int) - headSize < c.head.size.toInt := by omega
  rw [readPackets]
  simp only [long, header, present, if_false, filled, sought, Bool.true_eq_false,
    CircleStreamBuffer.empty_iff, after]

/-- The loop takes packets off the content until none is left as a whole or the limit is
reached, and throws away what then starts with a corrupt header. -/
theorem readPackets_spec (limit : Nat) (c : CircleStreamBuffer) :
    (readPackets limit c).1.map NetPacket.content = (packetFormat.split limit c.content).1 ∧
      (readPackets limit c).2.content =
        if (packetFormat.split limit c.content).1.length < limit ∧
            Packet.corrupt (packetFormat.split limit c.content).2 then []
        else (packetFormat.split limit c.content).2 := by
  induction limit generalizing c with
  | zero => simp [readPackets, Format.split]
  | succ limit ih =>
    cases decoded : Packet.decode c.content with
    | none =>
      rw [readPackets_of_none decoded, packetFormat.split_of_none decoded]
      by_cases corrupt : Packet.corrupt c.content <;> simp [corrupt]
    | some taken =>
      obtain ⟨p, rest⟩ := taken
      obtain ⟨-, -, -, packet, after, -⟩ := CircleStreamBuffer.takeOff_spec decoded
      rw [packetFormat.split_of_some decoded, readPackets_of_some decoded]
      by_cases last : rest = []
      · subst last
        rw [packetFormat.split_of_none packetFormat.decode_nil]
        simp [packet, Packet.corrupt, headSize]
      · obtain ⟨packets, left⟩ := ih c.takeOff.2
        rw [after] at packets left
        simp only [last, if_false, List.map_cons, packet, packets, left, List.length_cons,
          Nat.add_lt_add_iff_right, true_and]

theorem readPackets_rwErrorStatus {c : CircleStreamBuffer} (h : c.rwErrorStatus = .ok)
    (limit : Nat) : (readPackets limit c).2.rwErrorStatus = .ok := by
  induction limit generalizing c with
  | zero => exact h
  | succ limit ih =>
    cases decoded : Packet.decode c.content with
    | none =>
      rw [readPackets_of_none decoded]
      by_cases corrupt : Packet.corrupt c.content
      · simp [corrupt, CircleStreamBuffer.reset]
      · simpa [corrupt] using h
    | some taken =>
      obtain ⟨p, rest⟩ := taken
      obtain ⟨-, -, -, -, -, status⟩ := CircleStreamBuffer.takeOff_spec decoded
      rw [readPackets_of_some decoded]
      by_cases last : rest = []
      · simp [last, CircleStreamBuffer.reset]
      · simpa [last] using ih (status.trans h)

end StreamSocket

end DeviceStatus.Ipc
