import DeviceStatus.Ipc.StreamBuffer
import DeviceStatus.Library.Framing

/-!
# Packets

`NetPacket` of `net_packet.cpp`: a stream buffer with a message id, written to the wire as a
`PackHead` and the bytes of the buffer. `packetFormat` is the wire format in terms of the
message id and the payload alone.
-/

namespace DeviceStatus.Ipc

open Bytes Framing

/-- `enum class MessageId : int32_t`. -/
abbrev MessageId := Int32

def MAX_MESSAGE_ID : UInt32 := 33

def RET_OK : Int32 := 0
def RET_ERR : Int32 := -1

/-- The packed header of a packet. -/
structure PackHead where
  idMsg : MessageId := 0
  size : Int32 := 0
  deriving DecidableEq

instance : TriviallyCopyable PackHead where
  sizeof := 8
  image head := image head.idMsg ++ image head.size
  ofImage bs := { idMsg := ofImage (bs.take 4), size := ofImage (bs.drop 4) }
  length_image head := by simp; rfl
  ofImage_image head := by
    have id : (image head.idMsg).length = 4 := TriviallyCopyable.length_image head.idMsg
    simp [List.take_left' id, List.drop_left' id]
  sizeof_pos := Nat.succ_pos _

/-- `sizeof(PackHead)`. -/
def headSize : Nat := 8

@[simp] theorem sizeof_packHead : sizeof PackHead = headSize := rfl

structure NetPacket extends StreamBuffer where
  msgId : MessageId

/-- What the receiver of a packet gets to see. -/
structure Packet where
  msgId : MessageId
  payload : List UInt8
  deriving DecidableEq

namespace NetPacket

/-- `NetPacket(MessageId)`. -/
def ofId (msgId : MessageId) : NetPacket := { msgId }

/-- `Write(const char *, size_t)`, as a packet inherits it. -/
def write (buf : List UInt8) (pkt : NetPacket) : Bool × NetPacket :=
  let (ok, b) := pkt.toStreamBuffer.write buf
  (ok, { pkt with toStreamBuffer := b })

def makeData (pkt : NetPacket) (buf : StreamBuffer) : Bool × StreamBuffer :=
  let head : PackHead := { idMsg := pkt.msgId, size := Int32.ofNat pkt.wPos }
  let buf := buf.put head
  if 0 < pkt.wPos then buf.write pkt.written
  else (true, buf)

def getPacketLength (pkt : NetPacket) : Nat := headSize + pkt.wPos

def content (pkt : NetPacket) : Packet := { msgId := pkt.msgId, payload := pkt.written }

end NetPacket

/-! ## The wire format -/

namespace Packet

def head (p : Packet) : PackHead :=
  { idMsg := p.msgId, size := Int32.ofNat p.payload.length }

def encode (p : Packet) : List UInt8 := image p.head ++ p.payload

/-- The packet that a buffer starts with, when it is there as a whole. -/
def decode (bs : List UInt8) : Option (Packet × List UInt8) :=
  let head : PackHead := ofImage (bs.take headSize)
  if bs.length < headSize then none
  else if head.size.toInt < 0 ∨ (MAX_PACKET_BUF_SIZE : Int) < head.size.toInt then none
  else if ((bs.length - headSize : Nat) : Int) < head.size.toInt then none
  else
    let size := head.size.toInt.toNat
    some ({ msgId := head.idMsg, payload := (bs.drop headSize).take size },
      bs.drop (headSize + size))

end Packet

theorem image_ofImage_uint32 {bs : List UInt8} (h : bs.length = 4) :
    image (ofImage bs : UInt32) = bs := by
  have small : leNat bs < 2 ^ 32 := by
    have := leNat_lt bs
    rw [h] at this
    exact this
  have number : (UInt32.ofNat (leNat bs)).toNat = leNat bs := by
    rw [UInt32.toNat_ofNat', Nat.mod_eq_of_lt small]
  change leBytes 4 (UInt32.ofNat (leNat bs)).toNat = bs
  rw [number, ← h, leBytes_leNat]

theorem image_ofImage_int32 {bs : List UInt8} (h : bs.length = 4) :
    image (ofImage bs : Int32) = bs := by
  change image (ofImage bs : UInt32).toInt32.toUInt32 = bs
  rw [UInt32.toUInt32_toInt32, image_ofImage_uint32 h]

theorem image_ofImage_packHead {bs : List UInt8} (h : bs.length = headSize) :
    image (ofImage bs : PackHead) = bs := by
  have first : (bs.take 4).length = 4 := by simp [h, headSize]
  have second : (bs.drop 4).length = 4 := by simp [h, headSize]
  change image (ofImage (bs.take 4) : Int32) ++ image (ofImage (bs.drop 4) : Int32) = bs
  rw [image_ofImage_int32 first, image_ofImage_int32 second, List.take_append_drop]

namespace Packet

@[simp] theorem length_encode (p : Packet) : p.encode.length = headSize + p.payload.length := by
  simp [encode]

theorem size_head {p : Packet} (h : p.payload.length ≤ MAX_PACKET_BUF_SIZE) :
    p.head.size.toInt = p.payload.length := by
  unfold MAX_PACKET_BUF_SIZE MAX_STREAM_BUF_SIZE at h
  exact Int32.toInt_ofNat_of_lt (by omega)

theorem decode_encode {p : Packet} (h : p.payload.length ≤ MAX_PACKET_BUF_SIZE)
    (rest : List UInt8) : decode (p.encode ++ rest) = some (p, rest) := by
  have first : (p.encode ++ rest).take headSize = image p.head := by
    rw [encode, List.append_assoc, List.take_left' (by simp)]
  have after : (p.encode ++ rest).drop headSize = p.payload ++ rest := by
    rw [encode, List.append_assoc, List.drop_left' (by simp)]
  have size := size_head h
  simp only [decode, first, TriviallyCopyable.ofImage_image, size, ← List.drop_drop, after,
    List.length_append, length_encode]
  have long : ¬ headSize + p.payload.length + rest.length < headSize := by omega
  have inside : ¬ ((headSize + p.payload.length + rest.length - headSize : Nat) : Int) <
      (p.payload.length : Int) := by omega
  simp [h, head, long, inside]

/-- A packet is decoded exactly from the bytes that are written for it. -/
theorem decode_eq_some {bs rest : List UInt8} {p : Packet} :
    decode bs = some (p, rest) ↔
      p.payload.length ≤ MAX_PACKET_BUF_SIZE ∧ bs = p.encode ++ rest := by
  constructor
  · intro h
    simp only [decode] at h
    split_ifs at h with short corrupt incomplete
    simp only [Option.some.injEq, Prod.mk.injEq] at h
    obtain ⟨rfl, rfl⟩ := h
    have whole : (bs.take headSize).length = headSize := by simp; omega
    generalize hsize : (ofImage (bs.take headSize) : PackHead).size = size at *
    have length : ((bs.drop headSize).take size.toInt.toNat).length = size.toInt.toNat := by
      rw [List.length_take, List.length_drop]
      omega
    have back : Int32.ofNat size.toInt.toNat = size := by
      apply Int32.toInt_inj.mp
      rw [Int32.toInt_ofNat_of_lt]
      · omega
      · unfold MAX_PACKET_BUF_SIZE MAX_STREAM_BUF_SIZE at corrupt
        omega
    refine ⟨by rw [length]; omega, ?_⟩
    have image_head : image (ofImage (bs.take headSize) : PackHead) = bs.take headSize :=
      image_ofImage_packHead whole
    simp only [encode, head, length, back]
    rw [← hsize, image_head, List.append_assoc, ← List.drop_drop, List.take_append_drop,
      List.take_append_drop]
  · rintro ⟨h, rfl⟩
    exact decode_encode h rest

theorem encode_ne_nil (p : Packet) : p.encode ≠ [] := by
  intro h
  have := congrArg List.length h
  simp [headSize] at this

end Packet

/-- Packets on the wire. -/
def packetFormat : Format Packet UInt8 where
  valid p := p.payload.length ≤ MAX_PACKET_BUF_SIZE
  encode := Packet.encode
  decode := Packet.decode
  encode_ne_nil := Packet.encode_ne_nil
  decode_eq_some := Packet.decode_eq_some

@[simp] theorem packetFormat_encode (p : Packet) : packetFormat.encode p = p.encode := rfl
@[simp] theorem packetFormat_decode (bs : List UInt8) :
    packetFormat.decode bs = Packet.decode bs := rfl
@[simp] theorem packetFormat_valid (p : Packet) :
    packetFormat.valid p ↔ p.payload.length ≤ MAX_PACKET_BUF_SIZE := Iff.rfl

namespace NetPacket

theorem fits_image (head : PackHead) :
    StreamBuffer.wPos {} + (image head).length ≤ MAX_STREAM_BUF_SIZE := by
  rw [TriviallyCopyable.length_image]
  decide

theorem put_head (head : PackHead) :
    StreamBuffer.put head {} = StreamBuffer.append {} (image head) (fits_image head) := by
  rw [StreamBuffer.put, StreamBuffer.write_of_fits rfl (image_ne_nil head) (fits_image head)]

theorem makeData_eq (pkt : NetPacket) :
    pkt.makeData {} =
      if pkt.wPos = 0 then (true, StreamBuffer.put pkt.content.head {})
      else StreamBuffer.write pkt.written (StreamBuffer.put pkt.content.head {}) := by
  have head : pkt.content.head =
      { idMsg := pkt.msgId, size := Int32.ofNat pkt.wPos } := by
    simp [Packet.head, content]
  rw [makeData, ← head]
  by_cases h : pkt.wPos = 0
  · simp [h]
  · simp [h, Nat.pos_of_ne_zero h]

theorem written_ne_nil {pkt : NetPacket} (h : pkt.wPos ≠ 0) : pkt.written ≠ [] := by
  intro empty
  have := pkt.length_written
  rw [empty, List.length_nil] at this
  exact h this.symm

/-- Behind the head there is room for the payload exactly when both fit in one buffer. -/
theorem fits_written (pkt : NetPacket) :
    (StreamBuffer.put pkt.content.head {}).wPos + pkt.written.length ≤ MAX_STREAM_BUF_SIZE ↔
      headSize + pkt.wPos ≤ MAX_STREAM_BUF_SIZE := by
  rw [put_head, StreamBuffer.wPos_append, StreamBuffer.length_written,
    TriviallyCopyable.length_image, sizeof_packHead, Nat.zero_add]

theorem status_put_head (head : PackHead) : (StreamBuffer.put head {}).rwErrorStatus = .ok := by
  rw [put_head]
  rfl

/-- `MakeData` to an empty buffer succeeds exactly for packets that fit in one buffer. -/
theorem makeData_eq_true (pkt : NetPacket) :
    (pkt.makeData {}).1 = true ↔ headSize + pkt.wPos ≤ MAX_STREAM_BUF_SIZE := by
  rw [makeData_eq]
  by_cases h : pkt.wPos = 0
  · simp [h, headSize, MAX_STREAM_BUF_SIZE]
  · rw [if_neg h, ← fits_written]
    obtain ⟨fits, -, -, eq⟩ | ⟨refused, eq⟩ :=
      StreamBuffer.write_cases pkt.written (StreamBuffer.put pkt.content.head {})
    · rw [eq]
      exact iff_of_true rfl fits
    · rw [eq]
      exact iff_of_false Bool.false_ne_true fun fits =>
        refused ⟨status_put_head _, written_ne_nil h, fits⟩

/-- ... and what it writes is the packet on the wire. -/
theorem written_makeData {pkt : NetPacket} (h : (pkt.makeData {}).1 = true) :
    (pkt.makeData {}).2.written = pkt.content.encode := by
  have fits := pkt.makeData_eq_true.mp h
  have head : (StreamBuffer.put pkt.content.head {}).written = image pkt.content.head := by
    rw [put_head, StreamBuffer.written_append]
    rfl
  rw [makeData_eq]
  by_cases empty : pkt.wPos = 0
  · have payload : pkt.content.payload = [] :=
      List.length_eq_zero_iff.mp (by simpa [content] using empty)
    simp [empty, Packet.encode, payload, head]
  · rw [if_neg empty, StreamBuffer.write_of_fits (status_put_head _) (written_ne_nil empty)
      (pkt.fits_written.mpr fits)]
    dsimp only
    rw [StreamBuffer.written_append, head]
    rfl

end NetPacket

end DeviceStatus.Ipc
