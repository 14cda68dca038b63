import DeviceStatus.Ipc.StreamBuffer

/-!
# Circle buffers

`CircleStreamBuffer` of `circle_stream_buffer.cpp`: a stream buffer whose unread bytes are
moved to the beginning of the array when a write does not fit behind them. The positions are
always in order, so a circle buffer is for its users the queue of its `unread` bytes.

## Main definitions

* `CircleStreamBuffer` — the buffer together with the order of its positions.
* `CircleStreamBuffer.content` — the queue; a write succeeds exactly when it fits beside it.
-/

namespace DeviceStatus.Ipc

open Bytes

namespace StreamBuffer

/-- The loop of `CopyDataToBegin`: `n` times `szBuff_[pos++] = szBuff_[i++]`. -/
def copyLoop (szBuff : Int → UInt8) (pos i : Int) : Nat → (Int → UInt8)
  | 0 => szBuff
  | n + 1 => copyLoop (Function.update szBuff pos (szBuff i)) (pos + 1) (i + 1) n

theorem residualSize_le {b : StreamBuffer} (h : 0 ≤ b.rPos) :
    b.residualSize ≤ MAX_STREAM_BUF_SIZE := by
  have := b.wPos_le
  rw [residualSize_eq]
  omega

/-- `CopyDataToBegin`, which is called for a positive read position. -/
def copyDataToBegin (b : StreamBuffer) (h : 0 < b.rPos) : StreamBuffer :=
  let residualSize := b.residualSize
  { b with
    szBuff :=
      if 0 < residualSize ∧ 0 < b.rPos then
        copyLoop b.szBuff 0 b.rPos (b.wPos + 1 - b.rPos).toNat
      else b.szBuff
    rPos := 0
    wPos := residualSize
    rPos_mem := by decide
    wPos_le := residualSize_le h.le }

def checkWrite (size : Nat) (b : StreamBuffer) : Bool × StreamBuffer :=
  let bufferSize := toInt32 size
  if h : (b.getAvailableBufSize : Int) < bufferSize ∧ 0 < b.rPos then
    let b := b.copyDataToBegin h.2
    (bufferSize ≤ b.getAvailableBufSize, b)
  else (bufferSize ≤ b.getAvailableBufSize, b)

/-- `CircleStreamBuffer::Write`. -/
def circleWrite (buf : List UInt8) (b : StreamBuffer) : Bool × StreamBuffer :=
  match b.checkWrite buf.length with
  | (true, b) => b.write buf
  | (false, b) => (false, b)

theorem copyLoop_of_lt {szBuff : Int → UInt8} {pos i j : Int} {n : Nat} (h : j < pos) :
    copyLoop szBuff pos i n j = szBuff j := by
  induction n generalizing szBuff pos i with
  | zero => rfl
  | succ n ih =>
    rw [copyLoop, ih (by omega), Function.update_of_ne (by omega)]

/-- A forward copy to lower positions reads every byte before it is overwritten. -/
theorem copyLoop_apply {szBuff : Int → UInt8} {pos i : Int} {n : Nat} (h : pos ≤ i)
    {k : Nat} (hk : k < n) : copyLoop szBuff pos i n (pos + k) = szBuff (i + k) := by
  induction n generalizing szBuff pos i k with
  | zero => omega
  | succ n ih =>
    rw [copyLoop]
    cases k with
    | zero =>
      rw [copyLoop_of_lt (by omega)]
      simp
    | succ k =>
      have next : copyLoop (Function.update szBuff pos (szBuff i)) (pos + 1) (i + 1) n
          (pos + 1 + k) = Function.update szBuff pos (szBuff i) (i + 1 + k) :=
        ih (by omega) (by omega)
      rw [Function.update_of_ne (by omega)] at next
      have target : pos + (k + 1 : Nat) = pos + 1 + k := by omega
      have origin : i + (k + 1 : Nat) = i + 1 + k := by omega
      rw [target, origin, next]

section CopyDataToBegin

variable {b : StreamBuffer} (h : 0 < b.rPos)

@[simp] theorem rPos_copyDataToBegin : (b.copyDataToBegin h).rPos = 0 := rfl
@[simp] theorem wPos_copyDataToBegin : (b.copyDataToBegin h).wPos = b.residualSize := rfl
@[simp] theorem rwErrorStatus_copyDataToBegin :
    (b.copyDataToBegin h).rwErrorStatus = b.rwErrorStatus := rfl

/-- Moving the data to the beginning keeps it. -/
@[simp] theorem unread_copyDataToBegin : (b.copyDataToBegin h).unread = b.unread := by
  have size : (b.copyDataToBegin h).residualSize = b.residualSize := by
    rw [residualSize_eq]
    simp
  rw [unread, unread, size, rPos_copyDataToBegin]
  apply bytes_congr
  intro i hi
  have some : 0 < b.residualSize := by omega
  have loop : (b.copyDataToBegin h).szBuff =
      copyLoop b.szBuff 0 b.rPos (b.wPos + 1 - b.rPos).toNat := by
    simp [copyDataToBegin, some, h]
  rw [residualSize_eq] at hi
  rw [loop, copyLoop_apply h.le (by omega)]

end CopyDataToBegin

theorem checkWrite_of_room {b : StreamBuffer} {size : Nat}
    (h : ¬ ((b.getAvailableBufSize : Int) < toInt32 size ∧ 0 < b.rPos)) :
    b.checkWrite size = (decide (toInt32 size ≤ b.getAvailableBufSize), b) := by
  rw [checkWrite]
  exact dif_neg h

theorem checkWrite_of_full {b : StreamBuffer} {size : Nat}
    (h : (b.getAvailableBufSize : Int) < toInt32 size ∧ 0 < b.rPos) :
    b.checkWrite size =
      (decide (toInt32 size ≤ (b.copyDataToBegin h.2).getAvailableBufSize),
        b.copyDataToBegin h.2) := by
  rw [checkWrite]
  exact dif_pos h

namespace Ordered

variable {b : StreamBuffer}

theorem copyDataToBegin (h : 0 < b.rPos) : (b.copyDataToBegin h).Ordered where
  rPos_nonneg := le_rfl
  rPos_le_wPos := Int.natCast_nonneg _
  wPos_le := residualSize_le h.le

theorem checkWrite (h : b.Ordered) (size : Nat) : (b.checkWrite size).2.Ordered := by
  by_cases full : (b.getAvailableBufSize : Int) < toInt32 size ∧ 0 < b.rPos
  · rw [checkWrite_of_full full]
    exact .copyDataToBegin full.2
  · rw [checkWrite_of_room full]
    exact h

theorem circleWrite (h : b.Ordered) (buf : List UInt8) : (b.circleWrite buf).2.Ordered := by
  have checked := h.checkWrite buf.length
  rw [StreamBuffer.circleWrite]
  generalize b.checkWrite buf.length = result at checked
  obtain ⟨room, b'⟩ := result
  cases room with
  | true => exact Ordered.write checked buf
  | false => exact checked

end Ordered

@[simp] theorem unread_checkWrite (b : StreamBuffer) (size : Nat) :
    (b.checkWrite size).2.unread = b.unread := by
  by_cases full : (b.getAvailableBufSize : Int) < toInt32 size ∧ 0 < b.rPos
  · rw [checkWrite_of_full full, unread_copyDataToBegin]
  · rw [checkWrite_of_room full]

@[simp] theorem rwErrorStatus_checkWrite (b : StreamBuffer) (size : Nat) :
    (b.checkWrite size).2.rwErrorStatus = b.rwErrorStatus := by
  by_cases full : (b.getAvailableBufSize : Int) < toInt32 size ∧ 0 < b.rPos
  · rw [checkWrite_of_full full, rwErrorStatus_copyDataToBegin]
  · rw [checkWrite_of_room full]

/-- There is room exactly when the new bytes fit beside the unread ones, and then they fit
behind the write position. -/
theorem checkWrite_eq {b : StreamBuffer} (h : b.Ordered) {size : Nat} (small : size < 2 ^ 31) :
    (b.checkWrite size).1 = decide (b.unread.length + size ≤ MAX_STREAM_BUF_SIZE) ∧
      ((b.checkWrite size).1 = true →
        (b.checkWrite size).2.wPos + size ≤ MAX_STREAM_BUF_SIZE) := by
  have origin := h.rPos_nonneg
  have bound := h.wPos_le
  have positions := h.wPos_eq
  have unread_le := h.length_unread_le
  have cast := toInt32_of_lt small
  have available := b.getAvailableBufSize_eq
  by_cases full : (b.getAvailableBufSize : Int) < toInt32 size ∧ 0 < b.rPos
  · have moved : (b.copyDataToBegin full.2).getAvailableBufSize =
        MAX_STREAM_BUF_SIZE - b.unread.length := by
      rw [getAvailableBufSize_eq, wPos_copyDataToBegin, length_unread]
    have start : (b.copyDataToBegin full.2).wPos = b.unread.length := by
      rw [wPos_copyDataToBegin, length_unread]
    rw [checkWrite_of_full full]
    simp only [moved, cast, decide_eq_decide, decide_eq_true_eq, start]
    omega
  · rw [checkWrite_of_room full]
    simp only [available, cast, decide_eq_decide, decide_eq_true_eq] at full ⊢
    omega

/-- A write of bytes that fit beside the unread ones appends them. -/
theorem circleWrite_of_fits {b : StreamBuffer} (h : b.Ordered) (status : b.rwErrorStatus = .ok)
    {buf : List UInt8} (nonempty : buf ≠ [])
    (fits : b.unread.length + buf.length ≤ MAX_STREAM_BUF_SIZE) :
    (b.circleWrite buf).1 = true ∧ (b.circleWrite buf).2.rwErrorStatus = .ok ∧
      (b.circleWrite buf).2.unread = b.unread ++ buf := by
  have small : buf.length < 2 ^ 31 := by
    unfold MAX_STREAM_BUF_SIZE at fits
    omega
  obtain ⟨room, space⟩ := checkWrite_eq h small
  rw [decide_eq_true fits] at room
  have same := unread_checkWrite b buf.length
  have ok := rwErrorStatus_checkWrite b buf.length
  have order := (h.checkWrite buf.length).rPos_le_wPos
  rw [circleWrite]
  generalize b.checkWrite buf.length = checked at room space same ok order
  obtain ⟨_, b'⟩ := checked
  obtain rfl : _ = true := room
  have written := write_of_fits (ok.trans status) nonempty (space rfl)
  simp only at same ok order written ⊢
  rw [written]
  exact ⟨rfl, ok.trans status, by rw [unread_append order, same]⟩

/-- A write of bytes that do not fit changes nothing that a reader can see. -/
theorem circleWrite_of_not_fits {b : StreamBuffer} (h : b.Ordered) {buf : List UInt8}
    (small : buf.length < 2 ^ 31)
    (large : ¬ b.unread.length + buf.length ≤ MAX_STREAM_BUF_SIZE) :
    (b.circleWrite buf).1 = false ∧ (b.circleWrite buf).2.rwErrorStatus = b.rwErrorStatus ∧
      (b.circleWrite buf).2.unread = b.unread := by
  have room := (checkWrite_eq h small).1
  rw [decide_eq_false large] at room
  have same := unread_checkWrite b buf.length
  have ok := rwErrorStatus_checkWrite b buf.length
  rw [circleWrite]
  generalize b.checkWrite buf.length = checked at room same ok
  obtain ⟨_, b'⟩ := checked
  obtain rfl : _ = false := room
  exact ⟨rfl, ok, same⟩

end StreamBuffer

/-- The circle buffers that the receivers keep: no operation they use brings the positions
out of order or past the end of the array. -/
structure CircleStreamBuffer extends StreamBuffer where
  ordered : toStreamBuffer.Ordered

namespace CircleStreamBuffer

instance : Inhabited CircleStreamBuffer := ⟨{}, StreamBuffer.ordered_default⟩

/-- A buffer as it is created. -/
def new : CircleStreamBuffer := default

/-- The bytes that wait to be read. -/
def content (c : CircleStreamBuffer) : List UInt8 := c.unread

def reset (c : CircleStreamBuffer) : CircleStreamBuffer :=
  ⟨c.toStreamBuffer.reset, .reset _⟩

def seekReadPos (n : Int) (c : CircleStreamBuffer) : Bool × CircleStreamBuffer :=
  ((c.toStreamBuffer.seekReadPos n).1, ⟨_, c.ordered.seekReadPos n⟩)

def write (buf : List UInt8) (c : CircleStreamBuffer) : Bool × CircleStreamBuffer :=
  ((c.circleWrite buf).1, ⟨_, c.ordered.circleWrite buf⟩)

@[simp] theorem content_new : new.content = [] := rfl

@[simp] theorem content_reset (c : CircleStreamBuffer) : c.reset.content = [] := rfl

theorem length_content (c : CircleStreamBuffer) : c.content.length = c.residualSize :=
  c.length_unread

theorem length_content_le (c : CircleStreamBuffer) : c.content.length ≤ MAX_STREAM_BUF_SIZE :=
  c.ordered.length_unread_le

theorem write_of_fits {c : CircleStreamBuffer} (status : c.rwErrorStatus = .ok)
    {buf : List UInt8} (nonempty : buf ≠ [])
    (fits : c.content.length + buf.length ≤ MAX_STREAM_BUF_SIZE) :
    (c.write buf).1 = true ∧ (c.write buf).2.rwErrorStatus = .ok ∧
      (c.write buf).2.content = c.content ++ buf :=
  StreamBuffer.circleWrite_of_fits c.ordered status nonempty fits

theorem write_of_not_fits {c : CircleStreamBuffer} (buf : List UInt8)
    (small : buf.length < 2 ^ 31)
    (large : ¬ c.content.length + buf.length ≤ MAX_STREAM_BUF_SIZE) :
    (c.write buf).1 = false ∧ (c.write buf).2.rwErrorStatus = c.rwErrorStatus ∧
      (c.write buf).2.content = c.content :=
  StreamBuffer.circleWrite_of_not_fits c.ordered small large

/-- Seeking inside the content drops bytes from its front. -/
theorem seekReadPos_of_le {c : CircleStreamBuffer} {n : Nat} (h : n ≤ c.content.length) :
    (c.seekReadPos n).1 = true ∧ (c.seekReadPos n).2.content = c.content.drop n ∧
      (c.seekReadPos n).2.rwErrorStatus = c.rwErrorStatus := by
  have inside : c.rPos + n ≤ c.wPos := by
    have := c.ordered.wPos_eq
    rw [content] at h
    omega
  exact StreamBuffer.seekReadPos_of_le c.ordered.rPos_nonneg inside

theorem empty_iff {c : CircleStreamBuffer} : c.empty = true ↔ c.content = [] := by
  have := c.ordered.wPos_eq
  rw [← List.length_eq_zero_iff, content, StreamBuffer.empty, decide_eq_true_eq]
  omega

end CircleStreamBuffer

end DeviceStatus.Ipc
