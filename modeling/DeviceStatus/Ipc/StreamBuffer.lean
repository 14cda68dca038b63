import DeviceStatus.Library.Bytes
import Mathlib.Data.List.Basic

/-!
# Stream buffers

`StreamBuffer` of `devicestatus_stream_buffer.cpp`: a fixed array with a read and a write
position and an error status that, once set, makes every further access fail until `Reset`.
What a reader can still get from a buffer is its `unread` bytes; writing appends to them and
reading takes them from the front. Positions are added as `int32_t`, and a sum that is too large
wraps round.

## Main definitions

* `StreamBuffer` and its operations, under the names of the source.
* `StreamBuffer.unread`, `StreamBuffer.written` — the bytes between the positions and up to
  the write position.
-/

namespace DeviceStatus.Ipc

open Bytes

/-- A `std::string`: any bytes. -/
abbrev StdString := List UInt8

def MAX_STREAM_BUF_SIZE : Nat := 2048
def MAX_PACKET_BUF_SIZE : Nat := MAX_STREAM_BUF_SIZE

/-- The largest size that the bounds-checked copy functions accept. -/
def SECUREC_MEM_MAX_LEN : Nat := 0x7fffffff

/-- `static_cast<int32_t>` of a `size_t`. -/
def toInt32 (n : Nat) : Int := (Int32.ofNat n).toInt

/-- The sum of two values of `int32_t`. -/
def addInt32 (op1 op2 : Int) : Int := (Int32.ofInt (op1 + op2)).toInt

/-- Whether `memcpy_sp` copies `count` bytes to a destination of `destMax` bytes. -/
def memcpySp (destMax count : Nat) : Bool :=
  0 < destMax ∧ destMax ≤ SECUREC_MEM_MAX_LEN ∧ count ≤ destMax

inductive ErrorStatus where
  | ok | read | write
  deriving DecidableEq

theorem rPos_mem_zero : -2 ^ 31 ≤ (0 : Int) ∧ (0 : Int) ≤ MAX_STREAM_BUF_SIZE + 2 := by decide

structure StreamBuffer where
  rwErrorStatus : ErrorStatus := .ok
  rCount : Nat := 0
  wCount : Nat := 0
  rPos : Int := 0
  wPos : Nat := 0
  /-- `szBuff_`, an array of `MAX_STREAM_BUF_SIZE + 1` bytes, and the memory around it -/
  szBuff : Int → UInt8 := fun _ => 0
  /-- a string that is read ends behind the array at the latest -/
  rPos_mem : -2 ^ 31 ≤ rPos ∧ rPos ≤ MAX_STREAM_BUF_SIZE + 2 := by exact Ipc.rPos_mem_zero
  wPos_le : wPos ≤ MAX_STREAM_BUF_SIZE := by exact Nat.zero_le _

namespace StreamBuffer

def reset (b : StreamBuffer) : StreamBuffer :=
  { szBuff := b.szBuff }

def clean (b : StreamBuffer) : StreamBuffer :=
  { b.reset with szBuff := fun _ => 0 }

def chkRWError (b : StreamBuffer) : Bool := b.rwErrorStatus ≠ .ok

def empty (b : StreamBuffer) : Bool := b.rPos = b.wPos

def size (b : StreamBuffer) : Nat := b.wPos

/-- `ResidualSize()`, which an `int32_t` holds as long as the read position is in the array. -/
def residualSize (b : StreamBuffer) : Nat :=
  if b.wPos ≤ b.rPos then 0 else (b.wPos - b.rPos).toNat

def getAvailableBufSize (b : StreamBuffer) : Nat :=
  if MAX_STREAM_BUF_SIZE ≤ b.wPos then 0 else MAX_STREAM_BUF_SIZE - b.wPos

/-- `n` bytes of the array from position `pos` on. -/
def bytes (b : StreamBuffer) (pos : Int) (n : Nat) : List UInt8 :=
  (List.range n).map fun i : Nat => b.szBuff (pos + i)

/-- `Data()` up to `Size()`. -/
def written (b : StreamBuffer) : List UInt8 := b.bytes 0 b.wPos

/-- What lies between the read and the write position. -/
def unread (b : StreamBuffer) : List UInt8 := b.bytes b.rPos b.residualSize

theorem addInt32_mem (op1 op2 : Int) : -2 ^ 31 ≤ addInt32 op1 op2 ∧ addInt32 op1 op2 < 2 ^ 31 :=
  ⟨Int32.le_toInt _, Int32.toInt_lt _⟩

/-- Whatever has been written can be read from its beginning. -/
theorem wPos_mem (b : StreamBuffer) :
    -2 ^ 31 ≤ (b.wPos : Int) ∧ (b.wPos : Int) ≤ MAX_STREAM_BUF_SIZE + 2 := by
  have := b.wPos_le
  omega

/-- The read position moves to one that is not behind the write position. -/
def moveTo (pos : Int) (lower : -2 ^ 31 ≤ pos) (b : StreamBuffer) (upper : pos ≤ b.wPos) :
    StreamBuffer :=
  { b with
    rPos := pos
    rPos_mem := ⟨lower, by have := b.wPos_le; omega⟩ }

def seekReadPos (n : Int) (b : StreamBuffer) : Bool × StreamBuffer :=
  let pos := addInt32 b.rPos n
  if h : pos < 0 ∨ b.wPos < pos then (false, b)
  else (true, b.moveTo pos (addInt32_mem _ _).1 (by omega))

/-- The buffer after a write that succeeds. -/
def append (b : StreamBuffer) (buf : List UInt8)
    (fits : b.wPos + buf.length ≤ MAX_STREAM_BUF_SIZE) : StreamBuffer :=
  { b with
    szBuff := fun i =>
      if b.wPos ≤ i ∧ i < b.wPos + buf.length then buf.getD (i - b.wPos).toNat 0 else b.szBuff i
    wPos := b.wPos + buf.length
    wCount := b.wCount + 1
    wPos_le := fits }

/-- What `memcpy_sp` copies behind the write position fits there. -/
theorem fits_of_memcpySp {b : StreamBuffer} {count : Nat}
    (copied : ¬ ¬ memcpySp b.getAvailableBufSize count) : b.wPos + count ≤ MAX_STREAM_BUF_SIZE := by
  have room := not_not.mp copied
  rw [memcpySp, decide_eq_true_iff] at room
  unfold getAvailableBufSize at room
  split at room <;> omega

/-- `Write(const char *, size_t)` of the bytes that `buf` points to. -/
def write (buf : List UInt8) (b : StreamBuffer) : Bool × StreamBuffer :=
  if b.chkRWError then (false, b)
  else if buf.length = 0 then (false, { b with rwErrorStatus := .write })
  else if MAX_STREAM_BUF_SIZE < addInt32 b.wPos (toInt32 buf.length) then
    (false, { b with rwErrorStatus := .write })
  else if h : ¬ memcpySp b.getAvailableBufSize buf.length then
    (false, { b with rwErrorStatus := .write })
  else (true, b.append buf (fits_of_memcpySp h))

/-- `Read(char *, size_t)`; without a result, the destination is as it was. -/
def read (size : Nat) (b : StreamBuffer) : Option (List UInt8) × StreamBuffer :=
  if b.chkRWError then (none, b)
  else if size = 0 then (none, { b with rwErrorStatus := .read })
  else if h : b.wPos < addInt32 b.rPos (toInt32 size) then
    (none, { b with rwErrorStatus := .read })
  else if ¬ memcpySp size size then (none, { b with rwErrorStatus := .read })
  else
    (some (b.bytes b.rPos size),
      { b.moveTo (addInt32 b.rPos (toInt32 size)) (addInt32_mem _ _).1 (by omega) with
        rCount := b.rCount + 1 })

/-- `Write(const std::string &)`: the characters and the terminating NUL. -/
def writeString (buf : StdString) (b : StreamBuffer) : Bool × StreamBuffer :=
  b.write (buf ++ [0])

/-- `ReadBuf()` points into the array. -/
def InArray (b : StreamBuffer) : Prop := 0 ≤ b.rPos ∧ b.rPos ≤ MAX_STREAM_BUF_SIZE

instance (b : StreamBuffer) : Decidable b.InArray := inferInstanceAs (Decidable (_ ∧ _))

/-- The C string at `ReadBuf()`. -/
def cString (b : StreamBuffer) : StdString :=
  (b.bytes b.rPos (MAX_STREAM_BUF_SIZE + 1 - b.rPos).toNat).takeWhile (· ≠ 0)

theorem length_cString_le (b : StreamBuffer) :
    b.cString.length ≤ (MAX_STREAM_BUF_SIZE + 1 - b.rPos).toNat := by
  refine (List.takeWhile_prefix _).length_le.trans_eq ?_
  simp [bytes]

/-- The buffer after the string at `ReadBuf()` and its NUL. -/
def pastString (b : StreamBuffer) (h : b.InArray) : StreamBuffer :=
  { b with
    rPos := b.rPos + b.cString.length + 1
    rPos_mem := by
      have start := h.1
      have bound := h.2
      have := b.length_cString_le
      omega }

@[simp] theorem rPos_pastString (b : StreamBuffer) (h : b.InArray) :
    (b.pastString h).rPos = b.rPos + b.cString.length + 1 := rfl

/-- `Read(std::string &)`; without a result, the string is as it was. The source returns
whether the string it reads is non-empty. What is outside the array is not known, so no string is
read there. -/
def readString (b : StreamBuffer) : Option StdString × StreamBuffer :=
  if b.rPos = b.wPos then (none, { b with rwErrorStatus := .read })
  else if h : b.InArray then (some b.cString, b.pastString h)
  else (some [], b)

/-- `operator<<` of a value that is copied as its bytes. -/
def put {T : Type} [TriviallyCopyable T] (data : T) (b : StreamBuffer) : StreamBuffer :=
  (b.write (image data)).2

/-- `operator<<` of a string. -/
def putString (data : StdString) (b : StreamBuffer) : StreamBuffer :=
  (b.writeString data).2

/-- `operator>>` to a variable that holds `data`. -/
def get {T : Type} [TriviallyCopyable T] (data : T) (b : StreamBuffer) : T × StreamBuffer :=
  match b.read (sizeof T) with
  | (some bs, b) => (ofImage bs, b)
  | (none, b) => (data, b)

/-- `operator>>` to a string that holds `data`. -/
def getString (data : StdString) (b : StreamBuffer) : StdString × StreamBuffer :=
  match b.readString with
  | (some s, b) => (s, b)
  | (none, b) => (data, b)

/-- `Clone`. -/
def clone (source b : StreamBuffer) : Bool × StreamBuffer :=
  b.clean.write source.written

/-! ## The bytes of a buffer -/

@[simp] theorem length_bytes (b : StreamBuffer) (pos : Int) (n : Nat) :
    (b.bytes pos n).length = n := by
  simp [bytes]

@[simp] theorem bytes_zero (b : StreamBuffer) (pos : Int) : b.bytes pos 0 = [] := rfl

theorem bytes_add (b : StreamBuffer) (pos : Int) (m n : Nat) :
    b.bytes pos (m + n) = b.bytes pos m ++ b.bytes (pos + m) n := by
  simp [bytes, List.range_add, Int.add_assoc]

theorem bytes_congr {a b : StreamBuffer} {p q : Int} {n : Nat}
    (h : ∀ i < n, a.szBuff (p + i) = b.szBuff (q + i)) : a.bytes p n = b.bytes q n := by
  apply List.ext_getElem (by simp)
  intro i hi _
  simp only [length_bytes] at hi
  simpa [bytes] using h i hi

@[simp] theorem length_unread (b : StreamBuffer) : b.unread.length = b.residualSize := by
  simp [unread]

@[simp] theorem length_written (b : StreamBuffer) : b.written.length = b.wPos := by
  simp [written]

theorem residualSize_eq (b : StreamBuffer) : b.residualSize = (b.wPos - b.rPos).toNat := by
  unfold residualSize
  split <;> omega

theorem getAvailableBufSize_eq (b : StreamBuffer) :
    b.getAvailableBufSize = MAX_STREAM_BUF_SIZE - b.wPos := by
  unfold getAvailableBufSize
  split <;> omega

@[simp] theorem chkRWError_eq_false {b : StreamBuffer} :
    b.chkRWError = false ↔ b.rwErrorStatus = .ok := by
  simp [chkRWError]

/-- The bytes at the read position are the first unread ones. -/
theorem bytes_rPos {b : StreamBuffer} {n : Nat} (h : n ≤ b.residualSize) :
    b.bytes b.rPos n = b.unread.take n := by
  obtain ⟨m, hm⟩ := Nat.exists_eq_add_of_le h
  rw [unread, hm, bytes_add, List.take_left' (length_bytes b b.rPos n)]

theorem bytes_rPos_add {b : StreamBuffer} {m n : Nat} (h : m + n ≤ b.residualSize) :
    b.bytes (b.rPos + m) n = (b.unread.drop m).take n := by
  have start : b.bytes b.rPos (m + n) = b.unread.take (m + n) := bytes_rPos h
  rw [bytes_add, List.take_add, bytes_rPos (by omega)] at start
  exact List.append_cancel_left start

/-! ## The order of the positions -/

/-- The positions are in order and inside the array. -/
structure Ordered (b : StreamBuffer) : Prop where
  rPos_nonneg : 0 ≤ b.rPos
  rPos_le_wPos : b.rPos ≤ b.wPos
  wPos_le : b.wPos ≤ MAX_STREAM_BUF_SIZE

theorem ordered_default : Ordered {} := ⟨le_rfl, le_rfl, Nat.zero_le _⟩

/-- `unread` is the end of `written`. -/
theorem written_eq {b : StreamBuffer} (h : b.Ordered) :
    b.written = b.bytes 0 b.rPos.toNat ++ b.unread := by
  have start := h.rPos_nonneg
  have order := h.rPos_le_wPos
  have parts : b.wPos = b.rPos.toNat + b.residualSize := by
    rw [residualSize_eq]
    omega
  have pos : (0 : Int) + b.rPos.toNat = b.rPos := by omega
  rw [written, unread]
  conv_lhs => rw [parts]
  rw [bytes_add, pos]

/-! ## Sums -/

theorem toInt32_of_lt {n : Nat} (h : n < 2 ^ 31) : toInt32 n = n :=
  Int32.toInt_ofNat_of_lt h

theorem addInt32_of_mem {op1 op2 : Int} (lower : -2 ^ 31 ≤ op1 + op2)
    (upper : op1 + op2 < 2 ^ 31) : addInt32 op1 op2 = op1 + op2 :=
  Int32.toInt_ofInt_of_le lower upper

/-- A sum that is too large wraps round. -/
theorem addInt32_of_large {op1 op2 : Int} (lower : 2 ^ 31 ≤ op1 + op2)
    (upper : op1 + op2 < 2 ^ 32) : addInt32 op1 op2 = op1 + op2 - 2 ^ 32 := by
  have size : (Int32.size : Int) = 2 ^ 32 := rfl
  rw [addInt32, Int32.toInt_ofInt, Int.bmod_def, size]
  omega

/-! ## Reset and seek -/

@[simp] theorem rPos_reset (b : StreamBuffer) : b.reset.rPos = 0 := rfl
@[simp] theorem wPos_reset (b : StreamBuffer) : b.reset.wPos = 0 := rfl
@[simp] theorem rwErrorStatus_reset (b : StreamBuffer) : b.reset.rwErrorStatus = .ok := rfl
@[simp] theorem unread_reset (b : StreamBuffer) : b.reset.unread = [] := rfl
@[simp] theorem unread_default : unread {} = [] := rfl
@[simp] theorem written_default : written {} = [] := rfl

section MoveTo

variable {b : StreamBuffer} {pos : Int} {lower : -2 ^ 31 ≤ pos} {upper : pos ≤ b.wPos}

@[simp] theorem rPos_moveTo : (b.moveTo pos lower upper).rPos = pos := rfl
@[simp] theorem wPos_moveTo : (b.moveTo pos lower upper).wPos = b.wPos := rfl
@[simp] theorem rwErrorStatus_moveTo :
    (b.moveTo pos lower upper).rwErrorStatus = b.rwErrorStatus := rfl

end MoveTo

/-- Moving the read position forward drops bytes from the front of the unread ones. -/
theorem unread_of_forward {b b' : StreamBuffer} {n : Nat} (szBuff : b'.szBuff = b.szBuff)
    (wPos : b'.wPos = b.wPos) (forward : b'.rPos = b.rPos + n) (order : b'.rPos ≤ b.wPos) :
    b'.unread = b.unread.drop n := by
  have parts : b.residualSize = n + b'.residualSize := by
    rw [residualSize_eq, residualSize_eq, wPos]
    omega
  have whole : b.unread = b.bytes b.rPos n ++ b'.unread := by
    rw [unread, parts, bytes_add, ← forward]
    congr 1
    exact bytes_congr fun i _ => by rw [szBuff]
  rw [whole, List.drop_left' (length_bytes b b.rPos n)]

/-- Inside the unread bytes, seeking drops bytes from their front. -/
theorem seekReadPos_of_le {b : StreamBuffer} {n : Nat} (start : 0 ≤ b.rPos)
    (h : b.rPos + n ≤ b.wPos) :
    (b.seekReadPos n).1 = true ∧ (b.seekReadPos n).2.unread = b.unread.drop n ∧
      (b.seekReadPos n).2.rwErrorStatus = b.rwErrorStatus := by
  have bound := b.wPos_le
  have pos : addInt32 b.rPos n = b.rPos + n := addInt32_of_mem (by omega) (by
    unfold MAX_STREAM_BUF_SIZE at bound
    omega)
  have inside : ¬ (addInt32 b.rPos n < 0 ∨ b.wPos < addInt32 b.rPos n) := by omega
  rw [seekReadPos, dif_neg inside]
  exact ⟨rfl, unread_of_forward rfl rfl pos (by simp only [rPos_moveTo]; omega), rfl⟩

/-! ## Writing -/

section Append

variable {b : StreamBuffer} {buf : List UInt8} {fits : b.wPos + buf.length ≤ MAX_STREAM_BUF_SIZE}

@[simp] theorem rPos_append : (b.append buf fits).rPos = b.rPos := rfl
@[simp] theorem wPos_append : (b.append buf fits).wPos = b.wPos + buf.length := rfl
@[simp] theorem rwErrorStatus_append : (b.append buf fits).rwErrorStatus = b.rwErrorStatus := rfl

end Append

theorem write_of_fits {buf : List UInt8} {b : StreamBuffer} (status : b.rwErrorStatus = .ok)
    (nonempty : buf ≠ []) (fits : b.wPos + buf.length ≤ MAX_STREAM_BUF_SIZE) :
    b.write buf = (true, b.append buf fits) := by
  have positive : buf.length ≠ 0 := by simpa using nonempty
  have small : buf.length < 2 ^ 31 := by
    unfold MAX_STREAM_BUF_SIZE at fits
    omega
  have cast := toInt32_of_lt small
  have inside : ¬ MAX_STREAM_BUF_SIZE < addInt32 b.wPos (toInt32 buf.length) := by
    unfold MAX_STREAM_BUF_SIZE at fits ⊢
    rw [cast, addInt32_of_mem (by omega) (by omega)]
    omega
  have room : memcpySp b.getAvailableBufSize buf.length = true := by
    unfold MAX_STREAM_BUF_SIZE at fits
    simp only [memcpySp, getAvailableBufSize_eq, SECUREC_MEM_MAX_LEN,
      MAX_STREAM_BUF_SIZE, decide_eq_true_eq]
    omega
  simp [write, status, positive, inside, room]

/-- A write that does not fit fails, and only the status changes. -/
theorem write_of_not_fits {buf : List UInt8} {b : StreamBuffer}
    (refused : ¬ (b.rwErrorStatus = .ok ∧ buf ≠ [] ∧
      b.wPos + buf.length ≤ MAX_STREAM_BUF_SIZE)) :
    b.write buf = (false, { b with
      rwErrorStatus := if b.rwErrorStatus = .ok then .write else b.rwErrorStatus }) := by
  by_cases status : b.rwErrorStatus = .ok
  · by_cases empty : buf = []
    · simp [write, status, empty]
    · have large : memcpySp b.getAvailableBufSize buf.length = false := by
        simp only [memcpySp, getAvailableBufSize_eq, decide_eq_false_iff_not]
        have exceeds : ¬ b.wPos + buf.length ≤ MAX_STREAM_BUF_SIZE :=
          fun fits => refused ⟨status, empty, fits⟩
        omega
      simp [write, status, empty, large]
  · simp [write, status, chkRWError]

/-- A write either fits and appends its bytes, or it fails and only the status changes. -/
theorem write_cases (buf : List UInt8) (b : StreamBuffer) :
    (∃ fits : b.wPos + buf.length ≤ MAX_STREAM_BUF_SIZE, b.rwErrorStatus = .ok ∧ buf ≠ [] ∧
      b.write buf = (true, b.append buf fits)) ∨
    (¬ (b.rwErrorStatus = .ok ∧ buf ≠ [] ∧ b.wPos + buf.length ≤ MAX_STREAM_BUF_SIZE) ∧
      b.write buf = (false, { b with
        rwErrorStatus := if b.rwErrorStatus = .ok then .write else b.rwErrorStatus })) := by
  by_cases accepted : b.rwErrorStatus = .ok ∧ buf ≠ [] ∧
      b.wPos + buf.length ≤ MAX_STREAM_BUF_SIZE
  · obtain ⟨status, nonempty, fits⟩ := accepted
    exact .inl ⟨fits, status, nonempty, write_of_fits status nonempty fits⟩
  · exact .inr ⟨accepted, write_of_not_fits accepted⟩

theorem bytes_append_of_le {b : StreamBuffer} {buf : List UInt8}
    {fits : b.wPos + buf.length ≤ MAX_STREAM_BUF_SIZE} {pos : Int} {n : Nat}
    (h : pos + n ≤ b.wPos) : (b.append buf fits).bytes pos n = b.bytes pos n := by
  apply bytes_congr
  intro i hi
  have : ¬ (b.wPos ≤ pos + i ∧ pos + i < b.wPos + buf.length) := by omega
  simp only [append, this, if_false]

@[simp] theorem bytes_append_wPos (b : StreamBuffer) (buf : List UInt8)
    (fits : b.wPos + buf.length ≤ MAX_STREAM_BUF_SIZE) :
    (b.append buf fits).bytes b.wPos buf.length = buf := by
  apply List.ext_getElem (by simp)
  intro i hi _
  simp only [length_bytes] at hi
  have index : (b.wPos + i : Int).toNat - b.wPos = i := by omega
  simp [bytes, append, index, List.getD_eq_getElem?_getD, hi]

@[simp] theorem written_append (b : StreamBuffer) (buf : List UInt8)
    (fits : b.wPos + buf.length ≤ MAX_STREAM_BUF_SIZE) :
    (b.append buf fits).written = b.written ++ buf := by
  rw [written, wPos_append, bytes_add, bytes_append_of_le (by omega), Int.zero_add,
    bytes_append_wPos]
  rfl

theorem unread_append {b : StreamBuffer} (h : b.rPos ≤ b.wPos) (buf : List UInt8)
    (fits : b.wPos + buf.length ≤ MAX_STREAM_BUF_SIZE) :
    (b.append buf fits).unread = b.unread ++ buf := by
  have parts : (b.append buf fits).residualSize = b.residualSize + buf.length := by
    simp only [residualSize_eq, rPos_append, wPos_append]
    omega
  have middle : b.rPos + b.residualSize = b.wPos := by
    rw [residualSize_eq]
    omega
  rw [unread, parts, rPos_append, bytes_add, middle, bytes_append_wPos,
    bytes_append_of_le middle.le]
  rfl

/-! ## Reading -/

theorem memcpySp_self {n : Nat} : memcpySp n n = true ↔ 0 < n ∧ n < 2 ^ 31 := by
  unfold memcpySp SECUREC_MEM_MAX_LEN
  rw [decide_eq_true_iff]
  omega

/-- The buffer after a read that succeeds. -/
def advance (b : StreamBuffer) (size : Nat) (inside : addInt32 b.rPos size ≤ b.wPos) :
    StreamBuffer :=
  { b.moveTo _ (addInt32_mem _ _).1 inside with rCount := b.rCount + 1 }

/-- A read either moves the read position, which is a sum in `int32_t`, or it fails and only the
status changes. -/
theorem read_cases (size : Nat) (b : StreamBuffer) :
    (∃ inside : addInt32 b.rPos size ≤ b.wPos, b.rwErrorStatus = .ok ∧ 0 < size ∧
      size < 2 ^ 31 ∧ b.read size = (some (b.bytes b.rPos size), b.advance size inside)) ∨
    (¬ (b.rwErrorStatus = .ok ∧ 0 < size ∧ size < 2 ^ 31 ∧ addInt32 b.rPos size ≤ b.wPos) ∧
      b.read size = (none, { b with
        rwErrorStatus := if b.rwErrorStatus = .ok then .read else b.rwErrorStatus })) := by
  by_cases status : b.rwErrorStatus = .ok
  swap
  · exact .inr ⟨fun h => status h.1, by simp [read, chkRWError, status]⟩
  by_cases positive : 0 < size
  swap
  · have zero : size = 0 := by omega
    exact .inr ⟨fun h => positive h.2.1, by simp [read, status, zero]⟩
  by_cases small : size < 2 ^ 31
  · have cast := toInt32_of_lt small
    have copied : memcpySp size size = true := memcpySp_self.mpr ⟨positive, small⟩
    by_cases inside : addInt32 b.rPos size ≤ b.wPos
    · refine .inl ⟨inside, status, positive, small, ?_⟩
      simp [read, chkRWError, status, positive.ne', cast, inside.not_gt, copied, advance]
    · refine .inr ⟨fun h => inside h.2.2.2, ?_⟩
      simp [read, status, positive.ne', cast, not_le.mp inside]
  · have refused : memcpySp size size = false := by
      rw [← Bool.not_eq_true, memcpySp_self]
      exact fun h => small h.2
    refine .inr ⟨fun h => small h.2.2.1, ?_⟩
    simp [read, status, refused]

/-- The size of a field cannot make the read position wrap round. -/
theorem addInt32_rPos (b : StreamBuffer) {size : Nat} (small : size ≤ 2 ^ 30) :
    addInt32 b.rPos size = b.rPos + size := by
  have bounds := b.rPos_mem
  unfold MAX_STREAM_BUF_SIZE at bounds
  exact addInt32_of_mem (by omega) (by omega)

theorem addInt32_rPos_le (b : StreamBuffer) {size : Nat} (small : size ≤ 2 ^ 30)
    (positive : 0 < size) : addInt32 b.rPos size ≤ b.wPos ↔ size ≤ b.residualSize := by
  rw [b.addInt32_rPos small, residualSize_eq]
  omega

/-- A read of bytes that are there takes them off the front of the unread ones. -/
theorem read_of_le {b : StreamBuffer} {size : Nat} (small : size ≤ 2 ^ 30)
    (status : b.rwErrorStatus = .ok) (positive : 0 < size) (enough : size ≤ b.residualSize) :
    ∃ b', b.read size = (some (b.unread.take size), b') ∧ b'.rwErrorStatus = .ok ∧
      b'.rPos = b.rPos + size ∧ b'.wPos = b.wPos ∧ b'.unread = b.unread.drop size := by
  have within := (b.addInt32_rPos_le small positive).mpr enough
  have pos := b.addInt32_rPos small
  obtain ⟨inside, -, -, -, eq⟩ | ⟨refused, -⟩ := read_cases size b
  · refine ⟨b.advance size inside, ?_, status, pos, rfl, unread_of_forward rfl rfl pos inside⟩
    rw [eq, bytes_rPos enough]
  · exact absurd ⟨status, positive, by omega, within⟩ refused

/-- A read of more fails, and only the status changes. -/
theorem read_of_not_le {b : StreamBuffer} {size : Nat} (small : size ≤ 2 ^ 30)
    (refused : ¬ (b.rwErrorStatus = .ok ∧ 0 < size ∧ size ≤ b.residualSize)) :
    b.read size = (none, { b with
      rwErrorStatus := if b.rwErrorStatus = .ok then .read else b.rwErrorStatus }) := by
  obtain ⟨inside, status, positive, -, -⟩ | ⟨-, eq⟩ := read_cases size b
  · exact absurd ⟨status, positive, (b.addInt32_rPos_le small positive).mp inside⟩ refused
  · exact eq

namespace Ordered

variable {b : StreamBuffer}

theorem wPos_eq (h : b.Ordered) : (b.wPos : Int) = b.rPos + b.unread.length := by
  have := h.rPos_le_wPos
  rw [length_unread, residualSize_eq]
  omega

theorem length_unread_le (h : b.Ordered) : b.unread.length ≤ MAX_STREAM_BUF_SIZE := by
  have := h.wPos_le
  have := h.wPos_eq
  have := h.rPos_nonneg
  omega

theorem reset (b : StreamBuffer) : b.reset.Ordered := ⟨le_rfl, le_rfl, Nat.zero_le _⟩

theorem seekReadPos (h : b.Ordered) (n : Int) : (b.seekReadPos n).2.Ordered := by
  unfold StreamBuffer.seekReadPos
  dsimp only
  split
  · exact h
  · next inside =>
    push Not at inside
    exact ⟨inside.1, inside.2, h.wPos_le⟩

theorem append (h : b.Ordered) {buf : List UInt8}
    (fits : b.wPos + buf.length ≤ MAX_STREAM_BUF_SIZE) : (b.append buf fits).Ordered where
  rPos_nonneg := h.rPos_nonneg
  rPos_le_wPos := by
    have := h.rPos_le_wPos
    simp only [rPos_append, wPos_append]
    omega
  wPos_le := fits

theorem write (h : b.Ordered) (buf : List UInt8) : (b.write buf).2.Ordered := by
  obtain ⟨fits, -, -, eq⟩ | ⟨-, eq⟩ := write_cases buf b
  · rw [eq]
    exact h.append fits
  · rw [eq]
    exact ⟨h.rPos_nonneg, h.rPos_le_wPos, h.wPos_le⟩

end Ordered

end StreamBuffer

end DeviceStatus.Ipc
