import DeviceStatus.Ipc.Reading
import DeviceStatus.Library.Transition

/-!
# The positions of a stream buffer

Every operation keeps the read position behind the write position and both inside the array, but
for two. A string ends at the next NUL in memory, and when there is none among the unread bytes
the read position is moved past the write position. And the position at which a very large read
ends wraps round to a negative one, which passes for one that is not behind the write position.

## Main definitions

* `StreamBuffer.Operation` — the operations that move the positions.
* `StreamBuffer.Agrees` — the positions are in order and the queries say the same about them.
* `StreamBuffer.Terminated` — a string that is read ends among the unread bytes, and a block at
  a position that an `int32_t` can hold.
-/

namespace DeviceStatus.Ipc

open Bytes Transition.System

namespace StreamBuffer

inductive Operation : Type 1 where
  | reset
  | clean
  | seekReadPos (n : Int32)
  /-- `Read(std::string &)` -/
  | readString
  /-- `Read(char *, size_t)` -/
  | read (size : Nat)
  /-- `Write(const std::string &)` -/
  | writeString (buf : StdString)
  /-- `Write(const char *, size_t)` -/
  | write (buf : List UInt8)
  /-- `operator>>` of a value that is copied as its bytes -/
  | get {T : Type} [TriviallyCopyable T] (data : T)
  /-- `operator>>` of a string -/
  | getString (data : StdString)
  /-- `operator<<` -/
  | put {T : Type} [TriviallyCopyable T] (data : T)
  | putString (data : StdString)

def next : Operation → StreamBuffer → StreamBuffer
  | .reset, b => b.reset
  | .clean, b => b.clean
  | .seekReadPos n, b => (b.seekReadPos n.toInt).2
  | .readString, b => b.readString.2
  | .read size, b => (b.read size).2
  | .writeString buf, b => (b.writeString buf).2
  | .write buf, b => (b.write buf).2
  | @Operation.get T _ data, b => (b.get (T := T) data).2
  | .getString data, b => (b.getString data).2
  | @Operation.put T _ data, b => b.put (T := T) data
  | .putString data, b => b.putString data

/-- The positions are in order, and so `ResidualSize`, `empty` and `ReadBuf` agree. -/
structure Agrees (b : StreamBuffer) : Prop where
  ordered : b.Ordered
  residualSize : (b.residualSize : Int) = b.wPos - b.rPos
  empty_iff : b.empty = true ↔ b.residualSize = 0
  /-- `ReadBuf` points to what is left of the bytes that were written -/
  readBuf : b.written = b.bytes 0 b.rPos.toNat ++ b.unread

theorem Ordered.agrees {b : StreamBuffer} (h : b.Ordered) : b.Agrees := by
  have order := h.rPos_le_wPos
  refine ⟨h, ?_, ?_, written_eq h⟩
  · rw [residualSize_eq]
    omega
  · rw [residualSize_eq, empty, decide_eq_true_iff]
    omega

/-- The sum by which a read of so many bytes is checked does not wrap round. -/
def EndsInRange (size : Nat) (b : StreamBuffer) : Prop :=
  b.rwErrorStatus = .ok → size < 2 ^ 31 → b.rPos + size < 2 ^ 31

/-- A string that is read from bytes that are there ends among them, and what is copied as its
bytes ends in range. -/
def Terminated : Operation → StreamBuffer → Prop
  | .readString, b | .getString _, b => b.unread ≠ [] → 0 ∈ b.unread
  | .read size, b => b.EndsInRange size
  | @Operation.get T _ _, b => b.EndsInRange (sizeof T)
  | _, _ => True

variable {b : StreamBuffer}

theorem Ordered.unread_eq_nil_iff (h : b.Ordered) : b.unread = [] ↔ b.rPos = b.wPos := by
  have := h.rPos_le_wPos
  rw [← List.length_eq_zero_iff, length_unread, residualSize_eq]
  omega

/-- The string at the read position is shorter than what is left if and only if it ends there. -/
theorem length_cString_lt_iff (h : b.Ordered) :
    b.cString.length < b.residualSize ↔ 0 ∈ b.unread := by
  have order := h.rPos_le_wPos
  have bound := h.wPos_le
  have split : (MAX_STREAM_BUF_SIZE + 1 - b.rPos).toNat =
      b.residualSize + (MAX_STREAM_BUF_SIZE + 1 - b.wPos) := by
    rw [residualSize_eq]
    omega
  have shorter : (b.unread.takeWhile (· ≠ 0)).length ≤ b.residualSize := by
    rw [← length_unread]
    exact (List.takeWhile_prefix _).length_le
  rw [cString, split, bytes_add, ← unread, List.takeWhile_append]
  split_ifs with whole
  · have none : 0 ∉ b.unread :=
      takeWhile_ne_zero_eq_self.mp ((List.takeWhile_prefix _).eq_of_length whole)
    simp [none]
  · rw [length_unread] at whole
    have some : 0 ∈ b.unread := by
      by_contra none
      rw [takeWhile_ne_zero_eq_self.mpr none, length_unread] at whole
      exact whole rfl
    exact iff_of_true (by omega) some

theorem snd_getString (b : StreamBuffer) (data : StdString) :
    (b.getString data).2 = b.readString.2 := by
  rw [getString]
  rcases b.readString with ⟨_ | s, b'⟩ <;> rfl

/-- Reading a string keeps the positions in order if and only if it ends in time. -/
theorem Ordered.readString_iff (h : b.Ordered) :
    b.readString.2.Ordered ↔ (b.unread ≠ [] → 0 ∈ b.unread) := by
  have start := h.rPos_nonneg
  have order := h.rPos_le_wPos
  have bound := h.wPos_le
  have inArray : b.InArray := ⟨start, by omega⟩
  rw [ne_eq, h.unread_eq_nil_iff, ← length_cString_lt_iff h, residualSize_eq]
  by_cases ended : b.rPos = b.wPos
  · rw [StreamBuffer.readString, if_pos ended]
    exact iff_of_true ⟨start, order, bound⟩ fun more => absurd ended more
  rw [StreamBuffer.readString, if_neg ended, dif_pos inArray]
  constructor
  · intro after _
    have := after.rPos_le_wPos
    simp only [rPos_pastString] at this
    change _ ≤ (b.wPos : Int) at this
    omega
  · intro short
    have := short ended
    refine ⟨?_, ?_, bound⟩
    · simp only [rPos_pastString]
      omega
    · simp only [rPos_pastString]
      change _ ≤ (b.wPos : Int)
      omega

/-- A read keeps the positions in order if and only if the sum of its check is in range: one
that wraps round is negative. -/
theorem Ordered.read_iff (h : b.Ordered) (size : Nat) :
    (b.read size).2.Ordered ↔ b.EndsInRange size := by
  have start := h.rPos_nonneg
  have order := h.rPos_le_wPos
  have bound := h.wPos_le
  unfold MAX_STREAM_BUF_SIZE at bound
  obtain ⟨inside, status, positive, small, eq⟩ | ⟨refused, eq⟩ := read_cases size b
  · rw [eq]
    by_cases inRange : b.rPos + size < 2 ^ 31
    · have pos : addInt32 b.rPos size = b.rPos + size := addInt32_of_mem (by omega) inRange
      refine iff_of_true ⟨?_, inside, h.wPos_le⟩ fun _ _ => inRange
      change 0 ≤ addInt32 b.rPos size
      omega
    · have pos : addInt32 b.rPos size = b.rPos + size - 2 ^ 32 :=
        addInt32_of_large (by omega) (by omega)
      refine iff_of_false (fun after => ?_) fun ends => inRange (ends status small)
      have nonneg : 0 ≤ addInt32 b.rPos size := after.rPos_nonneg
      omega
  · rw [eq]
    refine iff_of_true ⟨start, order, h.wPos_le⟩ fun status small => ?_
    by_contra wraps
    -- a negative sum would have passed the check
    have pos : addInt32 b.rPos size = b.rPos + size - 2 ^ 32 :=
      addInt32_of_large (by omega) (by omega)
    exact refused ⟨status, by omega, small, by omega⟩

/-- One operation keeps the positions in order if and only if what it reads ends in time. -/
theorem Ordered.next_iff (h : b.Ordered) (op : Operation) :
    (next op b).Ordered ↔ Terminated op b := by
  cases op with
  | readString => exact h.readString_iff
  | getString data =>
    rw [next, snd_getString]
    exact h.readString_iff
  | reset => exact iff_of_true (.reset b) trivial
  | clean => exact iff_of_true ⟨le_rfl, le_rfl, Nat.zero_le _⟩ trivial
  | seekReadPos n => exact iff_of_true (h.seekReadPos n.toInt) trivial
  | read size => exact h.read_iff size
  | write buf => exact iff_of_true (h.write buf) trivial
  | writeString buf | putString buf => exact iff_of_true (h.write (buf ++ [0])) trivial
  | put data => exact iff_of_true (h.write (image data)) trivial
  | @get T _ data =>
    rw [next, snd_get]
    exact h.read_iff (sizeof T)

theorem agrees_next_iff (h : b.Ordered) (op : Operation) :
    (next op b).Agrees ↔ Terminated op b := by
  rw [← h.next_iff op]
  exact ⟨Agrees.ordered, Ordered.agrees⟩

/-- The positions stay in order through exactly the runs in which every string that is read ends
among the unread bytes and every block in range. -/
theorem eachStep_agrees_iff_terminated (b : StreamBuffer) (ops : List Operation) :
    EachStep next (fun op b => (next op b).Agrees) b.reset ops ↔
      EachStep next Terminated b.reset ops :=
  EachStep.iff_of_invariant (fun op _ ordered terminated => (ordered.next_iff op).mpr terminated)
    (fun op _ ordered => agrees_next_iff ordered op) (.reset b)

/-- A peer sends a packet of one letter, and a string is read from it. -/
theorem letter_not_agrees :
    ¬ EachStep next (fun op b => (next op b).Agrees) {} [.write [97], .readString] := by
  intro agrees
  have read := (agrees [.write [97]] .readString (by simp)).ordered.rPos_le_wPos
  revert read
  decide +kernel

end StreamBuffer

end DeviceStatus.Ipc
