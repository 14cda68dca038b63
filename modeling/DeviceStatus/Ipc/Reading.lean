import DeviceStatus.Ipc.Codec

/-!
# Reading any bytes

What `>>` does to a buffer whose content is not known to be what an encoder has written. A
decoder checks for an error once after many reads. It is followed on what is `left` of the
buffer: each read skips as many bytes as its type has, and once there are too few of them
nothing is left for good.

## Main definitions

* `StreamBuffer.left` — the bytes that can still be read, unless an access has failed.
* `StreamBuffer.skip` — the bytes after the first ones.
* `StreamBuffer.Follows` — a decoder succeeds when there is something left, and leaves it.
-/

namespace DeviceStatus.Ipc

open Bytes

namespace StreamBuffer

/-- What is left to be read, unless an access has failed. -/
def left (b : StreamBuffer) : Option (List UInt8) :=
  if b.rwErrorStatus = .ok then some b.unread else none

/-- The bytes after the first `n`, when there are so many. -/
def skip (n : Nat) (bs : List UInt8) : Option (List UInt8) :=
  if n ≤ bs.length then some (bs.drop n) else none

@[simp] theorem skip_zero (bs : List UInt8) : skip 0 bs = some bs := by
  simp [skip]

theorem isSome_skip {n : Nat} {bs : List UInt8} : (skip n bs).isSome ↔ n ≤ bs.length := by
  unfold skip
  split_ifs with enough <;> simp [enough]

theorem skip_bind_skip (m n : Nat) (bs : List UInt8) :
    (skip m bs).bind (skip n) = skip (m + n) bs := by
  unfold skip
  by_cases first : m ≤ bs.length
  · simp only [first, if_true, Option.bind_some, List.length_drop, List.drop_drop]
    split_ifs <;> first | rfl | omega
  · have short : ¬ m + n ≤ bs.length := by omega
    simp [first, short]

theorem skip_add_of_le {m : Nat} {bs : List UInt8} (h : m ≤ bs.length) (n : Nat) :
    skip (m + n) bs = skip n (bs.drop m) := by
  rw [← skip_bind_skip, skip, if_pos h, Option.bind_some]

theorem skip_add_of_lt {m : Nat} {bs : List UInt8} (h : bs.length < m) (n : Nat) :
    skip (m + n) bs = none := by
  rw [skip, if_neg (by omega)]

/-- Two skips in a row are one. -/
@[simp] theorem bind_skip_bind_skip (m n : Nat) (o : Option (List UInt8)) :
    (o.bind (skip m)).bind (skip n) = o.bind (skip (m + n)) := by
  cases o with
  | none => rfl
  | some bs => exact skip_bind_skip m n bs

variable {b : StreamBuffer}

theorem chkRWError_eq_isNone (b : StreamBuffer) : b.chkRWError = b.left.isNone := by
  unfold chkRWError left
  split_ifs with status <;> simp [status]

theorem left_eq_some {bs : List UInt8} :
    b.left = some bs ↔ b.rwErrorStatus = .ok ∧ b.unread = bs := by
  unfold left
  split_ifs with status <;> simp [status]

theorem left_eq_none : b.left = none ↔ b.rwErrorStatus ≠ .ok := by
  unfold left
  split_ifs with status <;> simp [status]

theorem left_read {size : Nat} (positive : 0 < size) (small : size ≤ 2 ^ 30) :
    (b.read size).2.left = b.left.bind (skip size) := by
  by_cases status : b.rwErrorStatus = .ok
  · have before : b.left = some b.unread := left_eq_some.mpr ⟨status, rfl⟩
    rw [before, Option.bind_some, skip, length_unread]
    by_cases enough : size ≤ b.residualSize
    · obtain ⟨b', step, status', -, -, unread⟩ := read_of_le small status positive enough
      rw [step, if_pos enough]
      exact left_eq_some.mpr ⟨status', unread⟩
    · rw [read_of_not_le small fun h => enough h.2.2, if_neg enough]
      exact left_eq_none.mpr (by simp [status])
  · rw [read_of_not_le small fun h => status h.1, left_eq_none.mpr status]
    exact left_eq_none.mpr (by simp [status])

section Get

variable {T : Type} [TriviallyCopyable T] [FitsMemcpy T]

theorem left_get (data : T) : (b.get data).2.left = b.left.bind (skip (sizeof T)) := by
  rw [snd_get]
  exact left_read TriviallyCopyable.sizeof_pos FitsMemcpy.sizeof_le

/-- The value that is read, when there are bytes enough. -/
theorem fst_get {bs : List UInt8} (h : b.left = some bs)
    (enough : sizeof T ≤ bs.length) (data : T) :
    (b.get data).1 = ofImage (bs.take (sizeof T)) := by
  obtain ⟨status, rfl⟩ := left_eq_some.mp h
  rw [length_unread] at enough
  obtain ⟨b', step, -⟩ :=
    read_of_le FitsMemcpy.sizeof_le status TriviallyCopyable.sizeof_pos enough
  rw [get, step]

/-- A read as an equation, to compute a decoder with. -/
theorem get_left (data : T) (b : StreamBuffer) :
    ∃ v b', b.get data = (v, b') ∧ b'.left = b.left.bind (skip (sizeof T)) :=
  ⟨_, _, rfl, left_get data⟩

/-- A value is read, or there are too few bytes and nothing is left. -/
theorem left_get_some {b' : StreamBuffer} {data v : T} {bs : List UInt8} (h : b.left = some bs)
    (read : b.get data = (v, b')) :
    (sizeof T ≤ bs.length ∧ v = ofImage (bs.take (sizeof T)) ∧
        b'.left = some (bs.drop (sizeof T))) ∨
      (bs.length < sizeof T ∧ b'.left = none) := by
  have left := left_get (b := b) data
  rw [read, h, Option.bind_some, skip] at left
  split_ifs at left with enough
  · refine .inl ⟨enough, ?_, left⟩
    have value := fst_get h enough data
    rwa [read] at value
  · exact .inr ⟨Nat.lt_of_not_le enough, left⟩

theorem left_getAll (n : Nat) (data : T) (b : StreamBuffer) :
    (b.getAll n data).2.left = b.left.bind (skip (n * sizeof T)) := by
  induction n generalizing b data with
  | zero =>
    rw [Nat.zero_mul]
    change b.left = _
    cases b.left <;> simp
  | succ n ih =>
    have step : (b.getAll (n + 1) data).2 = ((b.get data).2.getAll n (b.get data).1).2 := rfl
    rw [step, ih, left_get, bind_skip_bind_skip]
    congr 2
    ring

end Get

/-! ## Reading what has been written -/

/-- What has been written can be read behind what was there before. -/
theorem Wrote.holds_behind {b' : StreamBuffer} {bs : List UInt8} (h : Wrote b bs b')
    (status : b'.rwErrorStatus = .ok) :
    Holds { b' with rPos := b.wPos, rPos_mem := b.wPos_mem } bs := by
  have length := h.length_le status
  have order : b.wPos ≤ b'.wPos := by omega
  have ordered : Ordered { b' with rPos := b.wPos, rPos_mem := b.wPos_mem } :=
    ⟨Int.natCast_nonneg _, Int.ofNat_le.mpr order, b'.wPos_le⟩
  refine ⟨status, ordered, ?_⟩
  have parts := written_eq ordered
  change b'.written = b'.bytes 0 b.wPos ++ _ at parts
  rw [(h.run status).2.1] at parts
  exact (List.append_inj_right parts (by simp)).symm

/-! ## Decoders -/

/-- The decoder succeeds exactly when there is something left, and leaves it in the buffer. -/
structure Follows {E : Type} (r : Bool × E × StreamBuffer) (rest : Option (List UInt8)) :
    Prop where
  ok : r.1 = rest.isSome
  left : r.1 = true → r.2.2.left = rest

namespace Follows

variable {E : Type} {r : Bool × E × StreamBuffer} {rest : Option (List UInt8)}

/-- A decoder that checks for errors at its end. -/
theorem of_checked {e : E} {pkt : StreamBuffer} (h : pkt.left = rest) :
    Follows (!pkt.chkRWError, e, pkt) rest := by
  refine ⟨?_, fun _ => h⟩
  rw [chkRWError_eq_isNone, h]
  cases rest <;> rfl

/-- A decoder that gives nothing on an error. -/
theorem of_ite {e e' : E} {pkt : StreamBuffer} (h : pkt.left = rest) :
    Follows (if pkt.chkRWError then (false, e, pkt) else (true, e', pkt)) rest := by
  rw [chkRWError_eq_isNone, h]
  cases rest with
  | none => exact ⟨rfl, fun ok => by cases ok⟩
  | some bs => exact ⟨rfl, fun _ => h⟩

theorem of_fails (h : r.1 = false) : Follows r none :=
  ⟨h, fun ok => by rw [h] at ok; cases ok⟩

end Follows

end StreamBuffer

end DeviceStatus.Ipc
