import DeviceStatus.Ipc.StreamBuffer
import Mathlib.Data.List.TakeWhile

/-!
# Writing and reading values

How the `<<` and `>>` of a stream buffer compose. An encoder `Wrote` some bytes when, unless
it ran into an error, they are what it has added to the buffer. A decoder starts from a buffer
that `Holds` some bytes and takes the image of each value off their front.

## Main definitions

* `StreamBuffer.Wrote` — from one buffer to another, these bytes have been written.
* `StreamBuffer.Holds` — these bytes can be read.
* `StreamBuffer.getOr`, `StreamBuffer.Offers` — reading fields that an older writer leaves out.
-/

namespace DeviceStatus.Ipc

open Bytes

namespace StreamBuffer

/-! ## Writing -/

/-- Without an error at the end there was none before, and `bs` has been written. -/
structure Wrote (b : StreamBuffer) (bs : List UInt8) (b' : StreamBuffer) : Prop where
  run : b'.rwErrorStatus = .ok →
    b.rwErrorStatus = .ok ∧ b'.written = b.written ++ bs ∧ b'.rPos = b.rPos
  ordered : b.Ordered → b'.Ordered

namespace Wrote

variable {a b c : StreamBuffer} {xs ys : List UInt8}

theorem refl (b : StreamBuffer) : Wrote b [] b :=
  ⟨fun h => ⟨h, by simp, rfl⟩, id⟩

theorem trans (first : Wrote a xs b) (second : Wrote b ys c) : Wrote a (xs ++ ys) c := by
  refine ⟨fun h => ?_, fun h => second.ordered (first.ordered h)⟩
  obtain ⟨mid, added, pos⟩ := second.run h
  obtain ⟨start, before, pos'⟩ := first.run mid
  exact ⟨start, by rw [added, before, List.append_assoc], pos.trans pos'⟩

theorem write (b : StreamBuffer) (buf : List UInt8) : Wrote b buf (b.write buf).2 := by
  refine ⟨fun h => ?_, fun h => h.write buf⟩
  obtain ⟨fits, status, -, eq⟩ | ⟨-, eq⟩ := write_cases buf b
  · rw [eq]
    exact ⟨status, written_append b buf fits, rfl⟩
  · rw [eq] at h
    by_cases status : b.rwErrorStatus = .ok <;> simp [status] at h

theorem put {T : Type} [TriviallyCopyable T] (data : T) (b : StreamBuffer) :
    Wrote b (image data) (b.put data) :=
  write b (image data)

theorem putString (data : StdString) (b : StreamBuffer) :
    Wrote b (data ++ [0]) (b.putString data) :=
  write b (data ++ [0])

/-- A chain of writes that goes on from `b`. -/
theorem andPut {T : Type} [TriviallyCopyable T] (h : Wrote a xs b) (data : T) :
    Wrote a (xs ++ image data) (b.put data) :=
  h.trans (put data b)

theorem andPutString (h : Wrote a xs b) (data : StdString) :
    Wrote a (xs ++ (data ++ [0])) (b.putString data) :=
  h.trans (putString data b)

theorem length_le (h : Wrote a xs b) (status : b.rwErrorStatus = .ok) :
    b.wPos = a.wPos + xs.length := by
  have := congrArg List.length (h.run status).2.1
  simpa using this

end Wrote

/-- Writing values one after another. -/
def putAll {T : Type} [TriviallyCopyable T] (data : List T) (b : StreamBuffer) : StreamBuffer :=
  data.foldl (fun b v => b.put v) b

theorem Wrote.putAll {T : Type} [TriviallyCopyable T] (data : List T) (b : StreamBuffer) :
    Wrote b (data.flatMap image) (b.putAll data) := by
  induction data generalizing b with
  | nil => exact refl b
  | cons v data ih => exact (put v b).trans (ih (b.put v))

/-- Writing the images of several fields one after another. -/
def writeAll (fields : List (List UInt8)) (b : StreamBuffer) : StreamBuffer :=
  fields.foldl (fun b field => (b.write field).2) b

theorem Wrote.writeAll (fields : List (List UInt8)) (b : StreamBuffer) :
    Wrote b fields.flatten (b.writeAll fields) := by
  induction fields generalizing b with
  | nil => exact refl b
  | cons field fields ih => exact (write b field).trans (ih (b.write field).2)

/-- Fields that fit are written without an error. -/
theorem status_writeAll {fields : List (List UInt8)} {b : StreamBuffer}
    (status : b.rwErrorStatus = .ok) (nonempty : ∀ field ∈ fields, field ≠ [])
    (fits : b.wPos + fields.flatten.length ≤ MAX_STREAM_BUF_SIZE) :
    (b.writeAll fields).rwErrorStatus = .ok := by
  induction fields generalizing b with
  | nil => exact status
  | cons field fields ih =>
    rw [List.flatten_cons, List.length_append] at fits
    have room : b.wPos + field.length ≤ MAX_STREAM_BUF_SIZE := by omega
    have first := write_of_fits status (nonempty field List.mem_cons_self) room
    have step : b.writeAll (field :: fields) = (b.append field room).writeAll fields := by
      rw [StreamBuffer.writeAll, List.foldl_cons, first]; rfl
    rw [step]
    refine ih status (fun other h => nonempty other (List.mem_cons_of_mem _ h)) ?_
    rw [wPos_append]
    omega

/-- The end of an encoder: whether all writes so far went through. -/
def checked (b : StreamBuffer) : Bool × StreamBuffer := (!b.chkRWError, b)

@[simp] theorem checked_snd (b : StreamBuffer) : b.checked.2 = b := rfl

theorem status_of_checked {b : StreamBuffer} (h : b.checked.1 = true) :
    b.rwErrorStatus = .ok := by
  simpa [checked] using h

/-! ## Reading -/

/-- A type whose values can be copied at once. -/
class FitsMemcpy (T : Type) [TriviallyCopyable T] : Prop where
  sizeof_le : sizeof T ≤ 2 ^ 30

instance : FitsMemcpy UInt32 := ⟨by decide⟩
instance : FitsMemcpy UInt64 := ⟨by decide⟩
instance : FitsMemcpy Int32 := ⟨by decide⟩
instance : FitsMemcpy Int64 := ⟨by decide⟩
instance : FitsMemcpy Bool := ⟨by decide⟩
instance : FitsMemcpy UInt8 := ⟨by decide⟩

/-- Reading `n` values one after another to a variable that holds `data`. -/
def getAll {T : Type} [TriviallyCopyable T] : Nat → T → StreamBuffer → List T × StreamBuffer
  | 0, _, b => ([], b)
  | n + 1, data, b =>
    let (v, b) := b.get data
    let (vs, b) := getAll n v b
    (v :: vs, b)

theorem takeWhile_ne_zero_append_cons (s rest : StdString) :
    (s ++ 0 :: rest).takeWhile (· ≠ 0) = s.takeWhile (· ≠ 0) := by
  induction s with
  | nil => simp
  | cons c s ih =>
    by_cases zero : c = 0
    · simp [zero]
    · simp only [List.cons_append, List.takeWhile_cons, ne_eq, zero, not_false_eq_true,
        decide_true, if_true] at ih ⊢
      rw [ih]

theorem takeWhile_ne_zero_eq_self {s : StdString} : s.takeWhile (· ≠ 0) = s ↔ 0 ∉ s := by
  rw [List.takeWhile_eq_self_iff]
  grind

/-- The buffer is sound, and `bs` is what can be read from it. -/
structure Holds (b : StreamBuffer) (bs : List UInt8) : Prop where
  status : b.rwErrorStatus = .ok
  ordered : b.Ordered
  unread : b.unread = bs

namespace Holds

variable {b : StreamBuffer} {rest : List UInt8}

theorem length_le {xs : List UInt8} (h : Holds b (xs ++ rest)) :
    xs.length ≤ b.residualSize := by
  rw [← length_unread, h.unread, List.length_append]
  exact Nat.le_add_right _ _

/-- A buffer that has moved past `xs`. -/
theorem of_forward {b' : StreamBuffer} {xs : List UInt8} (h : Holds b (xs ++ rest))
    (status : b'.rwErrorStatus = .ok) (wPos : b'.wPos = b.wPos)
    (pos : b'.rPos = b.rPos + xs.length) (unread : b'.unread = b.unread.drop xs.length) :
    Holds b' rest := by
  have start := h.ordered.rPos_nonneg
  have inside := h.length_le
  have order := h.ordered.rPos_le_wPos
  rw [residualSize_eq] at inside
  refine ⟨status, ⟨by omega, by omega, b'.wPos_le⟩, ?_⟩
  rw [unread, h.unread, List.drop_left' rfl]

theorem length_le_max {bs : List UInt8} (h : Holds b bs) : bs.length ≤ MAX_STREAM_BUF_SIZE := by
  rw [← h.unread]
  exact h.ordered.length_unread_le

theorem read {xs : List UInt8} (h : Holds b (xs ++ rest)) (nonempty : xs ≠ []) :
    (b.read xs.length).1 = some xs ∧ Holds (b.read xs.length).2 rest := by
  have small : xs.length ≤ 2 ^ 30 := by
    have := h.length_le_max
    rw [List.length_append, MAX_STREAM_BUF_SIZE] at this
    omega
  obtain ⟨b', step, status, pos, wPos, unread⟩ :=
    read_of_le small h.status (List.length_pos_iff.mpr nonempty) h.length_le
  rw [step]
  refine ⟨?_, h.of_forward status wPos pos unread⟩
  dsimp only
  rw [h.unread, List.take_left' rfl]

/-- Reading a value that is there gives the value and goes past it. -/
theorem get {T : Type} [TriviallyCopyable T] {v : T} (h : Holds b (image v ++ rest)) (data : T) :
    (b.get data).1 = v ∧ Holds (b.get data).2 rest := by
  obtain ⟨value, after⟩ := h.read (image_ne_nil v)
  have size : (image v).length = sizeof T := TriviallyCopyable.length_image v
  rw [size] at value after
  generalize result : b.read (sizeof T) = r at value after
  obtain ⟨_, b'⟩ := r
  obtain rfl : _ = some (image v) := value
  have step : b.get data = (ofImage (image v), b') := by rw [StreamBuffer.get, result]
  rw [step]
  exact ⟨TriviallyCopyable.ofImage_image v, after⟩

/-- The same as an equation, to compute a decoder with. -/
theorem get_eq {T : Type} [TriviallyCopyable T] {v : T} (h : Holds b (image v ++ rest))
    (data : T) : ∃ b', b.get data = (v, b') ∧ Holds b' rest :=
  ⟨_, Prod.ext (h.get data).1 rfl, (h.get data).2⟩

theorem getAll {T : Type} [TriviallyCopyable T] {vs : List T}
    (h : Holds b (vs.flatMap image ++ rest)) (data : T) :
    (b.getAll vs.length data).1 = vs ∧ Holds (b.getAll vs.length data).2 rest := by
  induction vs generalizing b data with
  | nil => exact ⟨rfl, h⟩
  | cons v vs ih =>
    rw [List.flatMap_cons, List.append_assoc] at h
    obtain ⟨first, later⟩ := h.get data
    have step : b.getAll (vs.length + 1) data =
        ((b.get data).1 :: ((b.get data).2.getAll vs.length (b.get data).1).1,
          ((b.get data).2.getAll vs.length (b.get data).1).2) := rfl
    obtain ⟨values, after⟩ := ih later v
    rw [List.length_cons, step, first, values]
    exact ⟨rfl, after⟩

theorem getAll_eq {T : Type} [TriviallyCopyable T] {vs : List T}
    (h : Holds b (vs.flatMap image ++ rest)) (data : T) :
    ∃ b', b.getAll vs.length data = (vs, b') ∧ Holds b' rest :=
  ⟨_, Prod.ext (h.getAll data).1 rfl, (h.getAll data).2⟩

/-- The C string at the read position, when its NUL is among the unread bytes. -/
theorem cString {s : StdString} (h : Holds b (s ++ 0 :: rest)) :
    b.cString = s.takeWhile (· ≠ 0) := by
  have order := h.ordered.rPos_le_wPos
  have bound := h.ordered.wPos_le
  have length : (MAX_STREAM_BUF_SIZE + 1 - b.rPos).toNat =
      b.residualSize + (MAX_STREAM_BUF_SIZE + 1 - b.wPos) := by
    rw [residualSize_eq]
    omega
  have split : b.bytes b.rPos (MAX_STREAM_BUF_SIZE + 1 - b.rPos).toNat =
      s ++ 0 :: (rest ++ b.bytes (b.rPos + b.residualSize) (MAX_STREAM_BUF_SIZE + 1 - b.wPos)) := by
    rw [length, bytes_add]
    change b.unread ++ _ = _
    rw [h.unread]
    simp
  rw [StreamBuffer.cString, split, takeWhile_ne_zero_append_cons]

theorem inArray {bs : List UInt8} (h : Holds b bs) : b.InArray := by
  have order := h.ordered.rPos_le_wPos
  have bound := h.ordered.wPos_le
  exact ⟨h.ordered.rPos_nonneg, by omega⟩

theorem rPos_ne_wPos {s : StdString} (h : Holds b (s ++ 0 :: rest)) : b.rPos ≠ b.wPos := by
  have positions := h.ordered.wPos_eq
  rw [h.unread, List.length_append, List.length_cons] at positions
  omega

/-- Reading a string that is there gives it up to its first NUL. -/
theorem getString {s : StdString} (h : Holds b (s ++ 0 :: rest)) (data : StdString) :
    (b.getString data).1 = s.takeWhile (· ≠ 0) := by
  simp [StreamBuffer.getString, StreamBuffer.readString, h.rPos_ne_wPos, h.inArray, h.cString]

/-- A string without a NUL is read as it was written. -/
theorem getString_eq {s : StdString} (h : Holds b (s ++ 0 :: rest)) (nulFree : 0 ∉ s)
    (data : StdString) : ∃ b', b.getString data = (s, b') ∧ Holds b' rest := by
  have whole : b.cString = s := h.cString.trans (takeWhile_ne_zero_eq_self.mpr nulFree)
  have sized : Holds b ((s ++ [0]) ++ rest) := by simpa using h
  have inside := sized.length_le
  have order := h.ordered.rPos_le_wPos
  rw [residualSize_eq] at inside
  have step : b.getString data = (b.cString, b.pastString h.inArray) := by
    simp [StreamBuffer.getString, StreamBuffer.readString, h.rPos_ne_wPos, h.inArray]
  have pos : (b.pastString h.inArray).rPos = b.rPos + (s ++ [0]).length := by
    rw [rPos_pastString, whole, List.length_append, List.length_singleton]
    omega
  refine ⟨b.pastString h.inArray, step.trans (by rw [whole]),
    sized.of_forward h.status rfl pos ?_⟩
  exact unread_of_forward rfl rfl pos (by omega)

/-- What has been written to an empty buffer is there to be read. -/
theorem of_wrote {bs : List UInt8} (h : Wrote {} bs b) (status : b.rwErrorStatus = .ok) :
    Holds b bs := by
  obtain ⟨-, written, pos⟩ := h.run status
  have ordered : b.Ordered := h.ordered ordered_default
  refine ⟨status, ordered, ?_⟩
  have parts := written_eq ordered
  rw [pos, written] at parts
  exact parts.symm

theorem chkRWError {bs : List UInt8} (h : Holds b bs) : b.chkRWError = false := by
  rw [chkRWError_eq_false, h.status]

end Holds

/-! ## Optional fields -/

/-- `>>` to an optional field that holds `data`, which gets `default` on an error. -/
def getOr {T : Type} [TriviallyCopyable T] (data default : T) (b : StreamBuffer) :
    T × StreamBuffer :=
  let (v, b) := b.get data
  (if b.chkRWError then default else v, b)

/-- The same for a string. -/
def getStringOr (data default : StdString) (b : StreamBuffer) : StdString × StreamBuffer :=
  let (v, b) := b.getString data
  (if b.chkRWError then default else v, b)

theorem read_of_empty {b : StreamBuffer} (h : b.rPos = b.wPos) {size : Nat}
    (small : size ≤ 2 ^ 30) :
    (b.read size).1 = none ∧ (b.read size).2.chkRWError = true ∧
      (b.read size).2.rPos = (b.read size).2.wPos := by
  have nothing : ¬ (b.rwErrorStatus = .ok ∧ 0 < size ∧ size ≤ b.residualSize) := by
    rw [residualSize_eq]
    omega
  rw [read_of_not_le small nothing]
  refine ⟨rfl, ?_, h⟩
  by_cases status : b.rwErrorStatus = .ok <;> simp [chkRWError, status]

theorem snd_get {T : Type} [TriviallyCopyable T] (b : StreamBuffer) (data : T) :
    (b.get data).2 = (b.read (sizeof T)).2 := by
  rw [get]
  rcases b.read (sizeof T) with ⟨_ | bs, b'⟩ <;> rfl

/-- At the end of the data there is no value. -/
theorem getOr_of_empty {T : Type} [TriviallyCopyable T] [FitsMemcpy T] {b : StreamBuffer}
    (h : b.rPos = b.wPos) (data default : T) :
    ∃ b', b.getOr data default = (default, b') ∧ b'.rPos = b'.wPos := by
  obtain ⟨nothing, error, ended⟩ :=
    read_of_empty h (FitsMemcpy.sizeof_le (T := T))
  refine ⟨(b.read (sizeof T)).2, ?_, ended⟩
  generalize result : b.read (sizeof T) = r at nothing error
  obtain ⟨_, b'⟩ := r
  obtain rfl : _ = none := nothing
  have step : b.get data = (data, b') := by rw [get, result]
  simp only [getOr, step, error, if_true]

/-- An error stays. -/
theorem chkRWError_get {T : Type} [TriviallyCopyable T] {b : StreamBuffer}
    (h : b.chkRWError = true) (data : T) : (b.get data).2.chkRWError = true := by
  have step : b.read (sizeof T) = (none, b) := by rw [read, if_pos h]
  rw [get, step]
  exact h

theorem chkRWError_getString {b : StreamBuffer} (h : b.chkRWError = true) (data : StdString) :
    (b.getString data).2.chkRWError = true := by
  simp only [getString, readString]
  split_ifs
  · simp [chkRWError]
  · exact h
  · exact h

theorem chkRWError_getString_of_empty {b : StreamBuffer} (h : b.rPos = b.wPos)
    (data : StdString) : (b.getString data).2.chkRWError = true := by
  simp [getString, readString, h, chkRWError]

theorem getStringOr_of_empty {b : StreamBuffer} (h : b.rPos = b.wPos)
    (data default : StdString) :
    ∃ b', b.getStringOr data default = (default, b') ∧ b'.rPos = b'.wPos := by
  refine ⟨{ b with rwErrorStatus := .read }, ?_, h⟩
  simp [getStringOr, getString, readString, h, chkRWError]

/-- The bytes of the optional fields `fs` follow; when there are none, it is the end of the
data. -/
structure Offers (b : StreamBuffer) (fs : List (List UInt8)) : Prop where
  holds : fs ≠ [] → Holds b fs.flatten
  ended : fs = [] → b.rPos = b.wPos

theorem Holds.offers {b : StreamBuffer} {fs : List (List UInt8)} (h : Holds b fs.flatten) :
    Offers b fs := by
  refine ⟨fun _ => h, fun none => ?_⟩
  have positions := h.ordered.wPos_eq
  rw [h.unread, none] at positions
  simpa using positions.symm

namespace Offers

variable {b : StreamBuffer} {fs : List (List UInt8)} {j k : Nat}

/-- The `j`-th of the first `k` fields is read, or, when it is not one of them, defaulted. -/
theorem getOr {T : Type} [TriviallyCopyable T] [FitsMemcpy T] {v : T}
    (h : Offers b ((fs.take k).drop j)) (field : fs[j]? = some (image v)) (data default : T) :
    ∃ b', b.getOr data default = (if j < k then v else default, b') ∧
      Offers b' ((fs.take k).drop (j + 1)) := by
  obtain ⟨inside, value⟩ := List.getElem?_eq_some_iff.mp field
  by_cases present : j < k
  · have shorter : j < (fs.take k).length := by simp; omega
    have next : (fs.take k).drop j = image v :: (fs.take k).drop (j + 1) := by
      rw [List.drop_eq_getElem_cons shorter, List.getElem_take, value]
    have there : Holds b (image v ++ ((fs.take k).drop (j + 1)).flatten) := by
      have := h.holds (by simp [next])
      rwa [next, List.flatten_cons] at this
    obtain ⟨b', read, after⟩ := there.get_eq data
    exact ⟨b', by simp [StreamBuffer.getOr, read, present, after.chkRWError], after.offers⟩
  · have none : (fs.take k).drop j = [] := by simp; omega
    obtain ⟨b', read, ended⟩ := getOr_of_empty (h.ended none) data default
    refine ⟨b', by simp [read, present], fun some => ?_, fun _ => ended⟩
    exact absurd (by simp; omega) some

theorem getStringOr {s : StdString} (h : Offers b ((fs.take k).drop j))
    (field : fs[j]? = some (s ++ [0])) (nulFree : 0 ∉ s) (data default : StdString) :
    ∃ b', b.getStringOr data default = (if j < k then s else default, b') ∧
      Offers b' ((fs.take k).drop (j + 1)) := by
  obtain ⟨inside, value⟩ := List.getElem?_eq_some_iff.mp field
  by_cases present : j < k
  · have shorter : j < (fs.take k).length := by simp; omega
    have next : (fs.take k).drop j = (s ++ [0]) :: (fs.take k).drop (j + 1) := by
      rw [List.drop_eq_getElem_cons shorter, List.getElem_take, value]
    have there : Holds b (s ++ 0 :: ((fs.take k).drop (j + 1)).flatten) := by
      have := h.holds (by simp [next])
      rw [next, List.flatten_cons] at this
      simpa using this
    obtain ⟨b', read, after⟩ := there.getString_eq nulFree data
    exact ⟨b', by simp [StreamBuffer.getStringOr, read, present, after.chkRWError], after.offers⟩
  · have none : (fs.take k).drop j = [] := by simp; omega
    obtain ⟨b', read, ended⟩ := getStringOr_of_empty (h.ended none) data default
    refine ⟨b', by simp [read, present], fun some => ?_, fun _ => ended⟩
    exact absurd (by simp; omega) some

end Offers

/-! ## Steps that can fail -/

/-- A step after which the function returns unless it has succeeded. -/
def andThen {σ : Type} (r : Bool × σ) (f : σ → Bool × σ) : Bool × σ :=
  if r.1 then f r.2 else r

theorem andThen_of_true {σ : Type} {r : Bool × σ} {s : σ} (h : r = (true, s))
    (f : σ → Bool × σ) : andThen r f = f s := by
  simp [andThen, h]

theorem andThen_assoc {σ : Type} (r : Bool × σ) (f g : σ → Bool × σ) :
    andThen (andThen r f) g = andThen r fun s => andThen (f s) g := by
  unfold andThen
  by_cases ok : r.1 = true <;> simp [ok]

theorem andThen_eq_true {σ : Type} {r : Bool × σ} {f : σ → Bool × σ}
    (h : (andThen r f).1 = true) : r.1 = true ∧ andThen r f = f r.2 := by
  unfold andThen at h ⊢
  split at h
  · next ok => exact ⟨ok, by simp [ok]⟩
  · next failed => exact absurd h failed

theorem of_andThen {σ : Type} {r : Bool × σ} {f : σ → Bool × σ} (h : (andThen r f).1 = true) :
    r.1 = true ∧ (f r.2).1 = true := by
  obtain ⟨ok, step⟩ := andThen_eq_true h
  exact ⟨ok, step ▸ h⟩

/-- When the function succeeds, it has written `bs` without an error. -/
def Encodes (f : StreamBuffer → Bool × StreamBuffer) (bs : List UInt8) : Prop :=
  ∀ b, (f b).1 = true → (f b).2.rwErrorStatus = .ok ∧ Wrote b bs (f b).2

namespace Encodes

variable {f g : StreamBuffer → Bool × StreamBuffer} {xs ys : List UInt8}

theorem of_checked {f : StreamBuffer → StreamBuffer} (h : ∀ b, Wrote b xs (f b)) :
    Encodes (fun b => (f b).checked) xs := by
  intro b ok
  exact ⟨status_of_checked ok, h b⟩

theorem andThen (first : Encodes f xs) (second : Encodes g ys) :
    Encodes (fun b => StreamBuffer.andThen (f b) g) (xs ++ ys) := by
  intro b ok
  obtain ⟨ok₁, step⟩ := andThen_eq_true ok
  have ok₂ : (g (f b).2).1 = true := step ▸ ok
  obtain ⟨-, wrote₁⟩ := first b ok₁
  obtain ⟨status, wrote₂⟩ := second (f b).2 ok₂
  dsimp only
  rw [step]
  exact ⟨status, wrote₁.trans wrote₂⟩

theorem holds_new (h : Encodes f xs) (ok : (f {}).1 = true) : Holds (f {}).2 xs :=
  .of_wrote (h {} ok).2 (h {} ok).1

end Encodes

end StreamBuffer

end DeviceStatus.Ipc
