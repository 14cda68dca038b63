import DeviceStatus.Ipc.Codec

/-!
# Packets of fields

A packet is written field by field, and whether all of it has been written is asked once, at the
end. A field is a value that is copied as its bytes or a string, and the fields of a packet are
of any types.

## Main definitions

* `Field` — what can be written with `<<` and read with `>>`.
* `Field.Returns` — the fields are read back, whatever the variables hold that they are read to.
* `Later` — any further write or read.
-/

namespace DeviceStatus.Ipc

open Bytes

/-- A value to be written. -/
inductive Field : Type 1 where
  | value {T : Type} [TriviallyCopyable T] (v : T)
  | string (s : StdString) (nulFree : 0 ∉ s)

namespace Field

/-- The type of a variable that the field can be read to. -/
def Variable : Field → Type
  | @value T _ _ => T
  | string .. => StdString

def content : (field : Field) → field.Variable
  | value v => v
  | string s _ => s

/-- What is written for the field. -/
def encoding : Field → List UInt8
  | value v => image v
  | string s _ => s ++ [0]

/-- `operator<<`. -/
def put : Field → StreamBuffer → StreamBuffer
  | value v, b => b.put v
  | string s _, b => b.putString s

/-- `operator>>` to a variable that holds `data`. -/
def get : (field : Field) → field.Variable → StreamBuffer → field.Variable × StreamBuffer
  | @value T _ _, data, b => b.get (T := T) data
  | string .., data, b => b.getString data

def putAll (fields : List Field) (b : StreamBuffer) : StreamBuffer :=
  fields.foldl (fun b field => field.put b) b

/-- Reading the fields in their order gives what they hold, and a buffer that is as it should
be. -/
def Returns (P : StreamBuffer → Prop) : List Field → StreamBuffer → Prop
  | [], b => P b
  | field :: fields, b => ∀ data : field.Variable,
      (field.get data b).1 = field.content ∧ Returns P fields (field.get data b).2

/-- Some write has been refused. -/
def SomeRefused (fields : List Field) (b : StreamBuffer) : Prop :=
  ∃ before field after, fields = before ++ field :: after ∧
    ((putAll before b).write field.encoding).1 = false

theorem put_eq (field : Field) (b : StreamBuffer) :
    field.put b = (b.write field.encoding).2 := by
  cases field <;> rfl

theorem wrote_put (field : Field) (b : StreamBuffer) :
    b.Wrote field.encoding (field.put b) := by
  rw [put_eq]
  exact .write b field.encoding

theorem wrote_putAll (fields : List Field) (b : StreamBuffer) :
    b.Wrote (fields.flatMap encoding) (putAll fields b) := by
  induction fields generalizing b with
  | nil => exact .refl b
  | cons field fields ih => exact (field.wrote_put b).trans (ih (field.put b))

/-- A field that is there is read. -/
theorem get_of_holds {field : Field} {b : StreamBuffer} {rest : List UInt8}
    (h : b.Holds (field.encoding ++ rest)) (data : field.Variable) :
    (field.get data b).1 = field.content ∧ (field.get data b).2.Holds rest := by
  cases field with
  | value v => exact StreamBuffer.Holds.get h data
  | string s nulFree =>
    have there : b.Holds (s ++ 0 :: rest) := by simpa [encoding] using h
    obtain ⟨b', read, after⟩ := there.getString_eq nulFree data
    have step : (string s nulFree).get data b = (s, b') := read
    rw [step]
    exact ⟨rfl, after⟩

theorem returns_of_holds {fields : List Field} {b : StreamBuffer}
    (h : b.Holds (fields.flatMap encoding)) : Returns (StreamBuffer.Holds · []) fields b := by
  induction fields generalizing b with
  | nil => exact h
  | cons field fields ih =>
    intro data
    obtain ⟨value, after⟩ := get_of_holds h data
    exact ⟨value, ih after⟩

theorem Returns.mono {P Q : StreamBuffer → Prop} (imp : ∀ b, P b → Q b) {fields : List Field}
    {b : StreamBuffer} (h : Returns P fields b) : Returns Q fields b := by
  induction fields generalizing b with
  | nil => exact imp b h
  | cons field fields ih => exact fun data => ⟨(h data).1, ih (h data).2⟩

/-- An error has a write that was refused as its cause. -/
theorem someRefused_of_chkRWError {fields : List Field} {b : StreamBuffer}
    (status : b.rwErrorStatus = .ok) (error : (putAll fields b).chkRWError = true) :
    SomeRefused fields b := by
  induction fields generalizing b with
  | nil =>
    have none : b.chkRWError = false := StreamBuffer.chkRWError_eq_false.mpr status
    exact absurd error (by simp [putAll, none])
  | cons field fields ih =>
    by_cases refused : (b.write field.encoding).1 = false
    · exact ⟨[], field, fields, rfl, refused⟩
    have accepted : (field.put b).rwErrorStatus = .ok := by
      rw [put_eq]
      obtain ⟨fits, -, -, eq⟩ | ⟨-, eq⟩ := StreamBuffer.write_cases field.encoding b
      · rw [eq]
        exact status
      · exact absurd (congrArg Prod.fst eq) refused
    obtain ⟨before, field', after, split, refused'⟩ := ih accepted error
    exact ⟨field :: before, field', after, by rw [split, List.cons_append], refused'⟩

end Field

/-- A write or read of anything. -/
inductive Later : Type 1 where
  | put (field : Field)
  | get (field : Field) (data : field.Variable)
  /-- `Write(const char *, size_t)` -/
  | write (buf : List UInt8)
  /-- `Read(char *, size_t)` -/
  | read (size : Nat)

namespace Later

def apply : Later → StreamBuffer → StreamBuffer
  | put field, b => field.put b
  | get field data, b => (field.get data b).2
  | write buf, b => (b.write buf).2
  | read size, b => (b.read size).2

def run (later : List Later) (b : StreamBuffer) : StreamBuffer :=
  later.foldl (fun b l => l.apply b) b

theorem chkRWError_apply (l : Later) {b : StreamBuffer} (error : b.chkRWError = true) :
    (l.apply b).chkRWError = true := by
  have refused (buf : List UInt8) : b.write buf = (false, b) := by
    rw [StreamBuffer.write, if_pos error]
  cases l with
  | put field => rwa [apply, field.put_eq, refused]
  | get field data =>
    cases field with
    | @value T _ v => exact StreamBuffer.chkRWError_get (T := T) error data
    | string s _ => exact StreamBuffer.chkRWError_getString error data
  | write buf => rwa [apply, refused]
  | read size => rwa [apply, StreamBuffer.read, if_pos error]

/-- An error stays, whatever is written or read later. -/
theorem chkRWError_run (later : List Later) {b : StreamBuffer} (error : b.chkRWError = true) :
    (run later b).chkRWError = true := by
  induction later generalizing b with
  | nil => exact error
  | cons l later ih => exact ih (l.chkRWError_apply error)

end Later

namespace Field

/-- The buffer is read to its end, without an error. -/
structure FullyRead (b : StreamBuffer) : Prop where
  rPos_eq : b.rPos = b.wPos
  residualSize : b.residualSize = 0
  chkRWError : b.chkRWError = false

theorem fullyRead_of_holds {b : StreamBuffer} (h : b.Holds []) : FullyRead b := by
  have positions := h.ordered.wPos_eq
  rw [h.unread] at positions
  refine ⟨by simpa using positions.symm, ?_, h.chkRWError⟩
  rw [← StreamBuffer.length_unread, h.unread, List.length_nil]

/-- What it means to ask for an error once, after the last field. -/
structure CheckedOnce (fields : List Field) (b : StreamBuffer) : Prop where
  written : (putAll fields b).chkRWError = false →
    (putAll fields b).written = fields.flatMap encoding ∧
      (putAll fields b).unread = fields.flatMap encoding ∧
      Returns FullyRead fields (putAll fields b)
  failed : (putAll fields b).chkRWError = true →
    SomeRefused fields b ∧
      ∀ later, (Later.run later (putAll fields b)).chkRWError = true

theorem holds_putAll (fields : List Field) (b : StreamBuffer)
    (ok : (putAll fields b.reset).chkRWError = false) :
    (putAll fields b.reset).written = fields.flatMap encoding ∧
      (putAll fields b.reset).Holds (fields.flatMap encoding) := by
  have status := StreamBuffer.chkRWError_eq_false.mp ok
  have wrote := wrote_putAll fields b.reset
  obtain ⟨-, written, pos⟩ := wrote.run status
  have ordered := wrote.ordered (.reset b)
  have added : (putAll fields b.reset).written = fields.flatMap encoding := written
  refine ⟨added, status, ordered, ?_⟩
  have split := StreamBuffer.written_eq ordered
  rw [pos, added] at split
  exact split.symm

/-- A packet may be checked once: without an error all of it is there and can be read back, and
an error tells of a write that was refused and stays. -/
theorem checkedOnce (fields : List Field) (b : StreamBuffer) : CheckedOnce fields b.reset where
  written ok := by
    obtain ⟨written, holds⟩ := holds_putAll fields b ok
    exact ⟨written, holds.unread, (returns_of_holds holds).mono fun _ => fullyRead_of_holds⟩
  failed error := ⟨someRefused_of_chkRWError rfl error, fun later =>
    Later.chkRWError_run later error⟩

end Field

end DeviceStatus.Ipc
