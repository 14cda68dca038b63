import Mathlib.Data.List.Forall2

/-!
# Parcels

A parcel is an ordered store of typed values: what is written is appended, and a reader takes
the values off the front in the order in which they were written. A read that finds a value of
another kind, or none, fails with the code that its caller gives.

## Main definitions

* `Item` — one value of a parcel.
* `Reader` — a computation that reads a parcel.
* `Reader.loop` — a counted loop of reads, with `loop_forall₂` for what it reads back.
-/

namespace Parcel

inductive Item where
  | bool (value : Bool)
  | int32 (value : Int32)
  | int64 (value : Int64)
  | string (value : List UInt8)
  | uint8Vector (value : List UInt8)
  deriving DecidableEq

/-- What is left of the parcel is the state; a failure ends the reading. -/
abbrev Reader (ε α : Type) := StateT (List Item) (Except ε) α

namespace Reader

variable {ε ε' α β : Type}

def readBool (err : ε) : Reader ε Bool
  | .bool value :: rest => .ok (value, rest)
  | _ => .error err

def readInt32 (err : ε) : Reader ε Int32
  | .int32 value :: rest => .ok (value, rest)
  | _ => .error err

def readInt64 (err : ε) : Reader ε Int64
  | .int64 value :: rest => .ok (value, rest)
  | _ => .error err

def readString (err : ε) : Reader ε (List UInt8)
  | .string value :: rest => .ok (value, rest)
  | _ => .error err

def readUInt8Vector (err : ε) : Reader ε (List UInt8)
  | .uint8Vector value :: rest => .ok (value, rest)
  | _ => .error err

/-- A read whose failure leaves the parcel as it was and is not passed on. -/
def attempt (read : Reader ε α) : Reader ε (Option α) := fun parcel =>
  match read parcel with
  | .ok (value, rest) => .ok (some value, rest)
  | .error _ => .ok (none, parcel)

/-- Turn every failure of `read` into `err`. -/
def orError (err : ε') (read : Reader ε α) : Reader ε' α := fun parcel =>
  match read parcel with
  | .ok result => .ok result
  | .error _ => .error err

/-- Run `body` so many times, each time on what the last one gave. -/
def loop (body : β → Reader ε β) : ℕ → β → Reader ε β
  | 0, b => pure b
  | n + 1, b => do
    let b ← body b
    loop body n b

section Laws

variable {parcel rest : List Item}

@[simp] theorem pure_run (a : α) : (pure a : Reader ε α) parcel = .ok (a, parcel) := rfl

/-- A step that succeeds hands its value and the rest of the parcel on. -/
theorem bind_of_ok {read : Reader ε α} {a : α} (next : α → Reader ε β)
    (h : read parcel = .ok (a, rest)) : (read >>= next) parcel = next a rest := by
  simp only [bind, StateT.bind, h, Except.bind]

theorem bind_of_error {read : Reader ε α} {err : ε} (next : α → Reader ε β)
    (h : read parcel = .error err) : (read >>= next) parcel = .error err := by
  simp only [bind, StateT.bind, h, Except.bind]

@[simp] theorem get_bind (next : List Item → Reader ε β) :
    (get >>= next) parcel = next parcel parcel := rfl

@[simp] theorem readBool_bind (err : ε) (value : Bool) (next : Bool → Reader ε β) :
    (readBool err >>= next) (.bool value :: rest) = next value rest := rfl

@[simp] theorem readInt32_bind (err : ε) (value : Int32) (next : Int32 → Reader ε β) :
    (readInt32 err >>= next) (.int32 value :: rest) = next value rest := rfl

@[simp] theorem readInt64_bind (err : ε) (value : Int64) (next : Int64 → Reader ε β) :
    (readInt64 err >>= next) (.int64 value :: rest) = next value rest := rfl

@[simp] theorem readString_bind (err : ε) (value : List UInt8)
    (next : List UInt8 → Reader ε β) :
    (readString err >>= next) (.string value :: rest) = next value rest := rfl

@[simp] theorem readUInt8Vector_bind (err : ε) (value : List UInt8)
    (next : List UInt8 → Reader ε β) :
    (readUInt8Vector err >>= next) (.uint8Vector value :: rest) = next value rest := rfl

theorem orError_ok {read : Reader ε α} {result : α × List Item} (err : ε')
    (h : read parcel = .ok result) : orError err read parcel = .ok result := by
  simp only [orError, h]

theorem orError_error {read : Reader ε α} {failure : ε} (err : ε')
    (h : read parcel = .error failure) : orError err read parcel = .error err := by
  simp only [orError, h]

/-- A loop reads back what was written element by element, when each round does. -/
theorem loop_forall₂ {body : β → Reader ε β} {f : β → α → β} {xs : List α}
    {written : List (List Item)}
    (reads : List.Forall₂ (fun x items => ∀ b rest, body b (items ++ rest) = .ok (f b x, rest))
      xs written) (b : β) (rest : List Item) :
    loop body xs.length b (written.flatten ++ rest) = .ok (xs.foldl f b, rest) := by
  induction reads generalizing b with
  | nil => rfl
  | @cons x items xs written first _ ih =>
    have others := ih (f b x)
    simp only [List.flatten_cons, List.append_assoc, List.length_cons, List.foldl_cons, loop]
    rw [bind_of_ok _ (first b _), others]

theorem loop_flatMap {body : β → Reader ε β} {write : α → List Item} {f : β → α → β}
    (reads : ∀ x b rest, body b (write x ++ rest) = .ok (f b x, rest))
    (xs : List α) (b : β) (rest : List Item) :
    loop body xs.length b (xs.flatMap write ++ rest) = .ok (xs.foldl f b, rest) := by
  have each : List.Forall₂ (fun x items => ∀ b rest, body b (items ++ rest) = .ok (f b x, rest))
      xs (xs.map write) :=
    List.forall₂_map_right_iff.mpr (List.forall₂_same.mpr fun x _ => reads x)
  exact loop_forall₂ each b rest

end Laws

end Reader

/-- The results of a list of writes that all succeed. -/
theorem forall₂_of_mapM {ε α β : Type} {f : α → Except ε β} {xs : List α} {ys : List β}
    (h : xs.mapM f = .ok ys) : List.Forall₂ (fun x y => f x = .ok y) xs ys := by
  induction xs generalizing ys with
  | nil => cases h; exact .nil
  | cons x xs ih =>
    rw [List.mapM_cons] at h
    cases first : f x with
    | error err => rw [first] at h; cases h
    | ok y =>
      cases others : xs.mapM f with
      | error err => rw [first, others] at h; cases h
      | ok ys' => rw [first, others] at h; cases h; exact .cons first (ih others)

end Parcel
