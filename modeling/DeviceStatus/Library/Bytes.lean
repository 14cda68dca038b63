import Mathlib.Data.Nat.Digits.Defs

/-!
# Byte images of values

Numbers as little-endian byte lists of a fixed length, and the values that a program copies
byte by byte: each has one image, of a length that depends on its type only, and the image
gives the value back.

## Main definitions

* `leBytes`, `leNat` — the little-endian bytes of a number and the number of some bytes.
* `TriviallyCopyable` — a type whose values are copied through their bytes.
-/

namespace Bytes

/-- The `k` lowest bytes of `n`, the lowest first. -/
def leBytes : Nat → Nat → List UInt8
  | 0, _ => []
  | k + 1, n => UInt8.ofNat n :: leBytes k (n / 256)

def leNat (bs : List UInt8) : Nat :=
  Nat.ofDigits 256 (bs.map UInt8.toNat)

@[simp] theorem leNat_nil : leNat [] = 0 := rfl

@[simp] theorem leNat_cons (b : UInt8) (bs : List UInt8) :
    leNat (b :: bs) = b.toNat + 256 * leNat bs := by
  simp [leNat, Nat.ofDigits_cons]

@[simp] theorem length_leBytes (k n : Nat) : (leBytes k n).length = k := by
  induction k generalizing n with
  | zero => rfl
  | succ k ih => simp [leBytes, ih]

theorem leNat_leBytes (k n : Nat) : leNat (leBytes k n) = n % 256 ^ k := by
  induction k generalizing n with
  | zero => simp [leBytes, Nat.mod_one]
  | succ k ih =>
    simp only [leBytes, leNat_cons, ih]
    rw [Nat.pow_succ', Nat.mod_mul]
    simp

theorem leNat_leBytes_of_lt {k n : Nat} (h : n < 256 ^ k) : leNat (leBytes k n) = n := by
  rw [leNat_leBytes, Nat.mod_eq_of_lt h]

theorem leBytes_leNat (bs : List UInt8) : leBytes bs.length (leNat bs) = bs := by
  induction bs with
  | nil => rfl
  | cons b bs ih =>
    have low : UInt8.ofNat (leNat (b :: bs)) = b := by
      apply UInt8.toNat_inj.mp
      have := b.toNat_lt
      simp only [leNat_cons, UInt8.toNat_ofNat']
      omega
    have high : leNat (b :: bs) / 256 = leNat bs := by
      have := b.toNat_lt
      rw [leNat_cons]
      omega
    rw [List.length_cons, leBytes, low, high, ih]

theorem leNat_lt (bs : List UInt8) : leNat bs < 256 ^ bs.length := by
  induction bs with
  | nil => simp
  | cons b bs ih =>
    have := b.toNat_lt
    rw [leNat_cons, List.length_cons, Nat.pow_succ]
    omega

/-- A type whose values are copied by copying their bytes, as on a little-endian machine. -/
class TriviallyCopyable (T : Type) where
  sizeof : Nat
  image : T → List UInt8
  ofImage : List UInt8 → T
  length_image : ∀ v, (image v).length = sizeof
  ofImage_image : ∀ v, ofImage (image v) = v
  sizeof_pos : 0 < sizeof

attribute [simp] TriviallyCopyable.length_image TriviallyCopyable.ofImage_image

export TriviallyCopyable (sizeof image ofImage)

theorem image_ne_nil {T : Type} [TriviallyCopyable T] (v : T) : image v ≠ [] := by
  intro h
  have size : (image v).length = sizeof T := TriviallyCopyable.length_image v
  have := TriviallyCopyable.sizeof_pos (T := T)
  rw [h, List.length_nil] at size
  omega

instance : TriviallyCopyable UInt32 where
  sizeof := 4
  image v := leBytes 4 v.toNat
  ofImage bs := UInt32.ofNat (leNat bs)
  length_image v := length_leBytes 4 _
  ofImage_image v := by
    rw [leNat_leBytes_of_lt (by simpa using v.toNat_lt), UInt32.ofNat_toNat]
  sizeof_pos := by decide

instance : TriviallyCopyable UInt64 where
  sizeof := 8
  image v := leBytes 8 v.toNat
  ofImage bs := UInt64.ofNat (leNat bs)
  length_image v := length_leBytes 8 _
  ofImage_image v := by
    rw [leNat_leBytes_of_lt (by simpa using v.toNat_lt), UInt64.ofNat_toNat]
  sizeof_pos := by decide

/-- Signed numbers have the bytes of their two's complement. -/
instance : TriviallyCopyable Int32 where
  sizeof := 4
  image v := image v.toUInt32
  ofImage bs := (ofImage bs : UInt32).toInt32
  length_image v := TriviallyCopyable.length_image v.toUInt32
  ofImage_image v := by simp
  sizeof_pos := by decide

instance : TriviallyCopyable Int64 where
  sizeof := 8
  image v := image v.toUInt64
  ofImage bs := (ofImage bs : UInt64).toInt64
  length_image v := TriviallyCopyable.length_image v.toUInt64
  ofImage_image v := by simp
  sizeof_pos := by decide

instance : TriviallyCopyable Bool where
  sizeof := 1
  image v := [if v then 1 else 0]
  ofImage bs := decide (bs.headD 0 ≠ 0)
  length_image v := rfl
  ofImage_image v := by cases v <;> decide
  sizeof_pos := by decide

instance : TriviallyCopyable UInt8 where
  sizeof := 1
  image v := [v]
  ofImage bs := bs.headD 0
  length_image v := rfl
  ofImage_image v := rfl
  sizeof_pos := by decide

/-- Bytes between the members of a structure. -/
abbrev Padding (n : Nat) := Fin n → UInt8

instance (n : Nat) : TriviallyCopyable (Padding (n + 1)) where
  sizeof := n + 1
  image v := List.ofFn v
  ofImage bs i := bs.getD i 0
  length_image v := List.length_ofFn
  ofImage_image v := by
    funext i
    rw [List.getD_eq_getElem?_getD, List.getElem?_ofFn, dif_pos i.isLt]
    rfl
  sizeof_pos := by omega

/-- Members that follow each other. -/
instance {S T : Type} [TriviallyCopyable S] [TriviallyCopyable T] : TriviallyCopyable (S × T) where
  sizeof := sizeof S + sizeof T
  image v := image v.1 ++ image v.2
  ofImage bs := (ofImage (bs.take (sizeof S)), ofImage (bs.drop (sizeof S)))
  length_image v := by simp
  ofImage_image v := by
    have first : (image v.1).length = sizeof S := TriviallyCopyable.length_image v.1
    simp [List.take_left' first, List.drop_left' first]
  sizeof_pos := Nat.add_pos_left TriviallyCopyable.sizeof_pos _

/-- A structure, given by its members in the order in which they lie in memory. -/
@[reducible] def TriviallyCopyable.ofMembers {S T : Type} [TriviallyCopyable S] (members : T → S)
    (make : S → T) (h : ∀ v, make (members v) = v) : TriviallyCopyable T where
  sizeof := sizeof S
  image v := image (members v)
  ofImage bs := make (ofImage bs)
  length_image v := TriviallyCopyable.length_image (members v)
  ofImage_image v := by rw [TriviallyCopyable.ofImage_image, h]
  sizeof_pos := TriviallyCopyable.sizeof_pos

end Bytes
