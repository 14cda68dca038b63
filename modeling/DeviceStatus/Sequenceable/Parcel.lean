import DeviceStatus.Library.OrderedStore
import Mathlib.Algebra.Group.Nat.Defs

/-!
# Parcels of sequenceable types

`Parcel` as an ordered store. Floats and pixel maps are values that a parcel takes as they are.

## Main definitions

* `ParcelItem` — one value of a parcel, and its kinds.
-/

namespace DeviceStatus.Sequenceable

open OrderedStore

/-- A `std::string`. -/
abbrev StdString := List UInt8

inductive ParcelItem (Flt PixelMap : Type) where
  | bool (value : Bool)
  | int32 (value : Int32)
  | uint32 (value : UInt32)
  | int64 (value : Int64)
  | string (value : StdString)
  | floatVector (value : List Flt)
  | stringVector (value : List StdString)
  | pixelMap (value : PixelMap)
  deriving DecidableEq

namespace ParcelItem

variable {Flt PixelMap : Type}

abbrev ParcelKind (Flt PixelMap α : Type) := Kind (ParcelItem Flt PixelMap) α

def boolKind : ParcelKind Flt PixelMap Bool where
  put := .bool
  get | .bool value => some value | _ => none
  get_put _ := rfl
  put_of_get {item a} h := by cases item <;> simp_all

def int32Kind : ParcelKind Flt PixelMap Int32 where
  put := .int32
  get | .int32 value => some value | _ => none
  get_put _ := rfl
  put_of_get {item a} h := by cases item <;> simp_all

def uint32Kind : ParcelKind Flt PixelMap UInt32 where
  put := .uint32
  get | .uint32 value => some value | _ => none
  get_put _ := rfl
  put_of_get {item a} h := by cases item <;> simp_all

def int64Kind : ParcelKind Flt PixelMap Int64 where
  put := .int64
  get | .int64 value => some value | _ => none
  get_put _ := rfl
  put_of_get {item a} h := by cases item <;> simp_all

def stringKind : ParcelKind Flt PixelMap StdString where
  put := .string
  get | .string value => some value | _ => none
  get_put _ := rfl
  put_of_get {item a} h := by cases item <;> simp_all

def floatVectorKind : ParcelKind Flt PixelMap (List Flt) where
  put := .floatVector
  get | .floatVector value => some value | _ => none
  get_put _ := rfl
  put_of_get {item a} h := by cases item <;> simp_all

def stringVectorKind : ParcelKind Flt PixelMap (List StdString) where
  put := .stringVector
  get | .stringVector value => some value | _ => none
  get_put _ := rfl
  put_of_get {item a} h := by cases item <;> simp_all

def pixelMapKind : ParcelKind Flt PixelMap PixelMap where
  put := .pixelMap
  get | .pixelMap value => some value | _ => none
  get_put _ := rfl
  put_of_get {item a} h := by cases item <;> simp_all

end ParcelItem

/-! ### Counts -/

/-- A count that fits is read as it was written. -/
theorem toNat_ofNat {n : ℕ} (h : n < 2 ^ 31) : (Int32.ofNat n).toInt.toNat = n := by
  rw [Int32.toInt_ofNat_of_lt h, Int.toNat_natCast]

/-- A count that does not fit is read as a smaller one, or as none. -/
theorem toNat_ofNat_le (n : ℕ) : (Int32.ofNat n).toInt.toNat ≤ n := by
  have size : ((Int32.size : Nat) : Int) = 4294967296 := rfl
  rw [Int32.toInt_ofNat', Int.bmod_eq_emod, size]
  split_ifs <;> omega

end DeviceStatus.Sequenceable
