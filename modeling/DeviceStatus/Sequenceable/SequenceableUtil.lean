import DeviceStatus.Library.Entries
import DeviceStatus.Sequenceable.Parcel

/-!
# On-screen values in a parcel

`SequenceableUtil` writes a map of values, each behind its key and its type index, and reads it
back. The writer does not look at what comes of the writing of a value. The reader takes a page link
and an array of image IDs as far as they go, and a type index that it does not know for a value.

## Main definitions

* `ValueObj` — the values.
* `SequenceableUtil.marshalling`, `SequenceableUtil.unmarshalling` — the writer and the reader.
-/

namespace DeviceStatus.Sequenceable.OnScreen

open OrderedStore Entries ParcelItem
open Std (ExtTreeMap)

structure AwarenessInfoPageLink where
  httpLink : StdString := []
  deepLink : StdString := []

structure AwarenessInfoImageId where
  compId : StdString
  arkDataId : StdString

/-- `ValueObj` of the on-screen awareness. -/
inductive ValueObj (PixelMap : Type) where
  | bool (value : Bool)
  | int32 (value : Int32)
  | int64 (value : Int64)
  | string (value : StdString)
  | pageLink (value : AwarenessInfoPageLink)
  | pixelMap (value : PixelMap)
  | stringArray (value : List StdString)
  | imageIdArray (value : List AwarenessInfoImageId)

abbrev EntityInfo (PixelMap : Type) := ExtTreeMap StdString (ValueObj PixelMap)

def BOOL_INDEX : Int32 := 0
def INT32_INDEX : Int32 := 1
def INT64_INDEX : Int32 := 2
def STRING_INDEX : Int32 := 3
def PAGE_LINK_INDEX : Int32 := 4
def PIXEL_MAP_INDEX : Int32 := 5
def STRING_ARRAY_INDEX : Int32 := 6
def IMAGEID_ARRAY_INDEX : Int32 := 7

variable {Flt PixelMap : Type}

namespace ValueObj

/-- `std::variant::index`. -/
def index : ValueObj PixelMap → Int32
  | bool _ => BOOL_INDEX
  | int32 _ => INT32_INDEX
  | int64 _ => INT64_INDEX
  | string _ => STRING_INDEX
  | pageLink _ => PAGE_LINK_INDEX
  | pixelMap _ => PIXEL_MAP_INDEX
  | stringArray _ => STRING_ARRAY_INDEX
  | imageIdArray _ => IMAGEID_ARRAY_INDEX

end ValueObj

namespace SequenceableUtil

/-! ### The writer -/

section Writer

variable (room : Room (ParcelItem Flt PixelMap))

def writeImageId (imageIdArr : List AwarenessInfoImageId) : Writer (ParcelItem Flt PixelMap) :=
  (write room int32Kind (Int32.ofNat imageIdArr.length)).andThen <|
    .each (fun imageId =>
      (write room stringKind imageId.compId).andThen (write room stringKind imageId.arkDataId))
      imageIdArr

/-- The visitor of a value. -/
def writeValueObj : ValueObj PixelMap → Writer (ParcelItem Flt PixelMap)
  | .bool arg => write room boolKind arg
  | .int32 arg => write room int32Kind arg
  | .int64 arg => write room int64Kind arg
  | .string arg => write room stringKind arg
  | .pageLink arg =>
    (write room stringKind arg.httpLink).andThen (write room stringKind arg.deepLink)
  | .pixelMap arg => (write room pixelMapKind arg).ignored
  | .stringArray arg => write room stringVectorKind arg
  | .imageIdArray arg => (writeImageId room arg).ignored

/-- The turn of the loop for one entry. -/
def writeEntry (entry : StdString × ValueObj PixelMap) : Writer (ParcelItem Flt PixelMap) :=
  (write room stringKind entry.1).andThen <|
    (write room int32Kind entry.2.index).andThen (writeValueObj room entry.2).ignored

def marshalling (entityInfo : EntityInfo PixelMap) : Writer (ParcelItem Flt PixelMap) :=
  (write room int32Kind (Int32.ofNat entityInfo.size)).andThen <|
    .each (writeEntry room) entityInfo.toList

end Writer

/-! ### The reader -/

/-- The loop of `ReadImageId`, of which `count` turns are left. -/
def readImageIds : ℕ → List AwarenessInfoImageId →
    Reader (ParcelItem Flt PixelMap) (List AwarenessInfoImageId)
  | 0, imageIdArr => .returning imageIdArr
  | count + 1, imageIdArr =>
    (read stringKind).orReturn imageIdArr fun compId =>
      (read stringKind).orReturn imageIdArr fun arkDataId =>
        readImageIds count (imageIdArr ++ [{ compId, arkDataId }])

def readImageId : Reader (ParcelItem Flt PixelMap) (List AwarenessInfoImageId) :=
  (read int32Kind).orReturn [] fun size => readImageIds size.toInt.toNat []

def readPageLink : Reader (ParcelItem Flt PixelMap) AwarenessInfoPageLink :=
  (read stringKind).orReturn {} fun httpLink =>
    (read stringKind).orReturn { httpLink } fun deepLink => .returning { httpLink, deepLink }

/-- A value of an index that is not known is the one that `obj` had, which is false. -/
def readValueObj (typeIndex : Int32) :
    Reader (ParcelItem Flt PixelMap) (Option (ValueObj PixelMap)) :=
  if typeIndex = BOOL_INDEX then (read boolKind).mapSome .bool
  else if typeIndex = INT32_INDEX then (read int32Kind).mapSome .int32
  else if typeIndex = INT64_INDEX then (read int64Kind).mapSome .int64
  else if typeIndex = STRING_INDEX then (read stringKind).mapSome .string
  else if typeIndex = PAGE_LINK_INDEX then
    readPageLink.andThen fun pageLink => .returning (some (.pageLink pageLink))
  else if typeIndex = PIXEL_MAP_INDEX then (read pixelMapKind).mapSome .pixelMap
  else if typeIndex = STRING_ARRAY_INDEX then (read stringVectorKind).mapSome .stringArray
  else if typeIndex = IMAGEID_ARRAY_INDEX then
    readImageId.andThen fun imageIdArr => .returning (some (.imageIdArray imageIdArr))
  else .returning (some (.bool false))

/-- The map that is filled, and, for the statements, the type indices that have been read. -/
structure Unmarshalled (PixelMap : Type) where
  entityInfo : EntityInfo PixelMap := ∅
  typeIndices : List Int32 := []

/-- The loop of `Unmarshalling`, of which `count` turns are left. -/
def readEntries : ℕ → Unmarshalled PixelMap →
    Reader (ParcelItem Flt PixelMap) (Bool × Unmarshalled PixelMap)
  | 0, u => .returning (true, u)
  | count + 1, u =>
    (read stringKind).orReturn (false, u) fun key =>
      (read int32Kind).orReturn (false, u) fun typeIndex =>
        let u := { u with typeIndices := u.typeIndices ++ [typeIndex] }
        (readValueObj typeIndex).orReturn (false, u) fun obj =>
          readEntries count { u with entityInfo := u.entityInfo.insert key obj }

def unmarshalling (u : Unmarshalled PixelMap) :
    Reader (ParcelItem Flt PixelMap) (Bool × Unmarshalled PixelMap) :=
  (read int32Kind).orReturn (false, u) fun size => readEntries size.toInt.toNat u

end SequenceableUtil

end DeviceStatus.Sequenceable.OnScreen
