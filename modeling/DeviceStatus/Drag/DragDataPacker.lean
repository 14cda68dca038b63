import DeviceStatus.Library.Parcel
import Mathlib.Algebra.GroupWithZero.Nat
import Mathlib.Data.List.Basic

/-!
# Packing drag data

`DragDataPacker` writes the data of a drag to a parcel and reads it back in another process or
on another device. The writer and the reader are separate functions: a reader fails on counts
out of its range, and the writer of the shadows cuts them to as many as the reader takes.

## Main definitions

* `PixelMaps` — the two ways in which a pixel map travels.
* `DragData` — what is written.
* `DragDataPacker.marshalling`, `DragDataPacker.unMarshalling` — the writer and the reader.
-/

namespace DeviceStatus.Drag

open Parcel
open Parcel.Reader
open Std (ExtTreeMap)

/-- What the packers return when it is not `RET_OK`. -/
inductive ErrCode where
  | retErr | errInvalidValue | readParcelError
  deriving DecidableEq

def SHADOW_NUM_LIMIT : Int32 := 3
def MAX_BUF_SIZE : Int32 := 1024

/-- The pixel maps of the image framework, with the two ways in which they are written and
read back: as a buffer of their own for another device, or into the parcel itself. -/
structure PixelMaps (PixelMap : Type) where
  encodeTlv : PixelMap → Option (List UInt8)
  decodeTlv : List UInt8 → Option PixelMap
  marshalling : PixelMap → Option (List Item)
  unmarshalling : List Item → Option (PixelMap × List Item)
  decodeTlv_encodeTlv : ∀ {p buffer}, encodeTlv p = some buffer → decodeTlv buffer = some p
  unmarshalling_marshalling : ∀ {p items} rest,
    marshalling p = some items → unmarshalling (items ++ rest) = some (p, rest)

/-- `Parcel::GetReadableBytes`: a value takes at least one byte. -/
structure ReadableBytes where
  getReadableBytes : List Item → ℕ
  length_le : ∀ items, items.length ≤ getReadableBytes items

/-- A `std::string`. -/
abbrev StdString := List UInt8

abbrev SummaryMap := ExtTreeMap StdString Int64

structure ShadowInfo (PixelMap : Type) where
  /-- a null pointer is `none` -/
  pixelMap : Option PixelMap := none
  x : Int32 := -1
  y : Int32 := -1
  deriving DecidableEq

/-- The fields of `DragData` that `DragDataPacker` writes. -/
structure DragData (PixelMap : Type) where
  shadowInfos : List (ShadowInfo PixelMap) := []
  buffer : List UInt8 := []
  udKey : StdString := []
  extraInfo : StdString := []
  filterInfo : StdString := []
  sourceType : Int32 := -1
  dragNum : Int32 := -1
  pointerId : Int32 := -1
  displayX : Int32 := -1
  displayY : Int32 := -1
  displayId : Int32 := -1
  mainWindow : Int32 := -1
  hasCanceledAnimation : Bool := false
  hasCoordinateCorrected : Bool := false
  summarys : SummaryMap := ∅
  isDragDelay : Bool := false

namespace SummaryPacker

def writeEntry (entry : StdString × Int64) : List Item :=
  [.string entry.1, .int64 entry.2]

/-- The count is cast to `int32_t`; the entries go out in the order of the map. -/
def marshalling (val : SummaryMap) : List Item :=
  .int32 (Int32.ofNat val.size) :: val.toList.flatMap writeEntry

def readEntry (val : SummaryMap) : Reader ErrCode SummaryMap := do
  let key ← readString .readParcelError
  let value ← readInt64 .readParcelError
  return val.insert key value

def unMarshalling (bytes : ReadableBytes) (val : SummaryMap) : Reader ErrCode SummaryMap := do
  let readAbleSize := bytes.getReadableBytes (← get)
  let size ← readInt32 .readParcelError
  if size < 0 ∨ readAbleSize < size.toInt.toNat ∨ MAX_BUF_SIZE < size then
    throw .retErr
  else
    loop readEntry size.toInt.toNat val

end SummaryPacker

namespace ShadowPacker

variable {PixelMap : Type} (pixelMaps : PixelMaps PixelMap)

/-- The pixel map of a shadow, for another device or for another process. -/
def packUpPixelMap (pixelMap : PixelMap) (isCross : Bool) : Except ErrCode (List Item) :=
  if isCross then
    match pixelMaps.encodeTlv pixelMap with
    | none => throw .errInvalidValue
    | some pixelBuffer => return [.uint8Vector pixelBuffer]
  else
    match pixelMaps.marshalling pixelMap with
    | none => throw .errInvalidValue
    | some items => return items

def packUpShadowInfo (isCross : Bool) (shadowInfo : ShadowInfo PixelMap) :
    Except ErrCode (List Item) :=
  match shadowInfo.pixelMap with
  | none => throw .retErr
  | some pixelMap => do
    let items ← packUpPixelMap pixelMaps pixelMap isCross
    return items ++ [.int32 shadowInfo.x, .int32 shadowInfo.y]

/-- As many shadows as are written: their number as an `int32_t`, cut to the limit. -/
def shadowNum (shadowInfos : List (ShadowInfo PixelMap)) : Int32 :=
  let shadowNum := Int32.ofNat shadowInfos.length
  if SHADOW_NUM_LIMIT < shadowNum then SHADOW_NUM_LIMIT else shadowNum

def marshalling (isCross : Bool) (shadowInfos : List (ShadowInfo PixelMap)) :
    Except ErrCode (List Item) :=
  if shadowInfos = [] then throw .errInvalidValue
  else if Int32.ofNat shadowInfos.length < 0 then throw .errInvalidValue
  else do
    let shadowNum := shadowNum shadowInfos
    let infos ← (shadowInfos.take shadowNum.toInt.toNat).mapM
      fun shadowInfo => (packUpShadowInfo pixelMaps isCross shadowInfo).mapError fun _ => .retErr
    return .int32 shadowNum :: infos.flatten

def unPackPixelMap (isCross : Bool) : Reader ErrCode PixelMap := do
  if isCross then
    let pixelBuffer ← readUInt8Vector .errInvalidValue
    match pixelMaps.decodeTlv pixelBuffer with
    | none => throw .retErr
    | some pixelMap => return pixelMap
  else
    match pixelMaps.unmarshalling (← get) with
    | none => throw .retErr
    | some (pixelMap, rest) =>
      set rest
      return pixelMap

def unPackShadowInfo (isCross : Bool) : Reader ErrCode (ShadowInfo PixelMap) := do
  let pixelMap ← unPackPixelMap pixelMaps isCross
  let x ← readInt32 .readParcelError
  let y ← readInt32 .readParcelError
  return { pixelMap := some pixelMap, x, y }

/-- One round of the loop below. -/
def pushBackShadowInfo (isCross : Bool) (shadowInfos : List (ShadowInfo PixelMap)) :
    Reader ErrCode (List (ShadowInfo PixelMap)) := do
  let shadowInfo ← orError .retErr (unPackShadowInfo pixelMaps isCross)
  return shadowInfos ++ [shadowInfo]

def unMarshalling (isCross : Bool) (shadowInfos : List (ShadowInfo PixelMap)) :
    Reader ErrCode (List (ShadowInfo PixelMap)) := do
  let shadowNum ← readInt32 .readParcelError
  if shadowNum ≤ 0 ∨ SHADOW_NUM_LIMIT < shadowNum then
    throw .retErr
  else
    loop (pushBackShadowInfo pixelMaps isCross) shadowNum.toInt.toNat shadowInfos

end ShadowPacker

namespace DragDataPacker

variable {PixelMap : Type} (pixelMaps : PixelMaps PixelMap) (bytes : ReadableBytes)

/-- What is written between the shadows and the summaries. -/
def fields (dragData : DragData PixelMap) : List Item :=
  [.uint8Vector dragData.buffer, .string dragData.udKey, .string dragData.extraInfo,
    .string dragData.filterInfo, .int32 dragData.sourceType, .int32 dragData.dragNum,
    .int32 dragData.pointerId, .int32 dragData.displayX, .int32 dragData.displayY,
    .int32 dragData.displayId, .int32 dragData.mainWindow, .bool dragData.hasCanceledAnimation,
    .bool dragData.hasCoordinateCorrected]

/-- The values that `Marshalling` appends to the parcel when it returns `RET_OK`. -/
def marshalling (isCross : Bool) (dragData : DragData PixelMap) : Except ErrCode (List Item) := do
  let shadows ← (ShadowPacker.marshalling pixelMaps isCross dragData.shadowInfos).mapError
    fun _ => .retErr
  let isDragDelay := if isCross then [] else [.bool dragData.isDragDelay]
  return shadows ++ fields dragData ++ SummaryPacker.marshalling dragData.summarys ++ isDragDelay

/-- A missing `isDragDelay` is only logged. -/
def unMarshalling (isCross : Bool) (dragData : DragData PixelMap) :
    Reader ErrCode (DragData PixelMap) := do
  let shadowInfos ←
    orError .retErr (ShadowPacker.unMarshalling pixelMaps isCross dragData.shadowInfos)
  let buffer ← readUInt8Vector .readParcelError
  let udKey ← readString .readParcelError
  let extraInfo ← readString .readParcelError
  let filterInfo ← readString .readParcelError
  let sourceType ← readInt32 .readParcelError
  let dragNum ← readInt32 .readParcelError
  let pointerId ← readInt32 .readParcelError
  let displayX ← readInt32 .readParcelError
  let displayY ← readInt32 .readParcelError
  let displayId ← readInt32 .readParcelError
  let mainWindow ← readInt32 .readParcelError
  let hasCanceledAnimation ← readBool .readParcelError
  let hasCoordinateCorrected ← readBool .readParcelError
  let summarys ← orError .retErr (SummaryPacker.unMarshalling bytes dragData.summarys)
  let isDragDelay ←
    if isCross then pure dragData.isDragDelay
    else do
      let read ← attempt (readBool ErrCode.readParcelError)
      pure (read.getD dragData.isDragDelay)
  return { shadowInfos, buffer, udKey, extraInfo, filterInfo, sourceType, dragNum, pointerId,
           displayX, displayY, displayId, mainWindow, hasCanceledAnimation,
           hasCoordinateCorrected, summarys, isDragDelay }

end DragDataPacker

end DeviceStatus.Drag
