import DeviceStatus.Library.Bytes
import Mathlib.Data.Finset.Sort

/-!
# Input events

The events of the input service as the records of what the cooperation gets and sets of them,
and the platform dependent types in which they go over the wire. Floating-point numbers are
their bit patterns.

## Main definitions

* `InputEvent`, `PointerItem`, `PointerEvent` — the events, with the getters and setters that
  are used.
* `InnerPointerItem` — the structure that is copied to the wire, padding included.
* `SizeT` — `size_t` of a platform.
-/

namespace DeviceStatus.InputEvents

open Bytes

/-- A `double`. -/
abbrev Double := UInt64

/-- A `float`. -/
abbrev Single := UInt32

inductive Platform where
  | bits32 | bits64
  deriving DecidableEq

/-- `size_t`. -/
abbrev SizeT : Platform → Type
  | .bits32 => UInt32
  | .bits64 => UInt64

namespace SizeT

instance : (platform : Platform) → TriviallyCopyable (SizeT platform)
  | .bits32 => inferInstanceAs (TriviallyCopyable UInt32)
  | .bits64 => inferInstanceAs (TriviallyCopyable UInt64)

def ofNat : (platform : Platform) → Nat → SizeT platform
  | .bits32, n => UInt32.ofNat n
  | .bits64, n => UInt64.ofNat n

def toNat : {platform : Platform} → SizeT platform → Nat
  | .bits32, n => UInt32.toNat n
  | .bits64, n => UInt64.toNat n

theorem toNat_ofNat {platform : Platform} {n : Nat} (h : n < 2 ^ 32) :
    toNat (ofNat platform n) = n := by
  cases platform with
  | bits32 => simp only [toNat, ofNat, UInt32.toNat_ofNat', Nat.mod_eq_of_lt h]
  | bits64 =>
    have : n < 2 ^ 64 := by omega
    simp only [toNat, ofNat, UInt64.toNat_ofNat', Nat.mod_eq_of_lt this]

end SizeT

/-- Constants of the input service, which is not part of the repository. -/
structure MmiConstants where
  EVENT_TYPE_POINTER : Int32
  /-- the number of axis types, `AXIS_TYPE_UNKNOWN` included -/
  AXIS_TYPE_MAX : Nat
  /-- a set of axes is a `uint32_t` -/
  axisTypeMax_le : AXIS_TYPE_MAX ≤ 32
  /-- `ExtraData::MAX_BUFFER_SIZE` -/
  MAX_BUFFER_SIZE : Nat

/-- `MMI::InputEvent`. -/
structure InputEvent where
  id : Int32 := -1
  actionTime : Int64 := 0
  action : Int32 := 0
  actionStartTime : Int64 := 0
  sensorInputTime : UInt64 := 0
  deviceId : Int32 := -1
  targetDisplayId : Int32 := -1
  targetWindowId : Int32 := -1
  agentWindowId : Int32 := -1
  flag : UInt32 := 0
  deriving DecidableEq

/-- `MMI::PointerEvent::PointerItem`. -/
structure PointerItem where
  pointerId : Int32 := -1
  pressed : Bool := false
  displayX : Int32 := 0
  displayY : Int32 := 0
  windowX : Int32 := 0
  windowY : Int32 := 0
  displayXPos : Double := 0
  displayYPos : Double := 0
  windowXPos : Double := 0
  windowYPos : Double := 0
  width : Int32 := 0
  height : Int32 := 0
  tiltX : Double := 0
  tiltY : Double := 0
  toolDisplayX : Int32 := 0
  toolDisplayY : Int32 := 0
  toolWindowX : Int32 := 0
  toolWindowY : Int32 := 0
  toolWidth : Int32 := 0
  toolHeight : Int32 := 0
  pressure : Double := 0
  longAxis : Int32 := 0
  shortAxis : Int32 := 0
  deviceId : Int32 := 0
  downTime : Int64 := 0
  toolType : Int32 := 0
  targetWindowId : Int32 := -1
  originPointerId : Int32 := 0
  rawDx : Int32 := 0
  rawDy : Int32 := 0
  deriving DecidableEq

/-- `InnerPointerItem`, in memory: doubles and 64-bit numbers are aligned to 8 bytes. -/
structure InnerPointerItem where
  pointerId : Int32 := -1
  pressed : Bool := false
  afterPressed : Padding 3
  displayX : Int32 := -1
  displayY : Int32 := -1
  windowX : Int32 := -1
  windowY : Int32 := -1
  displayXPos : Double := 0
  displayYPos : Double := 0
  windowXPos : Double := 0
  windowYPos : Double := 0
  width : Int32 := -1
  height : Int32 := -1
  tiltX : Double := 0
  tiltY : Double := 0
  toolDisplayX : Int32 := -1
  toolDisplayY : Int32 := -1
  toolWindowX : Int32 := -1
  toolWindowY : Int32 := -1
  toolWidth : Int32 := -1
  toolHeight : Int32 := -1
  pressure : Double := 0
  longAxis : Int32 := -1
  shortAxis : Int32 := -1
  deviceId : Int32 := -1
  afterDeviceId : Padding 4
  downTime : Int64 := -1
  toolType : Int32 := -1
  targetWindowId : Int32 := -1
  originPointerId : Int32 := -1
  rawDx : Int32 := -1
  rawDy : Int32 := -1
  afterRawDy : Padding 4

namespace InnerPointerItem

instance : TriviallyCopyable InnerPointerItem :=
  .ofMembers
    (fun v => (v.pointerId, v.pressed, v.afterPressed, v.displayX, v.displayY, v.windowX,
      v.windowY, v.displayXPos, v.displayYPos, v.windowXPos, v.windowYPos, v.width, v.height,
      v.tiltX, v.tiltY, v.toolDisplayX, v.toolDisplayY, v.toolWindowX, v.toolWindowY,
      v.toolWidth, v.toolHeight, v.pressure, v.longAxis, v.shortAxis, v.deviceId,
      v.afterDeviceId, v.downTime, v.toolType, v.targetWindowId, v.originPointerId, v.rawDx,
      v.rawDy, v.afterRawDy))
    (fun (pointerId, pressed, afterPressed, displayX, displayY, windowX, windowY, displayXPos,
        displayYPos, windowXPos, windowYPos, width, height, tiltX, tiltY, toolDisplayX,
        toolDisplayY, toolWindowX, toolWindowY, toolWidth, toolHeight, pressure, longAxis,
        shortAxis, deviceId, afterDeviceId, downTime, toolType, targetWindowId,
        originPointerId, rawDx, rawDy, afterRawDy) =>
      { pointerId, pressed, afterPressed, displayX, displayY, windowX, windowY, displayXPos,
        displayYPos, windowXPos, windowYPos, width, height, tiltX, tiltY, toolDisplayX,
        toolDisplayY, toolWindowX, toolWindowY, toolWidth, toolHeight, pressure, longAxis,
        shortAxis, deviceId, afterDeviceId, downTime, toolType, targetWindowId,
        originPointerId, rawDx, rawDy, afterRawDy })
    (fun _ => rfl)

example : sizeof InnerPointerItem = 160 := rfl

/-- `Transform` to an inner item whose padding is `inner`'s. -/
def ofItem (mmiItem : PointerItem) (inner : InnerPointerItem) : InnerPointerItem :=
  { inner with
    pointerId := mmiItem.pointerId
    pressed := mmiItem.pressed
    displayX := mmiItem.displayX
    displayY := mmiItem.displayY
    windowX := mmiItem.windowX
    windowY := mmiItem.windowY
    displayXPos := mmiItem.displayXPos
    displayYPos := mmiItem.displayYPos
    windowXPos := mmiItem.windowXPos
    windowYPos := mmiItem.windowYPos
    width := mmiItem.width
    height := mmiItem.height
    tiltX := mmiItem.tiltX
    tiltY := mmiItem.tiltY
    toolDisplayX := mmiItem.toolDisplayX
    toolDisplayY := mmiItem.toolDisplayY
    toolWindowX := mmiItem.toolWindowX
    toolWindowY := mmiItem.toolWindowY
    toolWidth := mmiItem.toolWidth
    toolHeight := mmiItem.toolHeight
    pressure := mmiItem.pressure
    longAxis := mmiItem.longAxis
    shortAxis := mmiItem.shortAxis
    deviceId := mmiItem.deviceId
    downTime := mmiItem.downTime
    toolType := mmiItem.toolType
    targetWindowId := mmiItem.targetWindowId
    originPointerId := mmiItem.originPointerId
    rawDx := mmiItem.rawDx
    rawDy := mmiItem.rawDy }

/-- `Transform` to an item of the input service. -/
def toItem (innerItem : InnerPointerItem) : PointerItem :=
  { pointerId := innerItem.pointerId
    pressed := innerItem.pressed
    displayX := innerItem.displayX
    displayY := innerItem.displayY
    windowX := innerItem.windowX
    windowY := innerItem.windowY
    displayXPos := innerItem.displayXPos
    displayYPos := innerItem.displayYPos
    windowXPos := innerItem.windowXPos
    windowYPos := innerItem.windowYPos
    width := innerItem.width
    height := innerItem.height
    tiltX := innerItem.tiltX
    tiltY := innerItem.tiltY
    toolDisplayX := innerItem.toolDisplayX
    toolDisplayY := innerItem.toolDisplayY
    toolWindowX := innerItem.toolWindowX
    toolWindowY := innerItem.toolWindowY
    toolWidth := innerItem.toolWidth
    toolHeight := innerItem.toolHeight
    pressure := innerItem.pressure
    longAxis := innerItem.longAxis
    shortAxis := innerItem.shortAxis
    deviceId := innerItem.deviceId
    downTime := innerItem.downTime
    toolType := innerItem.toolType
    targetWindowId := innerItem.targetWindowId
    originPointerId := innerItem.originPointerId
    rawDx := innerItem.rawDx
    rawDy := innerItem.rawDy }

@[simp] theorem toItem_ofItem (mmiItem : PointerItem) (inner : InnerPointerItem) :
    (ofItem mmiItem inner).toItem = mmiItem := rfl

end InnerPointerItem

instance int32_isTrans : IsTrans Int32 (· ≤ ·) := ⟨fun _ _ _ => Int32.le_trans⟩
instance int32_antisymm : Std.Antisymm (α := Int32) (· ≤ ·) := ⟨fun _ _ => Int32.le_antisymm⟩
instance int32_total : Std.Total (α := Int32) (· ≤ ·) := ⟨Int32.le_total⟩

/-- `MMI::PointerEvent`: a pointer has at most one item. -/
structure PointerEvent (mmi : MmiConstants) extends InputEvent where
  pointerAction : Int32 := 0
  pointerId : Int32 := -1
  sourceType : Int32 := 0
  buttonId : Int32 := -1
  fingerCount : Int32 := 0
  zOrder : Single := 0
  axisValues : Fin mmi.AXIS_TYPE_MAX → Option Double := fun _ => none
  /-- `std::set<int32_t>` -/
  pressedButtons : Finset Int32 := ∅
  pointers : List PointerItem := []
  pressedKeys : List Int32 := []
  buffer : List UInt8 := []
  scrollRows : Int32 := 0
  distinct : (pointers.map PointerItem.pointerId).Nodup := by simp

end DeviceStatus.InputEvents
