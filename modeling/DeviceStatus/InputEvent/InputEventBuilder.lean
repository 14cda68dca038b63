import DeviceStatus.Cooperate.Context
import DeviceStatus.InputEvent.KeyEvents
import DeviceStatus.Ipc.HeartBeat

/-!
# The input event builder

`InputEventBuilder`, which simulates the pointer and key events that the peer of a cooperation
sends. The event that was decoded last is all that it knows of pressed buttons and keys.

## Main definitions

* `InputEventBuilder`, `InputEventBuilder.onPacket` — the builder and its packets.
* `InputEventBuilder.disable` — it releases what is pressed in the events decoded last.
-/

namespace DeviceStatus.InputEvents

open Ipc
open Cooperation (DragState)

def DSOFTBUS_INPUT_POINTER_EVENT : MessageId := 13
def DSOFTBUS_INPUT_KEY_EVENT : MessageId := 14

def COORDINATION_DAMPLING_UP : UInt32 := 0x1
def COORDINATION_DAMPLING_DOWN : UInt32 := 0x2
def COORDINATION_DAMPLING_LEFT : UInt32 := 0x4
def COORDINATION_DAMPLING_RIGHT : UInt32 := 0x8

def DEFAULT_SCREEN_WIDTH : Int32 := 512
def MIN_DAMPLING_COEFFICENT : Double := 0x3fa999999999999a
def MAX_DAMPLING_COEFFICENT : Double := 0x3ff8000000000000
def DEFAULT_DAMPLING_COEFFICIENT : Double := 0x3ff0000000000000

/-- Actions, sources and flags of the input service, which is not part of the repository. -/
structure ActionCodes where
  POINTER_ACTION_CANCEL : Int32
  POINTER_ACTION_MOVE : Int32
  POINTER_ACTION_BUTTON_DOWN : Int32
  POINTER_ACTION_BUTTON_UP : Int32
  POINTER_ACTION_PULL_MOVE : Int32
  POINTER_ACTION_PULL_IN_WINDOW : Int32
  POINTER_ACTION_PULL_OUT_WINDOW : Int32
  SOURCE_TYPE_MOUSE : Int32
  MOUSE_BUTTON_LEFT : Int32
  EVENT_FLAG_RAW_POINTER_MOVEMENT : UInt32
  EVENT_FLAG_SIMULATE : UInt32
  KEY_ACTION_CANCEL : Int32
  KEY_ACTION_DOWN : Int32
  KEY_ACTION_UP : Int32
  pointerActions : [POINTER_ACTION_CANCEL, POINTER_ACTION_MOVE, POINTER_ACTION_BUTTON_DOWN,
    POINTER_ACTION_BUTTON_UP, POINTER_ACTION_PULL_MOVE].Nodup
  keyActions : [KEY_ACTION_CANCEL, KEY_ACTION_DOWN, KEY_ACTION_UP].Nodup

/-- The arithmetic of `double`. -/
structure DoubleArithmetic where
  ofInt32 : Int32 → Double
  toInt32 : Double → Int32
  add : Double → Double → Double
  sub : Double → Double → Double
  mul : Double → Double → Double
  /-- `std::clamp` -/
  clamp : Double → Double → Double → Double

inductive DamplingDirection where
  | up | down | left | right
  deriving DecidableEq

/-- What the builder asks of the services. -/
inductive BuilderOutput (mmi : MmiConstants) where
  | simulatePointerEvent (event : PointerEvent mmi)
  | simulateKeyEvent (event : KeyEvent)
  | notifyCrossDrag (isButtonDown : Bool)

/-- The builder, with what it has asked of the services so far. -/
structure InputEventBuilder (mmi : MmiConstants) where
  enabled : Bool := false
  freezing : Bool := false
  xDir : Int32 := 0
  movement : Int32 := 0
  rawDxRightRemainder : Double := 0
  rawDxLeftRemainder : Double := 0
  remoteNetworkId : StdString := []
  isStopByScreenOffOrLock : Bool := false
  damplingCoefficients : DamplingDirection → Double := fun _ => DEFAULT_DAMPLING_COEFFICIENT
  pointerEvent : PointerEvent mmi := {}
  keyEvent : KeyEvent := {}
  remote2VirtualIds : Int32 → Option Int32 := fun _ => none
  outputs : List (BuilderOutput mmi) := []

/-- What a packet finds: uninitialized variables and the time. -/
structure Arrival (platform : Platform) where
  pointer : Uninitialized platform
  key : KeyUninitialized
  time : Int64

namespace InputEventBuilder

variable {mmi : MmiConstants} {platform : Platform} (codes : ActionCodes)
  (arithmetic : DoubleArithmetic)

def output (o : BuilderOutput mmi) (b : InputEventBuilder mmi) : InputEventBuilder mmi :=
  { b with outputs := b.outputs ++ [o] }

/-- `TagRemoteEvent`, for both kinds of events. -/
def tagRemoteEvent (deviceId : Int32) (b : InputEventBuilder mmi) : Int32 :=
  match b.remote2VirtualIds deviceId with
  | some virtualId => virtualId
  | none => if 0 ≤ deviceId then -(deviceId + 1) else deviceId

/-- `OnNotifyCrossDrag`. -/
def onNotifyCrossDrag (b : InputEventBuilder mmi) : InputEventBuilder mmi :=
  let pointerAction := b.pointerEvent.pointerAction
  if pointerAction = codes.POINTER_ACTION_PULL_IN_WINDOW ∨
      pointerAction = codes.POINTER_ACTION_PULL_OUT_WINDOW then b
  else b.output (.notifyCrossDrag (codes.MOUSE_BUTTON_LEFT ∈ b.pointerEvent.pressedButtons))

/-- `IsActive`: while frozen, moves of the mouse are dropped until they come back to where they
began. -/
def isActive (b : InputEventBuilder mmi) : Bool × InputEventBuilder mmi :=
  if !b.freezing then (true, b)
  else if b.pointerEvent.sourceType ≠ codes.SOURCE_TYPE_MOUSE ∨
      (b.pointerEvent.pointerAction ≠ codes.POINTER_ACTION_MOVE ∧
        b.pointerEvent.pointerAction ≠ codes.POINTER_ACTION_PULL_MOVE) then (true, b)
  else
    match b.pointerEvent.getPointerItem b.pointerEvent.pointerId with
    | none => (false, b)
    | some item =>
      let movement := b.movement + item.rawDx
      let movement :=
        if movement < -DEFAULT_SCREEN_WIDTH then -DEFAULT_SCREEN_WIDTH
        else if DEFAULT_SCREEN_WIDTH < movement then DEFAULT_SCREEN_WIDTH else movement
      let xDir := if b.xDir = 0 then movement else b.xDir
      ((0 < xDir && movement ≤ 0) || (xDir < 0 && 0 ≤ movement), { b with movement, xDir })

/-- `DampPointerMotion`. -/
def dampPointerMotion (b : InputEventBuilder mmi) : Bool × InputEventBuilder mmi :=
  match b.pointerEvent.getPointerItem b.pointerEvent.pointerId with
  | none => (false, b)
  | some item =>
    let scaled (raw : Int32) (direction : DamplingDirection) :=
      arithmetic.mul (arithmetic.ofInt32 raw) (b.damplingCoefficients direction)
    let (item, b) :=
      if 0 < item.rawDx then
        let rawDxRight := arithmetic.add b.rawDxRightRemainder (scaled item.rawDx .right)
        let rawDxInteger := arithmetic.toInt32 rawDxRight
        ({ item with rawDx := rawDxInteger },
          { b with
            rawDxRightRemainder := arithmetic.sub rawDxRight (arithmetic.ofInt32 rawDxInteger) })
      else if item.rawDx < 0 then
        let rawDxLeft := arithmetic.add b.rawDxLeftRemainder (scaled item.rawDx .left)
        let rawDxInteger := arithmetic.toInt32 rawDxLeft
        ({ item with rawDx := rawDxInteger },
          { b with
            rawDxLeftRemainder := arithmetic.sub rawDxLeft (arithmetic.ofInt32 rawDxInteger) })
      else (item, b)
    let direction := if 0 ≤ item.rawDy then DamplingDirection.down else .up
    let item := { item with rawDy := arithmetic.toInt32 (scaled item.rawDy direction) }
    -- `UpdatePointerItem`: the item takes the place of the one of its pointer
    (true, { b with pointerEvent := b.pointerEvent.addPointerItem item })

/-- `UpdatePointerEvent`. -/
def updatePointerEvent (time : Int64) (b : InputEventBuilder mmi) :
    Bool × InputEventBuilder mmi :=
  if b.pointerEvent.sourceType ≠ codes.SOURCE_TYPE_MOUSE then (true, b)
  else
    match b.dampPointerMotion arithmetic with
    | (false, b) => (false, b)
    | (true, b) =>
      (true,
        { b with
          pointerEvent :=
            { b.pointerEvent with
              flag := b.pointerEvent.flag ||| codes.EVENT_FLAG_RAW_POINTER_MOVEMENT
              actionTime := time
              actionStartTime := time
              targetDisplayId := -1
              targetWindowId := -1
              agentWindowId := -1 } })

/-- `OnPointerEvent`. The event is reset before it is decoded. -/
def onPointerEvent (arrival : Arrival platform) (packet : StreamBuffer)
    (b : InputEventBuilder mmi) : InputEventBuilder mmi :=
  match unmarshalling arrival.pointer packet (PointerEvent.create mmi) (-1) with
  | (false, filled) => { b with pointerEvent := filled.event }
  | (true, filled) =>
    let deviceId := b.tagRemoteEvent filled.event.deviceId
    let b := { b with pointerEvent := { filled.event with deviceId } }
    let b := b.onNotifyCrossDrag codes
    match b.isActive codes with
    | (false, b) => b
    | (true, b) =>
      match b.updatePointerEvent codes arithmetic arrival.time with
      | (false, b) => b
      | (true, b) => b.output (.simulatePointerEvent b.pointerEvent)

/-- `OnKeyEvent`. The event is reset before it is decoded. -/
def onKeyEvent (arrival : Arrival platform) (packet : StreamBuffer) (b : InputEventBuilder mmi) :
    InputEventBuilder mmi :=
  match netPacketToKeyEvent arrival.key packet {} with
  | (false, key, _) => { b with keyEvent := key }
  | (true, key, _) =>
    let key := { key with
      actionTime := arrival.time
      actionStartTime := arrival.time
      deviceId := b.tagRemoteEvent key.deviceId
      flag := key.flag ||| codes.EVENT_FLAG_SIMULATE }
    { b with keyEvent := key }.output (.simulateKeyEvent key)

/-- `OnPacket`, for packets that come while the observer of the builder is registered. -/
def onPacket (arrival : Arrival platform) (networkId : StdString) (packet : NetPacket)
    (b : InputEventBuilder mmi) : Bool × InputEventBuilder mmi :=
  if networkId ≠ b.remoteNetworkId then (false, b)
  else if packet.msgId = DSOFTBUS_INPUT_POINTER_EVENT then
    (true, b.onPointerEvent codes arithmetic arrival packet.toStreamBuffer)
  else if packet.msgId = DSOFTBUS_INPUT_KEY_EVENT then
    (true, b.onKeyEvent codes arrival packet.toStreamBuffer)
  else if packet.msgId = DSOFTBUS_HEART_BEAT_PACKET then (true, b)
  else (false, b)

/-- `Enable`, from the flag and the peer of the context. -/
def enable (freezeCursor : Bool) (peer : StdString) (b : InputEventBuilder mmi) :
    InputEventBuilder mmi :=
  if b.enabled then b
  else
    { b with
      enabled := true
      xDir := 0
      movement := 0
      freezing := freezeCursor
      remoteNetworkId := peer
      isStopByScreenOffOrLock := false }

/-- `Update`, from the peer of the context. -/
def update (peer : StdString) (b : InputEventBuilder mmi) : InputEventBuilder mmi :=
  { b with remoteNetworkId := peer }

def freeze (b : InputEventBuilder mmi) : InputEventBuilder mmi :=
  if !b.enabled then b else { b with xDir := 0, movement := 0, freezing := true }

def thaw (b : InputEventBuilder mmi) : InputEventBuilder mmi :=
  if !b.enabled then b else { b with freezing := false }

def setDamplingCoefficient (direction : UInt32) (coefficient : Double)
    (b : InputEventBuilder mmi) : InputEventBuilder mmi :=
  let coefficient :=
    arithmetic.clamp coefficient MIN_DAMPLING_COEFFICENT MAX_DAMPLING_COEFFICENT
  let selects (bit : UInt32) : Bool := direction &&& bit = bit
  { b with
    damplingCoefficients := fun d =>
      if selects (match d with
        | .up => COORDINATION_DAMPLING_UP
        | .down => COORDINATION_DAMPLING_DOWN
        | .left => COORDINATION_DAMPLING_LEFT
        | .right => COORDINATION_DAMPLING_RIGHT) then coefficient
      else b.damplingCoefficients d }

def updateVirtualDeviceIdMap (remote2VirtualIds : Int32 → Option Int32)
    (b : InputEventBuilder mmi) : InputEventBuilder mmi :=
  { b with remote2VirtualIds }

def setStopByScreenOffOrLock (stopByScreenOffOrLock : Bool) (b : InputEventBuilder mmi) :
    InputEventBuilder mmi :=
  { b with isStopByScreenOffOrLock := stopByScreenOffOrLock }

/-- The body of the loop of `ResetPressedEvents` over the pressed buttons. -/
def releaseButton (b : InputEventBuilder mmi) (buttonId : Int32) : InputEventBuilder mmi :=
  let event := { b.pointerEvent with
    buttonId
    pointerAction :=
      if b.isStopByScreenOffOrLock then codes.POINTER_ACTION_CANCEL
      else codes.POINTER_ACTION_BUTTON_UP }
  { b with pointerEvent := event }.output (.simulatePointerEvent event)

/-- The body of the loop of `ResetPressedEvents` over the pressed keys. -/
def releaseKey (b : InputEventBuilder mmi) (pressedKey : Int32) : InputEventBuilder mmi :=
  let key := { b.keyEvent with keyCode := pressedKey, keyAction := codes.KEY_ACTION_UP }
  let key :=
    match key.getKeyItem pressedKey with
    | some keyItem => key.addReleasedKeyItems { keyItem with pressed := false }
    | none => key
  { b with keyEvent := key }.output (.simulateKeyEvent key)

/-- The first half of `ResetPressedEvents`. -/
def resetPressedButtons (dragState : DragState) (b : InputEventBuilder mmi) :
    InputEventBuilder mmi :=
  let pressedButtons := b.pointerEvent.pressedButtons.sort (· ≤ ·)
  if pressedButtons.isEmpty then b
  else
    let b :=
      if dragState = .start ∨ dragState = .motionDragging then b
      else pressedButtons.foldl (releaseButton codes) b
    { b with pointerEvent := PointerEvent.create mmi }

/-- The second half of `ResetPressedEvents`. -/
def resetPressedKeys (b : InputEventBuilder mmi) : InputEventBuilder mmi :=
  let pressedKeys := b.keyEvent.getPressedKeys
  if pressedKeys.isEmpty then b
  else { pressedKeys.foldl (releaseKey codes) b with keyEvent := {} }

def resetPressedEvents (dragState : DragState) (b : InputEventBuilder mmi) :
    InputEventBuilder mmi :=
  (b.resetPressedButtons codes dragState).resetPressedKeys codes

/-- `Disable`, in a drag state. -/
def disable (dragState : DragState) (b : InputEventBuilder mmi) : InputEventBuilder mmi :=
  if !b.enabled then b
  else
    let b := { b with enabled := false }
    { b.resetPressedEvents codes dragState with isStopByScreenOffOrLock := false }

end InputEventBuilder

end DeviceStatus.InputEvents
