import DeviceStatus.InputEvent.Serialization

/-!
# Key events and their serialization

`MMI::KeyEvent` as far as the cooperation uses it, and `InputEventSerialization` for key
events.
-/

namespace DeviceStatus.InputEvents

open Bytes Ipc Ipc.StreamBuffer

def MAX_KEY_SIZE : Int32 := 395

/-- `MMI::KeyEvent::KeyItem`. -/
structure KeyItem where
  keyCode : Int32 := -1
  downTime : Int64 := 0
  deviceId : Int32 := -1
  pressed : Bool := false
  unicode : UInt32 := 0
  deriving DecidableEq

/-- `MMI::KeyEvent`. -/
structure KeyEvent extends InputEvent where
  keyCode : Int32 := -1
  keyAction : Int32 := 0
  keyIntention : Int32 := -1
  keyItems : List KeyItem := []
  numLock : Bool := false
  capsLock : Bool := false
  scrollLock : Bool := false
  deriving DecidableEq

namespace KeyEvent

/-- `GetPressedKeys`. -/
def getPressedKeys (event : KeyEvent) : List Int32 :=
  (event.keyItems.filter KeyItem.pressed).map KeyItem.keyCode

/-- `GetKeyItem`. -/
def getKeyItem (keyCode : Int32) (event : KeyEvent) : Option KeyItem :=
  event.keyItems.find? fun item => item.keyCode = keyCode

/-- `AddKeyItem`. -/
def addKeyItem (item : KeyItem) (event : KeyEvent) : KeyEvent :=
  { event with keyItems := event.keyItems ++ [item] }

/-- `AddReleasedKeyItems`: the item takes the place of those of its key. -/
def addReleasedKeyItems (item : KeyItem) (event : KeyEvent) : KeyEvent :=
  { event with
    keyItems := (event.keyItems.filter fun old => old.keyCode ≠ item.keyCode) ++ [item] }

end KeyEvent

/-! ## Serializer -/

/-- The body of the loop of `KeyEventToNetPacket`. -/
def putKeyItem (pkt : StreamBuffer) (item : KeyItem) : StreamBuffer :=
  ((((pkt.put item.keyCode).put item.downTime).put item.deviceId).put item.pressed).put
    item.unicode

/-- `KeyEventToNetPacket`; the event type is that of key events. -/
def keyEventToNetPacket (eventType : Int32) (key : KeyEvent) (pkt : StreamBuffer) :
    Bool × StreamBuffer :=
  andThen (serializeInputEvent eventType key.toInputEvent pkt) fun pkt =>
    let pkt := ((pkt.put key.keyCode).put key.keyAction).put key.keyIntention
    let size := Int32.ofNat key.keyItems.length
    if MAX_KEY_SIZE < size then (false, pkt)
    else
      let pkt := key.keyItems.foldl putKeyItem (pkt.put size)
      (((pkt.put key.numLock).put key.capsLock).put key.scrollLock).checked

/-! ## Deserializer -/

/-- What the uninitialized variables of the deserializer hold. -/
structure KeyUninitialized where
  sensorTime : UInt64
  unicode : UInt32

/-- The loop of `NetPacketToKeyEvent`: `data` and `isPressed` are what was read last. -/
def readKeyItems (unicode : UInt32) :
    Nat → Int32 → Bool → KeyEvent → StreamBuffer → Bool × KeyEvent × StreamBuffer
  | 0, _, _, key, pkt => (true, key, pkt)
  | n + 1, data, isPressed, key, pkt =>
    let (keyCode, pkt) := pkt.get data
    let (downTime, pkt) := pkt.get (0 : Int64)
    let (deviceId, pkt) := pkt.get keyCode
    let (pressed, pkt) := pkt.get isPressed
    if pkt.chkRWError then (false, key, pkt)
    else
      let (itemUnicode, pkt) := pkt.get unicode
      readKeyItems unicode n deviceId pressed
        (key.addKeyItem { keyCode, downTime, deviceId, pressed, unicode := itemUnicode }) pkt

def readFunctionKeys (key : KeyEvent) (pkt : StreamBuffer) : KeyEvent × StreamBuffer :=
  let (numLock, pkt) := pkt.get false
  let (capsLock, pkt) := pkt.get numLock
  let (scrollLock, pkt) := pkt.get capsLock
  ({ key with numLock, capsLock, scrollLock }, pkt)

/-- `NetPacketToKeyEvent` to `key`. What `ReadFunctionKeys` runs into is not checked. -/
def netPacketToKeyEvent (uninitialized : KeyUninitialized) (pkt : StreamBuffer)
    (key : KeyEvent) : Bool × KeyEvent × StreamBuffer :=
  let (ok, inputEvent, pkt) :=
    deserializeInputEvent uninitialized.sensorTime key.toInputEvent pkt
  let key := { key with toInputEvent := inputEvent }
  if !ok then (false, key, pkt)
  else
    let (keyCode, pkt) := pkt.get (0 : Int32)
    let (keyAction, pkt) := pkt.get keyCode
    let (keyIntention, pkt) := pkt.get keyAction
    let key := { key with keyCode, keyAction, keyIntention }
    let (size, pkt) := pkt.get (0 : Int32)
    if MAX_KEY_SIZE < size then (false, key, pkt)
    else if pkt.chkRWError then (false, key, pkt)
    else
      match readKeyItems uninitialized.unicode size.toInt.toNat keyIntention false key pkt with
      | (false, key, pkt) => (false, key, pkt)
      | (true, key, pkt) =>
        let (key, pkt) := readFunctionKeys key pkt
        (true, key, pkt)

end DeviceStatus.InputEvents
