import DeviceStatus.Cooperate.Packets
import DeviceStatus.Ipc.Codec
import DeviceStatus.Ipc.NetPacket

/-!
# Cooperation messages as bytes

What `DSoftbusHandler` writes to a packet for each message and what it reads from the packets
of a peer. A decoder sends one event to the cooperation thread or, when it cannot read what it
needs, none. Fields that were added in later versions come last; a decoder reads each of them
in turn and gives it a default once the packet is in error.

## Main definitions

* `DSoftbusWire.startCooperate` and its siblings — the packet of a message, if it could be
  written.
* `DSoftbusWire.onPacket` — the event that the packet of a peer becomes.
-/

namespace DeviceStatus.Cooperation

open Ipc (StreamBuffer NetPacket)

/-! The enumerators of `enum class MessageId` that `DSoftbusHandler` uses. -/

def DSOFTBUS_START_COOPERATE : Ipc.MessageId := 6
def DSOFTBUS_STOP_COOPERATE : Ipc.MessageId := 9
def DSOFTBUS_COME_BACK : Ipc.MessageId := 10
def DSOFTBUS_RELAY_COOPERATE : Ipc.MessageId := 11
def DSOFTBUS_RELAY_COOPERATE_FINISHED : Ipc.MessageId := 12
def DSOFTBUS_SUBSCRIBE_MOUSE_LOCATION : Ipc.MessageId := 15
def DSOFTBUS_UNSUBSCRIBE_MOUSE_LOCATION : Ipc.MessageId := 16
def DSOFTBUS_REPLY_SUBSCRIBE_MOUSE_LOCATION : Ipc.MessageId := 17
def DSOFTBUS_REPLY_UNSUBSCRIBE_MOUSE_LOCATION : Ipc.MessageId := 18
def DSOFTBUS_MOUSE_LOCATION : Ipc.MessageId := 19
def DSOFTBUS_INPUT_DEV_HOT_PLUG : Ipc.MessageId := 24
def DSOFTBUS_INPUT_DEV_SYNC : Ipc.MessageId := 25
def DSOFTBUS_COME_BACK_WITH_OPTIONS : Ipc.MessageId := 28
def DSOFTBUS_COOPERATE_WITH_OPTIONS : Ipc.MessageId := 29
def DSOFTBUS_RELAY_COOPERATE_WITHOPTIONS : Ipc.MessageId := 30
def DSOFTBUS_RELAY_COOPERATE_WITHOPTIONS_FINISHED : Ipc.MessageId := 31

def MAX_INPUT_DEV_NUM : Int32 := 100

def InputHotplugType.toInt32 : InputHotplugType → Int32
  | .plug => 0
  | .unplug => 1
  | .other value => value

def InputHotplugType.ofInt32 (value : Int32) : InputHotplugType :=
  if value = 0 then .plug else if value = 1 then .unplug else .other value

/-- `IDevice::KEYBOARD_TYPE_MAX`. -/
def KEYBOARD_TYPE_MAX : Int32 := 6

/-- `SetKeyboardType`: a number that is no keyboard type is ignored. -/
def Device.setKeyboardType (type : Int32) (device : Device) : Device :=
  if 0 ≤ type ∧ type < KEYBOARD_TYPE_MAX then { device with keyboardType := type } else device

namespace DSoftbusWire

/-! ## Encoders -/

/-- The packet with what `write` puts in it, unless that ends in an error. -/
def buildPacket (msgId : Ipc.MessageId) (write : StreamBuffer → StreamBuffer) :
    Option NetPacket :=
  let packet := write {}
  if packet.chkRWError then none else some { toStreamBuffer := packet, msgId }

def startCooperate (event : DSoftbusStartCooperate) : Option NetPacket :=
  buildPacket DSOFTBUS_START_COOPERATE fun packet =>
    packet |>.putString event.originNetworkId |>.put event.cursorPos.x
      |>.put event.cursorPos.y |>.put event.success |>.put event.extra.priv
      |>.put event.pointerSpeed |>.put event.touchPadSpeed |>.put event.uid
      |>.put event.userId |>.putString event.accountId |>.put event.needCheckSameAccount

def startCooperateWithOptions (event : DSoftbusCooperateOptions) : Option NetPacket :=
  buildPacket DSOFTBUS_COOPERATE_WITH_OPTIONS fun packet =>
    packet |>.putString event.originNetworkId |>.put event.cooperateOptions.displayX
      |>.put event.cooperateOptions.displayY |>.put event.cooperateOptions.displayId
      |>.put event.success |>.put event.extra.priv |>.put event.pointerSpeed
      |>.put event.touchPadSpeed |>.put event.userId |>.putString event.accountId
      |>.put event.needCheckSameAccount

def stopCooperate : Option NetPacket :=
  buildPacket DSOFTBUS_STOP_COOPERATE id

def comeBack (event : DSoftbusComeBack) : Option NetPacket :=
  buildPacket DSOFTBUS_COME_BACK fun packet =>
    packet |>.putString event.originNetworkId |>.put event.cursorPos.x
      |>.put event.cursorPos.y |>.put event.extra.priv |>.put event.uid

def comeBackWithOptions (event : DSoftbusComeBackWithOptions) : Option NetPacket :=
  buildPacket DSOFTBUS_COME_BACK_WITH_OPTIONS fun packet =>
    packet |>.putString event.originNetworkId |>.put event.cooperateOptions.displayX
      |>.put event.cooperateOptions.displayY |>.put event.cooperateOptions.displayId
      |>.put event.extra.priv

def relayCooperate (event : DSoftbusRelayCooperate) : Option NetPacket :=
  buildPacket DSOFTBUS_RELAY_COOPERATE fun packet =>
    packet |>.putString event.targetNetworkId |>.put event.pointerSpeed
      |>.put event.touchPadSpeed |>.put event.uid |>.put event.userId
      |>.putString event.accountId |>.put event.needCheckSameAccount

def relayCooperateFinish (event : DSoftbusRelayCooperateFinished) : Option NetPacket :=
  buildPacket DSOFTBUS_RELAY_COOPERATE_FINISHED fun packet =>
    packet |>.putString event.targetNetworkId |>.put event.normal |>.put event.uid

def relayCooperateWithOptions (event : DSoftbusRelayCooperate) : Option NetPacket :=
  buildPacket DSOFTBUS_RELAY_COOPERATE_WITHOPTIONS fun packet =>
    packet |>.putString event.targetNetworkId |>.put event.pointerSpeed
      |>.put event.touchPadSpeed |>.put event.userId |>.putString event.accountId
      |>.put event.needCheckSameAccount

def relayCooperateWithOptionsFinish (event : DSoftbusRelayCooperateFinished) :
    Option NetPacket :=
  buildPacket DSOFTBUS_RELAY_COOPERATE_WITHOPTIONS_FINISHED fun packet =>
    packet |>.putString event.targetNetworkId |>.put event.normal

/-! ## Decoders -/

def onStartCooperate (networkId : NetworkId) (packet : StreamBuffer) : Option CooperateEvent :=
  let (originNetworkId, packet) := packet.getString []
  let (x, packet) := packet.get 0
  let (y, packet) := packet.get 0
  let (success, packet) := packet.get false
  if packet.chkRWError then none
  else
    let (priv, packet) := packet.getOr 0 0
    let (pointerSpeed, packet) := packet.getOr (-1) (-1)
    let (touchPadSpeed, packet) := packet.getOr (-1) (-1)
    let (uid, packet) := packet.getOr 0 0
    let (userId, packet) := packet.getOr (-1) (-1)
    let (accountId, packet) := packet.getStringOr [] []
    let (needCheckSameAccount, _) := packet.getOr true false
    some (.dsoftbusStartCooperate
      { networkId, originNetworkId, success, cursorPos := { x, y }, extra := { priv },
        pointerSpeed, touchPadSpeed, uid, userId, accountId, needCheckSameAccount })

def onStopCooperate (networkId : NetworkId) (_ : StreamBuffer) : Option CooperateEvent :=
  some (.dsoftbusStopCooperate { networkId, normal := true })

def onStartCooperateWithOptions (networkId : NetworkId) (packet : StreamBuffer) :
    Option CooperateEvent :=
  let (originNetworkId, packet) := packet.getString []
  let (displayX, packet) := packet.get (-1)
  let (displayY, packet) := packet.get (-1)
  let (displayId, packet) := packet.get (-1)
  let (success, packet) := packet.get false
  if packet.chkRWError then none
  else
    let (priv, packet) := packet.getOr 0 0
    let (pointerSpeed, packet) := packet.getOr (-1) (-1)
    let (touchPadSpeed, packet) := packet.getOr (-1) (-1)
    let (userId, packet) := packet.getOr (-1) (-1)
    let (accountId, packet) := packet.getStringOr [] []
    let (needCheckSameAccount, _) := packet.getOr true false
    some (.dsoftbusCooperateWithOptions
      { networkId, originNetworkId, success,
        cooperateOptions := { displayX, displayY, displayId }, extra := { priv },
        pointerSpeed, touchPadSpeed, userId, accountId, needCheckSameAccount })

def onComeBack (networkId : NetworkId) (packet : StreamBuffer) : Option CooperateEvent :=
  let (originNetworkId, packet) := packet.getString []
  let (x, packet) := packet.get 0
  let (y, packet) := packet.get 0
  if packet.chkRWError then none
  else
    let (priv, packet) := packet.getOr 0 0
    let (uid, _) := packet.getOr 0 0
    some (.dsoftbusComeBack
      { networkId, originNetworkId, success := true, cursorPos := { x, y }, extra := { priv },
        uid })

def onComeBackWithOptions (networkId : NetworkId) (packet : StreamBuffer) :
    Option CooperateEvent :=
  let (originNetworkId, packet) := packet.getString []
  let (displayX, packet) := packet.get (-1)
  let (displayY, packet) := packet.get (-1)
  let (displayId, packet) := packet.get (-1)
  if packet.chkRWError then none
  else
    let (priv, _) := packet.getOr 0 0
    some (.dsoftbusComeBackWithOptions
      { networkId, originNetworkId, success := true,
        cooperateOptions := { displayX, displayY, displayId }, extra := { priv } })

def onRelayCooperate (networkId : NetworkId) (packet : StreamBuffer) : Option CooperateEvent :=
  let (targetNetworkId, packet) := packet.getString []
  if packet.chkRWError then none
  else
    let (pointerSpeed, packet) := packet.getOr (-1) (-1)
    let (touchPadSpeed, packet) := packet.getOr (-1) (-1)
    let (uid, packet) := packet.getOr 0 0
    let (userId, packet) := packet.getOr (-1) (-1)
    let (accountId, packet) := packet.getStringOr [] []
    let (needCheckSameAccount, _) := packet.getOr true false
    some (.dsoftbusRelayCooperate
      { networkId, targetNetworkId, normal := true, pointerSpeed, touchPadSpeed, uid, userId,
        accountId, needCheckSameAccount })

def onRelayCooperateFinish (networkId : NetworkId) (packet : StreamBuffer) :
    Option CooperateEvent :=
  let (targetNetworkId, packet) := packet.getString []
  let (normal, packet) := packet.get false
  if packet.chkRWError then none
  else
    let (uid, _) := packet.getOr 0 0
    some (.dsoftbusRelayCooperateFinished { networkId, targetNetworkId, normal, uid })

def onRelayCooperateWithOptions (networkId : NetworkId) (packet : StreamBuffer) :
    Option CooperateEvent :=
  let (targetNetworkId, packet) := packet.getString []
  if packet.chkRWError then none
  else
    let (pointerSpeed, packet) := packet.getOr (-1) (-1)
    let (touchPadSpeed, packet) := packet.getOr (-1) (-1)
    let (userId, packet) := packet.getOr (-1) (-1)
    let (accountId, packet) := packet.getStringOr [] []
    let (needCheckSameAccount, _) := packet.getOr true false
    some (.dsoftbusRelayCooperateWithOptions
      { networkId, targetNetworkId, normal := true, pointerSpeed, touchPadSpeed, userId,
        accountId, needCheckSameAccount })

def onRelayCooperateWithOptionsFinish (networkId : NetworkId) (packet : StreamBuffer) :
    Option CooperateEvent :=
  let (targetNetworkId, packet) := packet.getString []
  let (normal, packet) := packet.get false
  if packet.chkRWError then none
  else some (.dsoftbusRelayCooperateWithOptionsFinished { networkId, targetNetworkId, normal })

/-- The two ids of `OnSubscribeMouseLocation` and `OnUnSubscribeMouseLocation`. -/
def getSubscription (packet : StreamBuffer) : Option DSoftbusSubscribeMouseLocation :=
  let (networkId, packet) := packet.getString []
  let (remoteNetworkId, packet) := packet.getString []
  if packet.chkRWError then none else some { networkId, remoteNetworkId }

def onSubscribeMouseLocation (_ : NetworkId) (packet : StreamBuffer) : Option CooperateEvent :=
  (getSubscription packet).map .dsoftbusSubscribeMouseLocation

def onUnSubscribeMouseLocation (_ : NetworkId) (packet : StreamBuffer) : Option CooperateEvent :=
  (getSubscription packet).map .dsoftbusUnsubscribeMouseLocation

/-- The fields of `OnReplySubscribeLocation` and `OnReplyUnSubscribeLocation`. -/
def getReply (packet : StreamBuffer) : Option DSoftbusReplySubscribeMouseLocation :=
  let (networkId, packet) := packet.getString []
  let (remoteNetworkId, packet) := packet.getString []
  let (result, packet) := packet.get false
  if packet.chkRWError then none else some { networkId, remoteNetworkId, result }

def onReplySubscribeLocation (_ : NetworkId) (packet : StreamBuffer) : Option CooperateEvent :=
  (getReply packet).map .dsoftbusReplySubscribeMouseLocation

def onReplyUnSubscribeLocation (_ : NetworkId) (packet : StreamBuffer) : Option CooperateEvent :=
  (getReply packet).map .dsoftbusReplyUnsubscribeMouseLocation

def onRemoteMouseLocation (_ : NetworkId) (packet : StreamBuffer) : Option CooperateEvent :=
  let (networkId, packet) := packet.getString []
  let (remoteNetworkId, packet) := packet.getString []
  let (displayX, packet) := packet.get 0
  let (displayY, packet) := packet.get 0
  let (displayWidth, packet) := packet.get 0
  let (displayHeight, packet) := packet.get 0
  if packet.chkRWError then none
  else
    some (.dsoftbusMouseLocation
      { networkId, remoteNetworkId,
        mouseLocation := { displayX, displayY, displayWidth, displayHeight } })

/-- A value that cannot be read is that of the variable before, and the packet is in error. -/
def deserializeDevice (packet : StreamBuffer) : Option Device × StreamBuffer :=
  let (id, packet) := packet.get 0
  let (devPath, packet) := packet.getString []
  let (sysPath, packet) := packet.getString devPath
  let (bus, packet) := packet.get id
  let (vendor, packet) := packet.get bus
  let (product, packet) := packet.get vendor
  let (version, packet) := packet.get product
  let (name, packet) := packet.getString sysPath
  let (phys, packet) := packet.getString name
  let (uniq, packet) := packet.getString phys
  let (isPointerDevice, packet) := packet.get false
  let (isKeyboard, packet) := packet.get false
  let (keyboardType, packet) := packet.get 0
  if packet.chkRWError then (none, packet)
  else
    let device : Device :=
      { Device.invalid with
        id, devPath, sysPath, bus, vendor, product, version, name, phys, uniq,
        isPointerDevice, isKeyboard }
    (some (device.setKeyboardType keyboardType), packet)

/-- The devices of `OnRemoteInputDevice`, one after another. -/
def deserializeDevices : Nat → StreamBuffer → Option (List Device)
  | 0, _ => some []
  | n + 1, packet =>
    match deserializeDevice packet with
    | (none, _) => none
    | (some device, packet) => (deserializeDevices n packet).map (device :: ·)

def onRemoteInputDevice (networkId : NetworkId) (packet : StreamBuffer) :
    Option CooperateEvent :=
  let (devNum, packet) := packet.get (-1)
  if devNum ≤ 0 ∨ MAX_INPUT_DEV_NUM ≤ devNum then none
  else
    (deserializeDevices devNum.toInt.toNat packet).map fun devices =>
      .dsoftbusInputDevSync { networkId, devices }

/-- The id of the sender goes unused: the event has the empty one. -/
def onRemoteHotPlug (_ : NetworkId) (packet : StreamBuffer) : Option CooperateEvent :=
  let (type, packet) := packet.get 0
  match deserializeDevice packet with
  | (none, _) => none
  | (some device, _) =>
    some (.dsoftbusInputDevHotPlug
      { networkId := [], type := InputHotplugType.ofInt32 type, device })

/-- `handles_`: the decoder of a message. -/
def handles (msgId : Ipc.MessageId) :
    Option (NetworkId → StreamBuffer → Option CooperateEvent) :=
  if msgId = DSOFTBUS_START_COOPERATE then some onStartCooperate
  else if msgId = DSOFTBUS_STOP_COOPERATE then some onStopCooperate
  else if msgId = DSOFTBUS_COME_BACK then some onComeBack
  else if msgId = DSOFTBUS_COME_BACK_WITH_OPTIONS then some onComeBackWithOptions
  else if msgId = DSOFTBUS_RELAY_COOPERATE then some onRelayCooperate
  else if msgId = DSOFTBUS_RELAY_COOPERATE_FINISHED then some onRelayCooperateFinish
  else if msgId = DSOFTBUS_SUBSCRIBE_MOUSE_LOCATION then some onSubscribeMouseLocation
  else if msgId = DSOFTBUS_UNSUBSCRIBE_MOUSE_LOCATION then some onUnSubscribeMouseLocation
  else if msgId = DSOFTBUS_REPLY_SUBSCRIBE_MOUSE_LOCATION then some onReplySubscribeLocation
  else if msgId = DSOFTBUS_REPLY_UNSUBSCRIBE_MOUSE_LOCATION then some onReplyUnSubscribeLocation
  else if msgId = DSOFTBUS_MOUSE_LOCATION then some onRemoteMouseLocation
  else if msgId = DSOFTBUS_INPUT_DEV_SYNC then some onRemoteInputDevice
  else if msgId = DSOFTBUS_INPUT_DEV_HOT_PLUG then some onRemoteHotPlug
  else if msgId = DSOFTBUS_COOPERATE_WITH_OPTIONS then some onStartCooperateWithOptions
  else if msgId = DSOFTBUS_RELAY_COOPERATE_WITHOPTIONS then some onRelayCooperateWithOptions
  else if msgId = DSOFTBUS_RELAY_COOPERATE_WITHOPTIONS_FINISHED then
    some onRelayCooperateWithOptionsFinish
  else none

/-- The event that `OnPacket` sends for a packet from `networkId`. -/
def onPacket (networkId : NetworkId) (packet : NetPacket) : Option CooperateEvent :=
  match handles packet.msgId with
  | some handle => handle networkId packet.toStreamBuffer
  | none => none

end DSoftbusWire

end DeviceStatus.Cooperation
