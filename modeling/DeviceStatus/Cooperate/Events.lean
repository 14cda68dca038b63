import Mathlib.Data.List.Basic

/-!
# Events of the cooperation thread

The payloads of `CooperateEvent` and its tags, as `cooperate_events.h` declares them.
Every request of a client, every packet of a peer and every timer reaches the state
machine as one of these events. A `std::string` is its bytes; a promise and an observer
are known by an identity, since only the object they point to matters.
-/

namespace DeviceStatus.Cooperation

/-- A `std::string`: any bytes, in no particular encoding. -/
abbrev StdString := List UInt8

abbrev NetworkId := StdString

/-- The identity of a `std::promise<int32_t>` that a caller waits on. -/
abbrev Promise := Nat

/-- The identity of an `ICooperateObserver`. -/
abbrev ObserverId := Nat

def RET_OK : Int32 := 0
def RET_ERR : Int32 := -1
def COMMON_PERMISSION_CHECK_ERROR : Int32 := 201
def COMMON_NOT_ALLOWED_DISTRIBUTED : Int32 := 40101

/-- `enum class CoordinationErrCode`. -/
inductive CoordinationErrCode where
  | coordinationOk | openSessionFailed | sendPacketFailed | unexpectedStartCall
  | workerThreadTimeout | notAollowCooperateWhenMotionDragging

/-- `static_cast<int32_t>` of an error code. -/
def CoordinationErrCode.toInt32 : CoordinationErrCode → Int32
  | .coordinationOk => 0
  | .openSessionFailed => 1
  | .sendPacketFailed => 2
  | .unexpectedStartCall => 3
  | .workerThreadTimeout => 4
  | .notAollowCooperateWhenMotionDragging => 5

/-- `enum class CoordinationMessage`. -/
inductive CoordinationMessage where
  | unknow | prepare | unprepare | activate | activateSuccess | activateFail
  | deactivateSuccess | deactivateFail | sessionClosed | coordinationSuccess
  | coordinationStatusFree | coordinationStatusOut | coordinationStatusIn
  deriving DecidableEq

structure Coordinate where
  x : Int32 := 0
  y : Int32 := 0
  deriving DecidableEq

abbrev NormalizedCoordinate := Coordinate

structure CooperateOptions where
  displayX : Int32 := -1
  displayY : Int32 := -1
  displayId : Int32 := -1
  deriving DecidableEq

abbrev NormalizedCooperateOptions := CooperateOptions

def COOPERATE_FLAG_HIDE_CURSOR : UInt32 := 0x1
def COOPERATE_FLAG_FREEZE_CURSOR : UInt32 := 0x2
def COOPERATE_WITH_CROSS_DRAGGING : UInt32 := 0x1

structure StartCooperateData where
  flag : UInt32 := 0
  priv : UInt32 := 0
  deriving DecidableEq

structure AddObserverEvent where
  observer : ObserverId

structure RegisterListenerEvent where
  pid : Int32
  userData : Int32 := 0

abbrev DisableCooperateEvent := RegisterListenerEvent

structure StartCooperateEvent where
  pid : Int32
  userData : Int32
  remoteNetworkId : NetworkId
  startDeviceId : Int32
  errCode : Promise
  uid : Int32 := 0
  userId : Int32 := -1
  accountId : StdString := []
  needCheckSameAccount : Bool := true

structure EnableCooperateEvent where
  tokenId : Int32
  pid : Int32
  userData : Int32

structure ClientDiedEvent where
  pid : Int32

structure StopCooperateEvent where
  pid : Int32 := 0
  userData : Int32 := 0
  isUnchained : Bool := false
  networkId : NetworkId := []

structure GetCooperateStateEvent where
  pid : Int32
  userData : Int32
  networkId : NetworkId := []

structure RegisterEventListenerEvent where
  pid : Int32
  networkId : NetworkId

structure DumpEvent where
  fd : Int32

structure DDMBoardOnlineEvent where
  networkId : NetworkId
  normal : Bool := false
  errCode : Int32 := CoordinationErrCode.coordinationOk.toInt32
  deriving DecidableEq

structure StatusChangeEvent where
  networkId : NetworkId
  msg : CoordinationMessage := .unknow

abbrev DDMBoardOfflineEvent := DDMBoardOnlineEvent
abbrev DDPCooperateSwitchChanged := DDMBoardOnlineEvent

/-- `enum class InputHotplugType`. A packet can hold a number that no enumerator has. -/
inductive InputHotplugType where
  | plug | unplug
  | other (value : Int32)
  deriving DecidableEq

structure InputHotplugEvent where
  deviceId : Int32
  type : InputHotplugType
  isKeyboard : Bool := false

structure InputPointerEvent where
  deviceId : Int32
  pointerAction : Int32
  sourceType : Int32
  position : Coordinate
  currentDisplayId : Int32 := 0
  pressedButtons : List Int32 := []

abbrev DSoftbusSessionOpened := DDMBoardOnlineEvent
abbrev DSoftbusSessionClosed := DDMBoardOnlineEvent

structure DSoftbusStartCooperate where
  networkId : NetworkId := []
  originNetworkId : NetworkId := []
  success : Bool := false
  cursorPos : NormalizedCoordinate := {}
  extra : StartCooperateData := {}
  errCode : Int32 := CoordinationErrCode.coordinationOk.toInt32
  pointerSpeed : Int32 := -1
  touchPadSpeed : Int32 := -1
  uid : Int32 := 0
  userId : Int32 := -1
  accountId : StdString := []
  needCheckSameAccount : Bool := true
  deriving DecidableEq

structure DSoftbusCooperateOptions where
  networkId : NetworkId := []
  originNetworkId : NetworkId := []
  success : Bool := false
  cooperateOptions : NormalizedCooperateOptions := {}
  extra : StartCooperateData := {}
  errCode : Int32 := CoordinationErrCode.coordinationOk.toInt32
  pointerSpeed : Int32 := -1
  touchPadSpeed : Int32 := -1
  userId : Int32 := -1
  accountId : StdString := []
  needCheckSameAccount : Bool := true
  deriving DecidableEq

abbrev DSoftbusStartCooperateFinished := DSoftbusStartCooperate
abbrev DSoftbusComeBack := DSoftbusStartCooperate
abbrev DSoftbusStopCooperate := DDMBoardOnlineEvent
abbrev DSoftbusStopCooperateFinished := DDMBoardOnlineEvent
abbrev DSoftbusCooperateWithOptionsFinished := DSoftbusCooperateOptions
abbrev DSoftbusComeBackWithOptions := DSoftbusCooperateOptions

structure DSoftbusRelayCooperate where
  networkId : NetworkId := []
  targetNetworkId : NetworkId := []
  normal : Bool := false
  pointerSpeed : Int32 := -1
  touchPadSpeed : Int32 := -1
  uid : Int32 := 0
  userId : Int32 := -1
  accountId : StdString := []
  needCheckSameAccount : Bool := true
  deriving DecidableEq

abbrev DSoftbusRelayCooperateFinished := DSoftbusRelayCooperate

structure DSoftbusSubscribeMouseLocation where
  networkId : NetworkId
  remoteNetworkId : NetworkId

structure DSoftbusReplySubscribeMouseLocation where
  networkId : NetworkId
  remoteNetworkId : NetworkId
  result : Bool := false

structure LocationInfo where
  displayX : Int32
  displayY : Int32
  displayWidth : Int32
  displayHeight : Int32

structure DSoftbusSyncMouseLocation where
  networkId : NetworkId
  remoteNetworkId : NetworkId
  mouseLocation : LocationInfo

/-- The fields of an `IDevice` that travel between devices. -/
structure Device where
  id : Int32
  devPath : StdString
  sysPath : StdString
  bus : Int32
  vendor : Int32
  product : Int32
  version : Int32
  name : StdString
  phys : StdString
  uniq : StdString
  isPointerDevice : Bool
  isKeyboard : Bool
  keyboardType : Int32
  deriving DecidableEq

/-- `Device(INVALID_DEVICE_ID)`. -/
def Device.invalid : Device where
  id := -1
  devPath := []
  sysPath := []
  bus := 0
  vendor := 0
  product := 0
  version := 0
  name := []
  phys := []
  uniq := []
  isPointerDevice := false
  isKeyboard := false
  keyboardType := 0

structure DSoftbusSyncInputDevice where
  networkId : NetworkId
  devices : List Device

structure DSoftbusHotPlugEvent where
  networkId : NetworkId
  type : InputHotplugType
  device : Device

structure NotAllowCooperateWhenMotionDragging where
  pid : Int32
  userData : Int32
  networkId : NetworkId
  success : Bool
  errCode : Int32 := CoordinationErrCode.coordinationOk.toInt32

structure UpdateCooperateFlagEvent where
  mask : UInt32
  flag : UInt32 := 0

/-- The coefficient is a `double`, kept as its bits. -/
structure SetDamplingCoefficientEvent where
  direction : UInt32
  coefficient : UInt64

structure UpdateVirtualDeviceIdMapEvent where
  remote2VirtualIds : List (Int32 × Int32)

structure StartWithOptionsEvent where
  pid : Int32 := -1
  userData : Int32 := 0
  remoteNetworkId : NetworkId := []
  startDeviceId : Int32 := -1
  displayX : Int32 := -1
  displayY : Int32 := -1
  displayId : Int32 := -1
  errCode : Promise := 0
  userId : Int32 := -1
  accountId : StdString := []
  needCheckSameAccount : Bool := true

/-- `struct CooperateEvent`: the type tag and the alternative of the variant that goes
with it. -/
inductive CooperateEvent where
  | noop
  | quit
  | addObserver (event : AddObserverEvent)
  | removeObserver (event : AddObserverEvent)
  | registerListener (event : RegisterListenerEvent)
  | unregisterListener (event : RegisterListenerEvent)
  | registerHotareaListener (event : RegisterListenerEvent)
  | unregisterHotareaListener (event : RegisterListenerEvent)
  | enable (event : EnableCooperateEvent)
  | disable (event : DisableCooperateEvent)
  | start (event : StartCooperateEvent)
  | withOptionsStart (event : StartWithOptionsEvent)
  | stop (event : StopCooperateEvent)
  | getCooperateState (event : GetCooperateStateEvent)
  | registerEventListener (event : RegisterEventListenerEvent)
  | unregisterEventListener (event : RegisterEventListenerEvent)
  | updateCooperateFlag (event : UpdateCooperateFlagEvent)
  | setDamplingCoefficient (event : SetDamplingCoefficientEvent)
  | dump (event : DumpEvent)
  | appClosed (event : ClientDiedEvent)
  | ddmBoardOnline (event : DDMBoardOnlineEvent)
  | ddmBoardOffline (event : DDMBoardOfflineEvent)
  | ddpCooperateSwitchChanged (event : DDPCooperateSwitchChanged)
  | inputHotplugEvent (event : InputHotplugEvent)
  | inputPointerEvent (event : InputPointerEvent)
  | dsoftbusSessionOpened (event : DSoftbusSessionOpened)
  | dsoftbusSessionClosed (event : DSoftbusSessionClosed)
  | dsoftbusStartCooperate (event : DSoftbusStartCooperate)
  | dsoftbusComeBack (event : DSoftbusComeBack)
  | dsoftbusStopCooperate (event : DSoftbusStopCooperate)
  | dsoftbusRelayCooperate (event : DSoftbusRelayCooperate)
  | dsoftbusRelayCooperateFinished (event : DSoftbusRelayCooperateFinished)
  | dsoftbusSubscribeMouseLocation (event : DSoftbusSubscribeMouseLocation)
  | dsoftbusUnsubscribeMouseLocation (event : DSoftbusSubscribeMouseLocation)
  | dsoftbusReplySubscribeMouseLocation (event : DSoftbusReplySubscribeMouseLocation)
  | dsoftbusReplyUnsubscribeMouseLocation (event : DSoftbusReplySubscribeMouseLocation)
  | dsoftbusMouseLocation (event : DSoftbusSyncMouseLocation)
  | dsoftbusInputDevSync (event : DSoftbusSyncInputDevice)
  | dsoftbusInputDevHotPlug (event : DSoftbusHotPlugEvent)
  | updateVirtualDevIdMap (event : UpdateVirtualDeviceIdMapEvent)
  | dsoftbusComeBackWithOptions (event : DSoftbusComeBackWithOptions)
  | dsoftbusCooperateWithOptions (event : DSoftbusCooperateOptions)
  | dsoftbusRelayCooperateWithOptions (event : DSoftbusRelayCooperate)
  | dsoftbusRelayCooperateWithOptionsFinished (event : DSoftbusRelayCooperateFinished)
  | stopAboutVirtualTrackpad (event : StopCooperateEvent)

def DEFAULT_TIMEOUT : Int32 := 5000
def DEFAULT_COOLING_TIME : Int32 := 10

end DeviceStatus.Cooperation
