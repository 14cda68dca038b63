import DeviceStatus.Cooperate.Packets

/-!
# The state of the cooperation service on one device

`Cooperate` is everything one device keeps: the `Context` with its components, the data of
the state machine and the speed settings of the input service. What lies outside the
repository answers through `Env`, one record for each event that is processed, and what the
code asks of it is written to `effects` in order.

## Main definitions

* `Env` — the answers of the drag manager, dsoftbus, the device and account services.
* `Output`, `Call`, `Effect` — what an event makes the device do.
* `Cooperate` — the whole state.
* `Context.*` — the operations of `cooperate_context.cpp`.
-/

namespace DeviceStatus.Cooperation

/-- `enum class DragState`. -/
inductive DragState where
  | error | start | stop | cancel | motionDragging
  deriving DecidableEq

/-- `enum CooperateState`. -/
inductive CooperateState where
  | free | out | in
  deriving DecidableEq

/-- The steps of `CooperateIn`; the other states only have their `Initial` step. -/
inductive InStep where
  | initial | relayConfirmation
  deriving DecidableEq

/-- `enum class MessageId`, the ids of the notices that go to local clients. -/
inductive MessageId where
  | invalid | coordinationAddListener | coordinationMessage | coordinationGetState
  deriving DecidableEq

structure CooperateNotice where
  pid : Int32 := -1
  msgId : MessageId := .invalid
  userData : Int32 := -1
  networkId : NetworkId := []
  msg : CoordinationMessage := .prepare
  errCode : Int32 := CoordinationErrCode.coordinationOk.toInt32
  deriving DecidableEq

structure CooperateStateNotice where
  pid : Int32 := -1
  msgId : MessageId := .invalid
  userData : Int32 := -1
  state : Bool := false
  errCode : Int32 := CoordinationErrCode.coordinationOk.toInt32

structure CooperateInfo where
  normalizedCoords : NormalizedCoordinate
  cooperateOptions : CooperateOptions

/-- What leaves the cooperation thread for a peer, for a caller or for a later event. -/
inductive Output where
  /-- a packet that dsoftbus took for the session with `networkId` -/
  | packet (networkId : NetworkId) (packet : DSoftbusPacket)
  | closeSession (networkId : NetworkId)
  /-- an event sent to the device's own channel -/
  | event (event : CooperateEvent)
  /-- a one-shot timer that sends `event` to the channel when it expires -/
  | addTimer (timerId interval : Int32) (event : CooperateEvent)
  | removeTimer (timerId : Int32)
  /-- the value of the promise that a start request carries -/
  | errCode (errCode : Promise) (value : Int32)
  /-- the ACTIVATE_SUCCESS or ACTIVATE_FAIL answer to a start request, as it is handed to
  `NotifyCooperateMessage` -/
  | answer (notice : CooperateNotice)

/-- A task that `Context` posts for an observer. -/
inductive ObserverCall where
  | onStopCooperate (remoteNetworkId : NetworkId)
  | onTransitionOut (remoteNetworkId : NetworkId) (info : CooperateInfo)
  | onTransitionIn (remoteNetworkId : NetworkId) (info : CooperateInfo)
  | onBack (remoteNetworkId : NetworkId) (info : CooperateInfo)
  | onRelay (remoteNetworkId : NetworkId) (info : CooperateInfo)
  | onReset
  | closeDistributedFileConnection (remoteNetworkId : NetworkId)

/-- A call of a component or of a service that the cooperation thread does not wait for. -/
inductive Call where
  | openSession (networkId : NetworkId)
  | startHeartBeat (networkId : NetworkId)
  | closeAllSessions
  | notifyCooperateState (notice : CooperateStateNotice)
  | observer (observer : ObserverId) (call : ObserverCall)
  | setPointerVisibility (visible : Bool)
  | setPointerLocation (x y displayId : Int32)
  | setPointerSpeed (speed : Int32)
  | setTouchPadSpeed (speed : Int32)
  | simulateShowPointerEvent (pressedButtons : List Int32)
  | addInterceptor (interceptorId : Int32)
  | removeInterceptor (interceptorId : Int32)
  | addBuilderObserver
  | removeBuilderObserver
  | turnOffChannelScan
  | turnOnChannelScan
  | resetPressedEvents
  | removeTimerAsync (timerId : Int32)
  | addMonitor (monitorId : Int32)
  | removeMonitor (monitorId : Int32)
  | addPreMonitor (preMonitorId : Int32)
  | removePreMonitor (preMonitorId : Int32)
  | addCommonEventObserver
  | removeCommonEventObserver
  | registerDevListener
  | unregisterDevListener
  | registerApplicationStateObserver (bundleNames : List StdString)
  | unregisterApplicationStateObserver
  | addVirtualInputDevice (networkId : NetworkId)
  | removeVirtualInputDevice (networkId : NetworkId)
  | removeAllVirtualInputDevice
  | notifyInputDeviceToRemote (networkId : NetworkId)
  | removeAllRemoteInputDevice (networkId : NetworkId)
  | broadcastHotPlugToRemote (event : InputHotplugEvent)
  | addRemoteInputDevice (networkId : NetworkId) (devices : List Device)
  | hotAreaAddListener (event : RegisterListenerEvent)
  | hotAreaRemoveListener (event : RegisterListenerEvent)
  | hotAreaEnableCooperate (event : EnableCooperateEvent)
  | hotAreaOnClientDied (event : ClientDiedEvent)
  | mouseLocationAddListener (event : RegisterEventListenerEvent)
  | mouseLocationRemoveListener (event : RegisterEventListenerEvent)
  | mouseLocationOnClientDied (event : ClientDiedEvent)
  | mouseLocationOnSoftbusSessionClosed (event : DSoftbusSessionClosed)
  | mouseLocationOnSubscribe (event : DSoftbusSubscribeMouseLocation)
  | mouseLocationOnUnSubscribe (event : DSoftbusSubscribeMouseLocation)
  | mouseLocationOnReplySubscribe (event : DSoftbusReplySubscribeMouseLocation)
  | mouseLocationOnReplyUnSubscribe (event : DSoftbusReplySubscribeMouseLocation)
  | mouseLocationOnRemoteMouseLocation (event : DSoftbusSyncMouseLocation)

inductive Effect where
  | output (output : Output)
  /-- a call of `NotifyCooperateMessage`, for a request or for a listener -/
  | notice (notice : CooperateNotice)
  | call (call : Call)

/-- A notice that ends a start request: an answer of the request's own, not what a
listener is told. -/
def CooperateNotice.isAnswer (notice : CooperateNotice) : Bool :=
  notice.msgId = .coordinationMessage ∧
    (notice.msg = .activateSuccess ∨ notice.msg = .activateFail)

def Output.answer? : Output → Option CooperateNotice
  | .answer notice => some notice
  | _ => none

def Effect.notice? : Effect → Option CooperateNotice
  | .notice n => some n
  | _ => none

def Effect.output? : Effect → Option Output
  | .output o => some o
  | .notice n => if n.isAnswer then some (.answer n) else none
  | .call _ => none

structure Display where
  displayId : Int32 := 0
  width : Int32
  height : Int32

/-- Constants of the input service, which is not part of the repository. -/
structure PointerConstants where
  SOURCE_TYPE_MOUSE : Int32 := 1
  POINTER_ACTION_MOVE : Int32 := 3
  POINTER_ACTION_PULL_MOVE : Int32 := 9
  POINTER_ACTION_ENTER_WINDOW : Int32 := 15
  POINTER_ACTION_LEAVE_WINDOW : Int32 := 16
  POINTER_ACTION_PULL_IN_WINDOW : Int32 := 13
  POINTER_ACTION_PULL_OUT_WINDOW : Int32 := 14

/-- The answers of the surroundings while one event is processed. The defaults are those of
a device on which every call succeeds. -/
structure Env where
  localNetworkId : NetworkId
  mmi : PointerConstants := {}
  dragState : DragState := .stop
  isCrossDragging : Bool := false
  hasSessionExisted : NetworkId → Bool := fun _ => false
  openSession : NetworkId → Int32 := fun _ => RET_OK
  checkDeviceOnline : NetworkId → Int32 := fun _ => RET_OK
  /-- the result of `SendPacket`, given how many outputs the event has had before it -/
  sendPacket : Nat → NetworkId → DSoftbusPacket → Int32 := fun _ _ _ => RET_OK
  /-- whether `FindSessionByPid` finds the socket session that a notice is for, given how often
  the event has had this notice before -/
  findSessionByPid : Nat → CooperateNotice → Bool := fun _ _ => true
  /-- the result of `SendMsg` of that session -/
  sendMsg : Nat → CooperateNotice → Bool := fun _ _ => true
  hasLocalPointerDevice : Bool := true
  inputHasLocalPointerDevice : Bool := true
  hasPencilAirMouse : Bool := false
  checkSrcIsSameAccount : NetworkId → Bool := fun _ => true
  checkSinkIsSameAccount : NetworkId → Int32 → StdString → Bool := fun _ _ _ => true
  checkSameAccountToLocal : NetworkId → Bool := fun _ => true
  userId : Int32 := -1
  accountId : StdString := []
  isAllowCooperate : ObserverId → Bool := fun _ => true
  onStartCooperate : ObserverId → StartCooperateData → StartCooperateData := fun _ data => data
  onRemoteStartCooperate : ObserverId → StartCooperateData → StartCooperateData :=
    fun _ data => data
  displayById : Int32 → Option Display := fun _ => none
  visibleAreaDisplayInfoById : Int32 → Option Display := fun _ => none
  defaultDisplay : Option Display := none
  /-- the `double` arithmetic of `GetCursorPos`, which scales percentages to a display -/
  scaleToDisplay : Display → Coordinate → Coordinate := fun _ pos => pos
  /-- the speed in force after `SetPointerSpeed`, from the current and the requested one -/
  applyPointerSpeed : Int32 → Int32 → Int32 := fun _ speed => speed
  applyTouchPadSpeed : Int32 → Int32 → Int32 := fun _ speed => speed
  addInterceptor : Int32 := 1
  addTimer : Int32 := 0
  addMonitor : Int32 := 0
  addPreMonitor : Int32 := 0
  /-- whether `GetAppMgr` finds the application manager -/
  getAppMgr : Bool := true
  registerApplicationStateObserver : Bool := true
  packageName : Int32 → StdString := fun _ => []
  /-- the buttons that are down in the builder's own pointer event -/
  builderPressedButtons : List Int32 := []
  /-- the id of the virtual track pad, which the listener of devices writes from its own thread -/
  virtualTrackpadDeviceId : Int32 := -1

/-- `EventManager::EventInfo` of type LISTENER. -/
structure Listener where
  pid : Int32
  userData : Int32 := -1
  deriving DecidableEq

/-- `EventManager::EventInfo` of a request that waits for its answer. -/
structure PendingCall where
  pid : Int32
  userData : Int32
  networkId : NetworkId := []
  deriving DecidableEq

/-- `calls_` only ever holds a start and a stop request. -/
structure EventManager where
  listeners : List Listener := []
  startCall : Option PendingCall := none
  stopCall : Option PendingCall := none

structure InputEventBuilder where
  enable : Bool := false
  freezing : Bool := false
  xDir : Int32 := 0
  movement : Int32 := 0
  pointerEventTimer : Int32 := -1
  pointerSpeed : Int32 := -1
  touchPadSpeed : Int32 := -1
  remoteNetworkId : NetworkId := []
  localNetworkId : NetworkId := []
  remote2VirtualIds : List (Int32 × Int32) := []

structure InputEventInterceptor where
  interceptorId : Int32 := -1
  pointerEventTimer : Int32 := -1
  remoteNetworkId : NetworkId := []

structure Context where
  remoteNetworkId : NetworkId := []
  startDeviceId : Int32 := -1
  flag : UInt32 := 0
  priv : UInt32 := 0
  cursorPos : Coordinate := {}
  cooperateOptions : CooperateOptions := {}
  currentDisplayId : Int32 := 0
  peerPointerSpeed : Int32 := -1
  originPointerSpeed : Int32 := -1
  peerTouchPadSpeed : Int32 := -1
  originTouchPadSpeed : Int32 := -1
  observers : List ObserverId := []
  eventMgr : EventManager := {}
  inputEventBuilder : InputEventBuilder := {}
  inputEventInterceptor : InputEventInterceptor := {}

/-- `ICooperateState::Process`. -/
structure Process where
  remoteNetworkId : NetworkId := []
  startDeviceId : Int32 := -1

/-- The data of `StateMachine` and of its state and step objects. -/
structure StateMachine where
  current : CooperateState := .free
  onlineBoards : List NetworkId := []
  monitorId : Int32 := -1
  preMonitorId : Int32 := -1
  clientBundleNames : List StdString := []
  /-- the client whose death `appStateObserver_` reports, while there is an observer -/
  appStateObserver : Option Int32 := none
  isCooperateEnable : Bool := false
  outPressedButtons : List Int32 := []
  inStep : InStep := .initial
  process : Process := {}
  timerId : Int32 := -1
  startWithOptionsEvent : StartWithOptionsEvent := {}

/-- The speeds that the input service has in force. -/
structure InputSettings where
  pointerSpeed : Int32 := 10
  touchPadSpeed : Int32 := 10

structure Cooperate where
  context : Context := {}
  machine : StateMachine := {}
  input : InputSettings := {}
  effects : List Effect := []

namespace Cooperate

def effect (effect : Effect) (m : Cooperate) : Cooperate :=
  { m with effects := m.effects ++ [effect] }

def emit (output : Output) (m : Cooperate) : Cooperate :=
  m.effect (.output output)

def call (call : Call) (m : Cooperate) : Cooperate :=
  m.effect (.call call)

def outputs (m : Cooperate) : List Output :=
  m.effects.filterMap Effect.output?

/-- `Context::Peer`. -/
def peer (m : Cooperate) : NetworkId := m.context.remoteNetworkId

/-- `Context::IsPeer`. -/
def isPeer (m : Cooperate) (networkId : NetworkId) : Bool := networkId = m.peer

/-- `Context::NeedHideCursor`. -/
def needHideCursor (m : Cooperate) : Bool :=
  m.context.flag &&& COOPERATE_FLAG_HIDE_CURSOR ≠ 0

/-- `Context::NeedFreezeCursor`. -/
def needFreezeCursor (m : Cooperate) : Bool :=
  m.context.flag &&& COOPERATE_FLAG_FREEZE_CURSOR ≠ 0

/-- `Context::IsCooperateWithCrossDrag`. -/
def isCooperateWithCrossDrag (m : Cooperate) : Bool :=
  m.context.priv &&& COOPERATE_WITH_CROSS_DRAGGING ≠ 0

end Cooperate

namespace Env

/-- `Context::IsLocal`. -/
def isLocal (env : Env) (networkId : NetworkId) : Bool := networkId = env.localNetworkId

/-- Whether some pointer device is attached, as the `SetPointerVisible` functions ask. -/
def hasPointerDevice (env : Env) : Bool :=
  env.hasLocalPointerDevice || env.inputHasLocalPointerDevice || env.hasPencilAirMouse

end Env

namespace Context

variable (env : Env)

def addObserver (observer : ObserverId) (m : Cooperate) : Cooperate :=
  { m with context.observers :=
      if observer ∈ m.context.observers then m.context.observers
      else m.context.observers ++ [observer] }

def removeObserver (observer : ObserverId) (m : Cooperate) : Cooperate :=
  { m with context.observers := m.context.observers.filter (· ≠ observer) }

def PERCENT : Int := 100

/-- The divisions are made on `double`s and cut to integers; on values of this size that is
the integer division towards zero. -/
def normalizedCursorPosition (m : Cooperate) : NormalizedCoordinate :=
  match env.displayById m.context.currentDisplayId with
  | none => {}
  | some display =>
    if display.width ≤ 0 ∨ display.height ≤ 0 then {}
    else
      { x := Int32.ofInt
          (Int.tdiv ((m.context.cursorPos.x.toInt + 1) * PERCENT) display.width.toInt)
        y := Int32.ofInt
          (Int.tdiv ((m.context.cursorPos.y.toInt + 1) * PERCENT) display.height.toInt) }

def disableCooperate (m : Cooperate) : Cooperate :=
  { m with context.priv := 0 }

def resetPriv (m : Cooperate) : Cooperate :=
  { m with context.priv := 0 }

def startCooperate (event : StartCooperateEvent) (m : Cooperate) : Cooperate :=
  { m with
    context.remoteNetworkId := event.remoteNetworkId
    context.startDeviceId := event.startDeviceId
    context.priv := 0 }

def onPointerEvent (event : InputPointerEvent) (m : Cooperate) : Cooperate :=
  if event.sourceType = env.mmi.SOURCE_TYPE_MOUSE ∧
      (event.pointerAction = env.mmi.POINTER_ACTION_MOVE ∨
        event.pointerAction = env.mmi.POINTER_ACTION_PULL_MOVE) then
    { m with
      context.cursorPos := event.position
      context.currentDisplayId :=
        if event.currentDisplayId = -1 then 0 else event.currentDisplayId }
  else m

def clampPercent (v : Int32) : Int32 :=
  if v < 0 then 0 else if 100 < v then 100 else v

/-- `GetCursorPos`: the mirrored percentages on the given display. -/
def getCursorPos (display : Display) (cursorPos : Coordinate) : Coordinate :=
  env.scaleToDisplay display { x := 100 - clampPercent cursorPos.x, y := clampPercent cursorPos.y }

def setCursorPosition (cursorPos : Coordinate) (m : Cooperate) : Cooperate :=
  match env.defaultDisplay with
  | none => m
  | some display =>
    let cursor := getCursorPos env display cursorPos
    let m := { m with context.cursorPos := cursor }
    m.call (.setPointerLocation cursor.x cursor.y (-1))

def stopCooperateSetCursorPosition (cursorPos : Coordinate) (m : Cooperate) : Cooperate :=
  match env.defaultDisplay with
  | none => m
  | some display =>
    let displayId := if display.displayId < 0 then 0 else display.displayId
    let cursor := getCursorPos env display cursorPos
    m.call (.setPointerLocation cursor.x cursor.y displayId)

def resetCursorPosition (m : Cooperate) : Cooperate :=
  stopCooperateSetCursorPosition env { x := 50, y := 50 } m

def updateCursorPosition (m : Cooperate) : Cooperate :=
  m.call (.setPointerLocation m.context.cursorPos.x m.context.cursorPos.y (-1))

def remoteStartSuccess (event : DSoftbusStartCooperateFinished) (m : Cooperate) : Cooperate :=
  let m := { m with
    context.remoteNetworkId := event.originNetworkId
    context.flag := event.extra.flag
    context.priv := event.extra.priv }
  setCursorPosition env event.cursorPos m

def startCooperateWithOptions (event : StartWithOptionsEvent) (m : Cooperate) : Cooperate :=
  { m with
    context.remoteNetworkId := event.remoteNetworkId
    context.startDeviceId := event.startDeviceId
    context.priv := 0
    context.cooperateOptions :=
      { displayX := event.displayX, displayY := event.displayY, displayId := event.displayId } }

def updateCooperateOptions (event : StartWithOptionsEvent) (m : Cooperate) : Cooperate :=
  { m with context.cooperateOptions :=
      { displayX := event.displayX, displayY := event.displayY, displayId := event.displayId } }

def onRemoteStart (event : DSoftbusCooperateWithOptionsFinished) (m : Cooperate) : Cooperate :=
  let m := { m with
    context.remoteNetworkId := event.originNetworkId
    context.flag := event.extra.flag
    context.priv := event.extra.priv }
  let m := m.call (.setPointerLocation event.cooperateOptions.displayX
    event.cooperateOptions.displayY event.cooperateOptions.displayId)
  { m with context.cooperateOptions := event.cooperateOptions }

def adjustPointerPos (event : DSoftbusCooperateOptions) : DSoftbusCooperateOptions :=
  match env.visibleAreaDisplayInfoById event.cooperateOptions.displayId with
  | none => event
  | some display =>
    let x := event.cooperateOptions.displayX
    let x := if x ≤ 0 then 0 else x
    let x := if display.width ≤ x then display.width - 1 else x
    let y := event.cooperateOptions.displayY
    let y := if y ≤ 0 then 0 else y
    let y := if display.height ≤ y then display.height - 1 else y
    { event with
      cooperateOptions.displayX := x
      cooperateOptions.displayY := y }

def relayCooperate (event : DSoftbusRelayCooperate) (m : Cooperate) : Cooperate :=
  { m with context.remoteNetworkId := event.targetNetworkId }

def updateCooperateFlag (event : UpdateCooperateFlagEvent) (m : Cooperate) : Cooperate :=
  { m with context.flag :=
      (m.context.flag &&& ~~~event.mask) ||| (event.flag &&& event.mask) }

def isAllowCooperate (m : Cooperate) : Bool :=
  m.context.observers.all env.isAllowCooperate

def onStartCooperate (data : StartCooperateData) (m : Cooperate) : StartCooperateData :=
  m.context.observers.foldl (fun data observer => env.onStartCooperate observer data) data

def onRemoteStartCooperate (data : StartCooperateData) (m : Cooperate) : StartCooperateData :=
  m.context.observers.foldl (fun data observer => env.onRemoteStartCooperate observer data) data

/-- Post one task for each observer. -/
def postTasks (call : ObserverCall) (m : Cooperate) : Cooperate :=
  { m with effects := m.effects ++
      m.context.observers.map fun observer => .call (.observer observer call) }

def cooperateInfo (m : Cooperate) : CooperateInfo :=
  { normalizedCoords := normalizedCursorPosition env m
    cooperateOptions := m.context.cooperateOptions }

def onStopCooperate (m : Cooperate) : Cooperate :=
  postTasks (.onStopCooperate m.peer) m

def setPointerSpeed (speed : Int32) (m : Cooperate) : Cooperate :=
  let m := { m with input.pointerSpeed := env.applyPointerSpeed m.input.pointerSpeed speed }
  m.call (.setPointerSpeed speed)

def MAX_MOUSE_SPEED : Int32 := 20

def setTouchPadSpeed (speed : Int32) (m : Cooperate) : Cooperate :=
  if MAX_MOUSE_SPEED < speed then m
  else
    let m := { m with input.touchPadSpeed := env.applyTouchPadSpeed m.input.touchPadSpeed speed }
    m.call (.setTouchPadSpeed speed)

def storePeerPointerSpeed (speed : Int32) (m : Cooperate) : Cooperate :=
  { m with context.peerPointerSpeed := speed }

def clearPeerPointerSpeed (m : Cooperate) : Cooperate :=
  { m with context.peerPointerSpeed := -1 }

def storeOriginPointerSpeed (m : Cooperate) : Cooperate :=
  { m with context.originPointerSpeed := m.input.pointerSpeed }

def storePeerTouchPadSpeed (speed : Int32) (m : Cooperate) : Cooperate :=
  { m with context.peerTouchPadSpeed := speed }

def clearPeerTouchPadSpeed (m : Cooperate) : Cooperate :=
  { m with context.peerTouchPadSpeed := -1 }

def storeOriginTouchPadSpeed (m : Cooperate) : Cooperate :=
  { m with context.originTouchPadSpeed := m.input.touchPadSpeed }

def resetPointerAndTouchPadSpeed (m : Cooperate) : Cooperate :=
  let m := setPointerSpeed env m.context.originPointerSpeed m
  let m := clearPeerPointerSpeed m
  let m := setTouchPadSpeed env m.context.originTouchPadSpeed m
  clearPeerTouchPadSpeed m

def onTransitionOut (m : Cooperate) : Cooperate :=
  let m := storeOriginPointerSpeed m
  let m := storeOriginTouchPadSpeed m
  postTasks (.onTransitionOut m.peer (cooperateInfo env m)) m

def onTransitionIn (m : Cooperate) : Cooperate :=
  let m := storeOriginPointerSpeed m
  let m := setPointerSpeed env m.context.peerPointerSpeed m
  let m := storeOriginTouchPadSpeed m
  let m := setTouchPadSpeed env m.context.peerTouchPadSpeed m
  postTasks (.onTransitionIn m.peer (cooperateInfo env m)) m

def onBack (m : Cooperate) : Cooperate :=
  let m := resetPointerAndTouchPadSpeed env m
  postTasks (.onBack m.peer (cooperateInfo env m)) m

def onRelayCooperation (networkId : NetworkId) (m : Cooperate) : Cooperate :=
  postTasks (.onRelay networkId (cooperateInfo env m)) m

def closeDistributedFileConnection (remoteNetworkId : NetworkId) (m : Cooperate) : Cooperate :=
  postTasks (.closeDistributedFileConnection remoteNetworkId) m

def onResetCooperation (m : Cooperate) : Cooperate :=
  let m := resetPointerAndTouchPadSpeed env m
  let m := { m with context.priv := 0 }
  postTasks .onReset m

end Context

end DeviceStatus.Cooperation
