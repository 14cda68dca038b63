import DeviceStatus.Cooperate.Context

/-!
# Components of the cooperation context

`EventManager` answers local clients, `DSoftbusHandler` talks to the peers, and
`InputEventBuilder` and `InputEventInterceptor` are the two ends of the input path: the
builder injects what a peer sends, the interceptor takes local input away and sends it.

A call of `NotifyCooperateMessage` is an effect like others, since nothing in the service depends
on what comes of it. Its body is `sendNotice`.

## Main definitions

* `EventManager.sendNotice`, `Cooperate.sentNotices` — the notices that reach a session.
* `transiteTo` — a change of state, and what the listeners are told of it.
-/

namespace DeviceStatus.Cooperation

variable (env : Env)

namespace EventManager

/-- `NotifyCooperateMessage` is called with `notice`. -/
def notifyCooperateMessage (notice : CooperateNotice) (m : Cooperate) : Cooperate :=
  m.effect (.notice notice)

/-- `ChkRWError` after the user data, the network id, the message and the error code. -/
def chkRWError (notice : CooperateNotice) : Bool :=
  decide (MAX_STREAM_BUF_SIZE <
    3 * DSoftbusPacket.sizeofInt32 + DSoftbusPacket.sizeofString notice.networkId)

/-- The body of `NotifyCooperateMessage`, called with the same notice `count` times before:
whether the message is sent. -/
def sendNotice (count : Nat) (notice : CooperateNotice) : Bool :=
  if !env.findSessionByPid count notice then false
  else if chkRWError notice then false
  else env.sendMsg count notice

/-- The notices that are sent of those that follow `before`. -/
def sentNotices (before : List CooperateNotice) : List CooperateNotice → List CooperateNotice
  | [] => []
  | notice :: notices =>
    let later := sentNotices (notice :: before) notices
    if sendNotice env (before.count notice) notice then notice :: later else later

def registerListener (event : RegisterListenerEvent) (m : Cooperate) : Cooperate :=
  let listener : Listener := { pid := event.pid }
  let listeners := m.context.eventMgr.listeners
  { m with context.eventMgr.listeners :=
      match listeners.findIdx? (·.pid = event.pid) with
      | some i => listeners.set i listener
      | none => listeners ++ [listener] }

def unregisterListener (event : RegisterListenerEvent) (m : Cooperate) : Cooperate :=
  { m with context.eventMgr.listeners :=
      m.context.eventMgr.listeners.filter (·.pid ≠ event.pid) }

def enableCooperate (event : EnableCooperateEvent) (m : Cooperate) : Cooperate :=
  notifyCooperateMessage
    { pid := event.pid, msgId := .coordinationMessage, userData := event.userData,
      msg := .prepare } m

def disableCooperate (event : DisableCooperateEvent) (m : Cooperate) : Cooperate :=
  notifyCooperateMessage
    { pid := event.pid, msgId := .coordinationMessage, userData := event.userData,
      msg := .unprepare } m

def startCooperate (event : StartCooperateEvent) (m : Cooperate) : Cooperate :=
  { m with
    context.eventMgr.startCall :=
      some { pid := event.pid, userData := event.userData, networkId := event.remoteNetworkId } }

def startCooperateWithOptions (event : StartWithOptionsEvent) (m : Cooperate) : Cooperate :=
  { m with
    context.eventMgr.startCall :=
      some { pid := event.pid, userData := event.userData, networkId := event.remoteNetworkId } }

/-- The notice that ends a start request. -/
def startNotice (call : PendingCall) (success : Bool) (errCode : Int32) : CooperateNotice :=
  { pid := call.pid, msgId := .coordinationMessage, userData := call.userData,
    networkId := call.networkId,
    msg := if success then .activateSuccess else .activateFail, errCode }

/-- The body that both ways of finishing a start request share. -/
def finishStart (success : Bool) (errCode : Int32) (m : Cooperate) : Cooperate :=
  match m.context.eventMgr.startCall with
  | none => m
  | some call =>
    let m := { m with context.eventMgr.startCall := none }
    notifyCooperateMessage (startNotice call success errCode) m

def startCooperateFinish (event : DSoftbusStartCooperateFinished) (m : Cooperate) : Cooperate :=
  finishStart event.success event.errCode m

def startCooperateWithOptionsFinish (event : DSoftbusCooperateWithOptionsFinished)
    (m : Cooperate) : Cooperate :=
  finishStart event.success event.errCode m

/-- Tell every listener. -/
def onCooperateMessage (msg : CoordinationMessage) (networkId : NetworkId) (m : Cooperate) :
    Cooperate :=
  { m with effects := m.effects ++ m.context.eventMgr.listeners.map fun listener =>
      .notice { pid := listener.pid, msgId := .coordinationAddListener,
                userData := listener.userData, networkId, msg } }

def remoteStart (networkId : NetworkId) (m : Cooperate) : Cooperate :=
  onCooperateMessage .activate networkId m

def remoteStartFinish (success : Bool) (networkId : NetworkId) (m : Cooperate) : Cooperate :=
  onCooperateMessage (if success then .activateSuccess else .activateFail) networkId m

def onUnchain (event : StopCooperateEvent) (m : Cooperate) : Cooperate :=
  onCooperateMessage .sessionClosed event.networkId m

def stopCooperate (event : StopCooperateEvent) (m : Cooperate) : Cooperate :=
  { m with
    context.eventMgr.stopCall :=
      some { pid := event.pid, userData := event.userData } }

def stopCooperateFinish (event : DSoftbusStopCooperateFinished) (m : Cooperate) : Cooperate :=
  match m.context.eventMgr.stopCall with
  | none => m
  | some call =>
    let m := notifyCooperateMessage
      { pid := call.pid, msgId := .coordinationMessage, userData := call.userData,
        networkId := call.networkId,
        msg := if event.normal then .deactivateSuccess else .deactivateFail,
        errCode := event.errCode } m
    { m with context.eventMgr.stopCall := none }

def onProfileChanged (event : DDPCooperateSwitchChanged) (m : Cooperate) : Cooperate :=
  onCooperateMessage (if event.normal then .prepare else .unprepare) event.networkId m

def onSoftbusSessionClosed (event : DSoftbusSessionClosed) (m : Cooperate) : Cooperate :=
  onCooperateMessage .sessionClosed event.networkId m

def onStatusChanged (event : StatusChangeEvent) (m : Cooperate) : Cooperate :=
  onCooperateMessage event.msg event.networkId m

def getCooperateState (notice : CooperateStateNotice) (m : Cooperate) : Cooperate :=
  m.call (.notifyCooperateState notice)

def onClientDied (event : ClientDiedEvent) (m : Cooperate) : Cooperate :=
  { m with context.eventMgr.listeners :=
      m.context.eventMgr.listeners.eraseP (·.pid = event.pid) }

def errorNotAollowCooperateWhenMotionDragging (event : NotAllowCooperateWhenMotionDragging)
    (m : Cooperate) : Cooperate :=
  notifyCooperateMessage
    { pid := event.pid, msgId := .coordinationMessage, userData := event.userData,
      networkId := event.networkId,
      msg := if event.success then .activateSuccess else .activateFail,
      errCode := event.errCode } m

/-! What is sent of some notices. -/

section Sent

variable {env : Env} {before notices : List CooperateNotice}

theorem sentNotices_of_forall
    (sends : ∀ notice ∈ notices, ∀ count, sendNotice env count notice = true) :
    sentNotices env before notices = notices := by
  induction notices generalizing before with
  | nil => rfl
  | cons notice notices ih =>
    rw [sentNotices, sends notice List.mem_cons_self, if_pos rfl,
      ih fun n hn => sends n (List.mem_cons_of_mem _ hn)]

/-- What becomes of some notices does not depend on the others. -/
theorem filter_sentNotices (p : CooperateNotice → Bool) :
    (sentNotices env before notices).filter p =
      sentNotices env (before.filter p) (notices.filter p) := by
  induction notices generalizing before with
  | nil => rfl
  | cons notice notices ih =>
    by_cases hp : p notice = true
    · have same : (before.filter p).count notice = before.count notice := List.count_filter hp
      rw [List.filter_cons_of_pos hp, sentNotices, sentNotices, same,
        ← List.filter_cons_of_pos hp, ← ih]
      split
      · rw [List.filter_cons_of_pos hp]
      · rfl
    · have later := @ih (notice :: before)
      rw [List.filter_cons_of_neg hp] at later
      rw [List.filter_cons_of_neg hp, sentNotices, ← later]
      split
      · rw [List.filter_cons_of_neg hp]
      · rfl

end Sent

end EventManager

def Cooperate.notices (m : Cooperate) : List CooperateNotice :=
  m.effects.filterMap Effect.notice?

/-- The notices of an event that reach their sessions. -/
def Cooperate.sentNotices (m : Cooperate) : List CooperateNotice :=
  EventManager.sentNotices env [] m.notices

namespace DSoftbusHandler

def openSession (networkId : NetworkId) (m : Cooperate) : Cooperate :=
  let m := m.call (.openSession networkId)
  if env.openSession networkId = RET_OK then m.call (.startHeartBeat networkId) else m

def closeAllSessions (m : Cooperate) : Cooperate :=
  m.call .closeAllSessions

/-- The result of sending a packet when the event has had `sent` outputs before. -/
def sendResult (sent : Nat) (networkId : NetworkId) (packet : DSoftbusPacket) : Int32 :=
  if packet.chkRWError then RET_ERR else env.sendPacket sent networkId packet

/-- What sending a packet puts out: the packet, or on failure of the session
`OnCommunicationFailure`, or nothing when the packet overflowed. -/
def sendOutputs (sent : Nat) (networkId : NetworkId) (packet : DSoftbusPacket) : List Output :=
  if packet.chkRWError then []
  else if env.sendPacket sent networkId packet = RET_OK then [.packet networkId packet]
  else [.closeSession networkId, .event (.dsoftbusSessionClosed { networkId })]

def send (networkId : NetworkId) (packet : DSoftbusPacket) (m : Cooperate) :
    Int32 × Cooperate :=
  (sendResult env m.outputs.length networkId packet,
    { m with effects :=
        m.effects ++ (sendOutputs env m.outputs.length networkId packet).map .output })

/-! The packet of each message, and its sending. -/

def startPacket (event : DSoftbusStartCooperate) : DSoftbusPacket :=
  .startCooperate event.originNetworkId event.cursorPos event.success event.extra.priv
    event.pointerSpeed event.touchPadSpeed event.uid event.userId event.accountId
    event.needCheckSameAccount

def startWithOptionsPacket (event : DSoftbusCooperateOptions) : DSoftbusPacket :=
  .cooperateWithOptions event.originNetworkId event.cooperateOptions event.success
    event.extra.priv event.pointerSpeed event.touchPadSpeed event.userId event.accountId
    event.needCheckSameAccount

def comeBackPacket (event : DSoftbusComeBack) : DSoftbusPacket :=
  .comeBack event.originNetworkId event.cursorPos event.extra.priv event.uid

def comeBackWithOptionsPacket (event : DSoftbusComeBackWithOptions) : DSoftbusPacket :=
  .comeBackWithOptions event.originNetworkId event.cooperateOptions event.extra.priv

def relayPacket (event : DSoftbusRelayCooperate) : DSoftbusPacket :=
  .relayCooperate event.targetNetworkId event.pointerSpeed event.touchPadSpeed event.uid
    event.userId event.accountId event.needCheckSameAccount

def relayFinishPacket (event : DSoftbusRelayCooperateFinished) : DSoftbusPacket :=
  .relayCooperateFinished event.targetNetworkId event.normal event.uid

def relayWithOptionsPacket (event : DSoftbusRelayCooperate) : DSoftbusPacket :=
  .relayCooperateWithOptions event.targetNetworkId event.pointerSpeed event.touchPadSpeed
    event.userId event.accountId event.needCheckSameAccount

def relayWithOptionsFinishPacket (event : DSoftbusRelayCooperateFinished) : DSoftbusPacket :=
  .relayCooperateWithOptionsFinished event.targetNetworkId event.normal

def startCooperate (networkId : NetworkId) (event : DSoftbusStartCooperate) :
    Cooperate → Int32 × Cooperate :=
  send env networkId (startPacket event)

def startCooperateWithOptions (networkId : NetworkId) (event : DSoftbusCooperateOptions) :
    Cooperate → Int32 × Cooperate :=
  send env networkId (startWithOptionsPacket event)

def stopCooperate (networkId : NetworkId) : Cooperate → Int32 × Cooperate :=
  send env networkId .stopCooperate

def comeBack (networkId : NetworkId) (event : DSoftbusComeBack) :
    Cooperate → Int32 × Cooperate :=
  send env networkId (comeBackPacket event)

def comeBackWithOptions (networkId : NetworkId) (event : DSoftbusComeBackWithOptions) :
    Cooperate → Int32 × Cooperate :=
  send env networkId (comeBackWithOptionsPacket event)

def relayCooperate (networkId : NetworkId) (event : DSoftbusRelayCooperate) :
    Cooperate → Int32 × Cooperate :=
  send env networkId (relayPacket event)

def relayCooperateFinish (networkId : NetworkId) (event : DSoftbusRelayCooperateFinished) :
    Cooperate → Int32 × Cooperate :=
  send env networkId (relayFinishPacket event)

def relayCooperateWithOptions (networkId : NetworkId) (event : DSoftbusRelayCooperate) :
    Cooperate → Int32 × Cooperate :=
  send env networkId (relayWithOptionsPacket event)

def relayCooperateWithOptionsFinish (networkId : NetworkId)
    (event : DSoftbusRelayCooperateFinished) : Cooperate → Int32 × Cooperate :=
  send env networkId (relayWithOptionsFinishPacket event)

end DSoftbusHandler

namespace InputEventBuilder

def MIN_MMI_VIRTUAL_DEVICE_ID : Int32 := 1000

def isLocalEvent (event : InputPointerEvent) : Bool :=
  0 ≤ event.deviceId ∧ event.deviceId < MIN_MMI_VIRTUAL_DEVICE_ID

def enableBuilder (m : Cooperate) : Cooperate :=
  if m.context.inputEventBuilder.enable then m
  else
    let m := { m with
      context.inputEventBuilder.enable := true
      context.inputEventBuilder.xDir := 0
      context.inputEventBuilder.movement := 0
      context.inputEventBuilder.freezing := m.needFreezeCursor
      context.inputEventBuilder.remoteNetworkId := m.peer
      context.inputEventBuilder.localNetworkId := env.localNetworkId
      context.inputEventBuilder.pointerSpeed := m.input.pointerSpeed
      context.inputEventBuilder.touchPadSpeed := m.input.touchPadSpeed }
    let m := m.call .addBuilderObserver
    m.call .turnOffChannelScan

def disableBuilder (m : Cooperate) : Cooperate :=
  let m :=
    if m.context.inputEventBuilder.enable then
      let m := { m with context.inputEventBuilder.enable := false }
      let m := m.call .removeBuilderObserver
      let m := m.call .turnOnChannelScan
      m.call .resetPressedEvents
    else m
  if 0 ≤ m.context.inputEventBuilder.pointerEventTimer then
    let m := m.call (.removeTimerAsync m.context.inputEventBuilder.pointerEventTimer)
    { m with context.inputEventBuilder.pointerEventTimer := -1 }
  else m

def update (m : Cooperate) : Cooperate :=
  { m with context.inputEventBuilder.remoteNetworkId := m.peer }

def freeze (m : Cooperate) : Cooperate :=
  if m.context.inputEventBuilder.enable then
    { m with
      context.inputEventBuilder.xDir := 0
      context.inputEventBuilder.movement := 0
      context.inputEventBuilder.freezing := true }
  else m

def thaw (m : Cooperate) : Cooperate :=
  if m.context.inputEventBuilder.enable then
    { m with context.inputEventBuilder.freezing := false }
  else m

def updateVirtualDeviceIdMap (remote2VirtualIds : List (Int32 × Int32)) (m : Cooperate) :
    Cooperate :=
  { m with context.inputEventBuilder.remote2VirtualIds := remote2VirtualIds }

end InputEventBuilder

namespace InputEventInterceptor

/-- `Enable`. The id that the input service returns is stored before it is checked. -/
def enableInterceptor (m : Cooperate) : Int32 × Cooperate :=
  if 0 < m.context.inputEventInterceptor.interceptorId then (RET_OK, m)
  else
    let m := { m with
      context.inputEventInterceptor.remoteNetworkId := m.peer
      context.inputEventInterceptor.interceptorId := env.addInterceptor }
    let m := m.call (.addInterceptor env.addInterceptor)
    if env.addInterceptor < 0 then (RET_ERR, m)
    else (RET_OK, m.call .turnOffChannelScan)

def disableInterceptor (m : Cooperate) : Cooperate :=
  let m := m.call .turnOnChannelScan
  let m :=
    if 0 < m.context.inputEventInterceptor.interceptorId then
      let m := m.call (.removeInterceptor m.context.inputEventInterceptor.interceptorId)
      { m with context.inputEventInterceptor.interceptorId := -1 }
    else m
  if 0 ≤ m.context.inputEventInterceptor.pointerEventTimer then
    let m := m.call (.removeTimerAsync m.context.inputEventInterceptor.pointerEventTimer)
    { m with context.inputEventInterceptor.pointerEventTimer := -1 }
  else m

def update (m : Cooperate) : Cooperate :=
  { m with context.inputEventInterceptor.remoteNetworkId := m.peer }

end InputEventInterceptor

/-! ## Entering and leaving a state -/

/-- `SetPointerVisible` of `CooperateFree` and of `CooperateOut`. -/
def setPointerVisible (m : Cooperate) : Cooperate :=
  m.call (.setPointerVisibility (!m.needHideCursor && env.hasPointerDevice))

def Free.onLeaveState (m : Cooperate) : Cooperate :=
  Context.updateCooperateFlag { mask := COOPERATE_FLAG_HIDE_CURSOR } m

def Out.onEnterState (m : Cooperate) : Cooperate :=
  m.call (.setPointerVisibility false)

def Out.onLeaveState (m : Cooperate) : Cooperate :=
  setPointerVisible env m

def In.onEnterState (m : Cooperate) : Cooperate :=
  m.call (.setPointerVisibility !m.needHideCursor)

def In.onLeaveState (m : Cooperate) : Cooperate :=
  let m := Context.updateCooperateFlag
    { mask := COOPERATE_FLAG_HIDE_CURSOR, flag := COOPERATE_FLAG_HIDE_CURSOR } m
  m.call (.setPointerVisibility false)

def onLeaveState (m : Cooperate) : Cooperate :=
  match m.machine.current with
  | .free => Free.onLeaveState m
  | .out => Out.onLeaveState env m
  | .in => In.onLeaveState m

def onEnterState (m : Cooperate) : Cooperate :=
  match m.machine.current with
  | .free => m
  | .out => Out.onEnterState m
  | .in => In.onEnterState m

/-- The status that listeners are told on entering a state. -/
def statusMessage : CooperateState → CoordinationMessage
  | .free => .coordinationStatusFree
  | .out => .coordinationStatusOut
  | .in => .coordinationStatusIn

/-- `StateMachine::TransiteTo`. -/
def transiteTo (state : CooperateState) (m : Cooperate) : Cooperate :=
  if state = m.machine.current then m
  else
    let m := onLeaveState env m
    let m := { m with machine.current := state }
    let m := onEnterState m
    EventManager.onStatusChanged
      { networkId := env.localNetworkId, msg := statusMessage state } m

/-- `UnchainConnections`, the same in the three states. -/
def unchainConnections (event : StopCooperateEvent) (m : Cooperate) : Cooperate :=
  if event.isUnchained then
    let m := DSoftbusHandler.closeAllSessions m
    EventManager.onUnchain event m
  else m

end DeviceStatus.Cooperation
