import DeviceStatus.Cooperate.Out

/-!
# The IN state

The handlers of `CooperateIn`: the input of the peer is injected here. A start request for a
third device is relayed, which takes the step `RelayConfirmation` until the peer has
answered, a timer has run out or something ended the cooperation.
-/

namespace DeviceStatus.Cooperation.In

variable (env : Env)

def stopCooperate (m : Cooperate) : Cooperate :=
  let m := InputEventBuilder.disableBuilder m
  let m := Context.updateCursorPosition m
  let m := (DSoftbusHandler.stopCooperate env m.peer m).2
  let m := transiteTo env .free m
  let m := Context.onResetCooperation env m
  m.call (.setPointerVisibility env.hasPointerDevice)

/-- `Switch`: the step that handles the next event. -/
def switch (step : InStep) (m : Cooperate) : Cooperate :=
  { m with machine.inStep := step }

namespace RelayConfirmation

/-- `Reset` and `Proceed`: both lead back to the initial step, whose `OnReset` and
`OnProgress` are empty. -/
def reset (m : Cooperate) : Cooperate :=
  switch .initial m

def onReset (m : Cooperate) : Cooperate :=
  reset m

def onResetWithNotifyMessage (m : Cooperate) : Cooperate :=
  let m := EventManager.startCooperateFinish { success := false } m
  reset m

def onResetWithOptionsNotifyMessage (m : Cooperate) : Cooperate :=
  let m := EventManager.startCooperateWithOptionsFinish { success := false } m
  reset m

def isProcessPeer (m : Cooperate) (networkId : NetworkId) : Bool :=
  networkId = m.machine.process.remoteNetworkId

/-- The RELAY_COOPERATE notice, which `OnProgress` and `OnProgressWithOptions` both send;
only the first fills in a uid. -/
def relayNotice (uid : Int32) (needCheckSameAccount : Bool) (m : Cooperate) :
    DSoftbusRelayCooperate :=
  { targetNetworkId := m.machine.process.remoteNetworkId
    pointerSpeed := m.input.pointerSpeed
    touchPadSpeed := m.input.touchPadSpeed
    uid
    userId := env.userId
    accountId := env.accountId
    needCheckSameAccount }

def onProgress (startEvent : StartCooperateEvent) (m : Cooperate) : Cooperate :=
  let remoteNetworkId := m.machine.process.remoteNetworkId
  let needCheckSameAccount := !env.hasSessionExisted m.peer
  let ret := env.openSession remoteNetworkId
  let m := DSoftbusHandler.openSession env remoteNetworkId m
  if ret ≠ RET_OK then onResetWithNotifyMessage m
  else
    let notice := relayNotice env startEvent.uid needCheckSameAccount m
    let m := (DSoftbusHandler.relayCooperate env m.peer notice m).2
    let m := { m with machine.timerId := env.addTimer }
    m.emit <| .addTimer env.addTimer DEFAULT_TIMEOUT <|
      .dsoftbusRelayCooperateFinished { networkId := m.peer, normal := false }

/-- The notice goes out through `RelayCooperate`, not `RelayCooperateWithOptions`. -/
def onProgressWithOptions (startEvent : StartWithOptionsEvent) (m : Cooperate) : Cooperate :=
  let remoteNetworkId := m.machine.process.remoteNetworkId
  let needCheckSameAccount := !env.hasSessionExisted m.peer
  let ret := env.openSession remoteNetworkId
  let m := DSoftbusHandler.openSession env remoteNetworkId m
  if ret ≠ RET_OK then onResetWithOptionsNotifyMessage m
  else
    let notice := relayNotice env 0 needCheckSameAccount m
    let m := (DSoftbusHandler.relayCooperate env m.peer notice m).2
    let m := { m with machine.startWithOptionsEvent := startEvent }
    let m := { m with machine.timerId := env.addTimer }
    m.emit <| .addTimer env.addTimer DEFAULT_TIMEOUT <|
      .dsoftbusRelayCooperateWithOptionsFinished { networkId := m.peer, normal := false }

def onDisable (m : Cooperate) : Cooperate :=
  let m := stopCooperate env m
  onReset m

def onStop (param : StopCooperateEvent) (m : Cooperate) : Cooperate :=
  let m := stopCooperate env m
  let m := onReset m
  unchainConnections param m

def onRemoteStart (notice : DSoftbusStartCooperate) (m : Cooperate) : Cooperate :=
  let m := Context.storePeerPointerSpeed notice.pointerSpeed m
  let m := Context.storePeerTouchPadSpeed notice.touchPadSpeed m
  if m.isPeer notice.networkId || env.isLocal notice.networkId then m
  else if isProcessPeer m notice.networkId then
    let m := m.emit (.event (.dsoftbusStartCooperate notice))
    onResetWithNotifyMessage m
  else
    m.emit (.addTimer env.addTimer DEFAULT_COOLING_TIME (.dsoftbusStartCooperate notice))

def onRemoteStartWithOptions (notice : DSoftbusCooperateOptions) (m : Cooperate) : Cooperate :=
  let m := Context.storePeerPointerSpeed notice.pointerSpeed m
  let m := Context.storePeerTouchPadSpeed notice.touchPadSpeed m
  if m.isPeer notice.networkId || env.isLocal notice.networkId then m
  else if isProcessPeer m notice.networkId then
    let m := m.emit (.event (.dsoftbusCooperateWithOptions notice))
    onReset m
  else
    m.emit (.addTimer env.addTimer DEFAULT_COOLING_TIME (.dsoftbusCooperateWithOptions notice))

def onRemoteStop (notice : DSoftbusStopCooperate) (m : Cooperate) : Cooperate :=
  if !m.isPeer notice.networkId then m
  else
    let m := m.emit (.event (.dsoftbusStopCooperate notice))
    onReset m

def onAppClosed (m : Cooperate) : Cooperate :=
  let m := DSoftbusHandler.closeAllSessions m
  let m := stopCooperate env m
  onResetWithNotifyMessage m

def onPointerEvent (notice : InputPointerEvent) (m : Cooperate) : Cooperate :=
  if notice.sourceType ≠ env.mmi.SOURCE_TYPE_MOUSE ||
      !InputEventBuilder.isLocalEvent notice then m
  else
    let m := Context.onPointerEvent env notice m
    let m := stopCooperate env m
    onReset m

/-- The loss of `networkId`: the peer's loss ends the cooperation, that of the relay's
target only the relay. -/
def onPeerLost (networkId : NetworkId) (m : Cooperate) : Cooperate :=
  if !m.isPeer networkId && !isProcessPeer m networkId then m
  else
    let m := if m.isPeer networkId then stopCooperate env m else m
    onResetWithNotifyMessage m

def onBoardOffline (notice : DDMBoardOfflineEvent) (m : Cooperate) : Cooperate :=
  onPeerLost env notice.networkId m

def onSwitchChanged (notice : DDPCooperateSwitchChanged) (m : Cooperate) : Cooperate :=
  if notice.normal then m else onPeerLost env notice.networkId m

def onSoftbusSessionClosed (notice : DSoftbusSessionClosed) (m : Cooperate) : Cooperate :=
  onPeerLost env notice.networkId m

/-- The START_COOPERATE notice for the target, on behalf of the peer. -/
def normalNotice (finished : DSoftbusRelayCooperateFinished) (m : Cooperate) :
    DSoftbusStartCooperate :=
  { originNetworkId := m.peer
    success := true
    cursorPos := Context.normalizedCursorPosition env m
    extra := Context.onStartCooperate env {} m
    uid := finished.uid
    pointerSpeed := m.input.pointerSpeed
    touchPadSpeed := m.input.touchPadSpeed }

def onNormal (finished : DSoftbusRelayCooperateFinished) (m : Cooperate) : Cooperate :=
  let m := InputEventBuilder.disableBuilder m
  let notice := normalNotice env finished m
  let m := (DSoftbusHandler.startCooperate env m.machine.process.remoteNetworkId notice m).2
  let m := EventManager.startCooperateFinish notice m
  let m := transiteTo env .free m
  let m := Context.resetPointerAndTouchPadSpeed env m
  Context.onRelayCooperation env m.machine.process.remoteNetworkId m

/-- The COOPERATE_WITH_OPTIONS notice for the target, with the options of the request. -/
def normalWithOptionsNotice (m : Cooperate) : DSoftbusCooperateOptions :=
  { originNetworkId := m.peer
    success := true
    cooperateOptions :=
      { displayX := m.machine.startWithOptionsEvent.displayX
        displayY := m.machine.startWithOptionsEvent.displayY
        displayId := m.machine.startWithOptionsEvent.displayId }
    extra := Context.onStartCooperate env {} m
    pointerSpeed := m.input.pointerSpeed
    touchPadSpeed := m.input.touchPadSpeed }

def onNormalWithOptions (m : Cooperate) : Cooperate :=
  let m := InputEventBuilder.disableBuilder m
  let notice := normalWithOptionsNotice env m
  let m :=
    (DSoftbusHandler.startCooperateWithOptions env m.machine.process.remoteNetworkId notice m).2
  let m := EventManager.startCooperateWithOptionsFinish notice m
  let m := transiteTo env .free m
  let m := Context.resetPointerAndTouchPadSpeed env m
  Context.onRelayCooperation env m.machine.process.remoteNetworkId m

def onResponse (notice : DSoftbusRelayCooperateFinished) (m : Cooperate) : Cooperate :=
  if !m.isPeer notice.networkId then m
  else
    let m := m.emit (.removeTimer m.machine.timerId)
    if notice.normal then
      let m := onNormal env notice m
      reset m
    else
      let m := onResetWithNotifyMessage m
      stopCooperate env m

def onResponseWithOptions (notice : DSoftbusRelayCooperateFinished) (m : Cooperate) :
    Cooperate :=
  if !m.isPeer notice.networkId then m
  else
    let m := m.emit (.removeTimer m.machine.timerId)
    if notice.normal then
      let m := onNormalWithOptions env m
      reset m
    else
      let m := onResetWithOptionsNotifyMessage m
      stopCooperate env m

def onEvent (event : CooperateEvent) (m : Cooperate) : Cooperate :=
  match event with
  | .disable _ => onDisable env m
  | .stop param => onStop env param m
  | .appClosed _ => onAppClosed env m
  | .inputPointerEvent notice => onPointerEvent env notice m
  | .ddmBoardOffline notice => onBoardOffline env notice m
  | .ddpCooperateSwitchChanged notice => onSwitchChanged env notice m
  | .dsoftbusSessionClosed notice => onSoftbusSessionClosed env notice m
  | .dsoftbusRelayCooperateFinished notice => onResponse env notice m
  | .dsoftbusStartCooperate notice => onRemoteStart env notice m
  | .dsoftbusStopCooperate notice => onRemoteStop notice m
  | .dsoftbusCooperateWithOptions notice => onRemoteStartWithOptions env notice m
  | .dsoftbusRelayCooperateWithOptionsFinished notice => onResponseWithOptions env notice m
  | _ => m

end RelayConfirmation

namespace Initial

def filterPointerActions : List Int32 :=
  [env.mmi.POINTER_ACTION_ENTER_WINDOW, env.mmi.POINTER_ACTION_LEAVE_WINDOW,
    env.mmi.POINTER_ACTION_PULL_IN_WINDOW, env.mmi.POINTER_ACTION_PULL_OUT_WINDOW]

def onComeBack (startEvent : StartCooperateEvent) (m : Cooperate) : Cooperate :=
  let m := InputEventBuilder.disableBuilder m
  let notice : DSoftbusComeBack :=
    { originNetworkId := env.localNetworkId
      success := true
      cursorPos := Context.normalizedCursorPosition env m
      extra := Context.onStartCooperate env {} m
      uid := startEvent.uid }
  let sent := DSoftbusHandler.comeBack env m.peer notice m
  let m := sent.2
  let notice :=
    if sent.1 ≠ RET_OK then
      { notice with
        success := false, errCode := CoordinationErrCode.sendPacketFailed.toInt32 }
    else notice
  let m := EventManager.startCooperateFinish notice m
  let m := transiteTo env .free m
  Context.onBack env m

def onRelay (startEvent : StartCooperateEvent) (m : Cooperate) : Cooperate :=
  let m := { m with
    machine.process :=
      { remoteNetworkId := startEvent.remoteNetworkId
        startDeviceId := startEvent.startDeviceId } }
  let m := switch .relayConfirmation m
  RelayConfirmation.onProgress env startEvent m

def onStart (startEvent : StartCooperateEvent) (m : Cooperate) : Cooperate :=
  let m := Context.resetPriv m
  if env.dragState = .motionDragging then
    EventManager.errorNotAollowCooperateWhenMotionDragging
      (motionDraggingResult startEvent.pid startEvent.userData startEvent.remoteNetworkId) m
  else if env.isLocal startEvent.remoteNetworkId then
    EventManager.startCooperateFinish
      { success := false, errCode := CoordinationErrCode.unexpectedStartCall.toInt32 } m
  else
    let m := EventManager.startCooperate startEvent m
    if m.isPeer startEvent.remoteNetworkId then onComeBack env startEvent m
    else onRelay env startEvent m

def onComeBackWithOptions (startEvent : StartWithOptionsEvent) (m : Cooperate) : Cooperate :=
  let m := InputEventBuilder.disableBuilder m
  let notice : DSoftbusComeBackWithOptions :=
    { originNetworkId := env.localNetworkId
      success := true
      cooperateOptions :=
        { displayX := startEvent.displayX, displayY := startEvent.displayY
          displayId := startEvent.displayId }
      extra := Context.onStartCooperate env {} m }
  let sent := DSoftbusHandler.comeBackWithOptions env m.peer notice m
  let m := sent.2
  let notice :=
    if sent.1 ≠ RET_OK then
      { notice with
        success := false, errCode := CoordinationErrCode.sendPacketFailed.toInt32 }
    else notice
  let m := EventManager.startCooperateWithOptionsFinish notice m
  let m := m.call (.removeVirtualInputDevice m.peer)
  let m := transiteTo env .free m
  Context.onBack env m

def onRelayWithOptions (startEvent : StartWithOptionsEvent) (m : Cooperate) : Cooperate :=
  let m := { m with
    machine.process :=
      { remoteNetworkId := startEvent.remoteNetworkId
        startDeviceId := startEvent.startDeviceId } }
  let m := switch .relayConfirmation m
  RelayConfirmation.onProgressWithOptions env startEvent m

def onStartWithOptions (startEvent : StartWithOptionsEvent) (m : Cooperate) : Cooperate :=
  let m := Context.resetPriv m
  let m := Context.updateCooperateOptions startEvent m
  if env.dragState = .motionDragging then
    EventManager.errorNotAollowCooperateWhenMotionDragging
      (motionDraggingResult startEvent.pid startEvent.userData startEvent.remoteNetworkId) m
  else if env.isLocal startEvent.remoteNetworkId then
    EventManager.startCooperateWithOptionsFinish
      { success := false, errCode := CoordinationErrCode.unexpectedStartCall.toInt32 } m
  else
    let m := EventManager.startCooperateWithOptions startEvent m
    if m.isPeer startEvent.remoteNetworkId then onComeBackWithOptions env startEvent m
    else onRelayWithOptions env startEvent m

def onStop (param : StopCooperateEvent) (m : Cooperate) : Cooperate :=
  let m := EventManager.stopCooperate param m
  let m := stopCooperate env m
  let param := { param with networkId := m.peer }
  let m := EventManager.stopCooperateFinish { networkId := m.peer, normal := true } m
  unchainConnections param m

def onRemoteStart (notice : DSoftbusStartCooperate) (m : Cooperate) : Cooperate :=
  let m := Context.storePeerPointerSpeed notice.pointerSpeed m
  let m := Context.storePeerTouchPadSpeed notice.touchPadSpeed m
  if m.isPeer notice.networkId || env.isLocal notice.networkId then m
  else
    let m := Context.onResetCooperation env m
    let notice := { notice with extra := Context.onRemoteStartCooperate env notice.extra m }
    let m := EventManager.remoteStart notice.networkId m
    let m := (DSoftbusHandler.stopCooperate env m.peer m).2
    let m := Context.remoteStartSuccess env notice m
    let m := InputEventBuilder.update m
    let m := EventManager.remoteStartFinish notice.success notice.networkId m
    Context.onTransitionIn env m

def onRemoteStartWithOptions (notice : DSoftbusCooperateOptions) (m : Cooperate) : Cooperate :=
  let m := Context.storePeerPointerSpeed notice.pointerSpeed m
  let m := Context.storePeerTouchPadSpeed notice.touchPadSpeed m
  if m.isPeer notice.networkId || env.isLocal notice.networkId then m
  else
    let m := Context.onResetCooperation env m
    let notice := { notice with extra := Context.onRemoteStartCooperate env notice.extra m }
    let m := EventManager.remoteStart notice.networkId m
    let m := (DSoftbusHandler.stopCooperate env m.peer m).2
    let notice := Context.adjustPointerPos env notice
    let m := Context.onRemoteStart notice m
    let m := InputEventBuilder.update m
    let m := EventManager.remoteStartFinish notice.success notice.networkId m
    Context.onTransitionIn env m

def onRemoteStop (notice : DSoftbusStopCooperate) (m : Cooperate) : Cooperate :=
  if !m.isPeer notice.networkId then m
  else
    let m := InputEventBuilder.disableBuilder m
    let m := m.call (.removeVirtualInputDevice m.peer)
    let m := transiteTo env .free m
    Context.onResetCooperation env m

def onAppClosed (m : Cooperate) : Cooperate :=
  let m := DSoftbusHandler.closeAllSessions m
  stopCooperate env m

def onPointerEvent (notice : InputPointerEvent) (m : Cooperate) : Cooperate :=
  if notice.sourceType ≠ env.mmi.SOURCE_TYPE_MOUSE ||
      (filterPointerActions env).contains notice.pointerAction ||
      !InputEventBuilder.isLocalEvent notice then m
  else
    let m := Context.onPointerEvent env notice m
    stopCooperate env m

def onBoardOffline (notice : DDMBoardOfflineEvent) (m : Cooperate) : Cooperate :=
  if !m.isPeer notice.networkId then m else stopCooperate env m

def onSwitchChanged (notice : DDPCooperateSwitchChanged) (m : Cooperate) : Cooperate :=
  if !m.isPeer notice.networkId || notice.normal then m else stopCooperate env m

def onSoftbusSessionClosed (notice : DSoftbusSessionClosed) (m : Cooperate) : Cooperate :=
  if !m.isPeer notice.networkId then m
  else
    let m := stopCooperate env m
    EventManager.onSoftbusSessionClosed notice m

def onRemoteInputDevice (notice : DSoftbusSyncInputDevice) (m : Cooperate) : Cooperate :=
  if !m.isPeer notice.networkId then m else m.call (.addVirtualInputDevice notice.networkId)

def onUpdateCooperateFlag (notice : UpdateCooperateFlagEvent) (m : Cooperate) : Cooperate :=
  let changed := notice.mask &&& (m.context.flag ^^^ notice.flag)
  let m := Context.updateCooperateFlag notice m
  if changed &&& COOPERATE_FLAG_FREEZE_CURSOR ≠ 0 then
    if notice.flag &&& COOPERATE_FLAG_FREEZE_CURSOR ≠ 0 then InputEventBuilder.freeze m
    else InputEventBuilder.thaw m
  else m

def onEvent (event : CooperateEvent) (m : Cooperate) : Cooperate :=
  match event with
  | .disable _ => stopCooperate env m
  | .start startEvent => onStart env startEvent m
  | .stop param => onStop env param m
  | .appClosed _ => onAppClosed env m
  | .inputPointerEvent notice => onPointerEvent env notice m
  | .ddmBoardOffline notice => onBoardOffline env notice m
  | .ddpCooperateSwitchChanged notice => onSwitchChanged env notice m
  | .dsoftbusSessionClosed notice => onSoftbusSessionClosed env notice m
  | .dsoftbusStartCooperate notice => onRemoteStart env notice m
  | .dsoftbusStopCooperate notice => onRemoteStop env notice m
  | .updateCooperateFlag notice => onUpdateCooperateFlag notice m
  | .dsoftbusInputDevSync notice => onRemoteInputDevice notice m
  | .withOptionsStart startEvent => onStartWithOptions env startEvent m
  | .dsoftbusCooperateWithOptions notice => onRemoteStartWithOptions env notice m
  | _ => m

end Initial

def onEvent (event : CooperateEvent) (m : Cooperate) : Cooperate :=
  match m.machine.inStep with
  | .initial => Initial.onEvent env event m
  | .relayConfirmation => RelayConfirmation.onEvent env event m

end DeviceStatus.Cooperation.In
