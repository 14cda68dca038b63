import DeviceStatus.Cooperate.Free

/-!
# The OUT state

The handlers of `CooperateOut::Initial`: local input is sent to the peer until the peer
comes back, stops or hands over, or something local ends the cooperation.
-/

namespace DeviceStatus.Cooperation.Out

variable (env : Env)

def simulateShowPointerEvent (m : Cooperate) : Cooperate :=
  m.call (.simulateShowPointerEvent m.machine.outPressedButtons)

def stopCooperate (m : Cooperate) : Cooperate :=
  let m := InputEventInterceptor.disableInterceptor m
  let m := (DSoftbusHandler.stopCooperate env m.peer m).2
  let m := Context.resetCursorPosition env m
  let m := transiteTo env .free m
  Context.onResetCooperation env m

def onPointerEvent (notice : InputPointerEvent) (m : Cooperate) : Cooperate :=
  { m with machine.outPressedButtons := notice.pressedButtons }

def onStart (param : StartCooperateEvent) (m : Cooperate) : Cooperate :=
  if env.dragState = .motionDragging then
    EventManager.errorNotAollowCooperateWhenMotionDragging
      (motionDraggingResult param.pid param.userData param.remoteNetworkId) m
  else
    let m := EventManager.startCooperate param m
    EventManager.startCooperateFinish
      { success := false, errCode := CoordinationErrCode.unexpectedStartCall.toInt32 } m

def onStartWithOptions (param : StartWithOptionsEvent) (m : Cooperate) : Cooperate :=
  if env.dragState = .motionDragging then
    EventManager.errorNotAollowCooperateWhenMotionDragging
      (motionDraggingResult param.pid param.userData param.remoteNetworkId) m
  else
    let m := EventManager.startCooperateWithOptions param m
    EventManager.startCooperateWithOptionsFinish
      { success := false, errCode := CoordinationErrCode.unexpectedStartCall.toInt32 } m

def onStop (param : StopCooperateEvent) (m : Cooperate) : Cooperate :=
  let m := EventManager.stopCooperate param m
  let m := stopCooperate env m
  let param := { param with networkId := m.peer }
  let m := EventManager.stopCooperateFinish { networkId := m.peer, normal := true } m
  unchainConnections param m

def onComeBack (notice : DSoftbusComeBack) (m : Cooperate) : Cooperate :=
  if !m.isPeer notice.networkId then m
  else
    let notice := { notice with extra := Context.onRemoteStartCooperate env notice.extra m }
    let m := EventManager.remoteStart notice.networkId m
    let m := InputEventInterceptor.disableInterceptor m
    let m := Context.remoteStartSuccess env notice m
    let m := EventManager.remoteStartFinish notice.success notice.networkId m
    let m := transiteTo env .free m
    let m := Context.onBack env m
    if !m.needHideCursor then simulateShowPointerEvent m else m

def onComeBackWithOptions (notice : DSoftbusComeBackWithOptions) (m : Cooperate) : Cooperate :=
  if !m.isPeer notice.networkId then m
  else
    let notice := { notice with extra := Context.onRemoteStartCooperate env notice.extra m }
    let m := EventManager.remoteStart notice.networkId m
    let m := InputEventInterceptor.disableInterceptor m
    let m := Context.onRemoteStart notice m
    let m := EventManager.remoteStartFinish notice.success notice.networkId m
    let m := transiteTo env .free m
    let m := Context.onBack env m
    if !m.needHideCursor then simulateShowPointerEvent m else m

def onRemoteStart (notice : DSoftbusStartCooperate) (m : Cooperate) : Cooperate :=
  if env.isLocal notice.networkId then m
  else if m.isPeer notice.networkId then stopCooperate env m
  else
    let m := Context.onResetCooperation env m
    let notice := { notice with extra := Context.onRemoteStartCooperate env notice.extra m }
    let m := EventManager.remoteStart notice.networkId m
    let m := InputEventInterceptor.disableInterceptor m
    let m := (DSoftbusHandler.stopCooperate env m.peer m).2
    let m := Context.remoteStartSuccess env notice m
    let m := InputEventBuilder.enableBuilder env m
    let m := EventManager.remoteStartFinish notice.success notice.networkId m
    let m := transiteTo env .in m
    Context.onTransitionIn env m

def onRemoteStartWithOptions (notice : DSoftbusCooperateOptions) (m : Cooperate) : Cooperate :=
  if env.isLocal notice.networkId then m
  else if m.isPeer notice.networkId then stopCooperate env m
  else
    let m := Context.onResetCooperation env m
    let notice := { notice with extra := Context.onRemoteStartCooperate env notice.extra m }
    let m := EventManager.remoteStart notice.networkId m
    let m := InputEventInterceptor.disableInterceptor m
    let m := (DSoftbusHandler.stopCooperate env m.peer m).2
    let m := Context.onRemoteStart notice m
    let m := InputEventBuilder.enableBuilder env m
    let m := EventManager.remoteStartFinish notice.success notice.networkId m
    let m := transiteTo env .in m
    Context.onTransitionIn env m

def onRemoteStop (notice : DSoftbusStopCooperate) (m : Cooperate) : Cooperate :=
  if !m.isPeer notice.networkId then m
  else
    let m := InputEventInterceptor.disableInterceptor m
    let m := Context.resetCursorPosition env m
    let m := transiteTo env .free m
    Context.onResetCooperation env m

/-- Both relay handlers of the OUT side; they only differ in the packet that answers. -/
def relayTo
    (finish : NetworkId → DSoftbusRelayCooperateFinished → Cooperate → Int32 × Cooperate)
    (notice : DSoftbusRelayCooperate) (m : Cooperate) : Cooperate :=
  if !m.isPeer notice.networkId then m
  else
    let resp : DSoftbusRelayCooperateFinished :=
      { targetNetworkId := notice.targetNetworkId, uid := notice.uid }
    let ret := env.openSession notice.targetNetworkId
    let m := DSoftbusHandler.openSession env notice.targetNetworkId m
    if ret ≠ RET_OK then (finish notice.networkId { resp with normal := false } m).2
    else
      let m := (finish notice.networkId { resp with normal := true } m).2
      let m := Context.relayCooperate notice m
      let m := InputEventInterceptor.update m
      Context.onRelayCooperation env m.peer m

def onRelay (notice : DSoftbusRelayCooperate) (m : Cooperate) : Cooperate :=
  relayTo env (DSoftbusHandler.relayCooperateFinish env) notice m

def onRelayWithOptions (notice : DSoftbusRelayCooperate) (m : Cooperate) : Cooperate :=
  relayTo env (DSoftbusHandler.relayCooperateWithOptionsFinish env) notice m

/-- With no pointer device left `StopCooperate` is called a second time below the branch. -/
def onHotplug (notice : InputHotplugEvent) (m : Cooperate) : Cooperate :=
  if 0 < env.virtualTrackpadDeviceId then m
  else if !env.hasLocalPointerDevice then
    let m := stopCooperate env m
    stopCooperate env m
  else if notice.deviceId ≠ m.context.startDeviceId then m
  else stopCooperate env m

def onAppClosed (m : Cooperate) : Cooperate :=
  let m := DSoftbusHandler.closeAllSessions m
  stopCooperate env m

def onBoardOffline (notice : DDMBoardOfflineEvent) (m : Cooperate) : Cooperate :=
  if !m.isPeer notice.networkId then m else stopCooperate env m

def onSwitchChanged (notice : DDPCooperateSwitchChanged) (m : Cooperate) : Cooperate :=
  if !m.isPeer notice.networkId || notice.normal then m else stopCooperate env m

def onSoftbusSessionClosed (notice : DSoftbusSessionClosed) (m : Cooperate) : Cooperate :=
  if !m.isPeer notice.networkId then m else stopCooperate env m

def onStopAboutVirtualTrackpad (m : Cooperate) : Cooperate :=
  if !env.hasLocalPointerDevice then stopCooperate env m else m

def onEvent (event : CooperateEvent) (m : Cooperate) : Cooperate :=
  match event with
  | .disable _ => stopCooperate env m
  | .start param => onStart env param m
  | .withOptionsStart param => onStartWithOptions env param m
  | .stop param => onStop env param m
  | .appClosed _ => onAppClosed env m
  | .inputHotplugEvent notice => onHotplug env notice m
  | .ddmBoardOffline notice => onBoardOffline env notice m
  | .ddpCooperateSwitchChanged notice => onSwitchChanged env notice m
  | .dsoftbusSessionClosed notice => onSoftbusSessionClosed env notice m
  | .dsoftbusComeBack notice => onComeBack env notice m
  | .dsoftbusStartCooperate notice => onRemoteStart env notice m
  | .dsoftbusStopCooperate notice => onRemoteStop env notice m
  | .dsoftbusRelayCooperate notice => onRelay env notice m
  | .dsoftbusCooperateWithOptions notice => onRemoteStartWithOptions env notice m
  | .dsoftbusComeBackWithOptions notice => onComeBackWithOptions env notice m
  | .dsoftbusRelayCooperateWithOptions notice => onRelayWithOptions env notice m
  | .stopAboutVirtualTrackpad _ => onStopAboutVirtualTrackpad env m
  | .inputPointerEvent notice => onPointerEvent notice m
  | _ => m

end DeviceStatus.Cooperation.Out
