import DeviceStatus.Cooperate.Components

/-!
# The FREE state

The handlers of `CooperateFree::Initial`. A start request makes this device the source of
a cooperation, a start message of a peer makes it the sink.
-/

namespace DeviceStatus.Cooperation

/-- The notice for a request that comes while a drag is in progress, built in each state. -/
def motionDraggingResult (pid userData : Int32) (networkId : NetworkId) :
    NotAllowCooperateWhenMotionDragging :=
  { pid, userData, networkId, success := false,
    errCode := CoordinationErrCode.notAollowCooperateWhenMotionDragging.toInt32 }

namespace Free

variable (env : Env)

def initiatorPointerVisible (visible : Bool) (m : Cooperate) : Cooperate :=
  m.call (.setPointerVisibility visible)

def openSessionErrNum (ret : Int32) : Int32 :=
  if ret = RET_ERR then CoordinationErrCode.openSessionFailed.toInt32 else ret

def cooperateFail (ret : Int32) (m : Cooperate) : Cooperate :=
  if ret = RET_OK then m
  else EventManager.startCooperateFinish { success := false, errCode := openSessionErrNum ret } m

def simulateShowPointerEvent (m : Cooperate) : Cooperate :=
  m.call (.simulateShowPointerEvent env.builderPressedButtons)

/-- The START_COOPERATE notice of `OnStart`. -/
def startNotice (notice : StartCooperateEvent) (needCheckSameAccount : Bool) (m : Cooperate) :
    DSoftbusStartCooperate :=
  { originNetworkId := env.localNetworkId
    success := true
    cursorPos := Context.normalizedCursorPosition env m
    extra := Context.onStartCooperate env {} m
    pointerSpeed := m.input.pointerSpeed
    touchPadSpeed := m.input.touchPadSpeed
    uid := notice.uid
    userId := env.userId
    accountId := env.accountId
    needCheckSameAccount }

def onStart (notice : StartCooperateEvent) (m : Cooperate) : Cooperate :=
  let m := Context.startCooperate notice m
  let m := EventManager.startCooperate notice m
  if env.dragState = .motionDragging then
    EventManager.errorNotAollowCooperateWhenMotionDragging
      (motionDraggingResult notice.pid notice.userData notice.remoteNetworkId) m
  else
    let needCheckSameAccount := !env.hasSessionExisted m.peer
    let ret := env.openSession m.peer
    let m := DSoftbusHandler.openSession env m.peer m
    if ret ≠ RET_OK then cooperateFail ret m
    else
      let m := initiatorPointerVisible false m
      if env.checkDeviceOnline m.peer ≠ RET_OK then initiatorPointerVisible true m
      else
        let startNotice := startNotice env notice needCheckSameAccount m
        let sent := DSoftbusHandler.startCooperate env m.peer startNotice m
        let m := sent.2
        if sent.1 ≠ RET_OK then initiatorPointerVisible true m
        else
          let enabled := InputEventInterceptor.enableInterceptor env m
          let m := enabled.2
          if enabled.1 ≠ RET_OK then initiatorPointerVisible true m
          else
            let m := EventManager.startCooperateFinish startNotice m
            let m := transiteTo env .out m
            Context.onTransitionOut env m

/-- The COOPERATE_WITH_OPTIONS notice of `OnStartWithOptions`. -/
def startWithOptionsNotice (notice : StartWithOptionsEvent) (needCheckSameAccount : Bool)
    (m : Cooperate) : DSoftbusCooperateOptions :=
  { originNetworkId := env.localNetworkId
    success := true
    cooperateOptions :=
      { displayX := notice.displayX, displayY := notice.displayY, displayId := notice.displayId }
    extra := Context.onStartCooperate env {} m
    pointerSpeed := m.input.pointerSpeed
    touchPadSpeed := m.input.touchPadSpeed
    userId := env.userId
    accountId := env.accountId
    needCheckSameAccount }

/-- Unlike `onStart`, neither the peer's being online nor the results of sending and of
enabling the interceptor are looked at. -/
def onStartWithOptions (notice : StartWithOptionsEvent) (m : Cooperate) : Cooperate :=
  let m := Context.startCooperateWithOptions notice m
  let m := EventManager.startCooperateWithOptions notice m
  if env.dragState = .motionDragging then
    EventManager.errorNotAollowCooperateWhenMotionDragging
      (motionDraggingResult notice.pid notice.userData notice.remoteNetworkId) m
  else
    let needCheckSameAccount := !env.hasSessionExisted m.peer
    let ret := env.openSession m.peer
    let m := DSoftbusHandler.openSession env m.peer m
    if ret ≠ RET_OK then
      EventManager.startCooperateFinish { success := false, errCode := openSessionErrNum ret } m
    else
      let startNotice := startWithOptionsNotice env notice needCheckSameAccount m
      let m := (DSoftbusHandler.startCooperateWithOptions env m.peer startNotice m).2
      let m := (InputEventInterceptor.enableInterceptor env m).2
      let m := EventManager.startCooperateWithOptionsFinish startNotice m
      let m := transiteTo env .out m
      Context.onTransitionOut env m

def onStop (param : StopCooperateEvent) (m : Cooperate) : Cooperate :=
  let m := EventManager.stopCooperate param m
  let param := { param with networkId := m.peer }
  let m := EventManager.stopCooperateFinish { networkId := m.peer, normal := true } m
  unchainConnections param m

def onDisable (m : Cooperate) : Cooperate :=
  if env.dragState = .start ∧ env.isCrossDragging then
    let m := Context.onResetCooperation env m
    m.call (.setPointerVisibility env.hasPointerDevice)
  else if env.dragState = .start then m
  else m.call (.setPointerVisibility env.hasPointerDevice)

def onAppClosed (m : Cooperate) : Cooperate :=
  let m := m.call (.removeVirtualInputDevice m.peer)
  DSoftbusHandler.closeAllSessions m

def onRemoteStart (notice : DSoftbusStartCooperate) (m : Cooperate) : Cooperate :=
  let m := Context.storePeerPointerSpeed notice.pointerSpeed m
  let m := Context.storePeerTouchPadSpeed notice.touchPadSpeed m
  let notice := { notice with extra := Context.onRemoteStartCooperate env notice.extra m }
  let m := EventManager.remoteStart notice.networkId m
  let m := Context.remoteStartSuccess env notice m
  let m := InputEventBuilder.enableBuilder env m
  let m := EventManager.remoteStartFinish notice.success notice.networkId m
  let m := m.call (.addVirtualInputDevice m.peer)
  let m := transiteTo env .in m
  let m := Context.onTransitionIn env m
  if !m.needFreezeCursor then simulateShowPointerEvent env m else m

def onRemoteStartWithOptions (notice : DSoftbusCooperateOptions) (m : Cooperate) : Cooperate :=
  let m := Context.storePeerPointerSpeed notice.pointerSpeed m
  let m := Context.storePeerTouchPadSpeed notice.touchPadSpeed m
  let notice := { notice with extra := Context.onRemoteStartCooperate env notice.extra m }
  let m := EventManager.remoteStart notice.networkId m
  let notice := Context.adjustPointerPos env notice
  let m := Context.onRemoteStart notice m
  let m := InputEventBuilder.enableBuilder env m
  let m := EventManager.remoteStartFinish notice.success notice.networkId m
  let m := m.call (.addVirtualInputDevice m.peer)
  let m := transiteTo env .in m
  let m := Context.onTransitionIn env m
  if !m.needFreezeCursor then simulateShowPointerEvent env m else m

def onPointerEvent (notice : InputPointerEvent) (m : Cooperate) : Cooperate :=
  if m.needHideCursor && m.isCooperateWithCrossDrag then m
  else if env.dragState = .start then m
  else if InputEventBuilder.isLocalEvent notice && m.needHideCursor then
    let m := Context.updateCooperateFlag { mask := COOPERATE_FLAG_HIDE_CURSOR } m
    setPointerVisible env m
  else m

def onEvent (event : CooperateEvent) (m : Cooperate) : Cooperate :=
  match event with
  | .start notice => onStart env notice m
  | .withOptionsStart notice => onStartWithOptions env notice m
  | .stop param => onStop param m
  | .disable _ => onDisable env m
  | .appClosed _ => onAppClosed m
  | .dsoftbusStartCooperate notice => onRemoteStart env notice m
  | .inputPointerEvent notice => onPointerEvent env notice m
  | .updateCooperateFlag notice => Context.updateCooperateFlag notice m
  | .dsoftbusCooperateWithOptions notice => onRemoteStartWithOptions env notice m
  | _ => m

end Free

end DeviceStatus.Cooperation
