import DeviceStatus.Cooperate.Refinement

/-!
# The speeds of the pointer and of the touch pad

`Speeds` keeps of the whole state what decides the speeds: those that the input service has in
force, those that the context has saved of the user and stored of the peer, and what the input
service has been asked to set. What the helpers of the handlers do to them is told on the view.

## Main definitions

* `Speeds`, `spd` — the view and its map.
* `Speeds.storePeer`, `Speeds.ask`, `Speeds.reset`, `Speeds.transitionIn` — the helpers on the view.
* `CooperateEvent.speeds?` — the speeds that a start message carries.
-/

namespace DeviceStatus.Cooperation

inductive SpeedCall where
  | pointer (speed : Int32)
  | touchPad (speed : Int32)
  deriving DecidableEq

@[simp] def Call.speed? : Call → Option SpeedCall
  | .setPointerSpeed speed => some (.pointer speed)
  | .setTouchPadSpeed speed => some (.touchPad speed)
  | _ => none

def Effect.speed? : Effect → Option SpeedCall
  | .call c => c.speed?
  | _ => none

@[ext] structure Speeds where
  current : CooperateState
  pointer : Int32
  touchPad : Int32
  originPointer : Int32
  originTouchPad : Int32
  peerPointer : Int32
  peerTouchPad : Int32
  /-- what the input service has been asked to set, oldest first -/
  asked : List SpeedCall

def spd (m : Cooperate) : Speeds where
  current := m.machine.current
  pointer := m.input.pointerSpeed
  touchPad := m.input.touchPadSpeed
  originPointer := m.context.originPointerSpeed
  originTouchPad := m.context.originTouchPadSpeed
  peerPointer := m.context.peerPointerSpeed
  peerTouchPad := m.context.peerTouchPadSpeed
  asked := m.effects.filterMap Effect.speed?

namespace Speeds

variable (env : Env)

def goto (state : CooperateState) (s : Speeds) : Speeds :=
  { s with current := state }

/-- `StorePeerPointerSpeed` and `StorePeerTouchPadSpeed`. -/
def storePeer (v : Int32 × Int32) (s : Speeds) : Speeds :=
  { s with peerPointer := v.1, peerTouchPad := v.2 }

def ask (calls : List SpeedCall) (s : Speeds) : Speeds :=
  { s with asked := s.asked ++ calls }

@[simp] theorem ask_nil (s : Speeds) : s.ask [] = s := by
  simp only [ask, List.append_nil]

def setPointer (speed : Int32) (s : Speeds) : Speeds :=
  { s with
    pointer := env.applyPointerSpeed s.pointer speed
    asked := s.asked ++ [.pointer speed] }

def setTouchPad (speed : Int32) (s : Speeds) : Speeds :=
  if Context.MAX_MOUSE_SPEED < speed then s
  else
    { s with
      touchPad := env.applyTouchPadSpeed s.touchPad speed
      asked := s.asked ++ [.touchPad speed] }

/-- `ResetPointerAndTouchPadSpeed`. -/
def reset (s : Speeds) : Speeds :=
  { ({ s.setPointer env s.originPointer with peerPointer := -1 }).setTouchPad env
      s.originTouchPad with peerTouchPad := -1 }

/-- What `OnTransitionOut` saves. -/
def saveOrigin (s : Speeds) : Speeds :=
  { s with originPointer := s.pointer, originTouchPad := s.touchPad }

/-- `OnTransitionIn`. -/
def transitionIn (s : Speeds) : Speeds :=
  let s := { s with originPointer := s.pointer }
  let s := s.setPointer env s.peerPointer
  { s with originTouchPad := s.touchPad }.setTouchPad env s.peerTouchPad

@[simp] theorem current_goto (state : CooperateState) (s : Speeds) :
    (s.goto state).current = state := rfl

@[simp] theorem current_setPointer (speed : Int32) (s : Speeds) :
    (s.setPointer env speed).current = s.current := rfl

@[simp] theorem current_setTouchPad (speed : Int32) (s : Speeds) :
    (s.setTouchPad env speed).current = s.current := by
  unfold setTouchPad; split <;> rfl

@[simp] theorem current_reset (s : Speeds) : (s.reset env).current = s.current := by
  simp [reset]

@[simp] theorem current_transitionIn (s : Speeds) :
    (s.transitionIn env).current = s.current := by
  simp [transitionIn]

end Speeds

/-- The speeds that a start message carries. -/
def CooperateEvent.speeds? : CooperateEvent → Option (Int32 × Int32)
  | .dsoftbusStartCooperate e => some (e.pointerSpeed, e.touchPadSpeed)
  | .dsoftbusCooperateWithOptions e => some (e.pointerSpeed, e.touchPadSpeed)
  | _ => none

/-! ## What leaves the speeds alone -/

section Primitives

variable (env : Env) (m : Cooperate)

@[simp] theorem spd_call (c : Call) : spd (m.call c) = (spd m).ask c.speed?.toList := by
  have one : [Effect.call c].filterMap Effect.speed? = c.speed?.toList := by
    cases h : c.speed? <;> simp only [List.filterMap, Effect.speed?, h, Option.toList]
  simp only [spd, Cooperate.call, Cooperate.effect, List.filterMap_append, one]
  rfl

theorem spd_call_silent {c : Call} (h : c.speed? = none) : spd (m.call c) = spd m := by
  rw [spd_call, h]
  exact Speeds.ask_nil _

@[simp] theorem spd_emit (output : Output) : spd (m.emit output) = spd m := by
  simp [spd, Cooperate.emit, Cooperate.effect, Effect.speed?]

@[simp] theorem spd_notice (notice : CooperateNotice) :
    spd (EventManager.notifyCooperateMessage notice m) = spd m := by
  simp [spd, EventManager.notifyCooperateMessage, Cooperate.effect, Effect.speed?]

@[simp] theorem spd_postTasks (call : ObserverCall) : spd (Context.postTasks call m) = spd m := by
  simp [spd, Context.postTasks, List.filterMap_map, Function.comp_def, Effect.speed?, Call.speed?]

@[simp] theorem spd_onCooperateMessage (msg : CoordinationMessage) (networkId : NetworkId) :
    spd (EventManager.onCooperateMessage msg networkId m) = spd m := by
  simp [spd, EventManager.onCooperateMessage, List.filterMap_map, Function.comp_def,
    Effect.speed?]

@[simp] theorem spd_send (networkId : NetworkId) (packet : DSoftbusPacket) :
    spd (DSoftbusHandler.send env networkId packet m).2 = spd m := by
  simp [spd, DSoftbusHandler.send, List.filterMap_map, Function.comp_def, Effect.speed?]

end Primitives

namespace Context

variable (env : Env) (m : Cooperate)

@[simp] theorem spd_startCooperate (event : StartCooperateEvent) :
    spd (startCooperate event m) = spd m := rfl

@[simp] theorem spd_startCooperateWithOptions (event : StartWithOptionsEvent) :
    spd (startCooperateWithOptions event m) = spd m := rfl

@[simp] theorem spd_relayCooperate (event : DSoftbusRelayCooperate) :
    spd (relayCooperate event m) = spd m := rfl

@[simp] theorem spd_setCursorPosition (pos : Coordinate) :
    spd (setCursorPosition env pos m) = spd m := by
  unfold setCursorPosition
  split
  · rfl
  · exact (spd_call_silent _ rfl).trans rfl

@[simp] theorem spd_remoteStartSuccess (event : DSoftbusStartCooperateFinished) :
    spd (remoteStartSuccess env event m) = spd m :=
  (spd_setCursorPosition ..).trans rfl

@[simp] theorem spd_onRemoteStart (event : DSoftbusCooperateWithOptionsFinished) :
    spd (onRemoteStart event m) = spd m :=
  (spd_call_silent { m with
    context.remoteNetworkId := event.originNetworkId
    context.flag := event.extra.flag
    context.priv := event.extra.priv } rfl).trans rfl

@[simp] theorem spd_updateCursorPosition : spd (updateCursorPosition m) = spd m :=
  spd_call_silent _ rfl

@[simp] theorem spd_resetCursorPosition : spd (resetCursorPosition env m) = spd m := by
  unfold resetCursorPosition stopCooperateSetCursorPosition
  split
  · rfl
  · exact spd_call_silent _ rfl

@[simp] theorem spd_updateCooperateFlag (event : UpdateCooperateFlagEvent) :
    spd (updateCooperateFlag event m) = spd m := rfl

@[simp] theorem spd_updateCooperateOptions (event : StartWithOptionsEvent) :
    spd (updateCooperateOptions event m) = spd m := rfl

@[simp] theorem spd_resetPriv : spd (resetPriv m) = spd m := rfl

@[simp] theorem spd_disableCooperate : spd (disableCooperate m) = spd m := rfl

@[simp] theorem spd_onPointerEvent (event : InputPointerEvent) :
    spd (onPointerEvent env event m) = spd m := by
  unfold onPointerEvent; split <;> rfl

@[simp] theorem spd_onRelayCooperation (networkId : NetworkId) :
    spd (onRelayCooperation env networkId m) = spd m := spd_postTasks ..

@[simp] theorem spd_closeDistributedFileConnection (networkId : NetworkId) :
    spd (closeDistributedFileConnection networkId m) = spd m := spd_postTasks ..

@[simp] theorem spd_onStopCooperate : spd (onStopCooperate m) = spd m := spd_postTasks ..

/-! ## What stores, saves, applies and resets them -/

@[simp] theorem spd_storePeerSpeeds (pointerSpeed touchPadSpeed : Int32) :
    spd (storePeerTouchPadSpeed touchPadSpeed (storePeerPointerSpeed pointerSpeed m)) =
      (spd m).storePeer (pointerSpeed, touchPadSpeed) := rfl

theorem spd_setPointerSpeed (speed : Int32) :
    spd (setPointerSpeed env speed m) = (spd m).setPointer env speed := by
  simp [spd, setPointerSpeed, Speeds.setPointer, Cooperate.call, Cooperate.effect, Effect.speed?,
    Call.speed?]

theorem spd_setTouchPadSpeed (speed : Int32) :
    spd (setTouchPadSpeed env speed m) = (spd m).setTouchPad env speed := by
  unfold setTouchPadSpeed Speeds.setTouchPad
  split
  · rfl
  · simp [spd, Cooperate.call, Cooperate.effect, Effect.speed?, Call.speed?]

theorem spd_clearPeerPointerSpeed :
    spd (clearPeerPointerSpeed m) = { spd m with peerPointer := -1 } := rfl

theorem spd_clearPeerTouchPadSpeed :
    spd (clearPeerTouchPadSpeed m) = { spd m with peerTouchPad := -1 } := rfl

theorem spd_storeOriginPointerSpeed :
    spd (storeOriginPointerSpeed m) = { spd m with originPointer := (spd m).pointer } := rfl

theorem spd_storeOriginTouchPadSpeed :
    spd (storeOriginTouchPadSpeed m) = { spd m with originTouchPad := (spd m).touchPad } := rfl

@[simp] theorem spd_resetPointerAndTouchPadSpeed :
    spd (resetPointerAndTouchPadSpeed env m) = (spd m).reset env := by
  simp only [resetPointerAndTouchPadSpeed, spd_clearPeerTouchPadSpeed, spd_setTouchPadSpeed,
    spd_clearPeerPointerSpeed, spd_setPointerSpeed]
  rfl

@[simp] theorem spd_onTransitionOut : spd (onTransitionOut env m) = (spd m).saveOrigin := by
  simp only [onTransitionOut, spd_postTasks]
  rfl

@[simp] theorem spd_onTransitionIn : spd (onTransitionIn env m) = (spd m).transitionIn env := by
  simp only [onTransitionIn, spd_postTasks, spd_setTouchPadSpeed, spd_storeOriginTouchPadSpeed,
    spd_setPointerSpeed, spd_storeOriginPointerSpeed]
  rfl

@[simp] theorem spd_onBack : spd (onBack env m) = (spd m).reset env := by
  simp only [onBack, spd_postTasks, spd_resetPointerAndTouchPadSpeed]

@[simp] theorem spd_onResetCooperation :
    spd (onResetCooperation env m) = (spd m).reset env := by
  have priv (m : Cooperate) : spd { m with context.priv := 0 } = spd m := rfl
  simp only [onResetCooperation, spd_postTasks, priv, spd_resetPointerAndTouchPadSpeed]

end Context

/-! ## Components -/

section Components

variable (env : Env) (m : Cooperate)

@[simp] theorem spd_startCall (event : StartCooperateEvent) :
    spd (EventManager.startCooperate event m) = spd m := rfl

@[simp] theorem spd_startCallWithOptions (event : StartWithOptionsEvent) :
    spd (EventManager.startCooperateWithOptions event m) = spd m := rfl

@[simp] theorem spd_finishStart (success : Bool) (errCode : Int32) :
    spd (EventManager.finishStart success errCode m) = spd m := by
  unfold EventManager.finishStart
  split
  · rfl
  · exact (spd_notice ..).trans rfl

@[simp] theorem spd_startCooperateFinish (event : DSoftbusStartCooperateFinished) :
    spd (EventManager.startCooperateFinish event m) = spd m := spd_finishStart ..

@[simp] theorem spd_startCooperateWithOptionsFinish
    (event : DSoftbusCooperateWithOptionsFinished) :
    spd (EventManager.startCooperateWithOptionsFinish event m) = spd m := spd_finishStart ..

@[simp] theorem spd_errorNotAollow (event : NotAllowCooperateWhenMotionDragging) :
    spd (EventManager.errorNotAollowCooperateWhenMotionDragging event m) = spd m :=
  spd_notice ..

@[simp] theorem spd_stopCall (event : StopCooperateEvent) :
    spd (EventManager.stopCooperate event m) = spd m := rfl

@[simp] theorem spd_stopCooperateFinish (event : DSoftbusStopCooperateFinished) :
    spd (EventManager.stopCooperateFinish event m) = spd m := by
  unfold EventManager.stopCooperateFinish
  split
  · rfl
  · exact Eq.trans (b := spd (EventManager.notifyCooperateMessage _ m)) rfl (spd_notice ..)

@[simp] theorem spd_closeAllSessions : spd (DSoftbusHandler.closeAllSessions m) = spd m :=
  spd_call_silent _ rfl

@[simp] theorem spd_unchainConnections (event : StopCooperateEvent) :
    spd (unchainConnections event m) = spd m := by
  unfold unchainConnections
  split
  · simp [EventManager.onUnchain]
  · rfl

@[simp] theorem spd_openSession (networkId : NetworkId) :
    spd (DSoftbusHandler.openSession env networkId m) = spd m := by
  unfold DSoftbusHandler.openSession
  split <;> simp [Call.speed?]

@[simp] theorem spd_enableBuilder : spd (InputEventBuilder.enableBuilder env m) = spd m := by
  unfold InputEventBuilder.enableBuilder
  split
  · rfl
  · exact ((spd_call_silent _ rfl).trans (spd_call_silent _ rfl)).trans rfl

@[simp] theorem spd_disableBuilder : spd (InputEventBuilder.disableBuilder m) = spd m := by
  unfold InputEventBuilder.disableBuilder
  by_cases h : m.context.inputEventBuilder.enable <;>
    by_cases ht : 0 ≤ m.context.inputEventBuilder.pointerEventTimer <;>
    simp [h, ht, spd, Cooperate.call, Cooperate.effect, Effect.speed?, Call.speed?]

@[simp] theorem spd_enableInterceptor :
    spd (InputEventInterceptor.enableInterceptor env m).2 = spd m := by
  unfold InputEventInterceptor.enableInterceptor
  by_cases h : 0 < m.context.inputEventInterceptor.interceptorId
  · simp only [h, if_true]
  · by_cases ha : env.addInterceptor < 0 <;>
      simp [h, ha, spd, Cooperate.call, Cooperate.effect, Effect.speed?, Call.speed?]

@[simp] theorem spd_disableInterceptor :
    spd (InputEventInterceptor.disableInterceptor m) = spd m := by
  unfold InputEventInterceptor.disableInterceptor
  by_cases h : 0 < m.context.inputEventInterceptor.interceptorId <;>
    by_cases ht : 0 ≤ m.context.inputEventInterceptor.pointerEventTimer <;>
    simp [h, ht, spd, Cooperate.call, Cooperate.effect, Effect.speed?, Call.speed?]

@[simp] theorem spd_builder_update : spd (InputEventBuilder.update m) = spd m := rfl

@[simp] theorem spd_interceptor_update : spd (InputEventInterceptor.update m) = spd m := rfl

@[simp] theorem spd_freeze : spd (InputEventBuilder.freeze m) = spd m := by
  unfold InputEventBuilder.freeze; split <;> rfl

@[simp] theorem spd_thaw : spd (InputEventBuilder.thaw m) = spd m := by
  unfold InputEventBuilder.thaw; split <;> rfl

@[simp] theorem spd_onLeaveState : spd (onLeaveState env m) = spd m := by
  unfold onLeaveState
  split
  · rfl
  · exact spd_call_silent _ rfl
  · exact (spd_call_silent _ rfl).trans rfl

@[simp] theorem spd_onEnterState : spd (onEnterState m) = spd m := by
  unfold onEnterState
  split
  · rfl
  · exact spd_call_silent _ rfl
  · exact spd_call_silent _ rfl

@[simp] theorem spd_transiteTo (state : CooperateState) :
    spd (transiteTo env state m) = (spd m).goto state := by
  unfold transiteTo
  split
  case isTrue h => rw [h]; rfl
  case isFalse =>
    calc spd (EventManager.onStatusChanged _ (onEnterState
            { onLeaveState env m with machine.current := state }))
        = spd { onLeaveState env m with machine.current := state } := by
          simp only [EventManager.onStatusChanged, spd_onCooperateMessage, spd_onEnterState]
      _ = (spd (onLeaveState env m)).goto state := rfl
      _ = (spd m).goto state := by rw [spd_onLeaveState]

end Components

end DeviceStatus.Cooperation
