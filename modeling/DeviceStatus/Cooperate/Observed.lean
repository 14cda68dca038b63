import DeviceStatus.Cooperate.StateMachine

/-!
# What a cooperation is seen to be

`Observed` keeps of the whole state what decides a cooperation: the state and the step, the
peer, who holds which end of the input path, the request that waits for its answer and the
outputs of the event. Each operation of the code has its counterpart here; the lemmas say
that `obs` takes the one to the other, and that everything else leaves the view alone.
-/

namespace DeviceStatus.Cooperation

structure Observed where
  current : CooperateState
  inStep : InStep
  peer : NetworkId
  /-- the target of a relay -/
  process : NetworkId
  timerId : Int32
  enabled : Bool
  builder : Bool
  builderPeer : NetworkId
  interceptor : Int32
  interceptorPeer : NetworkId
  pending : Option PendingCall
  outputs : List Output

def obs (m : Cooperate) : Observed where
  current := m.machine.current
  inStep := m.machine.inStep
  peer := m.peer
  process := m.machine.process.remoteNetworkId
  timerId := m.machine.timerId
  enabled := m.machine.isCooperateEnable
  builder := m.context.inputEventBuilder.enable
  builderPeer := m.context.inputEventBuilder.remoteNetworkId
  interceptor := m.context.inputEventInterceptor.interceptorId
  interceptorPeer := m.context.inputEventInterceptor.remoteNetworkId
  pending := m.context.eventMgr.startCall
  outputs := m.outputs

namespace Observed

variable (env : Env)

def out (outputs : List Output) (o : Observed) : Observed :=
  { o with outputs := o.outputs ++ outputs }

def send (networkId : NetworkId) (packet : DSoftbusPacket) (o : Observed) : Observed :=
  o.out (DSoftbusHandler.sendOutputs env o.outputs.length networkId packet)

def goto (state : CooperateState) (o : Observed) : Observed :=
  { o with current := state }

def bind (peer : NetworkId) (o : Observed) : Observed :=
  { o with peer := peer }

def register (call : PendingCall) (o : Observed) : Observed :=
  { o with pending := some call }

/-- Answer the request that waits, if there is one. -/
def finish (success : Bool) (errCode : Int32) (o : Observed) : Observed :=
  match o.pending with
  | none => o
  | some call =>
    { o with
      pending := none
      outputs := o.outputs ++ [.answer (EventManager.startNotice call success errCode)] }

def enableBuilder (o : Observed) : Observed :=
  if o.builder then o else { o with builder := true, builderPeer := o.peer }

def disableBuilder (o : Observed) : Observed :=
  { o with builder := false }

def enableInterceptor (o : Observed) : Observed :=
  if 0 < o.interceptor then o
  else { o with interceptor := env.addInterceptor, interceptorPeer := o.peer }

def disableInterceptor (o : Observed) : Observed :=
  { o with interceptor := if 0 < o.interceptor then -1 else o.interceptor }

/-- `InputEventBuilder::Update`. -/
def updateBuilder (o : Observed) : Observed :=
  { o with builderPeer := o.peer }

/-- `InputEventInterceptor::Update`. -/
def updateInterceptor (o : Observed) : Observed :=
  { o with interceptorPeer := o.peer }

/-- `CooperateOut::StopCooperate`. -/
def stopOut (o : Observed) : Observed :=
  (o.disableInterceptor.send env o.peer .stopCooperate).goto .free

/-- `CooperateIn::StopCooperate`. -/
def stopIn (o : Observed) : Observed :=
  (o.disableBuilder.send env o.peer .stopCooperate).goto .free

/-- Back to the initial step of `CooperateIn`. -/
def reset (o : Observed) : Observed :=
  { o with inStep := .initial }

end Observed

section Primitives

variable {env : Env} (m : Cooperate)

@[simp] theorem context_call (c : Call) : (m.call c).context = m.context := rfl

@[simp] theorem machine_call (c : Call) : (m.call c).machine = m.machine := rfl

@[simp] theorem outputs_call (c : Call) : (m.call c).outputs = m.outputs := by
  simp [Cooperate.call, Cooperate.outputs, Cooperate.effect, Effect.output?]

@[simp] theorem outputs_emit (o : Output) : (m.emit o).outputs = m.outputs ++ [o] := by
  simp [Cooperate.emit, Cooperate.outputs, Cooperate.effect, Effect.output?]

@[simp] theorem obs_call (c : Call) : obs (m.call c) = obs m := by
  simp [obs, Cooperate.peer]

@[simp] theorem obs_emit (o : Output) : obs (m.emit o) = (obs m).out [o] := by
  simp only [obs, Observed.out, outputs_emit]; rfl

theorem obs_answer {notice : CooperateNotice} (h : notice.isAnswer = true) :
    obs (EventManager.notifyCooperateMessage notice m) = (obs m).out [.answer notice] := by
  simp [obs, EventManager.notifyCooperateMessage, Cooperate.outputs, Cooperate.effect,
    Effect.output?, Cooperate.peer, Observed.out, h]

theorem obs_notAnswer {notice : CooperateNotice} (h : notice.isAnswer = false) :
    obs (EventManager.notifyCooperateMessage notice m) = obs m := by
  simp [obs, EventManager.notifyCooperateMessage, Cooperate.outputs, Cooperate.effect,
    Effect.output?, Cooperate.peer, h]

@[simp] theorem obs_postTasks (call : ObserverCall) : obs (Context.postTasks call m) = obs m := by
  simp [obs, Context.postTasks, Cooperate.outputs, Cooperate.peer, List.filterMap_map,
    Function.comp_def, Effect.output?]

@[simp] theorem obs_onCooperateMessage (msg : CoordinationMessage) (networkId : NetworkId) :
    obs (EventManager.onCooperateMessage msg networkId m) = obs m := by
  simp [obs, EventManager.onCooperateMessage, Cooperate.outputs, Cooperate.peer,
    List.filterMap_map, Function.comp_def, Effect.output?, CooperateNotice.isAnswer]

theorem peer_eq : m.peer = (obs m).peer := rfl

theorem isPeer_eq (networkId : NetworkId) :
    m.isPeer networkId = decide (networkId = (obs m).peer) := rfl

end Primitives

/-! ## Context -/

namespace Context

variable (env : Env) (m : Cooperate)

@[simp] theorem obs_startCooperate (event : StartCooperateEvent) :
    obs (startCooperate event m) = (obs m).bind event.remoteNetworkId := rfl

@[simp] theorem obs_startCooperateWithOptions (event : StartWithOptionsEvent) :
    obs (startCooperateWithOptions event m) = (obs m).bind event.remoteNetworkId := rfl

@[simp] theorem obs_relayCooperate (event : DSoftbusRelayCooperate) :
    obs (relayCooperate event m) = (obs m).bind event.targetNetworkId := rfl

@[simp] theorem obs_setCursorPosition (pos : Coordinate) :
    obs (setCursorPosition env pos m) = obs m := by
  unfold setCursorPosition
  split
  · rfl
  · rw [obs_call]; rfl

@[simp] theorem obs_remoteStartSuccess (event : DSoftbusStartCooperateFinished) :
    obs (remoteStartSuccess env event m) = (obs m).bind event.originNetworkId := by
  simp only [remoteStartSuccess, obs_setCursorPosition]; rfl

@[simp] theorem obs_onRemoteStart (event : DSoftbusCooperateWithOptionsFinished) :
    obs (onRemoteStart event m) = (obs m).bind event.originNetworkId := by
  simp only [onRemoteStart, obs, Cooperate.peer, Cooperate.outputs, context_call]
  exact congrArg _ (outputs_call ..)

@[simp] theorem obs_updateCursorPosition : obs (updateCursorPosition m) = obs m := obs_call _ _

@[simp] theorem obs_resetCursorPosition : obs (resetCursorPosition env m) = obs m := by
  unfold resetCursorPosition stopCooperateSetCursorPosition
  split
  · rfl
  · exact obs_call _ _

@[simp] theorem obs_setPointerSpeed (speed : Int32) : obs (setPointerSpeed env speed m) = obs m :=
  obs_call _ _

@[simp] theorem obs_setTouchPadSpeed (speed : Int32) :
    obs (setTouchPadSpeed env speed m) = obs m := by
  unfold setTouchPadSpeed
  split
  · rfl
  · exact obs_call _ _

@[simp] theorem obs_resetPointerAndTouchPadSpeed :
    obs (resetPointerAndTouchPadSpeed env m) = obs m := by
  calc obs (resetPointerAndTouchPadSpeed env m)
      = obs (setTouchPadSpeed env m.context.originTouchPadSpeed
          (clearPeerPointerSpeed (setPointerSpeed env m.context.originPointerSpeed m))) := rfl
    _ = obs (setPointerSpeed env m.context.originPointerSpeed m) := obs_setTouchPadSpeed ..
    _ = obs m := obs_setPointerSpeed ..

@[simp] theorem obs_onTransitionOut : obs (onTransitionOut env m) = obs m :=
  obs_postTasks _ _

@[simp] theorem obs_onTransitionIn : obs (onTransitionIn env m) = obs m := by
  calc obs (onTransitionIn env m)
      = obs (storeOriginTouchPadSpeed
          (setPointerSpeed env m.context.peerPointerSpeed (storeOriginPointerSpeed m))) := by
        simp only [onTransitionIn, obs_postTasks, obs_setTouchPadSpeed]; rfl
    _ = obs (setPointerSpeed env m.context.peerPointerSpeed (storeOriginPointerSpeed m)) := rfl
    _ = obs m := obs_setPointerSpeed ..

@[simp] theorem obs_onBack : obs (onBack env m) = obs m := by
  simp only [onBack, obs_postTasks, obs_resetPointerAndTouchPadSpeed]

@[simp] theorem obs_onRelayCooperation (networkId : NetworkId) :
    obs (onRelayCooperation env networkId m) = obs m := obs_postTasks ..

@[simp] theorem obs_closeDistributedFileConnection (networkId : NetworkId) :
    obs (closeDistributedFileConnection networkId m) = obs m := obs_postTasks ..

@[simp] theorem obs_onStopCooperate : obs (onStopCooperate m) = obs m := obs_postTasks ..

@[simp] theorem obs_onResetCooperation : obs (onResetCooperation env m) = obs m := by
  have priv (m : Cooperate) : obs { m with context.priv := 0 } = obs m := rfl
  simp only [onResetCooperation, obs_postTasks, priv, obs_resetPointerAndTouchPadSpeed]

@[simp] theorem obs_onPointerEvent (event : InputPointerEvent) :
    obs (onPointerEvent env event m) = obs m := by
  unfold onPointerEvent; split <;> rfl

@[simp] theorem obs_updateCooperateFlag (event : UpdateCooperateFlagEvent) :
    obs (updateCooperateFlag event m) = obs m := rfl

@[simp] theorem obs_updateCooperateOptions (event : StartWithOptionsEvent) :
    obs (updateCooperateOptions event m) = obs m := rfl

@[simp] theorem obs_resetPriv : obs (resetPriv m) = obs m := rfl

@[simp] theorem obs_storePeerPointerSpeed (speed : Int32) :
    obs (storePeerPointerSpeed speed m) = obs m := rfl

@[simp] theorem obs_storePeerTouchPadSpeed (speed : Int32) :
    obs (storePeerTouchPadSpeed speed m) = obs m := rfl

end Context

/-! ## Components -/

section Components

variable (env : Env) (m : Cooperate)

@[simp] theorem obs_startCall (event : StartCooperateEvent) :
    obs (EventManager.startCooperate event m) =
      (obs m).register ⟨event.pid, event.userData, event.remoteNetworkId⟩ := rfl

@[simp] theorem obs_startCallWithOptions (event : StartWithOptionsEvent) :
    obs (EventManager.startCooperateWithOptions event m) =
      (obs m).register ⟨event.pid, event.userData, event.remoteNetworkId⟩ := rfl

@[simp] theorem isAnswer_startNotice (call : PendingCall) (success : Bool) (errCode : Int32) :
    (EventManager.startNotice call success errCode).isAnswer = true := by
  cases success <;> rfl

@[simp] theorem obs_finishStart (success : Bool) (errCode : Int32) :
    obs (EventManager.finishStart success errCode m) = (obs m).finish success errCode := by
  have hp : (obs m).pending = m.context.eventMgr.startCall := rfl
  unfold EventManager.finishStart Observed.finish
  rw [hp]
  cases h : m.context.eventMgr.startCall with
  | none => rfl
  | some call => exact (obs_answer _ (isAnswer_startNotice ..)).trans rfl

@[simp] theorem obs_startCooperateFinish (event : DSoftbusStartCooperateFinished) :
    obs (EventManager.startCooperateFinish event m) =
      (obs m).finish event.success event.errCode := obs_finishStart ..

@[simp] theorem obs_startCooperateWithOptionsFinish
    (event : DSoftbusCooperateWithOptionsFinished) :
    obs (EventManager.startCooperateWithOptionsFinish event m) =
      (obs m).finish event.success event.errCode := obs_finishStart ..

theorem obs_errorNotAollow (event : NotAllowCooperateWhenMotionDragging) :
    obs (EventManager.errorNotAollowCooperateWhenMotionDragging event m) =
      (obs m).out [.answer (EventManager.startNotice
        ⟨event.pid, event.userData, event.networkId⟩ event.success event.errCode)] :=
  obs_answer m (isAnswer_startNotice
    ⟨event.pid, event.userData, event.networkId⟩ event.success event.errCode)

@[simp] theorem obs_stopCall (event : StopCooperateEvent) :
    obs (EventManager.stopCooperate event m) = obs m := rfl

@[simp] theorem obs_stopCooperateFinish (event : DSoftbusStopCooperateFinished) :
    obs (EventManager.stopCooperateFinish event m) = obs m := by
  unfold EventManager.stopCooperateFinish
  split
  · rfl
  · exact (obs_notAnswer m (by cases event.normal <;> rfl)).trans rfl

@[simp] theorem obs_closeAllSessions : obs (DSoftbusHandler.closeAllSessions m) = obs m :=
  obs_call ..

@[simp] theorem obs_unchainConnections (event : StopCooperateEvent) :
    obs (unchainConnections event m) = obs m := by
  unfold unchainConnections
  split
  · simp [EventManager.onUnchain]
  · rfl

@[simp] theorem obs_openSession (networkId : NetworkId) :
    obs (DSoftbusHandler.openSession env networkId m) = obs m := by
  unfold DSoftbusHandler.openSession
  split <;> simp

@[simp] theorem obs_send (networkId : NetworkId) (packet : DSoftbusPacket) :
    obs (DSoftbusHandler.send env networkId packet m).2 =
      (obs m).send env networkId packet := by
  simp [obs, DSoftbusHandler.send, Cooperate.outputs, Cooperate.peer, List.filterMap_map,
    Function.comp_def, Effect.output?, Observed.send, Observed.out]

@[simp] theorem fst_send (networkId : NetworkId) (packet : DSoftbusPacket) :
    (DSoftbusHandler.send env networkId packet m).1 =
      DSoftbusHandler.sendResult env (obs m).outputs.length networkId packet := rfl

@[simp] theorem obs_enableBuilder :
    obs (InputEventBuilder.enableBuilder env m) = (obs m).enableBuilder := by
  have hb : (obs m).builder = m.context.inputEventBuilder.enable := rfl
  unfold InputEventBuilder.enableBuilder Observed.enableBuilder
  rw [hb]
  split
  · rfl
  · simp only [obs_call]; rfl

@[simp] theorem obs_disableBuilder :
    obs (InputEventBuilder.disableBuilder m) = (obs m).disableBuilder := by
  unfold InputEventBuilder.disableBuilder
  by_cases h : m.context.inputEventBuilder.enable <;>
    by_cases ht : 0 ≤ m.context.inputEventBuilder.pointerEventTimer <;>
    simp [h, ht, obs, Observed.disableBuilder, Cooperate.peer, Cooperate.outputs,
      Cooperate.call, Cooperate.effect, Effect.output?]

@[simp] theorem obs_enableInterceptor :
    obs (InputEventInterceptor.enableInterceptor env m).2 = (obs m).enableInterceptor env := by
  have hi : (obs m).interceptor = m.context.inputEventInterceptor.interceptorId := rfl
  unfold InputEventInterceptor.enableInterceptor Observed.enableInterceptor
  rw [hi]
  by_cases h : 0 < m.context.inputEventInterceptor.interceptorId
  · simp only [h, if_true]
  · by_cases ha : env.addInterceptor < 0 <;> simp only [h, ha, if_true, if_false, obs_call] <;> rfl

/-- `Enable` succeeds when there is an interceptor already or the input service gives an id
that is not negative. -/
theorem fst_enableInterceptor :
    (InputEventInterceptor.enableInterceptor env m).1 =
      if 0 < (obs m).interceptor ∨ 0 ≤ env.addInterceptor then RET_OK else RET_ERR := by
  have hi : (obs m).interceptor = m.context.inputEventInterceptor.interceptorId := rfl
  unfold InputEventInterceptor.enableInterceptor
  rw [hi]
  by_cases h : 0 < m.context.inputEventInterceptor.interceptorId
  · simp only [h, if_true, true_or]
  · by_cases ha : env.addInterceptor < 0
    · simp [h, ha, Int32.not_le.mpr ha]
    · simp [h, ha, Int32.not_lt.mp ha]

@[simp] theorem obs_disableInterceptor :
    obs (InputEventInterceptor.disableInterceptor m) = (obs m).disableInterceptor := by
  unfold InputEventInterceptor.disableInterceptor
  by_cases h : 0 < m.context.inputEventInterceptor.interceptorId <;>
    by_cases ht : 0 ≤ m.context.inputEventInterceptor.pointerEventTimer <;>
    simp [h, ht, obs, Observed.disableInterceptor, Cooperate.peer, Cooperate.outputs,
      Cooperate.call, Cooperate.effect, Effect.output?]

@[simp] theorem obs_builder_update :
    obs (InputEventBuilder.update m) = (obs m).updateBuilder := rfl

@[simp] theorem obs_interceptor_update :
    obs (InputEventInterceptor.update m) = (obs m).updateInterceptor := rfl

@[simp] theorem obs_onLeaveState : obs (onLeaveState env m) = obs m := by
  unfold onLeaveState
  split
  · rfl
  · exact obs_call ..
  · exact (obs_call ..).trans rfl

@[simp] theorem obs_onEnterState : obs (onEnterState m) = obs m := by
  unfold onEnterState
  split
  · rfl
  · exact obs_call ..
  · exact obs_call ..

@[simp] theorem obs_transiteTo (state : CooperateState) :
    obs (transiteTo env state m) = (obs m).goto state := by
  unfold transiteTo
  split
  case isTrue h => rw [h]; rfl
  case isFalse =>
    calc obs (EventManager.onStatusChanged _ (onEnterState
            { onLeaveState env m with machine.current := state }))
        = obs { onLeaveState env m with machine.current := state } := by
          simp only [EventManager.onStatusChanged, obs_onCooperateMessage, obs_onEnterState]
      _ = (obs (onLeaveState env m)).goto state := rfl
      _ = (obs m).goto state := by rw [obs_onLeaveState]

end Components

end DeviceStatus.Cooperation
