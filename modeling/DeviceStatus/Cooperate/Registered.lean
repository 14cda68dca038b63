import DeviceStatus.Cooperate.StateMachine
import Mathlib.Data.List.Nodup

/-!
# What the state machine has registered

The monitors and observers that `EnableCooperate` registers, the listeners of local clients and
the calls that tell the other components of them. `Registered` keeps that much of the state; what
the current state does with an event leaves it alone.

## Main definitions

* `Registered`, `registered` — the view and its map.
-/

namespace DeviceStatus.Cooperation

/-- The calls that register or remove something. -/
@[simp] def Call.isRegistration : Call → Bool
  | .addMonitor _ | .removeMonitor _ | .addPreMonitor _ | .removePreMonitor _ => true
  | .addCommonEventObserver | .removeCommonEventObserver => true
  | .registerDevListener | .unregisterDevListener => true
  | .registerApplicationStateObserver _ | .unregisterApplicationStateObserver => true
  | .hotAreaAddListener _ | .hotAreaRemoveListener _ | .hotAreaOnClientDied _ => true
  | .mouseLocationAddListener _ | .mouseLocationRemoveListener _ => true
  | .mouseLocationOnClientDied _ | .mouseLocationOnSoftbusSessionClosed _ => true
  | _ => false

def Effect.registration? : Effect → Option Call
  | .call c => if c.isRegistration then some c else none
  | _ => none

structure Registered where
  monitorId : Int32
  preMonitorId : Int32
  appStateObserver : Option Int32
  isCooperateEnable : Bool
  listeners : List Listener
  /-- the registrations of the event, in order -/
  calls : List Call

def registered (m : Cooperate) : Registered where
  monitorId := m.machine.monitorId
  preMonitorId := m.machine.preMonitorId
  appStateObserver := m.machine.appStateObserver
  isCooperateEnable := m.machine.isCooperateEnable
  listeners := m.context.eventMgr.listeners
  calls := m.effects.filterMap Effect.registration?

def Registered.log (calls : List Call) (r : Registered) : Registered :=
  { r with calls := r.calls ++ calls }

@[simp] theorem Registered.log_nil (r : Registered) : r.log [] = r := by
  simp [Registered.log]

/-! ## Operations -/

section Primitives

variable (env : Env) (m : Cooperate)

@[simp] theorem registered_call (c : Call) :
    registered (m.call c) = (registered m).log (if c.isRegistration then [c] else []) := by
  have one : [Effect.call c].filterMap Effect.registration? =
      if c.isRegistration then [c] else [] := by
    cases h : c.isRegistration <;> simp only [List.filterMap, Effect.registration?, h] <;> rfl
  simp only [registered, Cooperate.call, Cooperate.effect, List.filterMap_append, one]
  rfl

theorem registered_call_other {c : Call} (h : c.isRegistration = false) :
    registered (m.call c) = registered m := by
  rw [registered_call, h]
  exact Registered.log_nil _

@[simp] theorem registered_emit (output : Output) : registered (m.emit output) = registered m := by
  simp [registered, Cooperate.emit, Cooperate.effect, Effect.registration?]

@[simp] theorem registered_notice (notice : CooperateNotice) :
    registered (EventManager.notifyCooperateMessage notice m) = registered m := by
  simp [registered, EventManager.notifyCooperateMessage, Cooperate.effect, Effect.registration?]

@[simp] theorem registered_postTasks (call : ObserverCall) :
    registered (Context.postTasks call m) = registered m := by
  simp [registered, Context.postTasks, List.filterMap_map, Function.comp_def,
    Effect.registration?]

@[simp] theorem registered_onCooperateMessage (msg : CoordinationMessage)
    (networkId : NetworkId) :
    registered (EventManager.onCooperateMessage msg networkId m) = registered m := by
  simp [registered, EventManager.onCooperateMessage, List.filterMap_map, Function.comp_def,
    Effect.registration?]

@[simp] theorem registered_send (networkId : NetworkId) (packet : DSoftbusPacket) :
    registered (DSoftbusHandler.send env networkId packet m).2 = registered m := by
  simp [registered, DSoftbusHandler.send, List.filterMap_map, Function.comp_def,
    Effect.registration?]

end Primitives

namespace Context

variable (env : Env) (m : Cooperate)

@[simp] theorem registered_startCooperate (event : StartCooperateEvent) :
    registered (startCooperate event m) = registered m := rfl

@[simp] theorem registered_startCooperateWithOptions (event : StartWithOptionsEvent) :
    registered (startCooperateWithOptions event m) = registered m := rfl

@[simp] theorem registered_relayCooperate (event : DSoftbusRelayCooperate) :
    registered (relayCooperate event m) = registered m := rfl

@[simp] theorem registered_setCursorPosition (pos : Coordinate) :
    registered (setCursorPosition env pos m) = registered m := by
  unfold setCursorPosition
  split
  · rfl
  · exact (registered_call_other _ rfl).trans rfl

@[simp] theorem registered_remoteStartSuccess (event : DSoftbusStartCooperateFinished) :
    registered (remoteStartSuccess env event m) = registered m :=
  (registered_setCursorPosition ..).trans rfl

@[simp] theorem registered_onRemoteStart (event : DSoftbusCooperateWithOptionsFinished) :
    registered (onRemoteStart event m) = registered m :=
  (registered_call_other { m with
    context.remoteNetworkId := event.originNetworkId
    context.flag := event.extra.flag
    context.priv := event.extra.priv } rfl).trans rfl

@[simp] theorem registered_updateCursorPosition :
    registered (updateCursorPosition m) = registered m :=
  registered_call_other _ rfl

@[simp] theorem registered_resetCursorPosition :
    registered (resetCursorPosition env m) = registered m := by
  unfold resetCursorPosition stopCooperateSetCursorPosition
  split
  · rfl
  · exact registered_call_other _ rfl

@[simp] theorem registered_updateCooperateFlag (event : UpdateCooperateFlagEvent) :
    registered (updateCooperateFlag event m) = registered m := rfl

@[simp] theorem registered_updateCooperateOptions (event : StartWithOptionsEvent) :
    registered (updateCooperateOptions event m) = registered m := rfl

@[simp] theorem registered_resetPriv : registered (resetPriv m) = registered m := rfl

@[simp] theorem registered_disableCooperate : registered (disableCooperate m) = registered m := rfl

@[simp] theorem registered_onPointerEvent (event : InputPointerEvent) :
    registered (onPointerEvent env event m) = registered m := by
  unfold onPointerEvent
  split <;> rfl

@[simp] theorem registered_onRelayCooperation (networkId : NetworkId) :
    registered (onRelayCooperation env networkId m) = registered m := registered_postTasks ..

@[simp] theorem registered_closeDistributedFileConnection (networkId : NetworkId) :
    registered (closeDistributedFileConnection networkId m) = registered m :=
  registered_postTasks ..

@[simp] theorem registered_onStopCooperate : registered (onStopCooperate m) = registered m :=
  registered_postTasks ..

@[simp] theorem registered_storePeerPointerSpeed (speed : Int32) :
    registered (storePeerPointerSpeed speed m) = registered m := rfl

@[simp] theorem registered_storePeerTouchPadSpeed (speed : Int32) :
    registered (storePeerTouchPadSpeed speed m) = registered m := rfl

@[simp] theorem registered_setPointerSpeed (speed : Int32) :
    registered (setPointerSpeed env speed m) = registered m :=
  (registered_call_other _ rfl).trans rfl

@[simp] theorem registered_setTouchPadSpeed (speed : Int32) :
    registered (setTouchPadSpeed env speed m) = registered m := by
  unfold setTouchPadSpeed
  split
  · rfl
  · exact (registered_call_other _ rfl).trans rfl

theorem registered_clearPeerPointerSpeed :
    registered (clearPeerPointerSpeed m) = registered m := rfl

theorem registered_clearPeerTouchPadSpeed :
    registered (clearPeerTouchPadSpeed m) = registered m := rfl

theorem registered_storeOriginPointerSpeed :
    registered (storeOriginPointerSpeed m) = registered m := rfl

theorem registered_storeOriginTouchPadSpeed :
    registered (storeOriginTouchPadSpeed m) = registered m := rfl

theorem registered_priv (priv : UInt32) :
    registered { m with context.priv := priv } = registered m := rfl

@[simp] theorem registered_resetPointerAndTouchPadSpeed :
    registered (resetPointerAndTouchPadSpeed env m) = registered m := by
  unfold resetPointerAndTouchPadSpeed
  rw [registered_clearPeerTouchPadSpeed, registered_setTouchPadSpeed,
    registered_clearPeerPointerSpeed, registered_setPointerSpeed]

@[simp] theorem registered_onTransitionOut :
    registered (onTransitionOut env m) = registered m := by
  unfold onTransitionOut
  rw [registered_postTasks, registered_storeOriginTouchPadSpeed, registered_storeOriginPointerSpeed]

@[simp] theorem registered_onTransitionIn : registered (onTransitionIn env m) = registered m := by
  unfold onTransitionIn
  rw [registered_postTasks, registered_setTouchPadSpeed, registered_storeOriginTouchPadSpeed,
    registered_setPointerSpeed, registered_storeOriginPointerSpeed]

@[simp] theorem registered_onBack : registered (onBack env m) = registered m := by
  unfold onBack
  rw [registered_postTasks, registered_resetPointerAndTouchPadSpeed]

@[simp] theorem registered_onResetCooperation :
    registered (onResetCooperation env m) = registered m := by
  unfold onResetCooperation
  rw [registered_postTasks, registered_priv, registered_resetPointerAndTouchPadSpeed]

end Context

section Components

variable (env : Env) (m : Cooperate)

@[simp] theorem registered_startCall (event : StartCooperateEvent) :
    registered (EventManager.startCooperate event m) = registered m := rfl

@[simp] theorem registered_startCallWithOptions (event : StartWithOptionsEvent) :
    registered (EventManager.startCooperateWithOptions event m) = registered m := rfl

@[simp] theorem registered_finishStart (success : Bool) (errCode : Int32) :
    registered (EventManager.finishStart success errCode m) = registered m := by
  unfold EventManager.finishStart
  split
  · rfl
  · exact (registered_notice ..).trans rfl

@[simp] theorem registered_startCooperateFinish (event : DSoftbusStartCooperateFinished) :
    registered (EventManager.startCooperateFinish event m) = registered m :=
  registered_finishStart ..

@[simp] theorem registered_startCooperateWithOptionsFinish
    (event : DSoftbusCooperateWithOptionsFinished) :
    registered (EventManager.startCooperateWithOptionsFinish event m) = registered m :=
  registered_finishStart ..

@[simp] theorem registered_errorNotAollow (event : NotAllowCooperateWhenMotionDragging) :
    registered (EventManager.errorNotAollowCooperateWhenMotionDragging event m) = registered m :=
  registered_notice ..

@[simp] theorem registered_stopCall (event : StopCooperateEvent) :
    registered (EventManager.stopCooperate event m) = registered m := rfl

@[simp] theorem registered_stopCooperateFinish (event : DSoftbusStopCooperateFinished) :
    registered (EventManager.stopCooperateFinish event m) = registered m := by
  unfold EventManager.stopCooperateFinish
  split
  · rfl
  · exact Eq.trans (b := registered (EventManager.notifyCooperateMessage _ m)) rfl
      (registered_notice ..)

@[simp] theorem registered_closeAllSessions :
    registered (DSoftbusHandler.closeAllSessions m) = registered m := registered_call_other _ rfl

@[simp] theorem registered_unchainConnections (event : StopCooperateEvent) :
    registered (unchainConnections event m) = registered m := by
  unfold unchainConnections
  split
  · simp [EventManager.onUnchain]
  · rfl

@[simp] theorem registered_openSession (networkId : NetworkId) :
    registered (DSoftbusHandler.openSession env networkId m) = registered m := by
  unfold DSoftbusHandler.openSession
  split <;> simp

@[simp] theorem registered_enableBuilder :
    registered (InputEventBuilder.enableBuilder env m) = registered m := by
  unfold InputEventBuilder.enableBuilder
  split
  · rfl
  · exact ((registered_call_other _ rfl).trans (registered_call_other _ rfl)).trans rfl

@[simp] theorem registered_disableBuilder :
    registered (InputEventBuilder.disableBuilder m) = registered m := by
  unfold InputEventBuilder.disableBuilder
  by_cases h : m.context.inputEventBuilder.enable <;>
    by_cases ht : 0 ≤ m.context.inputEventBuilder.pointerEventTimer <;>
    simp [h, ht, registered, Cooperate.call, Cooperate.effect, Effect.registration?]

@[simp] theorem registered_enableInterceptor :
    registered (InputEventInterceptor.enableInterceptor env m).2 = registered m := by
  unfold InputEventInterceptor.enableInterceptor
  by_cases h : 0 < m.context.inputEventInterceptor.interceptorId
  · simp only [h, if_true]
  · by_cases ha : env.addInterceptor < 0 <;>
      simp [h, ha, registered, Cooperate.call, Cooperate.effect, Effect.registration?]

@[simp] theorem registered_disableInterceptor :
    registered (InputEventInterceptor.disableInterceptor m) = registered m := by
  unfold InputEventInterceptor.disableInterceptor
  by_cases h : 0 < m.context.inputEventInterceptor.interceptorId <;>
    by_cases ht : 0 ≤ m.context.inputEventInterceptor.pointerEventTimer <;>
    simp [h, ht, registered, Cooperate.call, Cooperate.effect, Effect.registration?]

@[simp] theorem registered_builder_update :
    registered (InputEventBuilder.update m) = registered m := rfl

@[simp] theorem registered_interceptor_update :
    registered (InputEventInterceptor.update m) = registered m := rfl

@[simp] theorem registered_freeze : registered (InputEventBuilder.freeze m) = registered m := by
  unfold InputEventBuilder.freeze
  split <;> rfl

@[simp] theorem registered_thaw : registered (InputEventBuilder.thaw m) = registered m := by
  unfold InputEventBuilder.thaw
  split <;> rfl

@[simp] theorem registered_onLeaveState : registered (onLeaveState env m) = registered m := by
  unfold onLeaveState
  split
  · rfl
  · exact registered_call_other _ rfl
  · exact (registered_call_other _ rfl).trans rfl

@[simp] theorem registered_onEnterState : registered (onEnterState m) = registered m := by
  unfold onEnterState
  split
  · rfl
  · exact registered_call_other _ rfl
  · exact registered_call_other _ rfl

@[simp] theorem registered_transiteTo (state : CooperateState) :
    registered (transiteTo env state m) = registered m := by
  unfold transiteTo
  split
  · rfl
  · calc registered (EventManager.onStatusChanged _ (onEnterState
            { onLeaveState env m with machine.current := state }))
        = registered { onLeaveState env m with machine.current := state } := by
          simp only [EventManager.onStatusChanged, registered_onCooperateMessage,
            registered_onEnterState]
      _ = registered (onLeaveState env m) := rfl
      _ = registered m := registered_onLeaveState ..

end Components

/-! ## The states -/

section States

variable (env : Env) (m : Cooperate)

theorem registered_free (e : CooperateEvent) :
    registered (Free.onEvent env e m) = registered m := by
  cases e with
  | start notice =>
    simp only [Free.onEvent, Free.onStart]
    split_ifs <;>
      simp [Free.cooperateFail, Free.initiatorPointerVisible, apply_ite registered,
        DSoftbusHandler.startCooperate]
  | withOptionsStart notice =>
    simp only [Free.onEvent, Free.onStartWithOptions]
    split_ifs <;> simp [DSoftbusHandler.startCooperateWithOptions]
  | stop param => simp [Free.onEvent, Free.onStop]
  | disable notice =>
    simp only [Free.onEvent, Free.onDisable]
    split_ifs <;> simp
  | appClosed notice => simp [Free.onEvent, Free.onAppClosed]
  | dsoftbusStartCooperate notice =>
    simp [Free.onEvent, Free.onRemoteStart, apply_ite registered, Free.simulateShowPointerEvent,
      EventManager.remoteStart, EventManager.remoteStartFinish]
  | dsoftbusCooperateWithOptions notice =>
    simp [Free.onEvent, Free.onRemoteStartWithOptions, apply_ite registered,
      Free.simulateShowPointerEvent, EventManager.remoteStart, EventManager.remoteStartFinish]
  | inputPointerEvent notice =>
    simp [Free.onEvent, Free.onPointerEvent, apply_ite registered, setPointerVisible]
  | updateCooperateFlag notice => rfl
  | _ => rfl

@[simp] theorem registered_out_stopCooperate :
    registered (Out.stopCooperate env m) = registered m := by
  simp [Out.stopCooperate, DSoftbusHandler.stopCooperate]

@[simp] theorem registered_out_simulateShowPointerEvent :
    registered (Out.simulateShowPointerEvent m) = registered m := registered_call_other _ rfl

@[simp] theorem registered_relayTo
    {finish : NetworkId → DSoftbusRelayCooperateFinished → Cooperate → Int32 × Cooperate}
    (silent : ∀ networkId resp m, registered (finish networkId resp m).2 = registered m)
    (notice : DSoftbusRelayCooperate) :
    registered (Out.relayTo env finish notice m) = registered m := by
  unfold Out.relayTo
  dsimp only
  split_ifs <;> simp [silent]

theorem registered_out (e : CooperateEvent) :
    registered (Out.onEvent env e m) = registered m := by
  cases e with
  | disable notice => exact registered_out_stopCooperate ..
  | start param =>
    simp only [Out.onEvent, Out.onStart]
    split <;> simp
  | withOptionsStart param =>
    simp only [Out.onEvent, Out.onStartWithOptions]
    split <;> simp
  | stop param => simp [Out.onEvent, Out.onStop]
  | appClosed notice => simp [Out.onEvent, Out.onAppClosed]
  | inputHotplugEvent notice =>
    simp only [Out.onEvent, Out.onHotplug]
    split_ifs <;> simp
  | ddmBoardOffline notice =>
    simp only [Out.onEvent, Out.onBoardOffline]
    split <;> simp
  | ddpCooperateSwitchChanged notice =>
    simp only [Out.onEvent, Out.onSwitchChanged]
    split <;> simp
  | dsoftbusSessionClosed notice =>
    simp only [Out.onEvent, Out.onSoftbusSessionClosed]
    split <;> simp
  | dsoftbusComeBack notice =>
    simp only [Out.onEvent, Out.onComeBack]
    split_ifs <;> simp [EventManager.remoteStart, EventManager.remoteStartFinish]
  | dsoftbusComeBackWithOptions notice =>
    simp only [Out.onEvent, Out.onComeBackWithOptions]
    split_ifs <;> simp [EventManager.remoteStart, EventManager.remoteStartFinish]
  | dsoftbusStartCooperate notice =>
    simp only [Out.onEvent, Out.onRemoteStart]
    split_ifs <;>
      simp [EventManager.remoteStart, EventManager.remoteStartFinish,
        DSoftbusHandler.stopCooperate]
  | dsoftbusCooperateWithOptions notice =>
    simp only [Out.onEvent, Out.onRemoteStartWithOptions]
    split_ifs <;>
      simp [EventManager.remoteStart, EventManager.remoteStartFinish,
        DSoftbusHandler.stopCooperate]
  | dsoftbusStopCooperate notice =>
    simp only [Out.onEvent, Out.onRemoteStop]
    split <;> simp
  | dsoftbusRelayCooperate notice =>
    exact registered_relayTo env m (fun _ _ _ => registered_send ..) notice
  | dsoftbusRelayCooperateWithOptions notice =>
    exact registered_relayTo env m (fun _ _ _ => registered_send ..) notice
  | stopAboutVirtualTrackpad notice =>
    simp only [Out.onEvent, Out.onStopAboutVirtualTrackpad]
    split <;> simp
  | _ => rfl

@[simp] theorem registered_switch (step : InStep) :
    registered (In.switch step m) = registered m := rfl

@[simp] theorem registered_in_stopCooperate :
    registered (In.stopCooperate env m) = registered m := by
  simp [In.stopCooperate, DSoftbusHandler.stopCooperate]

namespace In.RelayConfirmation

@[simp] theorem registered_reset : registered (reset m) = registered m := rfl

@[simp] theorem registered_onReset : registered (onReset m) = registered m := rfl

@[simp] theorem registered_onResetWithNotifyMessage :
    registered (onResetWithNotifyMessage m) = registered m := by
  simp [onResetWithNotifyMessage]

@[simp] theorem registered_onResetWithOptionsNotifyMessage :
    registered (onResetWithOptionsNotifyMessage m) = registered m := by
  simp [onResetWithOptionsNotifyMessage]

@[simp] theorem registered_onPeerLost (networkId : NetworkId) :
    registered (onPeerLost env networkId m) = registered m := by
  unfold onPeerLost
  dsimp only
  split_ifs <;> simp

@[simp] theorem registered_timer (timerId : Int32) (m : Cooperate) :
    registered { m with machine.timerId := timerId } = registered m := rfl

@[simp] theorem registered_onProgress (startEvent : StartCooperateEvent) :
    registered (onProgress env startEvent m) = registered m := by
  unfold onProgress
  dsimp only
  split_ifs <;> simp [DSoftbusHandler.relayCooperate]

@[simp] theorem registered_onProgressWithOptions (startEvent : StartWithOptionsEvent) :
    registered (onProgressWithOptions env startEvent m) = registered m := by
  unfold onProgressWithOptions
  dsimp only
  split_ifs
  · simp
  · exact ((registered_emit ..).trans rfl).trans
      ((registered_send ..).trans (registered_openSession ..))

theorem registered_onEvent (e : CooperateEvent) :
    registered (onEvent env e m) = registered m := by
  cases e with
  | disable notice => simp [onEvent, onDisable]
  | stop param => simp [onEvent, onStop]
  | appClosed notice => simp [onEvent, onAppClosed]
  | inputPointerEvent notice =>
    simp only [onEvent, onPointerEvent]
    split <;> simp
  | ddmBoardOffline notice => exact registered_onPeerLost ..
  | ddpCooperateSwitchChanged notice =>
    simp only [onEvent, onSwitchChanged]
    split <;> simp
  | dsoftbusSessionClosed notice => exact registered_onPeerLost ..
  | dsoftbusRelayCooperateFinished notice =>
    simp only [onEvent, onResponse]
    split_ifs <;> simp [onNormal, DSoftbusHandler.startCooperate]
  | dsoftbusStartCooperate notice =>
    simp only [onEvent, onRemoteStart]
    split_ifs <;> simp
  | dsoftbusStopCooperate notice =>
    simp only [onEvent, onRemoteStop]
    split <;> simp
  | dsoftbusCooperateWithOptions notice =>
    simp only [onEvent, onRemoteStartWithOptions]
    split_ifs <;> simp
  | dsoftbusRelayCooperateWithOptionsFinished notice =>
    simp only [onEvent, onResponseWithOptions]
    split_ifs <;> simp [onNormalWithOptions, DSoftbusHandler.startCooperateWithOptions]
  | _ => rfl

end In.RelayConfirmation

namespace In.Initial

theorem registered_onStart (startEvent : StartCooperateEvent) :
    registered (onStart env startEvent m) = registered m := by
  unfold onStart onComeBack onRelay
  dsimp only
  split_ifs <;> simp [DSoftbusHandler.comeBack]
  rfl

theorem registered_onStartWithOptions (startEvent : StartWithOptionsEvent) :
    registered (onStartWithOptions env startEvent m) = registered m := by
  unfold onStartWithOptions onComeBackWithOptions onRelayWithOptions
  dsimp only
  split_ifs <;> simp [DSoftbusHandler.comeBackWithOptions]
  rfl

theorem registered_onEvent (e : CooperateEvent) :
    registered (onEvent env e m) = registered m := by
  cases e with
  | disable notice => exact registered_in_stopCooperate ..
  | start startEvent => exact registered_onStart ..
  | withOptionsStart startEvent => exact registered_onStartWithOptions ..
  | stop param => simp [onEvent, onStop]
  | appClosed notice => simp [onEvent, onAppClosed]
  | inputPointerEvent notice =>
    simp only [onEvent, onPointerEvent]
    split <;> simp
  | ddmBoardOffline notice =>
    simp only [onEvent, onBoardOffline]
    split <;> simp
  | ddpCooperateSwitchChanged notice =>
    simp only [onEvent, onSwitchChanged]
    split <;> simp
  | dsoftbusSessionClosed notice =>
    simp only [onEvent, onSoftbusSessionClosed]
    split <;> simp [EventManager.onSoftbusSessionClosed]
  | dsoftbusStartCooperate notice =>
    simp only [onEvent, onRemoteStart]
    split_ifs <;>
      simp [EventManager.remoteStart, EventManager.remoteStartFinish,
        DSoftbusHandler.stopCooperate]
  | dsoftbusCooperateWithOptions notice =>
    simp only [onEvent, onRemoteStartWithOptions]
    split_ifs <;>
      simp [EventManager.remoteStart, EventManager.remoteStartFinish,
        DSoftbusHandler.stopCooperate]
  | dsoftbusStopCooperate notice =>
    simp only [onEvent, onRemoteStop]
    split <;> simp
  | updateCooperateFlag notice => simp [onEvent, onUpdateCooperateFlag, apply_ite registered]
  | dsoftbusInputDevSync notice => simp [onEvent, onRemoteInputDevice, apply_ite registered]
  | _ => rfl

end In.Initial

/-- What the current state does with an event leaves the registrations alone. -/
@[simp] theorem registered_transfer (e : CooperateEvent) :
    registered (StateMachine.transfer env e m) = registered m := by
  unfold StateMachine.transfer In.onEvent
  split
  · exact registered_free ..
  · exact registered_out ..
  · split
    · exact In.Initial.registered_onEvent ..
    · exact In.RelayConfirmation.registered_onEvent ..

end States

/-! ## The state machine -/

namespace Registered

variable (env : Env)

def registerApplicationStateObserver (event : EnableCooperateEvent) (bundleNames : List StdString)
    (r : Registered) : Registered :=
  if ¬ env.getAppMgr then r
  else
    { r.log [.registerApplicationStateObserver bundleNames] with
      appStateObserver := if env.registerApplicationStateObserver then some event.pid else none }

def unregisterApplicationStateObserver (r : Registered) : Registered :=
  match r.appStateObserver with
  | none => r
  | some _ =>
    if ¬ env.getAppMgr then r
    else { r.log [.unregisterApplicationStateObserver] with appStateObserver := none }

def updateApplicationStateObserver (clientPid : Int32) (r : Registered) : Registered :=
  { r with appStateObserver := r.appStateObserver.map fun _ => clientPid }

def addMonitor (r : Registered) : Registered :=
  if 0 ≤ r.monitorId then r
  else { r.log [.addMonitor env.addMonitor] with monitorId := env.addMonitor }

def removeMonitor (r : Registered) : Registered :=
  if r.monitorId < 0 then r
  else { r.log [.removeMonitor r.monitorId] with monitorId := -1 }

def addPreMonitor (r : Registered) : Registered :=
  if 0 ≤ r.preMonitorId then r
  else { r.log [.addPreMonitor env.addPreMonitor] with preMonitorId := env.addPreMonitor }

def removePreMonitor (r : Registered) : Registered :=
  if r.preMonitorId < 0 then r
  else { r.log [.removePreMonitor r.preMonitorId] with preMonitorId := -1 }

def enable (event : EnableCooperateEvent) (bundleNames : List StdString) (r : Registered) :
    Registered :=
  let r := r.log [.addCommonEventObserver]
  let r := r.registerApplicationStateObserver env event bundleNames
  let r := (r.addMonitor env).addPreMonitor env
  { r.log [.registerDevListener] with isCooperateEnable := true }

def disable (r : Registered) : Registered :=
  let r := r.log [.removeCommonEventObserver]
  let r := (r.unregisterApplicationStateObserver env).removeMonitor.removePreMonitor
  { r.log [.unregisterDevListener] with isCooperateEnable := false }

variable {env}

theorem addMonitor_eq (r : Registered) :
    r.addMonitor env =
      { r with
        monitorId := if 0 ≤ r.monitorId then r.monitorId else env.addMonitor
        calls := r.calls ++ if 0 ≤ r.monitorId then [] else [.addMonitor env.addMonitor] } := by
  unfold addMonitor
  split
  · simp
  · rfl

theorem addPreMonitor_eq (r : Registered) :
    r.addPreMonitor env =
      { r with
        preMonitorId := if 0 ≤ r.preMonitorId then r.preMonitorId else env.addPreMonitor
        calls := r.calls ++
          if 0 ≤ r.preMonitorId then [] else [.addPreMonitor env.addPreMonitor] } := by
  unfold addPreMonitor
  split
  · simp
  · rfl

theorem removeMonitor_eq (r : Registered) :
    r.removeMonitor =
      { r with
        monitorId := if r.monitorId < 0 then r.monitorId else -1
        calls := r.calls ++ if r.monitorId < 0 then [] else [.removeMonitor r.monitorId] } := by
  unfold removeMonitor
  split
  · simp
  · rfl

theorem removePreMonitor_eq (r : Registered) :
    r.removePreMonitor =
      { r with
        preMonitorId := if r.preMonitorId < 0 then r.preMonitorId else -1
        calls := r.calls ++
          if r.preMonitorId < 0 then [] else [.removePreMonitor r.preMonitorId] } := by
  unfold removePreMonitor
  split
  · simp
  · rfl

theorem registerApplicationStateObserver_eq (event : EnableCooperateEvent)
    (bundleNames : List StdString) (r : Registered) :
    r.registerApplicationStateObserver env event bundleNames =
      { r with
        appStateObserver :=
          if env.getAppMgr then
            if env.registerApplicationStateObserver then some event.pid else none
          else r.appStateObserver
        calls := r.calls ++
          if env.getAppMgr then [.registerApplicationStateObserver bundleNames] else [] } := by
  unfold registerApplicationStateObserver
  cases env.getAppMgr <;> simp [log]

theorem unregisterApplicationStateObserver_eq (r : Registered) :
    r.unregisterApplicationStateObserver env =
      { r with
        appStateObserver := if env.getAppMgr then none else r.appStateObserver
        calls := r.calls ++
          if r.appStateObserver.isSome ∧ env.getAppMgr then
            [.unregisterApplicationStateObserver]
          else [] } := by
  unfold unregisterApplicationStateObserver
  obtain ⟨_, _, watching, _, _, _⟩ := r
  cases watching <;> cases env.getAppMgr <;> simp [log]

/-- The calls of an ENABLE: the monitors that there are stay. -/
theorem calls_enable (event : EnableCooperateEvent) (bundleNames : List StdString)
    (r : Registered) :
    (r.enable env event bundleNames).calls = r.calls ++
      ([Call.addCommonEventObserver] ++
        ((if env.getAppMgr then [Call.registerApplicationStateObserver bundleNames] else []) ++
          ((if 0 ≤ r.monitorId then [] else [Call.addMonitor env.addMonitor]) ++
            ((if 0 ≤ r.preMonitorId then [] else [Call.addPreMonitor env.addPreMonitor]) ++
              [Call.registerDevListener])))) := by
  simp [enable, registerApplicationStateObserver_eq, addMonitor_eq, addPreMonitor_eq, log]

theorem calls_disable (r : Registered) :
    (r.disable env).calls = r.calls ++
      ([Call.removeCommonEventObserver] ++
        ((if r.appStateObserver.isSome ∧ env.getAppMgr then
            [Call.unregisterApplicationStateObserver] else []) ++
          ((if r.monitorId < 0 then [] else [Call.removeMonitor r.monitorId]) ++
            ((if r.preMonitorId < 0 then [] else [Call.removePreMonitor r.preMonitorId]) ++
              [Call.unregisterDevListener])))) := by
  simp [disable, unregisterApplicationStateObserver_eq, removeMonitor_eq, removePreMonitor_eq, log]

theorem appStateObserver_enable (event : EnableCooperateEvent) (bundleNames : List StdString)
    (r : Registered) :
    (r.enable env event bundleNames).appStateObserver =
      if env.getAppMgr then
        if env.registerApplicationStateObserver then some event.pid else none
      else r.appStateObserver := by
  simp [enable, registerApplicationStateObserver_eq, addMonitor_eq, addPreMonitor_eq, log]

theorem listeners_enable (event : EnableCooperateEvent) (bundleNames : List StdString)
    (r : Registered) : (r.enable env event bundleNames).listeners = r.listeners := by
  simp [enable, registerApplicationStateObserver_eq, addMonitor_eq, addPreMonitor_eq, log]

theorem listeners_disable (r : Registered) : (r.disable env).listeners = r.listeners := by
  simp [disable, unregisterApplicationStateObserver_eq, removeMonitor_eq, removePreMonitor_eq, log]

theorem appStateObserver_disable (r : Registered) :
    (r.disable env).appStateObserver = if env.getAppMgr then none else r.appStateObserver := by
  simp [disable, unregisterApplicationStateObserver_eq, removeMonitor_eq, removePreMonitor_eq, log]

end Registered

section StateMachine

variable (env : Env) (m : Cooperate)

open StateMachine

theorem registered_registerApplicationStateObserver (event : EnableCooperateEvent) :
    registered (registerApplicationStateObserver env event m) =
      (registered m).registerApplicationStateObserver env event
        (m.machine.clientBundleNames ++ [env.packageName event.tokenId]) := by
  unfold registerApplicationStateObserver Registered.registerApplicationStateObserver
  cases env.getAppMgr with
  | false => rfl
  | true => simp [registered, Registered.log, Cooperate.call, Cooperate.effect,
      Effect.registration?, Call.isRegistration]

theorem registered_unregisterApplicationStateObserver :
    registered (unregisterApplicationStateObserver env m) =
      (registered m).unregisterApplicationStateObserver env := by
  unfold unregisterApplicationStateObserver Registered.unregisterApplicationStateObserver
  have same : (registered m).appStateObserver = m.machine.appStateObserver := rfl
  rw [same]
  cases m.machine.appStateObserver with
  | none => rfl
  | some pid =>
    cases env.getAppMgr with
    | false => rfl
    | true =>
      exact congrArg (fun r : Registered => { r with appStateObserver := none })
        (registered_call m .unregisterApplicationStateObserver)

theorem registered_updateApplicationStateObserver (pid : Int32) :
    registered (updateApplicationStateObserver pid m) =
      (registered m).updateApplicationStateObserver pid := rfl

theorem registered_addMonitor :
    registered (addMonitor env m) = (registered m).addMonitor env := by
  unfold addMonitor Registered.addMonitor
  have same : (registered m).monitorId = m.machine.monitorId := rfl
  rw [same]
  split
  · rfl
  · exact registered_call _ (.addMonitor env.addMonitor)

theorem registered_removeMonitor :
    registered (removeMonitor m) = (registered m).removeMonitor := by
  unfold removeMonitor Registered.removeMonitor
  have same : (registered m).monitorId = m.machine.monitorId := rfl
  rw [same]
  split
  · rfl
  · exact congrArg (fun r : Registered => { r with monitorId := -1 })
      (registered_call m (.removeMonitor m.machine.monitorId))

theorem registered_addPreMonitor :
    registered (addPreMonitor env m) = (registered m).addPreMonitor env := by
  unfold addPreMonitor Registered.addPreMonitor
  have same : (registered m).preMonitorId = m.machine.preMonitorId := rfl
  rw [same]
  split
  · rfl
  · exact registered_call _ (.addPreMonitor env.addPreMonitor)

theorem registered_removePreMonitor :
    registered (removePreMonitor m) = (registered m).removePreMonitor := by
  unfold removePreMonitor Registered.removePreMonitor
  have same : (registered m).preMonitorId = m.machine.preMonitorId := rfl
  rw [same]
  split
  · rfl
  · exact congrArg (fun r : Registered => { r with preMonitorId := -1 })
      (registered_call m (.removePreMonitor m.machine.preMonitorId))

theorem registered_isCooperateEnable (enabled : Bool) :
    registered { m with machine.isCooperateEnable := enabled } =
      { registered m with isCooperateEnable := enabled } := rfl

theorem registered_enableCooperate (event : EnableCooperateEvent) :
    registered (enableCooperate env event m) =
      (registered m).enable env event
        (m.machine.clientBundleNames ++ [env.packageName event.tokenId]) := by
  let before := ((EventManager.enableCooperate event m).call (.hotAreaEnableCooperate event)).call
    .addCommonEventObserver
  have first : registered before = (registered m).log [.addCommonEventObserver] := by
    simp only [before, registered_call, EventManager.enableCooperate, registered_notice]
    simp [Call.isRegistration]
  have names : before.machine.clientBundleNames = m.machine.clientBundleNames := rfl
  simp only [enableCooperate, registered_transfer, registered_isCooperateEnable, registered_call,
    registered_addPreMonitor, registered_addMonitor,
    registered_registerApplicationStateObserver, Registered.enable]
  rw [← first, ← names]
  simp only [before, registered_call]
  rfl

theorem registered_disableCooperate (event : DisableCooperateEvent) :
    registered (disableCooperate env event m) = (registered m).disable env := by
  simp only [disableCooperate, registered_transfer, registered_isCooperateEnable, registered_call,
    registered_removePreMonitor, registered_removeMonitor,
    registered_unregisterApplicationStateObserver, EventManager.disableCooperate,
    registered_notice, Context.registered_disableCooperate, Registered.disable]
  simp [Call.isRegistration]

end StateMachine

/-- What an event makes of the registrations; `names` are the bundles that have enabled the
cooperation. -/
def Registered.onEvent (env : Env) (names : List StdString) (event : CooperateEvent)
    (r : Registered) : Registered :=
  match event with
  | .registerListener event =>
      { r with listeners :=
          match r.listeners.findIdx? (·.pid = event.pid) with
          | some i => r.listeners.set i { pid := event.pid }
          | none => r.listeners ++ [{ pid := event.pid }] }
  | .unregisterListener event => { r with listeners := r.listeners.filter (·.pid ≠ event.pid) }
  | .registerHotareaListener event => r.log [.hotAreaAddListener event]
  | .unregisterHotareaListener event => r.log [.hotAreaRemoveListener event]
  | .enable event => r.enable env event (names ++ [env.packageName event.tokenId])
  | .disable _ => r.disable env
  | .start event =>
      if env.checkSrcIsSameAccount event.remoteNetworkId then
        r.updateApplicationStateObserver event.pid
      else r
  | .withOptionsStart event =>
      if env.checkSrcIsSameAccount event.remoteNetworkId then
        r.updateApplicationStateObserver event.pid
      else r
  | .getCooperateState event => r.updateApplicationStateObserver event.pid
  | .registerEventListener event => r.log [.mouseLocationAddListener event]
  | .unregisterEventListener event => r.log [.mouseLocationRemoveListener event]
  | .appClosed event =>
      { r with listeners := r.listeners.eraseP (·.pid = event.pid) }.log
        [.hotAreaOnClientDied event, .mouseLocationOnClientDied event]
  | .dsoftbusSessionClosed event => r.log [.mouseLocationOnSoftbusSessionClosed event]
  | _ => r

section OnEvent

variable (env : Env) (m : Cooperate)

open StateMachine

theorem registered_acceptStart (remoteNetworkId : NetworkId) (pid : Int32) (errCode : Promise)
    (e : CooperateEvent) :
    registered (acceptStart env remoteNetworkId pid errCode e m) =
      if env.checkSrcIsSameAccount remoteNetworkId then
        (registered m).updateApplicationStateObserver pid
      else registered m := by
  unfold acceptStart
  cases env.checkSrcIsSameAccount remoteNetworkId with
  | false => simp
  | true =>
    simp only [Bool.not_true, Bool.false_eq_true, if_false, if_true]
    split <;> simp [registered_updateApplicationStateObserver]

theorem registered_onEvent (e : CooperateEvent) :
    registered (onEvent env e m) =
      (registered m).onEvent env m.machine.clientBundleNames e := by
  cases e with
  | enable event => exact registered_enableCooperate ..
  | disable event => exact registered_disableCooperate ..
  | start event => exact registered_acceptStart ..
  | withOptionsStart event => exact registered_acceptStart ..
  | registerHotareaListener event => simp [onEvent, Registered.onEvent, Call.isRegistration]
  | unregisterHotareaListener event => simp [onEvent, Registered.onEvent, Call.isRegistration]
  | registerEventListener event => simp [onEvent, Registered.onEvent, Call.isRegistration]
  | unregisterEventListener event => simp [onEvent, Registered.onEvent, Call.isRegistration]
  | registerListener event => rfl
  | unregisterListener event => rfl
  | getCooperateState event =>
    simp [onEvent, getCooperateState, EventManager.getCooperateState, Registered.onEvent,
      Call.isRegistration, registered_updateApplicationStateObserver]
  | appClosed event =>
    have died : registered (EventManager.onClientDied event m) =
        { registered m with
          listeners := (registered m).listeners.eraseP (·.pid = event.pid) } := rfl
    simp only [onEvent, onProcessClientDied, registered_transfer, registered_call, died,
      Registered.onEvent]
    simp [Registered.log, Call.isRegistration]
  | dsoftbusSessionClosed event =>
    simp [onEvent, onSoftbusSessionClosed, EventManager.onSoftbusSessionClosed,
      Registered.onEvent, Call.isRegistration]
  | stop event => simp [onEvent, stopCooperate, Registered.onEvent, Call.isRegistration]
  | ddmBoardOnline event =>
    simp only [onEvent, onBoardOnline, Registered.onEvent]
    split
    · rfl
    · exact registered_transfer ..
  | ddmBoardOffline event =>
    simp only [onEvent, onBoardOffline, Registered.onEvent]
    split
    · simp only [registered_transfer, Context.registered_closeDistributedFileConnection]
      rfl
    · rfl
  | ddpCooperateSwitchChanged event =>
    simp [onEvent, onProfileChanged, EventManager.onProfileChanged, Registered.onEvent]
  | inputPointerEvent event => simp [onEvent, onPointerEvent, Registered.onEvent]
  | inputHotplugEvent event =>
    simp [onEvent, onHotPlugEvent, Registered.onEvent, Call.isRegistration]
  | dsoftbusSessionOpened event =>
    simp [onEvent, onSoftbusSessionOpened, Registered.onEvent, Call.isRegistration]
  | dsoftbusStartCooperate event =>
    simp only [onEvent, onRemoteStart, acceptRemoteStart, Registered.onEvent]
    split <;> exact registered_transfer ..
  | dsoftbusCooperateWithOptions event =>
    simp only [onEvent, onRemoteStartWithOptions, acceptRemoteStart, Registered.onEvent]
    split <;> exact registered_transfer ..
  | dsoftbusSubscribeMouseLocation event => exact registered_call_other _ rfl
  | dsoftbusUnsubscribeMouseLocation event => exact registered_call_other _ rfl
  | dsoftbusReplySubscribeMouseLocation event => exact registered_call_other _ rfl
  | dsoftbusReplyUnsubscribeMouseLocation event => exact registered_call_other _ rfl
  | dsoftbusMouseLocation event => exact registered_call_other _ rfl
  | dsoftbusInputDevHotPlug event => exact registered_transfer ..
  | dsoftbusInputDevSync event =>
    simp [onEvent, onRemoteInputDevice, Registered.onEvent, Call.isRegistration]
  | addObserver event => rfl
  | removeObserver event => rfl
  | updateVirtualDevIdMap event => rfl
  | _ => exact registered_transfer ..

end OnEvent

/-- A process is registered as a listener once. -/
theorem Registered.nodup_listeners_onEvent {env : Env} {bundleNames : List StdString}
    {r : Registered} (h : (r.listeners.map Listener.pid).Nodup) (e : CooperateEvent) :
    ((r.onEvent env bundleNames e).listeners.map Listener.pid).Nodup := by
  cases e with
  | enable event =>
    rw [Registered.onEvent, listeners_enable]
    exact h
  | disable event =>
    rw [Registered.onEvent, listeners_disable]
    exact h
  | registerListener event =>
    simp only [Registered.onEvent]
    split
    · next i found =>
      obtain ⟨bound, same, -⟩ := List.findIdx?_eq_some_iff_getElem.mp found
      have same : r.listeners[i].pid = event.pid := by simpa using same
      have kept : (r.listeners.set i { pid := event.pid }).map Listener.pid =
          r.listeners.map Listener.pid := by
        apply List.ext_getElem (by simp)
        intro j _ _
        simp only [List.getElem_map, List.getElem_set]
        grind
      exact kept ▸ h
    · next absent =>
      have absent : ∀ listener ∈ r.listeners, listener.pid ≠ event.pid := by
        simpa using List.findIdx?_eq_none_iff.mp absent
      rw [List.map_append]
      refine h.append (List.nodup_singleton _) fun pid mem own => ?_
      obtain ⟨listener, there, rfl⟩ := List.mem_map.mp mem
      exact absent listener there (by simpa using own)
  | unregisterListener event => exact h.sublist (List.filter_sublist.map _)
  | appClosed event => exact h.sublist (List.eraseP_sublist.map _)
  | start event =>
    simp only [Registered.onEvent]
    split <;> exact h
  | withOptionsStart event =>
    simp only [Registered.onEvent]
    split <;> exact h
  | _ => exact h

theorem nodup_listeners_step {env : Env} {m : Cooperate}
    (h : (m.context.eventMgr.listeners.map Listener.pid).Nodup) (e : CooperateEvent) :
    ((step env e m).context.eventMgr.listeners.map Listener.pid).Nodup := by
  let before : Cooperate := { m with effects := [] }
  have after : (step env e m).context.eventMgr.listeners =
      ((registered before).onEvent env m.machine.clientBundleNames e).listeners :=
    congrArg Registered.listeners (registered_onEvent env before e)
  rw [after]
  exact Registered.nodup_listeners_onEvent (r := registered before) h e

end DeviceStatus.Cooperation
