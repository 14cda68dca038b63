import DeviceStatus.Cooperate.Moves

/-!
# Notices that answer requests

A request of a client is answered with a notice that bears the pid and the user data of the
request. `Told` keeps of the state the two requests that may wait for their answer and the answers
of an event; most operations leave it alone.

## Main definitions

* `Told`, `told` — the view and its map.
* `Told.Within` — only some requests wait, and only these are answered.
-/

namespace DeviceStatus.Cooperation

/-- What the callback of a request is told. -/
inductive Reply where
  | message (notice : CooperateNotice)
  | state (notice : CooperateStateNotice)

/-- A notice for the request of a client, not one for a listener. -/
def Effect.reply? : Effect → Option Reply
  | .notice n => if n.msgId = .coordinationMessage then some (.message n) else none
  | .call (.notifyCooperateState n) => some (.state n)
  | _ => none

structure Told where
  startCall : Option PendingCall
  stopCall : Option PendingCall
  replies : List Reply

def told (m : Cooperate) : Told where
  startCall := m.context.eventMgr.startCall
  stopCall := m.context.eventMgr.stopCall
  replies := m.effects.filterMap Effect.reply?

/-- The notice that ends a stop request. -/
def stopNotice (call : PendingCall) (normal : Bool) (errCode : Int32) : CooperateNotice :=
  { pid := call.pid, msgId := .coordinationMessage, userData := call.userData,
    networkId := call.networkId, msg := if normal then .deactivateSuccess else .deactivateFail,
    errCode }

/-- What `EventManager` keeps of a stop request until it is answered. -/
def StopCooperateEvent.call (n : StopCooperateEvent) : PendingCall :=
  { pid := n.pid, userData := n.userData }

namespace Told

def reply (r : Reply) (t : Told) : Told :=
  { t with replies := t.replies ++ [r] }

end Told

/-! ## Operations -/

section Primitives

variable (env : Env) (m : Cooperate)

@[simp] theorem told_machine (machine : StateMachine) :
    told { m with machine := machine } = told m := rfl

@[simp] theorem told_call {c : Call} (h : ∀ n, c ≠ .notifyCooperateState n) :
    told (m.call c) = told m := by
  have none : Effect.reply? (.call c) = none := by
    unfold Effect.reply?
    split
    next n eq => cases eq
    next n eq => exact absurd (Effect.call.inj eq) (h n)
    next => rfl
  simp [told, Cooperate.call, Cooperate.effect, none]

@[simp] theorem told_emit (o : Output) : told (m.emit o) = told m := by
  simp [told, Cooperate.emit, Cooperate.effect, Effect.reply?]

theorem told_notify {notice : CooperateNotice} (h : notice.msgId = .coordinationMessage) :
    told (EventManager.notifyCooperateMessage notice m) = (told m).reply (.message notice) := by
  simp [told, EventManager.notifyCooperateMessage, Cooperate.effect, Effect.reply?,
    Told.reply, h]

@[simp] theorem told_onCooperateMessage (msg : CoordinationMessage) (networkId : NetworkId) :
    told (EventManager.onCooperateMessage msg networkId m) = told m := by
  simp [told, EventManager.onCooperateMessage, List.filterMap_map, Function.comp_def,
    Effect.reply?]

@[simp] theorem told_remoteStart (networkId : NetworkId) :
    told (EventManager.remoteStart networkId m) = told m :=
  told_onCooperateMessage ..

@[simp] theorem told_remoteStartFinish (success : Bool) (networkId : NetworkId) :
    told (EventManager.remoteStartFinish success networkId m) = told m :=
  told_onCooperateMessage ..

@[simp] theorem told_postTasks (call : ObserverCall) :
    told (Context.postTasks call m) = told m := by
  simp [told, Context.postTasks, List.filterMap_map, Function.comp_def, Effect.reply?]

@[simp] theorem told_send (networkId : NetworkId) (packet : DSoftbusPacket) :
    told (DSoftbusHandler.send env networkId packet m).2 = told m := by
  simp [told, DSoftbusHandler.send, List.filterMap_map, Function.comp_def, Effect.reply?]

@[simp] theorem told_openSession (networkId : NetworkId) :
    told (DSoftbusHandler.openSession env networkId m) = told m := by
  unfold DSoftbusHandler.openSession
  split
  · rw [told_call _ (by simp), told_call _ (by simp)]
  · rw [told_call _ (by simp)]

@[simp] theorem told_closeAllSessions : told (DSoftbusHandler.closeAllSessions m) = told m :=
  told_call m (by simp)

end Primitives

section Context

variable (env : Env) (m : Cooperate)

@[simp] theorem told_storePeerPointerSpeed (speed : Int32) :
    told (Context.storePeerPointerSpeed speed m) = told m := rfl

@[simp] theorem told_storePeerTouchPadSpeed (speed : Int32) :
    told (Context.storePeerTouchPadSpeed speed m) = told m := rfl

@[simp] theorem told_updateCooperateFlag (event : UpdateCooperateFlagEvent) :
    told (Context.updateCooperateFlag event m) = told m := rfl

@[simp] theorem told_setPointerSpeed (speed : Int32) :
    told (Context.setPointerSpeed env speed m) = told m := by
  rw [Context.setPointerSpeed, told_call _ (by simp)]
  rfl

@[simp] theorem told_setTouchPadSpeed (speed : Int32) :
    told (Context.setTouchPadSpeed env speed m) = told m := by
  unfold Context.setTouchPadSpeed
  split
  · rfl
  · rw [told_call _ (by simp)]
    rfl

@[simp] theorem told_resetPointerAndTouchPadSpeed :
    told (Context.resetPointerAndTouchPadSpeed env m) = told m :=
  calc told (Context.resetPointerAndTouchPadSpeed env m)
      = told (Context.setTouchPadSpeed env m.context.originTouchPadSpeed
          (Context.clearPeerPointerSpeed
            (Context.setPointerSpeed env m.context.originPointerSpeed m))) := rfl
    _ = told (Context.setPointerSpeed env m.context.originPointerSpeed m) :=
        told_setTouchPadSpeed ..
    _ = told m := told_setPointerSpeed ..

@[simp] theorem told_onResetCooperation : told (Context.onResetCooperation env m) = told m :=
  (told_postTasks (Context.resetPriv (Context.resetPointerAndTouchPadSpeed env m)) .onReset).trans
    (told_resetPointerAndTouchPadSpeed env m)

@[simp] theorem told_setCursorPosition (cursorPos : Coordinate) :
    told (Context.setCursorPosition env cursorPos m) = told m := by
  unfold Context.setCursorPosition
  split
  · rfl
  · rw [told_call _ (by simp)]
    rfl

@[simp] theorem told_resetCursorPosition : told (Context.resetCursorPosition env m) = told m := by
  unfold Context.resetCursorPosition Context.stopCooperateSetCursorPosition
  split
  · rfl
  · rw [told_call _ (by simp)]

@[simp] theorem told_remoteStartSuccess (event : DSoftbusStartCooperateFinished) :
    told (Context.remoteStartSuccess env event m) = told m :=
  told_setCursorPosition ..

@[simp] theorem told_onRemoteStart (event : DSoftbusCooperateWithOptionsFinished) :
    told (Context.onRemoteStart event m) = told m :=
  told_call _ (by simp)

@[simp] theorem told_onPointerEvent (event : InputPointerEvent) :
    told (Context.onPointerEvent env event m) = told m := by
  unfold Context.onPointerEvent
  split <;> rfl

@[simp] theorem told_onTransitionOut : told (Context.onTransitionOut env m) = told m :=
  told_postTasks ..

@[simp] theorem told_onTransitionIn : told (Context.onTransitionIn env m) = told m := by
  rw [Context.onTransitionIn, told_postTasks, told_setTouchPadSpeed]
  exact told_setPointerSpeed env (Context.storeOriginPointerSpeed m) _

@[simp] theorem told_onBack : told (Context.onBack env m) = told m := by
  rw [Context.onBack, told_postTasks, told_resetPointerAndTouchPadSpeed]

@[simp] theorem told_onRelayCooperation (networkId : NetworkId) :
    told (Context.onRelayCooperation env networkId m) = told m :=
  told_postTasks ..

@[simp] theorem told_onStopCooperate : told (Context.onStopCooperate m) = told m :=
  told_postTasks ..

@[simp] theorem told_closeDistributedFileConnection (networkId : NetworkId) :
    told (Context.closeDistributedFileConnection networkId m) = told m :=
  told_postTasks ..

end Context

section Input

variable (env : Env) (m : Cooperate)

@[simp] theorem told_enableBuilder : told (InputEventBuilder.enableBuilder env m) = told m := by
  unfold InputEventBuilder.enableBuilder
  split
  · rfl
  · rw [told_call _ (by simp), told_call _ (by simp)]
    rfl

@[simp] theorem told_disableBuilder : told (InputEventBuilder.disableBuilder m) = told m := by
  unfold InputEventBuilder.disableBuilder
  by_cases h : m.context.inputEventBuilder.enable <;>
    by_cases ht : 0 ≤ m.context.inputEventBuilder.pointerEventTimer <;>
    simp [h, ht, told, Cooperate.call, Cooperate.effect, Effect.reply?]

@[simp] theorem told_enableInterceptor :
    told (InputEventInterceptor.enableInterceptor env m).2 = told m := by
  unfold InputEventInterceptor.enableInterceptor
  by_cases on : 0 < m.context.inputEventInterceptor.interceptorId <;>
    by_cases failed : env.addInterceptor < 0 <;>
    simp [on, failed, told, Cooperate.call, Cooperate.effect, Effect.reply?]

@[simp] theorem told_disableInterceptor :
    told (InputEventInterceptor.disableInterceptor m) = told m := by
  unfold InputEventInterceptor.disableInterceptor
  by_cases h : 0 < m.context.inputEventInterceptor.interceptorId <;>
    by_cases ht : 0 ≤ m.context.inputEventInterceptor.pointerEventTimer <;>
    simp [h, ht, told, Cooperate.call, Cooperate.effect, Effect.reply?]

@[simp] theorem told_update : told (InputEventBuilder.update m) = told m := rfl

@[simp] theorem told_freeze : told (InputEventBuilder.freeze m) = told m := by
  unfold InputEventBuilder.freeze
  split <;> rfl

@[simp] theorem told_thaw : told (InputEventBuilder.thaw m) = told m := by
  unfold InputEventBuilder.thaw
  split <;> rfl

end Input

section States

variable (env : Env) (m : Cooperate)

@[simp] theorem told_onLeaveState : told (onLeaveState env m) = told m := by
  unfold onLeaveState
  split
  · rfl
  · exact told_call _ (by simp)
  · exact told_call _ (by simp)

@[simp] theorem told_onEnterState : told (onEnterState m) = told m := by
  unfold onEnterState
  split
  · rfl
  · exact told_call _ (by simp)
  · exact told_call _ (by simp)

@[simp] theorem told_transiteTo (state : CooperateState) :
    told (transiteTo env state m) = told m := by
  unfold transiteTo
  split
  · rfl
  · rw [EventManager.onStatusChanged, told_onCooperateMessage, told_onEnterState]
    exact told_onLeaveState env m

@[simp] theorem told_unchainConnections (event : StopCooperateEvent) :
    told (unchainConnections event m) = told m := by
  unfold unchainConnections
  split
  · rw [EventManager.onUnchain, told_onCooperateMessage, told_closeAllSessions]
  · rfl

@[simp] theorem Out.told_stopCooperate : told (Out.stopCooperate env m) = told m := by
  simp [Out.stopCooperate, DSoftbusHandler.stopCooperate]

@[simp] theorem In.told_stopCooperate : told (In.stopCooperate env m) = told m := by
  rw [In.stopCooperate, told_call _ (by simp)]
  simp only [told_onResetCooperation, told_transiteTo, DSoftbusHandler.stopCooperate, told_send]
  exact (told_call _ (by simp)).trans (told_disableBuilder m)

end States

/-! ## Where replies come from -/

/-- The reply is one to the request in the event. -/
inductive Answers : CooperateEvent → Reply → Prop
  | enable (n : EnableCooperateEvent) :
      Answers (.enable n)
        (.message { pid := n.pid, msgId := .coordinationMessage, userData := n.userData,
                    msg := .prepare })
  | disable (n : DisableCooperateEvent) :
      Answers (.disable n)
        (.message { pid := n.pid, msgId := .coordinationMessage, userData := n.userData,
                    msg := .unprepare })
  | start {e : CooperateEvent} {r : StartRequest} (h : e.request? = some r) (success : Bool)
      (errCode : Int32) : Answers e (.message (EventManager.startNotice r.call success errCode))
  | stop (n : StopCooperateEvent) (normal : Bool) (errCode : Int32) :
      Answers (.stop n) (.message (stopNotice n.call normal errCode))
  | getCooperateState (n : GetCooperateStateEvent) (state : Bool) :
      Answers (.getCooperateState n)
        (.state { pid := n.pid, msgId := .coordinationGetState, userData := n.userData, state })

/-- Only requests that have been `handed` over wait for an answer or get one. -/
structure Told.Within (handed : CooperateEvent → Prop) (t : Told) : Prop where
  start : ∀ call ∈ t.startCall, ∃ e r, handed e ∧ e.request? = some r ∧ r.call = call
  stop : ∀ call ∈ t.stopCall, ∃ n, handed (.stop n) ∧ n.call = call
  replies : ∀ r ∈ t.replies, ∃ e, handed e ∧ Answers e r

namespace Told.Within

variable {env : Env} {m m' : Cooperate} {handed : CooperateEvent → Prop} {t : Told}

theorem reply (h : t.Within handed) {e : CooperateEvent} (new : handed e) {r : Reply}
    (answers : Answers e r) : (t.reply r).Within handed := by
  refine ⟨h.start, h.stop, fun r' hr => ?_⟩
  rcases List.mem_append.mp hr with hr | hr
  · exact h.replies r' hr
  · exact ⟨e, new, List.mem_singleton.mp hr ▸ answers⟩

theorem ite {c : Prop} [Decidable c] (h : (told m).Within handed)
    (h' : (told m').Within handed) : (told (if c then m else m')).Within handed := by
  split
  · exact h
  · exact h'

/-- A request that is being answered waits no longer. -/
theorem finishStart (h : (told m).Within handed) (success : Bool) (errCode : Int32) :
    (told (EventManager.finishStart success errCode m)).Within handed := by
  unfold EventManager.finishStart
  cases waits : m.context.eventMgr.startCall with
  | none => exact h
  | some call =>
    obtain ⟨e, r, old, hr, rfl⟩ := h.start call waits
    rw [told_notify _ rfl]
    apply reply _ old (.start hr success errCode)
    exact ⟨nofun, h.stop, h.replies⟩

theorem stopCooperateFinish (h : (told m).Within handed) (event : DSoftbusStopCooperateFinished) :
    (told (EventManager.stopCooperateFinish event m)).Within handed := by
  unfold EventManager.stopCooperateFinish
  cases waits : m.context.eventMgr.stopCall with
  | none => exact h
  | some call =>
    obtain ⟨n, old, rfl⟩ := h.stop call waits
    have replied := h.reply old (.stop n event.normal event.errCode)
    rw [← told_notify m (by rfl)] at replied
    exact ⟨replied.start, nofun, replied.replies⟩

theorem startCooperate (h : (told m).Within handed) {n : StartCooperateEvent}
    (new : handed (.start n)) : (told (EventManager.startCooperate n m)).Within handed := by
  refine ⟨?_, h.stop, h.replies⟩
  rintro _ ⟨⟩
  exact ⟨_, _, new, rfl, rfl⟩

theorem startCooperateWithOptions (h : (told m).Within handed) {n : StartWithOptionsEvent}
    (new : handed (.withOptionsStart n)) :
    (told (EventManager.startCooperateWithOptions n m)).Within handed := by
  refine ⟨?_, h.stop, h.replies⟩
  rintro _ ⟨⟩
  exact ⟨_, _, new, rfl, rfl⟩

theorem stopCooperate (h : (told m).Within handed) {n : StopCooperateEvent}
    (new : handed (.stop n)) : (told (EventManager.stopCooperate n m)).Within handed := by
  refine ⟨h.start, ?_, h.replies⟩
  rintro _ ⟨⟩
  exact ⟨n, new, rfl⟩

theorem motionDragging (h : (told m).Within handed) {e : CooperateEvent} (new : handed e)
    {r : StartRequest} (hr : e.request? = some r) :
    (told (EventManager.errorNotAollowCooperateWhenMotionDragging
      (motionDraggingResult r.call.pid r.call.userData r.call.networkId) m)).Within handed := by
  rw [EventManager.errorNotAollowCooperateWhenMotionDragging, told_notify _ rfl]
  exact h.reply new (.start hr false _)

end Told.Within

/-! ### The FREE state -/

section Free

variable {env : Env} {m : Cooperate} {handed : CooperateEvent → Prop}

@[simp] theorem Free.told_onDisable : told (Free.onDisable env m) = told m := by
  unfold Free.onDisable
  split
  · exact (told_call _ (by simp)).trans (told_onResetCooperation env m)
  · split
    · rfl
    · exact told_call _ (by simp)

@[simp] theorem Free.told_onAppClosed : told (Free.onAppClosed m) = told m :=
  (told_closeAllSessions _).trans (told_call _ (by simp))

@[simp] theorem Free.told_onRemoteStart (n : DSoftbusStartCooperate) :
    told (Free.onRemoteStart env n m) = told m := by
  simp only [Free.onRemoteStart, Free.simulateShowPointerEvent]
  split <;> simp

@[simp] theorem Free.told_onRemoteStartWithOptions (n : DSoftbusCooperateOptions) :
    told (Free.onRemoteStartWithOptions env n m) = told m := by
  simp only [Free.onRemoteStartWithOptions, Free.simulateShowPointerEvent]
  split <;> simp

@[simp] theorem Free.told_onPointerEvent (n : InputPointerEvent) :
    told (Free.onPointerEvent env n m) = told m := by
  simp only [Free.onPointerEvent, setPointerVisible]
  split_ifs <;> simp

theorem Free.within_cooperateFail (h : (told m).Within handed) (ret : Int32) :
    (told (Free.cooperateFail ret m)).Within handed := by
  unfold Free.cooperateFail
  split
  · exact h
  · exact h.finishStart ..

theorem Free.within_onStart (h : (told m).Within handed) {n : StartCooperateEvent}
    (new : handed (.start n)) : (told (Free.onStart env n m)).Within handed := by
  have asked : (told (EventManager.startCooperate n (Context.startCooperate n m))).Within handed :=
    Told.Within.startCooperate (m := Context.startCooperate n m) h new
  simp only [Free.onStart, Free.initiatorPointerVisible, DSoftbusHandler.startCooperate]
  generalize EventManager.startCooperate n (Context.startCooperate n m) = m₁ at asked ⊢
  split
  · exact asked.motionDragging new rfl
  split
  · apply Free.within_cooperateFail
    simpa using asked
  · refine .ite (by simpa using asked) (.ite (by simpa using asked) ?_)
    refine .ite (by simpa using asked) ?_
    rw [told_onTransitionOut, told_transiteTo]
    apply Told.Within.finishStart
    simpa using asked

theorem Free.within_onStartWithOptions (h : (told m).Within handed) {n : StartWithOptionsEvent}
    (new : handed (.withOptionsStart n)) :
    (told (Free.onStartWithOptions env n m)).Within handed := by
  have asked : (told (EventManager.startCooperateWithOptions n
      (Context.startCooperateWithOptions n m))).Within handed :=
    Told.Within.startCooperateWithOptions (m := Context.startCooperateWithOptions n m) h new
  simp only [Free.onStartWithOptions, DSoftbusHandler.startCooperateWithOptions]
  generalize EventManager.startCooperateWithOptions n (Context.startCooperateWithOptions n m) = m₁
    at asked ⊢
  split_ifs
  · exact asked.motionDragging new rfl
  · apply Told.Within.finishStart
    simpa using asked
  · rw [told_onTransitionOut, told_transiteTo]
    apply Told.Within.finishStart
    simpa using asked

theorem Free.within_onStop (h : (told m).Within handed) {n : StopCooperateEvent}
    (new : handed (.stop n)) : (told (Free.onStop n m)).Within handed := by
  rw [Free.onStop, told_unchainConnections]
  exact (h.stopCooperate new).stopCooperateFinish _

theorem Free.within_onEvent (h : (told m).Within handed) {e : CooperateEvent} (new : handed e) :
    (told (Free.onEvent env e m)).Within handed := by
  cases e with
  | start n => exact Free.within_onStart h new
  | withOptionsStart n => exact Free.within_onStartWithOptions h new
  | stop n => exact Free.within_onStop h new
  | _ => simpa [Free.onEvent] using h

end Free

/-! ### The OUT state -/

section Out

variable {env : Env} {m : Cooperate} {handed : CooperateEvent → Prop}

@[simp] theorem Out.told_simulateShowPointerEvent :
    told (Out.simulateShowPointerEvent m) = told m :=
  told_call m (by simp)

@[simp] theorem Out.told_onComeBack (n : DSoftbusComeBack) :
    told (Out.onComeBack env n m) = told m := by
  simp only [Out.onComeBack]
  split_ifs <;> simp

@[simp] theorem Out.told_onComeBackWithOptions (n : DSoftbusComeBackWithOptions) :
    told (Out.onComeBackWithOptions env n m) = told m := by
  simp only [Out.onComeBackWithOptions]
  split_ifs <;> simp

@[simp] theorem Out.told_onRemoteStart (n : DSoftbusStartCooperate) :
    told (Out.onRemoteStart env n m) = told m := by
  simp only [Out.onRemoteStart, DSoftbusHandler.stopCooperate]
  split_ifs <;> simp

@[simp] theorem Out.told_onRemoteStartWithOptions (n : DSoftbusCooperateOptions) :
    told (Out.onRemoteStartWithOptions env n m) = told m := by
  simp only [Out.onRemoteStartWithOptions, DSoftbusHandler.stopCooperate]
  split_ifs <;> simp

@[simp] theorem Out.told_onRemoteStop (n : DSoftbusStopCooperate) :
    told (Out.onRemoteStop env n m) = told m := by
  simp only [Out.onRemoteStop]
  split_ifs <;> simp

theorem Out.told_relayTo
    (finish : NetworkId → DSoftbusRelayCooperateFinished → Cooperate → Int32 × Cooperate)
    (sends : ∀ networkId resp m, told (finish networkId resp m).2 = told m)
    (n : DSoftbusRelayCooperate) : told (Out.relayTo env finish n m) = told m := by
  simp only [Out.relayTo]
  split_ifs
  · rfl
  · rw [sends, told_openSession]
  · rw [told_onRelayCooperation]
    exact (sends ..).trans (told_openSession ..)

theorem Out.within_onStart (h : (told m).Within handed) {n : StartCooperateEvent}
    (new : handed (.start n)) : (told (Out.onStart env n m)).Within handed := by
  unfold Out.onStart
  split
  · exact h.motionDragging new rfl
  · exact (h.startCooperate new).finishStart ..

theorem Out.within_onStartWithOptions (h : (told m).Within handed) {n : StartWithOptionsEvent}
    (new : handed (.withOptionsStart n)) :
    (told (Out.onStartWithOptions env n m)).Within handed := by
  unfold Out.onStartWithOptions
  split
  · exact h.motionDragging new rfl
  · exact (h.startCooperateWithOptions new).finishStart ..

theorem Out.within_onStop (h : (told m).Within handed) {n : StopCooperateEvent}
    (new : handed (.stop n)) : (told (Out.onStop env n m)).Within handed := by
  rw [Out.onStop, told_unchainConnections]
  apply Told.Within.stopCooperateFinish
  rw [Out.told_stopCooperate]
  exact h.stopCooperate new

theorem Out.within_onEvent (h : (told m).Within handed) {e : CooperateEvent} (new : handed e) :
    (told (Out.onEvent env e m)).Within handed := by
  cases e with
  | start n => exact Out.within_onStart h new
  | withOptionsStart n => exact Out.within_onStartWithOptions h new
  | stop n => exact Out.within_onStop h new
  | inputHotplugEvent n =>
    simp only [Out.onEvent, Out.onHotplug]
    split_ifs <;> simpa using h
  | ddmBoardOffline n =>
    simp only [Out.onEvent, Out.onBoardOffline]
    split_ifs <;> simpa using h
  | ddpCooperateSwitchChanged n =>
    simp only [Out.onEvent, Out.onSwitchChanged]
    split_ifs <;> simpa using h
  | dsoftbusSessionClosed n =>
    simp only [Out.onEvent, Out.onSoftbusSessionClosed]
    split_ifs <;> simpa using h
  | stopAboutVirtualTrackpad n =>
    simp only [Out.onEvent, Out.onStopAboutVirtualTrackpad]
    split_ifs <;> simpa using h
  | dsoftbusRelayCooperate n =>
    exact (Out.told_relayTo (DSoftbusHandler.relayCooperateFinish env)
      (fun _ _ _ => told_send ..) n).symm ▸ h
  | dsoftbusRelayCooperateWithOptions n =>
    exact (Out.told_relayTo (DSoftbusHandler.relayCooperateWithOptionsFinish env)
      (fun _ _ _ => told_send ..) n).symm ▸ h
  | inputPointerEvent n => exact h
  | _ => simpa [Out.onEvent, Out.onAppClosed] using h

end Out

/-! ### The IN state -/

section In

variable {env : Env} {m : Cooperate} {handed : CooperateEvent → Prop}

theorem In.Initial.within_onComeBack (h : (told m).Within handed) (n : StartCooperateEvent) :
    (told (In.Initial.onComeBack env n m)).Within handed := by
  simp only [In.Initial.onComeBack, DSoftbusHandler.comeBack, told_onBack, told_transiteTo]
  apply Told.Within.finishStart
  simpa using h

theorem In.Initial.within_onComeBackWithOptions (h : (told m).Within handed)
    (n : StartWithOptionsEvent) :
    (told (In.Initial.onComeBackWithOptions env n m)).Within handed := by
  simp only [In.Initial.onComeBackWithOptions, DSoftbusHandler.comeBackWithOptions, told_onBack,
    told_transiteTo]
  rw [told_call _ (by simp)]
  apply Told.Within.finishStart
  simpa using h

namespace In.RelayConfirmation

theorem within_onProgress (h : (told m).Within handed) (n : StartCooperateEvent) :
    (told (onProgress env n m)).Within handed := by
  simp only [onProgress, DSoftbusHandler.relayCooperate]
  refine .ite ?_ ?_
  · apply Told.Within.finishStart
    simpa using h
  · simpa using h

theorem within_onProgressWithOptions (h : (told m).Within handed) (n : StartWithOptionsEvent) :
    (told (onProgressWithOptions env n m)).Within handed := by
  simp only [onProgressWithOptions, DSoftbusHandler.relayCooperate]
  refine .ite ?_ ?_
  · apply Told.Within.finishStart
    simpa using h
  · simpa using h

theorem within_onResetWithNotifyMessage (h : (told m).Within handed) :
    (told (onResetWithNotifyMessage m)).Within handed :=
  h.finishStart ..

@[simp] theorem told_reset : told (reset m) = told m := rfl

@[simp] theorem told_onReset : told (onReset m) = told m := rfl

theorem within_onRemoteStart (h : (told m).Within handed) (n : DSoftbusStartCooperate) :
    (told (onRemoteStart env n m)).Within handed := by
  simp only [onRemoteStart]
  refine .ite (by simpa using h) (.ite ?_ (by simpa using h))
  apply within_onResetWithNotifyMessage
  simpa using h

@[simp] theorem told_onRemoteStartWithOptions (n : DSoftbusCooperateOptions) :
    told (onRemoteStartWithOptions env n m) = told m := by
  simp only [onRemoteStartWithOptions]
  split_ifs <;> simp

@[simp] theorem told_onRemoteStop (n : DSoftbusStopCooperate) :
    told (onRemoteStop n m) = told m := by
  simp only [onRemoteStop]
  split_ifs <;> simp

@[simp] theorem told_onPointerEvent (n : InputPointerEvent) :
    told (onPointerEvent env n m) = told m := by
  simp only [onPointerEvent]
  split_ifs <;> simp

theorem within_onPeerLost (h : (told m).Within handed) (networkId : NetworkId) :
    (told (onPeerLost env networkId m)).Within handed := by
  simp only [onPeerLost]
  refine .ite h ?_
  apply within_onResetWithNotifyMessage
  exact .ite (by simpa using h) h

theorem within_onNormal (h : (told m).Within handed) (n : DSoftbusRelayCooperateFinished) :
    (told (onNormal env n m)).Within handed := by
  simp only [onNormal, DSoftbusHandler.startCooperate, told_onRelayCooperation,
    told_resetPointerAndTouchPadSpeed, told_transiteTo]
  apply Told.Within.finishStart
  simpa using h

theorem within_onNormalWithOptions (h : (told m).Within handed) :
    (told (onNormalWithOptions env m)).Within handed := by
  simp only [onNormalWithOptions, DSoftbusHandler.startCooperateWithOptions,
    told_onRelayCooperation, told_resetPointerAndTouchPadSpeed, told_transiteTo]
  apply Told.Within.finishStart
  simpa using h

theorem within_onResponse (h : (told m).Within handed) (n : DSoftbusRelayCooperateFinished) :
    (told (onResponse env n m)).Within handed := by
  simp only [onResponse]
  refine .ite h (.ite ?_ ?_)
  · rw [told_reset]
    exact within_onNormal (by simpa using h) n
  · rw [told_stopCooperate]
    apply within_onResetWithNotifyMessage
    simpa using h

theorem within_onResponseWithOptions (h : (told m).Within handed)
    (n : DSoftbusRelayCooperateFinished) :
    (told (onResponseWithOptions env n m)).Within handed := by
  simp only [onResponseWithOptions]
  refine .ite h (.ite ?_ ?_)
  · rw [told_reset]
    exact within_onNormalWithOptions (by simpa using h)
  · rw [told_stopCooperate]
    apply Told.Within.finishStart
    simpa using h

/-- A stop request that comes in this step is neither kept nor answered. -/
theorem within_onEvent (h : (told m).Within handed) (e : CooperateEvent) :
    (told (onEvent env e m)).Within handed := by
  cases e with
  | appClosed n =>
    apply within_onResetWithNotifyMessage
    simpa using h
  | ddmBoardOffline n => exact within_onPeerLost h _
  | ddpCooperateSwitchChanged n => exact .ite h (within_onPeerLost h _)
  | dsoftbusSessionClosed n => exact within_onPeerLost h _
  | dsoftbusRelayCooperateFinished n => exact within_onResponse h n
  | dsoftbusRelayCooperateWithOptionsFinished n => exact within_onResponseWithOptions h n
  | dsoftbusStartCooperate n => exact within_onRemoteStart h n
  | _ => simpa [onEvent, onDisable, onStop] using h

end In.RelayConfirmation

namespace In.Initial

theorem within_onStart (h : (told m).Within handed) {n : StartCooperateEvent}
    (new : handed (.start n)) :
    (told (onStart env n m)).Within handed := by
  have reset : (told (Context.resetPriv m)).Within handed := h
  simp only [onStart]
  refine .ite (reset.motionDragging new rfl) (.ite (reset.finishStart ..) (.ite ?_ ?_))
  · exact within_onComeBack (reset.startCooperate new) n
  · apply RelayConfirmation.within_onProgress
    exact reset.startCooperate new

theorem within_onStartWithOptions (h : (told m).Within handed) {n : StartWithOptionsEvent}
    (new : handed (.withOptionsStart n)) : (told (onStartWithOptions env n m)).Within handed := by
  have reset : (told (Context.updateCooperateOptions n (Context.resetPriv m))).Within handed := h
  simp only [onStartWithOptions]
  refine .ite (reset.motionDragging new rfl) (.ite (reset.finishStart ..) (.ite ?_ ?_))
  · exact within_onComeBackWithOptions (reset.startCooperateWithOptions new) n
  · apply RelayConfirmation.within_onProgressWithOptions
    exact reset.startCooperateWithOptions new

theorem within_onStop (h : (told m).Within handed) {n : StopCooperateEvent}
    (new : handed (.stop n)) : (told (onStop env n m)).Within handed := by
  rw [onStop, told_unchainConnections]
  apply Told.Within.stopCooperateFinish
  rw [told_stopCooperate]
  exact h.stopCooperate new

@[simp] theorem told_onRemoteStart (n : DSoftbusStartCooperate) :
    told (onRemoteStart env n m) = told m := by
  simp only [onRemoteStart, DSoftbusHandler.stopCooperate]
  split_ifs <;> simp

@[simp] theorem told_onRemoteStartWithOptions (n : DSoftbusCooperateOptions) :
    told (onRemoteStartWithOptions env n m) = told m := by
  simp only [onRemoteStartWithOptions, DSoftbusHandler.stopCooperate]
  split_ifs <;> simp

@[simp] theorem told_onRemoteStop (n : DSoftbusStopCooperate) :
    told (onRemoteStop env n m) = told m := by
  simp only [onRemoteStop]
  split_ifs <;> simp

@[simp] theorem told_onPointerEvent (n : InputPointerEvent) :
    told (onPointerEvent env n m) = told m := by
  simp only [onPointerEvent]
  split_ifs <;> simp

@[simp] theorem told_onUpdateCooperateFlag (n : UpdateCooperateFlagEvent) :
    told (onUpdateCooperateFlag n m) = told m := by
  simp only [onUpdateCooperateFlag]
  split_ifs <;> simp

theorem within_onEvent (h : (told m).Within handed) {e : CooperateEvent} (new : handed e) :
    (told (onEvent env e m)).Within handed := by
  cases e with
  | start n => exact within_onStart h new
  | withOptionsStart n => exact within_onStartWithOptions h new
  | stop n => exact within_onStop h new
  | ddmBoardOffline n => exact .ite h (by simpa using h)
  | ddpCooperateSwitchChanged n => exact .ite h (by simpa using h)
  | dsoftbusSessionClosed n =>
    exact .ite h (by simpa [EventManager.onSoftbusSessionClosed] using h)
  | dsoftbusInputDevSync n => exact .ite h (by simpa using h)
  | _ => simpa [onEvent, onAppClosed] using h

end In.Initial

theorem In.within_onEvent (h : (told m).Within handed) {e : CooperateEvent} (new : handed e) :
    (told (In.onEvent env e m)).Within handed := by
  unfold In.onEvent
  split
  · exact In.Initial.within_onEvent h new
  · exact In.RelayConfirmation.within_onEvent h e

end In

/-! ### The state machine -/

section StateMachine

variable {env : Env} {m : Cooperate} {handed : CooperateEvent → Prop}

@[simp] theorem told_registerListener (n : RegisterListenerEvent) :
    told (EventManager.registerListener n m) = told m := rfl

@[simp] theorem told_unregisterListener (n : RegisterListenerEvent) :
    told (EventManager.unregisterListener n m) = told m := rfl

@[simp] theorem told_onClientDied (n : ClientDiedEvent) :
    told (EventManager.onClientDied n m) = told m := rfl

namespace StateMachine

theorem within_transfer (h : (told m).Within handed) {e : CooperateEvent} (new : handed e) :
    (told (transfer env e m)).Within handed := by
  unfold transfer
  split
  · exact Free.within_onEvent h new
  · exact Out.within_onEvent h new
  · exact In.within_onEvent h new

@[simp] theorem told_addMonitor : told (addMonitor env m) = told m := by
  simp only [addMonitor]
  split_ifs <;> simp

@[simp] theorem told_removeMonitor : told (removeMonitor m) = told m := by
  simp only [removeMonitor]
  split_ifs
  · rfl
  · exact (told_machine _ _).trans (told_call m (by simp))

@[simp] theorem told_addPreMonitor : told (addPreMonitor env m) = told m := by
  simp only [addPreMonitor]
  split_ifs <;> simp

@[simp] theorem told_removePreMonitor : told (removePreMonitor m) = told m := by
  simp only [removePreMonitor]
  split_ifs
  · rfl
  · exact (told_machine _ _).trans (told_call m (by simp))

@[simp] theorem told_registerApplicationStateObserver (n : EnableCooperateEvent) :
    told (registerApplicationStateObserver env n m) = told m := by
  unfold registerApplicationStateObserver
  dsimp only
  split
  · rfl
  · exact (told_machine _ _).trans (told_call _ (by simp))

@[simp] theorem told_unregisterApplicationStateObserver :
    told (unregisterApplicationStateObserver env m) = told m := by
  unfold unregisterApplicationStateObserver
  split
  · rfl
  split
  · rfl
  · exact (told_machine _ _).trans (told_call m (by simp))

@[simp] theorem told_updateApplicationStateObserver (pid : Int32) :
    told (updateApplicationStateObserver pid m) = told m := rfl

theorem told_transfer_enable (n : EnableCooperateEvent) :
    told (transfer env (.enable n) m) = told m := by
  unfold transfer
  split
  · rfl
  · rfl
  · unfold In.onEvent
    split <;> rfl

theorem told_transfer_disable (n : DisableCooperateEvent) :
    told (transfer env (.disable n) m) = told m := by
  unfold transfer
  split
  · exact Free.told_onDisable
  · exact Out.told_stopCooperate env m
  · unfold In.onEvent
    split
    · exact In.told_stopCooperate env m
    · exact (In.RelayConfirmation.told_onReset ..).trans (In.told_stopCooperate env m)

theorem told_transfer_inputPointerEvent (n : InputPointerEvent) :
    told (transfer env (.inputPointerEvent n) m) = told m := by
  unfold transfer
  split
  · exact Free.told_onPointerEvent n
  · rfl
  · unfold In.onEvent
    split
    · exact In.Initial.told_onPointerEvent n
    · exact In.RelayConfirmation.told_onPointerEvent n

theorem told_enableCooperate (n : EnableCooperateEvent) :
    told (enableCooperate env n m) =
      (told m).reply (.message { pid := n.pid, msgId := .coordinationMessage,
                                 userData := n.userData, msg := .prepare }) := by
  simp only [enableCooperate]
  rw [told_transfer_enable, told_machine, told_call _ (by simp), told_addPreMonitor,
    told_addMonitor, told_registerApplicationStateObserver, told_call _ (by simp),
    told_call _ (by simp)]
  exact told_notify m rfl

theorem told_disableCooperate (n : DisableCooperateEvent) :
    told (disableCooperate env n m) =
      (told m).reply (.message { pid := n.pid, msgId := .coordinationMessage,
                                 userData := n.userData, msg := .unprepare }) := by
  simp only [disableCooperate, told_transfer_disable]
  generalize closed : Cooperate.call .unregisterDevListener _ = m'
  calc _ = told m' := rfl
    _ = told (EventManager.disableCooperate n (Context.disableCooperate m)) := by
      rw [← closed, told_call _ (by simp), told_removePreMonitor, told_removeMonitor,
        told_unregisterApplicationStateObserver, told_call _ (by simp), told_call _ (by simp)]
    _ = _ := told_notify (Context.disableCooperate m) rfl

theorem told_getCooperateState (n : GetCooperateStateEvent) :
    told (getCooperateState n m) =
      (told m).reply (.state { pid := n.pid, msgId := .coordinationGetState,
                               userData := n.userData, state := m.machine.isCooperateEnable }) := by
  simp [getCooperateState, EventManager.getCooperateState, told, Cooperate.call, Cooperate.effect,
    updateApplicationStateObserver, Effect.reply?, Told.reply]

theorem within_acceptStart (h : (told m).Within handed) {e : CooperateEvent} (new : handed e)
    (networkId : NetworkId) (pid : Int32) (errCode : Promise) :
    (told (acceptStart env networkId pid errCode e m)).Within handed := by
  simp only [acceptStart]
  refine .ite (by simpa using h) (.ite (by simpa using h) ?_)
  apply within_transfer _ new
  simpa using h

theorem within_acceptRemoteStart (h : (told m).Within handed) {e : CooperateEvent}
    (new : handed e) (unchain : handed (.stop { isUnchained := true })) (networkId : NetworkId)
    (userId : Int32) (accountId : StdString) :
    (told (acceptRemoteStart env networkId userId accountId e m)).Within handed := by
  simp only [acceptRemoteStart]
  exact .ite (within_transfer h unchain) (within_transfer h new)

/-- Besides the requests of clients, the state machine makes one of its own: to unchain. -/
theorem within_onEvent (h : (told m).Within handed) {e : CooperateEvent} (new : handed e)
    (unchain : handed (.stop { isUnchained := true })) :
    (told (onEvent env e m)).Within handed := by
  cases e with
  | enable n =>
    rw [onEvent, told_enableCooperate]
    exact h.reply new (.enable n)
  | disable n =>
    rw [onEvent, told_disableCooperate]
    exact h.reply new (.disable n)
  | getCooperateState n =>
    rw [onEvent, told_getCooperateState]
    exact h.reply new (.getCooperateState n _)
  | start n => exact within_acceptStart h new ..
  | withOptionsStart n => exact within_acceptStart h new ..
  | dsoftbusStartCooperate n => exact within_acceptRemoteStart h new unchain ..
  | dsoftbusCooperateWithOptions n => exact within_acceptRemoteStart h new unchain ..
  | ddmBoardOnline n =>
    refine .ite h (within_transfer ?_ new)
    simpa using h
  | ddmBoardOffline n =>
    refine .ite (within_transfer ?_ new) h
    simpa using h
  | ddpCooperateSwitchChanged n =>
    apply within_transfer _ new
    simpa [EventManager.onProfileChanged] using h
  | dsoftbusSessionClosed n =>
    apply within_transfer _ new
    simpa [EventManager.onSoftbusSessionClosed] using h
  | inputPointerEvent n =>
    exact (told_transfer_inputPointerEvent _).trans (told_onPointerEvent env m n) ▸ h
  | appClosed n | dsoftbusSessionOpened n | inputHotplugEvent n | dsoftbusInputDevSync n
  | stop n =>
    apply within_transfer _ new
    simpa using h
  | addObserver n | removeObserver n | registerListener n | unregisterListener n
  | updateVirtualDevIdMap n => exact h
  | registerHotareaListener n | unregisterHotareaListener n | registerEventListener n
  | unregisterEventListener n | dsoftbusSubscribeMouseLocation n
  | dsoftbusUnsubscribeMouseLocation n | dsoftbusReplySubscribeMouseLocation n
  | dsoftbusReplyUnsubscribeMouseLocation n | dsoftbusMouseLocation n => simpa [onEvent] using h
  | _ => exact within_transfer h new

end StateMachine

theorem within_step (h : (told m).Within handed) {e : CooperateEvent} (new : handed e)
    (unchain : handed (.stop { isUnchained := true })) : (told (step env e m)).Within handed := by
  have fresh : (told { m with effects := [] }).Within handed :=
    ⟨h.start, h.stop, by simp [told]⟩
  exact StateMachine.within_onEvent fresh new unchain

end StateMachine

/-! ## Requests that are answered at once -/

section Prompt

variable {env : Env} {m : Cooperate}

/-- While a relay is being confirmed, a stop request is not answered. -/
def Prompt (m : Cooperate) : CooperateEvent → Prop
  | .enable _ | .disable _ | .getCooperateState _ => True
  | .stop _ => ¬ (m.machine.current = .in ∧ m.machine.inStep = .relayConfirmation)
  | _ => False

theorem mem_stopCooperateFinish {call : PendingCall} (h : (told m).stopCall = some call)
    (event : DSoftbusStopCooperateFinished) :
    .message (stopNotice call event.normal event.errCode) ∈
      (told (EventManager.stopCooperateFinish event m)).replies := by
  have waits : m.context.eventMgr.stopCall = some call := h
  have same : (told (EventManager.stopCooperateFinish event m)).replies =
      (told (EventManager.notifyCooperateMessage
        (stopNotice call event.normal event.errCode) m)).replies := by
    unfold EventManager.stopCooperateFinish
    rw [waits]
    rfl
  rw [same, told_notify m (by rfl)]
  exact List.mem_append_right _ List.mem_cons_self

/-- A stop request that is kept and then finished. -/
theorem answers_stopCooperateFinish {n : StopCooperateEvent}
    (h : (told m).stopCall = some n.call) (event : DSoftbusStopCooperateFinished) :
    ∃ r ∈ (told (EventManager.stopCooperateFinish event m)).replies, Answers (.stop n) r :=
  ⟨_, mem_stopCooperateFinish h event, .stop n event.normal event.errCode⟩

theorem StateMachine.answers_transfer_stop {n : StopCooperateEvent} (h : Prompt m (.stop n)) :
    ∃ r ∈ (told (transfer env (.stop n) m)).replies, Answers (.stop n) r := by
  cases current : m.machine.current with
  | free =>
    simp only [transfer, current, Free.onEvent, Free.onStop, told_unchainConnections]
    exact answers_stopCooperateFinish rfl _
  | out =>
    simp only [transfer, current, Out.onEvent, Out.onStop, told_unchainConnections]
    apply answers_stopCooperateFinish
    rw [Out.told_stopCooperate]
    rfl
  | «in» =>
    cases step : m.machine.inStep with
    | initial =>
      simp only [transfer, current, In.onEvent, step, In.Initial.onEvent, In.Initial.onStop,
        told_unchainConnections]
      apply answers_stopCooperateFinish
      rw [In.told_stopCooperate]
      rfl
    | relayConfirmation => exact absurd ⟨current, step⟩ h

theorem mem_reply (t : Told) (r : Reply) : r ∈ (t.reply r).replies :=
  List.mem_append_right _ List.mem_cons_self

/-- A prompt request is answered in the very step that handles it. -/
theorem answers_step (env : Env) {e : CooperateEvent} (h : Prompt m e) :
    ∃ r ∈ (told (step env e m)).replies, Answers e r := by
  cases e with
  | enable n =>
    rw [step, StateMachine.onEvent, StateMachine.told_enableCooperate]
    exact ⟨_, mem_reply .., .enable n⟩
  | disable n =>
    rw [step, StateMachine.onEvent, StateMachine.told_disableCooperate]
    exact ⟨_, mem_reply .., .disable n⟩
  | getCooperateState n =>
    rw [step, StateMachine.onEvent, StateMachine.told_getCooperateState]
    exact ⟨_, mem_reply .., .getCooperateState n _⟩
  | stop n => exact StateMachine.answers_transfer_stop h
  | _ => exact h.elim

end Prompt

end DeviceStatus.Cooperation
