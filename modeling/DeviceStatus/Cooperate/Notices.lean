import DeviceStatus.Cooperate.Invariants
import DeviceStatus.Cooperate.Registered

/-!
# What listeners and observers are told

Every registered listener is told of a closed session and of a change of state, and leaving a
cooperation resets the pointer speed and every observer. These are the marks that an event
leaves. `Marked` keeps of the state what decides them; as for `Observed`, the lemmas say that
`marked` takes each operation of the code to its counterpart.

## Main definitions

* `Marked` — the listeners, the observers and the marks of an event.
* `SessionClosedToldOnce` — one disconnect notice is sent to each registered listener.
* `LeavesOnce` — a local cause that leads to FREE stops, resets and transits once.
-/

namespace DeviceStatus.Cooperation

/-- A trace of an event that may be left once too often. -/
inductive Mark where
  /-- a listener was told -/
  | told (notice : CooperateNotice)
  | pointerSpeed (speed : Int32)
  /-- `OnReset` was posted for an observer -/
  | reset (observer : ObserverId)
  deriving DecidableEq

@[simp] def Call.mark? : Call → Option Mark
  | .setPointerSpeed speed => some (.pointerSpeed speed)
  | .observer id .onReset => some (.reset id)
  | _ => none

/-- A notice is for a listener when it carries the id of the registration. -/
def Effect.mark? : Effect → Option Mark
  | .output _ => none
  | .notice n => if n.msgId = .coordinationAddListener then some (.told n) else none
  | .call c => c.mark?

/-- The notice with which `msg` reaches one listener. -/
def listenerNotice (msg : CoordinationMessage) (networkId : NetworkId) (listener : Listener) :
    CooperateNotice :=
  { pid := listener.pid, msgId := .coordinationAddListener, userData := listener.userData,
    networkId, msg }

structure Marked where
  current : CooperateState
  listeners : List Listener
  observers : List ObserverId
  originPointerSpeed : Int32
  marks : List Mark

def marked (m : Cooperate) : Marked where
  current := m.machine.current
  listeners := m.context.eventMgr.listeners
  observers := m.context.observers
  originPointerSpeed := m.context.originPointerSpeed
  marks := m.effects.filterMap Effect.mark?

namespace Marked

variable (env : Env)

def mark (marks : List Mark) (d : Marked) : Marked :=
  { d with marks := d.marks ++ marks }

/-- `OnCooperateMessage`. -/
def tell (msg : CoordinationMessage) (networkId : NetworkId) (d : Marked) : Marked :=
  d.mark (d.listeners.map fun listener => .told (listenerNotice msg networkId listener))

/-- `TransiteTo`. -/
def transite (state : CooperateState) (d : Marked) : Marked :=
  if state = d.current then d
  else { d with current := state }.tell (statusMessage state) env.localNetworkId

/-- `OnResetCooperation`. -/
def reset (d : Marked) : Marked :=
  d.mark (.pointerSpeed d.originPointerSpeed :: d.observers.map .reset)

/-- `StopCooperate` of either state: the transition, then the reset. -/
def stop (d : Marked) : Marked :=
  (d.transite env .free).reset

end Marked

section Primitives

variable {env : Env} (m : Cooperate)

theorem marked_effect (e : Effect) : marked (m.effect e) = (marked m).mark e.mark?.toList := by
  simp only [marked, Cooperate.effect, Marked.mark, List.filterMap_append]
  cases h : e.mark? <;> simp [h]

@[simp] theorem marked_call (c : Call) : marked (m.call c) = (marked m).mark c.mark?.toList :=
  marked_effect m (.call c)

@[simp] theorem mark_nil (d : Marked) : d.mark [] = d := by
  simp [Marked.mark]

@[simp] theorem marked_emit (o : Output) : marked (m.emit o) = marked m := by
  rw [Cooperate.emit, marked_effect]; exact mark_nil _

/-- A notice for a request is none of a listener's. -/
theorem marked_notify {notice : CooperateNotice} (h : notice.msgId ≠ .coordinationAddListener) :
    marked (EventManager.notifyCooperateMessage notice m) = marked m := by
  rw [EventManager.notifyCooperateMessage, marked_effect]
  simp [Effect.mark?, h]

@[simp] theorem marked_onCooperateMessage (msg : CoordinationMessage) (networkId : NetworkId) :
    marked (EventManager.onCooperateMessage msg networkId m) = (marked m).tell msg networkId := by
  simp [marked, EventManager.onCooperateMessage, Marked.tell, Marked.mark, Effect.mark?,
    List.filterMap_map, Function.comp_def, listenerNotice]

theorem marked_postTasks (call : ObserverCall) :
    marked (Context.postTasks call m) =
      (marked m).mark (m.context.observers.filterMap fun o => (Call.observer o call).mark?) := by
  simp only [marked, Context.postTasks, Marked.mark, List.filterMap_append, List.filterMap_map]
  rfl

@[simp] theorem marked_send (networkId : NetworkId) (packet : DSoftbusPacket) :
    marked (DSoftbusHandler.send env networkId packet m).2 = marked m := by
  simp [marked, DSoftbusHandler.send, List.filterMap_map, Function.comp_def, Effect.mark?]

end Primitives

/-! ## Operations -/

section Operations

variable (env : Env) (m : Cooperate)

@[simp] theorem marked_closeDistributedFileConnection (networkId : NetworkId) :
    marked (Context.closeDistributedFileConnection networkId m) = marked m := by
  simp [Context.closeDistributedFileConnection, marked_postTasks]

@[simp] theorem marked_onStopCooperate : marked (Context.onStopCooperate m) = marked m := by
  simp [Context.onStopCooperate, marked_postTasks]

@[simp] theorem marked_setTouchPadSpeed (speed : Int32) :
    marked (Context.setTouchPadSpeed env speed m) = marked m := by
  unfold Context.setTouchPadSpeed
  split
  · rfl
  · rw [marked_call]; exact mark_nil _

theorem marked_setPointerSpeed (speed : Int32) :
    marked (Context.setPointerSpeed env speed m) = (marked m).mark [.pointerSpeed speed] := by
  rw [Context.setPointerSpeed, marked_call]; rfl

theorem marked_resetPointerAndTouchPadSpeed :
    marked (Context.resetPointerAndTouchPadSpeed env m) =
      (marked m).mark [.pointerSpeed m.context.originPointerSpeed] := by
  calc marked (Context.resetPointerAndTouchPadSpeed env m)
      = marked (Context.setTouchPadSpeed env m.context.originTouchPadSpeed
          (Context.clearPeerPointerSpeed
            (Context.setPointerSpeed env m.context.originPointerSpeed m))) := rfl
    _ = marked (Context.setPointerSpeed env m.context.originPointerSpeed m) :=
        marked_setTouchPadSpeed ..
    _ = _ := marked_setPointerSpeed ..

@[simp] theorem marked_onResetCooperation :
    marked (Context.onResetCooperation env m) = (marked m).reset := by
  have speeds := marked_resetPointerAndTouchPadSpeed env m
  have observers : (Context.resetPointerAndTouchPadSpeed env m).context.observers =
      m.context.observers := congrArg Marked.observers speeds
  have tasks : m.context.observers.filterMap (fun o => (Call.observer o .onReset).mark?) =
      (marked m).observers.map .reset := by simp [marked]
  calc marked (Context.onResetCooperation env m)
      = (marked (Context.resetPointerAndTouchPadSpeed env m)).mark
          ((Context.resetPointerAndTouchPadSpeed env m).context.observers.filterMap
            fun o => (Call.observer o .onReset).mark?) :=
        marked_postTasks (Context.resetPriv (Context.resetPointerAndTouchPadSpeed env m)) .onReset
    _ = (marked m).reset := by
        rw [speeds, observers, tasks]; simp [Marked.reset, Marked.mark, marked]

@[simp] theorem marked_resetCursorPosition :
    marked (Context.resetCursorPosition env m) = marked m := by
  unfold Context.resetCursorPosition Context.stopCooperateSetCursorPosition
  split
  · rfl
  · rw [marked_call]; exact mark_nil _

@[simp] theorem marked_updateCursorPosition :
    marked (Context.updateCursorPosition m) = marked m := by
  rw [Context.updateCursorPosition, marked_call]; exact mark_nil _

@[simp] theorem marked_closeAllSessions :
    marked (DSoftbusHandler.closeAllSessions m) = marked m := by
  rw [DSoftbusHandler.closeAllSessions, marked_call]; exact mark_nil _

@[simp] theorem marked_disableInterceptor :
    marked (InputEventInterceptor.disableInterceptor m) = marked m := by
  unfold InputEventInterceptor.disableInterceptor
  by_cases h : 0 < m.context.inputEventInterceptor.interceptorId <;>
    by_cases ht : 0 ≤ m.context.inputEventInterceptor.pointerEventTimer <;>
    simp [h, ht, marked, Cooperate.call, Cooperate.effect, Effect.mark?]

@[simp] theorem marked_disableBuilder :
    marked (InputEventBuilder.disableBuilder m) = marked m := by
  unfold InputEventBuilder.disableBuilder
  by_cases h : m.context.inputEventBuilder.enable <;>
    by_cases ht : 0 ≤ m.context.inputEventBuilder.pointerEventTimer <;>
    simp [h, ht, marked, Cooperate.call, Cooperate.effect, Effect.mark?]

@[simp] theorem marked_onLeaveState : marked (onLeaveState env m) = marked m := by
  unfold onLeaveState
  split
  · rfl
  · rw [Out.onLeaveState, setPointerVisible, marked_call]; exact mark_nil _
  · rw [In.onLeaveState, marked_call]; exact mark_nil _

@[simp] theorem marked_onEnterState : marked (onEnterState m) = marked m := by
  unfold onEnterState
  split
  · rfl
  · rw [Out.onEnterState, marked_call]; exact mark_nil _
  · rw [In.onEnterState, marked_call]; exact mark_nil _

@[simp] theorem marked_transiteTo (state : CooperateState) :
    marked (transiteTo env state m) = (marked m).transite env state := by
  have current : (marked m).current = m.machine.current := rfl
  unfold transiteTo Marked.transite
  rw [current]
  split
  · rfl
  · have left : marked { onLeaveState env m with machine.current := state } =
        { marked m with current := state } := by
      rw [← marked_onLeaveState env m]; rfl
    simp only [EventManager.onStatusChanged, marked_onCooperateMessage, marked_onEnterState, left]

@[simp] theorem marked_finishStart (success : Bool) (errCode : Int32) :
    marked (EventManager.finishStart success errCode m) = marked m := by
  unfold EventManager.finishStart
  split
  · rfl
  · exact (marked_notify _ (by simp [EventManager.startNotice])).trans rfl

@[simp] theorem In.marked_onResetWithNotifyMessage :
    marked (In.RelayConfirmation.onResetWithNotifyMessage m) = marked m :=
  marked_finishStart ..

@[simp] theorem marked_stopCooperateFinish (event : DSoftbusStopCooperateFinished) :
    marked (EventManager.stopCooperateFinish event m) = marked m := by
  unfold EventManager.stopCooperateFinish
  split
  · rfl
  · exact (marked_notify m (by simp)).trans rfl

/-- A stop that unchains tells the listeners of a closed session. -/
@[simp] theorem marked_unchainConnections (event : StopCooperateEvent) :
    marked (unchainConnections event m) =
      if event.isUnchained then (marked m).tell .sessionClosed event.networkId
      else marked m := by
  unfold unchainConnections
  split
  · rw [EventManager.onUnchain, marked_onCooperateMessage, marked_closeAllSessions]
  · rfl

/-- `CooperateOut::StopCooperate` leaves the state and resets, in this order. -/
@[simp] theorem Out.marked_stopCooperate :
    marked (Out.stopCooperate env m) = (marked m).stop env := by
  simp [Out.stopCooperate, DSoftbusHandler.stopCooperate, Marked.stop]

@[simp] theorem In.marked_stopCooperate :
    marked (In.stopCooperate env m) = (marked m).stop env := by
  simp [In.stopCooperate, DSoftbusHandler.stopCooperate, Marked.stop]

end Operations

/-! ## The notice of a closed session -/

/-- The notices of a closed session that an event has told to listeners. -/
def closedTold (d : Marked) : List CooperateNotice :=
  d.marks.filterMap fun
    | .told n => if n.msg = .sessionClosed then some n else none
    | _ => none

@[simp] theorem closedTold_mark (d : Marked) (marks : List Mark) :
    closedTold (d.mark marks) = closedTold d ++ closedTold { d with marks } := by
  simp [closedTold, Marked.mark]

theorem closedTold_tell (msg : CoordinationMessage) (networkId : NetworkId) (d : Marked) :
    closedTold (d.tell msg networkId) = closedTold d ++
      if msg = .sessionClosed then d.listeners.map (listenerNotice msg networkId) else [] := by
  rw [Marked.tell, closedTold_mark]
  by_cases h : msg = .sessionClosed <;>
    simp [closedTold, List.filterMap_map, listenerNotice, h]

theorem closedTold_transite (env : Env) (state : CooperateState) (d : Marked) :
    closedTold (d.transite env state) = closedTold d := by
  unfold Marked.transite
  split
  · rfl
  · rw [closedTold_tell, if_neg (by cases state <;> simp [statusMessage]), List.append_nil]
    rfl

/-- Leaving a cooperation says nothing of a closed session. -/
theorem closedTold_stop (env : Env) (d : Marked) : closedTold (d.stop env) = closedTold d := by
  rw [Marked.stop, Marked.reset, closedTold_mark, closedTold_transite]
  simp [closedTold, List.filterMap_map]

@[simp] theorem listeners_transite (env : Env) (state : CooperateState) (d : Marked) :
    (d.transite env state).listeners = d.listeners := by
  unfold Marked.transite; split <;> rfl

@[simp] theorem listeners_stop (env : Env) (d : Marked) : (d.stop env).listeners = d.listeners :=
  listeners_transite ..

section SessionClosed

variable {env : Env} {m : Cooperate} {event : DSoftbusSessionClosed}

theorem Out.closedTold_sessionClosed :
    closedTold (marked (Out.onEvent env (.dsoftbusSessionClosed event) m)) =
      closedTold (marked m) := by
  simp only [Out.onEvent, Out.onSoftbusSessionClosed]
  split
  · rfl
  · rw [Out.marked_stopCooperate, closedTold_stop]

/-- The initial step of `CooperateIn` tells the listeners itself. -/
theorem In.closedTold_initial (h : event.networkId = m.peer) :
    closedTold (marked (In.Initial.onEvent env (.dsoftbusSessionClosed event) m)) =
      closedTold (marked m) ++
        (marked m).listeners.map (listenerNotice .sessionClosed event.networkId) := by
  have isPeer : m.isPeer event.networkId = true := isPeer_true h
  simp only [In.Initial.onEvent, In.Initial.onSoftbusSessionClosed, isPeer,
    EventManager.onSoftbusSessionClosed]
  simp [closedTold_tell, closedTold_stop]

theorem In.closedTold_relayConfirmation :
    closedTold (marked (In.RelayConfirmation.onEvent env (.dsoftbusSessionClosed event) m)) =
      closedTold (marked m) := by
  simp only [In.RelayConfirmation.onEvent, In.RelayConfirmation.onSoftbusSessionClosed,
    In.RelayConfirmation.onPeerLost]
  split
  · rfl
  · rw [In.marked_onResetWithNotifyMessage]
    split
    · rw [In.marked_stopCooperate, closedTold_stop]
    · rfl

/-- The machine tells every listener before the current state does, and the initial step of
`CooperateIn` does so once more. -/
theorem closedTold_step (h : event.networkId = m.peer) :
    let notices := m.context.eventMgr.listeners.map (listenerNotice .sessionClosed event.networkId)
    closedTold (marked (step env (.dsoftbusSessionClosed event) m)) =
      notices ++
        if m.machine.current = .in ∧ m.machine.inStep = .initial then notices else [] := by
  intro notices
  let before : Cooperate :=
    Context.closeDistributedFileConnection event.networkId
      (((EventManager.onSoftbusSessionClosed event { m with effects := [] }).call
        (.removeAllRemoteInputDevice event.networkId)).call
          (.mouseLocationOnSoftbusSessionClosed event))
  have told : marked before =
      (marked { m with effects := [] }).tell .sessionClosed event.networkId := by
    simp [before, EventManager.onSoftbusSessionClosed]
  have first : closedTold (marked before) = notices := by
    rw [told, closedTold_tell]; rfl
  have handed : step env (.dsoftbusSessionClosed event) m =
      StateMachine.transfer env (.dsoftbusSessionClosed event) before := rfl
  have current : before.machine.current = m.machine.current := rfl
  have inStep : before.machine.inStep = m.machine.inStep := rfl
  rw [handed, StateMachine.transfer, current]
  cases hc : m.machine.current with
  | free => simpa [Free.onEvent] using first
  | out => simpa [Out.closedTold_sessionClosed] using first
  | «in» =>
    cases hs : m.machine.inStep with
    | initial =>
      have listeners : (marked before).listeners = m.context.eventMgr.listeners := rfl
      have isPeer : event.networkId = before.peer := h
      simp only [In.onEvent, inStep, hs, In.closedTold_initial isPeer, first, listeners]
      simp [notices]
    | relayConfirmation =>
      simp only [In.onEvent, inStep, hs, In.closedTold_relayConfirmation, first]
      simp

end SessionClosed

def CooperateNotice.tellsClosed (notice : CooperateNotice) : Bool :=
  notice.msgId = .coordinationAddListener ∧ notice.msg = .sessionClosed

/-- The notices of a closed session that are sent to listeners. -/
def closedSent (env : Env) (m : Cooperate) : List CooperateNotice :=
  (m.sentNotices env).filter CooperateNotice.tellsClosed

/-- Each registered listener is sent one message that the session with the peer is closed. -/
def SessionClosedToldOnce (env : Env) (event : DSoftbusSessionClosed) (m : Cooperate) : Prop :=
  ∀ listener ∈ m.context.eventMgr.listeners,
    (closedSent env (step env (.dsoftbusSessionClosed event) m)).countP
      (fun notice => notice.pid = listener.pid) = 1

section Sent

variable {env : Env} {m : Cooperate} {event : DSoftbusSessionClosed}

theorem closedTold_eq (m : Cooperate) :
    closedTold (marked m) = m.notices.filter CooperateNotice.tellsClosed := by
  rw [closedTold, marked, Cooperate.notices, List.filter_filterMap, List.filterMap_filterMap]
  refine List.filterMap_congr fun effect mem => ?_
  clear mem
  cases effect with
  | output o => rfl
  | call c =>
    cases c with
    | observer id call => cases call <;> rfl
    | _ => rfl
  | notice n =>
    by_cases listener : n.msgId = .coordinationAddListener <;>
      by_cases closed : n.msg = .sessionClosed <;>
      simp [Effect.mark?, Effect.notice?, CooperateNotice.tellsClosed, Option.filter, listener,
        closed]

theorem closedSent_eq (m : Cooperate) :
    closedSent env m = EventManager.sentNotices env [] (closedTold (marked m)) := by
  rw [closedSent, Cooperate.sentNotices, EventManager.filter_sentNotices, closedTold_eq]
  rfl

/-- Of the notices for all listeners, one is for the listener. -/
theorem filter_listenerNotice {listeners : List Listener}
    (pids : (listeners.map Listener.pid).Nodup) {listener : Listener}
    (registered : listener ∈ listeners) (networkId : NetworkId) :
    (listeners.map (listenerNotice .sessionClosed networkId)).filter
      (fun notice => notice.pid = listener.pid) =
        [listenerNotice .sessionClosed networkId listener] := by
  induction listeners with
  | nil => cases registered
  | cons first listeners ih =>
    obtain ⟨other, pids⟩ := List.nodup_cons.mp pids
    rcases List.mem_cons.mp registered with rfl | later
    · have none : (listeners.map (listenerNotice .sessionClosed networkId)).filter
          (fun notice => notice.pid = listener.pid) = [] := by
        refine List.filter_eq_nil_iff.mpr fun notice mem => ?_
        obtain ⟨l, hl, rfl⟩ := List.mem_map.mp mem
        have different : l.pid ≠ listener.pid := fun same =>
          other (List.mem_map.mpr ⟨l, hl, same⟩)
        simp [listenerNotice, different]
      rw [List.map_cons, List.filter_cons_of_pos (by simp [listenerNotice]), none]
    · have different : first.pid ≠ listener.pid := fun same =>
        other (List.mem_map.mpr ⟨listener, later, same.symm⟩)
      rw [List.map_cons, List.filter_cons_of_neg (by simp [listenerNotice, different]),
        ih pids later]

end Sent

/-- The initial step of `CooperateIn`, which tells the listeners once more. -/
def TellsTwice (m : Cooperate) : Prop :=
  m.machine.current = .in ∧ m.machine.inStep = .initial

/-- A process is registered as a listener once, so the pids differ in every state of a run. -/
theorem nodup_pids_after (settings : InputSettings) (tr : List Stimulus) :
    ((after (fresh settings) tr).context.eventMgr.listeners.map Listener.pid).Nodup := by
  have start : ((fresh settings).context.eventMgr.listeners.map Listener.pid).Nodup :=
    List.nodup_nil
  exact after_invariant (I := fun m => (m.context.eventMgr.listeners.map Listener.pid).Nodup)
    start (fun l _ h => nodup_listeners_step h l.2) tr

/-- A listener is told once when the message that is meant for it is sent, and in the initial step
of IN when just one of the two is. -/
theorem sessionClosedToldOnce_iff (env : Env) (m : Cooperate) (event : DSoftbusSessionClosed)
    (h : event.networkId = m.peer)
    (pids : (m.context.eventMgr.listeners.map Listener.pid).Nodup) :
    SessionClosedToldOnce env event m ↔
      ∀ listener ∈ m.context.eventMgr.listeners,
        let sent (count : ℕ) := EventManager.sendNotice env count
          (listenerNotice .sessionClosed event.networkId listener)
        (TellsTwice m → sent 0 ≠ sent 1) ∧ (¬ TellsTwice m → sent 0 = true) := by
  refine forall₂_congr fun listener registered => ?_
  let notice := listenerNotice .sessionClosed event.networkId listener
  have own := filter_listenerNotice pids registered event.networkId
  have attempts : (closedTold (marked (step env (.dsoftbusSessionClosed event) m))).filter
      (fun notice => notice.pid = listener.pid) =
        notice ::
          if m.machine.current = .in ∧ m.machine.inStep = .initial then [notice] else [] := by
    rw [closedTold_step h, List.filter_append, own]
    split
    · rw [own]; rfl
    · rfl
  rw [List.countP_eq_length_filter, closedSent_eq, EventManager.filter_sentNotices, attempts,
    List.filter_nil]
  by_cases twice : TellsTwice m
  · have both : m.machine.current = .in ∧ m.machine.inStep = .initial := twice
    cases first : EventManager.sendNotice env 0 notice <;>
      cases second : EventManager.sendNotice env 1 notice <;>
      simp [both, twice, EventManager.sentNotices, first, second, notice]
  · have once : ¬ (m.machine.current = .in ∧ m.machine.inStep = .initial) := twice
    cases first : EventManager.sendNotice env 0 notice <;>
      simp [once, twice, EventManager.sentNotices, first, notice]

/-- With one listener, after a start message from the peer. -/
theorem sessionClosed_toldTwice :
    let env : Env := { localNetworkId := [1] }
    let listening := step env (.registerListener { pid := 7 })
      (step env (.enable { tokenId := 0, pid := 7, userData := 0 }) {})
    let m := step env (.dsoftbusStartCooperate
      { networkId := [2], originNetworkId := [2], success := true }) listening
    m.machine.current = .in ∧ m.peer = [2] ∧
      ¬ SessionClosedToldOnce env { networkId := [2] } m := by
  unfold SessionClosedToldOnce
  decide +kernel

/-- OUT with two listeners. -/
theorem sessionClosed_toldOnce_out :
    SessionClosedToldOnce { localNetworkId := [1] } { networkId := [2] }
      { context :=
          { remoteNetworkId := [2], eventMgr := { listeners := [{ pid := 7 }, { pid := 8 }] } }
        machine := { current := .out } } :=
  (sessionClosedToldOnce_iff _ _ _ rfl (by decide)).mpr fun listener registered => by
    have out : ¬ TellsTwice { context :=
        { remoteNetworkId := [2], eventMgr := { listeners := [{ pid := 7 }, { pid := 8 }] } }
                              machine := { current := .out } } := fun twice => by cases twice.1
    exact ⟨fun twice => absurd twice out, fun _ => rfl⟩

/-! ## Leaving a cooperation -/

/-- To whom a STOP was handed, taken by dsoftbus or not: a send that fails closes the
session. -/
def stopsSent (outputs : List Output) : List NetworkId :=
  outputs.filterMap fun
    | .packet networkId .stopCooperate => some networkId
    | .closeSession networkId => some networkId
    | _ => none

def resets (d : Marked) : List Mark :=
  d.marks.filter fun
    | .told _ => false
    | _ => true

/-- The notices that the device is FREE. -/
def freeTold (d : Marked) : List CooperateNotice :=
  d.marks.filterMap fun
    | .told n => if n.msg = .coordinationStatusFree then some n else none
    | _ => none

/-- `m'` has left the cooperation of `m`: one STOP to the peer, one reset, one transition. -/
structure LeftOnce (env : Env) (m m' : Cooperate) : Prop where
  stop : stopsSent m'.outputs = [m.peer]
  reset : resets (marked m') =
    .pointerSpeed m.context.originPointerSpeed :: m.context.observers.map .reset
  transition : freeTold (marked m') = m'.context.eventMgr.listeners.map
    (listenerNotice .coordinationStatusFree env.localNetworkId)

/-- The local causes that end a cooperation. -/
def CooperateEvent.isLocalCause : CooperateEvent → Bool
  | .stop _ | .disable _ | .inputHotplugEvent _ | .appClosed _ => true
  | _ => false

def LeavesOnce (env : Env) (event : CooperateEvent) (m : Cooperate) : Prop :=
  event.isLocalCause = true → m.machine.current ≠ .free →
    (step env event m).machine.current = .free → LeftOnce env m (step env event m)

section Leaving

variable {env : Env} {m m' m'' : Cooperate}

theorem stopsSent_append (os os' : List Output) :
    stopsSent (os ++ os') = stopsSent os ++ stopsSent os' :=
  List.filterMap_append

theorem stopsSent_obs (m : Cooperate) : stopsSent m.outputs = stopsSent (obs m).outputs := rfl

theorem stopsSent_sendOutputs (sent : Nat) (networkId : NetworkId) :
    stopsSent (DSoftbusHandler.sendOutputs env sent networkId .stopCooperate) = [networkId] := by
  have fits : DSoftbusPacket.stopCooperate.chkRWError = false := rfl
  unfold DSoftbusHandler.sendOutputs
  rw [fits]
  by_cases taken : env.sendPacket sent networkId .stopCooperate = RET_OK <;>
    simp [stopsSent, taken]

theorem Out.stopsSent_stopCooperate :
    stopsSent (Out.stopCooperate env m).outputs = stopsSent m.outputs ++ [m.peer] := by
  calc stopsSent (Out.stopCooperate env m).outputs
      = stopsSent ((obs m).stopOut env).outputs := by
        rw [stopsSent_obs, obs_out_stopCooperate]
    _ = stopsSent (m.outputs ++ DSoftbusHandler.sendOutputs env m.outputs.length m.peer
          .stopCooperate) := rfl
    _ = _ := by rw [stopsSent_append, stopsSent_sendOutputs]

theorem In.stopsSent_stopCooperate :
    stopsSent (In.stopCooperate env m).outputs = stopsSent m.outputs ++ [m.peer] := by
  calc stopsSent (In.stopCooperate env m).outputs
      = stopsSent ((obs m).stopIn env).outputs := by
        rw [stopsSent_obs, obs_in_stopCooperate]
    _ = stopsSent (m.outputs ++ DSoftbusHandler.sendOutputs env m.outputs.length m.peer
          .stopCooperate) := rfl
    _ = _ := by rw [stopsSent_append, stopsSent_sendOutputs]

theorem resets_transite (state : CooperateState) (d : Marked) :
    resets (d.transite env state) = resets d := by
  unfold Marked.transite
  split
  · rfl
  · simp [resets, Marked.tell, Marked.mark, List.filter_map, Function.comp_def]

theorem resets_stop (d : Marked) :
    resets (d.stop env) =
      resets d ++ .pointerSpeed d.originPointerSpeed :: d.observers.map .reset := by
  have kept : ∀ d : Marked, ∀ state, (d.transite env state).originPointerSpeed =
      d.originPointerSpeed ∧ (d.transite env state).observers = d.observers := by
    intro d state; unfold Marked.transite; split <;> exact ⟨rfl, rfl⟩
  obtain ⟨speed, observers⟩ := kept d .free
  calc resets (d.stop env)
      = resets (d.transite env .free) ++
          .pointerSpeed (d.transite env .free).originPointerSpeed ::
            (d.transite env .free).observers.map .reset := by
        simp [resets, Marked.stop, Marked.reset, Marked.mark, List.filter_map, Function.comp_def]
    _ = _ := by rw [resets_transite, speed, observers]

theorem freeTold_tell (msg : CoordinationMessage) (networkId : NetworkId) (d : Marked) :
    freeTold (d.tell msg networkId) = freeTold d ++
      if msg = .coordinationStatusFree then d.listeners.map (listenerNotice msg networkId)
      else [] := by
  by_cases h : msg = .coordinationStatusFree <;>
    simp [freeTold, Marked.tell, Marked.mark, List.filterMap_map, listenerNotice, h]

/-- The listeners are told once on leaving, since a second `TransiteTo` finds the state. -/
theorem freeTold_stop (d : Marked) (h : d.current ≠ .free) :
    freeTold (d.stop env) =
      freeTold d ++
        d.listeners.map (listenerNotice .coordinationStatusFree env.localNetworkId) := by
  have reset (d : Marked) : freeTold d.reset = freeTold d := by
    simp [freeTold, Marked.reset, Marked.mark, List.filterMap_map]
  rw [Marked.stop, reset, Marked.transite, if_neg (Ne.symm h), freeTold_tell]
  rfl

/-- What an event has left before it reaches `StopCooperate`: no STOP, reset or transition. -/
structure Unmarked (m before : Cooperate) : Prop where
  current : before.machine.current = m.machine.current
  peer : before.peer = m.peer
  speed : before.context.originPointerSpeed = m.context.originPointerSpeed
  observers : before.context.observers = m.context.observers
  outputs : stopsSent before.outputs = []
  marks : (marked before).marks = []

theorem Unmarked.leftOnce {before : Cooperate} (h : Unmarked m before)
    (hc : m.machine.current ≠ .free) (stops : stopsSent m'.outputs =
      stopsSent before.outputs ++ [before.peer])
    (marks : marked m' = (marked before).stop env) : LeftOnce env m m' where
  stop := by rw [stops, h.outputs, h.peer]; rfl
  reset := by
    have none : resets (marked before) = [] := by simp [resets, h.marks]
    rw [marks, resets_stop, none, ← h.speed, ← h.observers]; rfl
  transition := by
    have none : freeTold (marked before) = [] := by simp [freeTold, h.marks]
    have notFree : (marked before).current ≠ .free := by
      change before.machine.current ≠ .free; rwa [h.current]
    have listeners : m'.context.eventMgr.listeners = (marked before).listeners := by
      calc m'.context.eventMgr.listeners = (marked m').listeners := rfl
        _ = (marked before).listeners := by rw [marks, listeners_stop]
    rw [marks, freeTold_stop _ notFree, none, listeners]; rfl

theorem Unmarked.out {before : Cooperate} (h : Unmarked m before)
    (hc : m.machine.current ≠ .free) : LeftOnce env m (Out.stopCooperate env before) :=
  h.leftOnce hc Out.stopsSent_stopCooperate (Out.marked_stopCooperate ..)

theorem Unmarked.in {before : Cooperate} (h : Unmarked m before)
    (hc : m.machine.current ≠ .free) : LeftOnce env m (In.stopCooperate env before) :=
  h.leftOnce hc In.stopsSent_stopCooperate (In.marked_stopCooperate ..)

/-- What comes after `StopCooperate` and adds none of its marks. -/
theorem LeftOnce.of_eq (h : LeftOnce env m m')
    (stops : stopsSent m''.outputs = stopsSent m'.outputs)
    (marks : marked m'' = marked m') : LeftOnce env m m'' where
  stop := stops.trans h.stop
  reset := by rw [marks, h.reset]
  transition := by
    have listeners : m''.context.eventMgr.listeners = m'.context.eventMgr.listeners :=
      congrArg Marked.listeners marks
    rw [marks, h.transition, listeners]

theorem LeftOnce.unchain (h : LeftOnce env m m') (event : StopCooperateEvent) :
    LeftOnce env m (unchainConnections event m') := by
  have marks := marked_unchainConnections m' event
  have outputs : (unchainConnections event m').outputs = m'.outputs :=
    congrArg Observed.outputs (obs_unchainConnections m' event)
  have listeners : (unchainConnections event m').context.eventMgr.listeners =
      m'.context.eventMgr.listeners := by
    change (marked (unchainConnections event m')).listeners = (marked m').listeners
    rw [marks]; split <;> rfl
  refine ⟨by rw [outputs, h.stop], ?_, ?_⟩
  · rw [← h.reset, marks]
    split
    · simp [resets, Marked.tell, Marked.mark, List.filter_map, Function.comp_def]
    · rfl
  · rw [listeners, ← h.transition, marks]
    split
    · rw [freeTold_tell]; simp
    · rfl

theorem Unmarked.of_eq {before : Cooperate} (listeners : List Listener)
    (peer : before.peer = m.peer) (outputs : before.outputs = [])
    (marks : marked before = { marked { m with effects := [] } with listeners }) :
    Unmarked m before where
  current := congrArg Marked.current marks
  peer := peer
  speed := congrArg Marked.originPointerSpeed marks
  observers := congrArg Marked.observers marks
  outputs := by rw [outputs]; rfl
  marks := congrArg Marked.marks marks

theorem Unmarked.of_obs {before : Cooperate} (view : obs before = obs { m with effects := [] })
    (marks : marked before = marked { m with effects := [] }) : Unmarked m before :=
  .of_eq _ (congrArg Observed.peer view) (congrArg Observed.outputs view) marks

theorem Unmarked.call {before : Cooperate} (h : Unmarked m before) {c : Call}
    (unmarked : c.mark? = none) : Unmarked m (before.call c) where
  current := h.current
  peer := h.peer
  speed := h.speed
  observers := h.observers
  outputs := by rw [outputs_call, h.outputs]
  marks := by rw [marked_call, unmarked]; simpa using h.marks

theorem LeftOnce.onReset (h : LeftOnce env m m') :
    LeftOnce env m (In.RelayConfirmation.onReset m') := h.of_eq rfl rfl

/-- The request that waited for the relay is answered, which is no STOP. -/
theorem LeftOnce.onResetWithNotifyMessage (h : LeftOnce env m m') :
    LeftOnce env m (In.RelayConfirmation.onResetWithNotifyMessage m') := by
  refine h.of_eq ?_ (In.marked_onResetWithNotifyMessage m')
  calc stopsSent (In.RelayConfirmation.onResetWithNotifyMessage m').outputs
      = stopsSent ((obs m').finish false CoordinationErrCode.coordinationOk.toInt32).outputs :=
        congrArg stopsSent (congrArg Observed.outputs (obs_resetWithNotifyMessage m'))
    _ = stopsSent m'.outputs := by
        rw [Observed.finish_eq, stopsSent_append]
        cases (obs m').pending <;> simp [Observed.answers, stopsSent, obs]

/-! ### The causes -/

/-- A stop request, in the state that it finds. -/
theorem leftOnce_transfer_stop {before : Cooperate} (h : Unmarked m before)
    (hc : m.machine.current ≠ .free) (event : StopCooperateEvent) :
    LeftOnce env m (StateMachine.transfer env (.stop event) before) := by
  have registered : Unmarked m (EventManager.stopCooperate event before) :=
    ⟨h.current, h.peer, h.speed, h.observers, h.outputs, h.marks⟩
  have finish {m' : Cooperate} (left : LeftOnce env m m')
      (finished : DSoftbusStopCooperateFinished) :
      LeftOnce env m (EventManager.stopCooperateFinish finished m') :=
    left.of_eq
      (congrArg stopsSent (congrArg Observed.outputs (obs_stopCooperateFinish m' finished)))
      (marked_stopCooperateFinish ..)
  rw [StateMachine.transfer, h.current]
  cases hs : m.machine.current with
  | free => exact absurd hs hc
  | out => exact (finish (registered.out hc) _).unchain _
  | «in» =>
    change LeftOnce env m (In.onEvent env (.stop event) before)
    unfold In.onEvent
    cases before.machine.inStep with
    | initial => exact (finish (registered.in hc) _).unchain _
    | relayConfirmation =>
      exact (h.in hc).onReset.unchain _

theorem leftOnce_transfer_disable {before : Cooperate} (h : Unmarked m before)
    (hc : m.machine.current ≠ .free) (event : DisableCooperateEvent) :
    LeftOnce env m (StateMachine.transfer env (.disable event) before) := by
  rw [StateMachine.transfer, h.current]
  cases hs : m.machine.current with
  | free => exact absurd hs hc
  | out => exact h.out hc
  | «in» =>
    change LeftOnce env m (In.onEvent env (.disable event) before)
    unfold In.onEvent
    cases before.machine.inStep with
    | initial => exact h.in hc
    | relayConfirmation => exact (h.in hc).onReset

theorem leftOnce_transfer_appClosed {before : Cooperate} (h : Unmarked m before)
    (hc : m.machine.current ≠ .free) (event : ClientDiedEvent) :
    LeftOnce env m (StateMachine.transfer env (.appClosed event) before) := by
  have closed : Unmarked m (DSoftbusHandler.closeAllSessions before) := h.call rfl
  rw [StateMachine.transfer, h.current]
  cases hs : m.machine.current with
  | free => exact absurd hs hc
  | out => exact closed.out hc
  | «in» =>
    change LeftOnce env m (In.onEvent env (.appClosed event) before)
    unfold In.onEvent
    cases before.machine.inStep with
    | initial => exact closed.in hc
    | relayConfirmation =>
      exact (closed.in hc).onResetWithNotifyMessage

/-- Without a pointer device `CooperateOut` stops twice; otherwise at most once. -/
theorem leftOnce_transfer_hotplug {before : Cooperate} (h : Unmarked m before)
    (hc : m.machine.current ≠ .free) (event : InputHotplugEvent)
    (free : (StateMachine.transfer env (.inputHotplugEvent event) before).machine.current = .free) :
    LeftOnce env m (StateMachine.transfer env (.inputHotplugEvent event) before) ↔
      ¬ (m.machine.current = .out ∧ ¬ 0 < env.virtualTrackpadDeviceId ∧
        env.hasLocalPointerDevice = false) := by
  have notFree : before.machine.current ≠ .free := by rwa [h.current]
  rw [StateMachine.transfer, h.current] at free ⊢
  cases hs : m.machine.current with
  | free => exact absurd hs hc
  | «in» =>
    rw [hs] at free
    unfold In.onEvent at free
    cases hi : before.machine.inStep <;>
      exact absurd (by simpa [hi, In.Initial.onEvent, In.RelayConfirmation.onEvent] using free)
        notFree
  | out =>
    simp only [hs, Out.onEvent, Out.onHotplug] at free ⊢
    by_cases trackpad : 0 < env.virtualTrackpadDeviceId
    · exact absurd (by simpa [trackpad] using free) notFree
    cases device : env.hasLocalPointerDevice with
    | false =>
      simp only [trackpad, if_false, Bool.not_false, if_true, not_false_eq_true, and_self,
        not_true_eq_false, iff_false]
      intro left
      have twice := left.stop
      rw [Out.stopsSent_stopCooperate, Out.stopsSent_stopCooperate, h.outputs] at twice
      simp at twice
    | true =>
      by_cases driving : event.deviceId ≠ before.context.startDeviceId
      · exact absurd (by simpa [trackpad, device, driving] using free) notFree
      · simpa [trackpad, driving] using h.out hc

/-! ### What the machine does first -/

theorem unmarked_stop : Unmarked m ((Context.onStopCooperate (Context.closeDistributedFileConnection
    m.peer { m with effects := [] })).call .removeAllVirtualInputDevice) := by
  let before := Context.onStopCooperate (Context.closeDistributedFileConnection m.peer
    { m with effects := [] })
  have obsEq : obs before = obs { m with effects := [] } := by simp [before]
  have marks : marked before = marked { m with effects := [] } := by simp [before]
  have posted : Unmarked m before := .of_obs obsEq marks
  exact posted.call rfl

theorem unmarked_appClosed (event : ClientDiedEvent) : Unmarked m
    (((EventManager.onClientDied event { m with effects := [] }).call
      (.hotAreaOnClientDied event)).call (.mouseLocationOnClientDied event)) := by
  have died : Unmarked m (EventManager.onClientDied event { m with effects := [] }) :=
    .of_eq _ rfl rfl rfl
  exact (died.call rfl).call rfl

theorem unmarked_hotplug (event : InputHotplugEvent) :
    Unmarked m (({ m with effects := [] } : Cooperate).call (.broadcastHotPlugToRemote event)) := by
  have none : Unmarked m { m with effects := [] } := .of_eq _ rfl rfl rfl
  exact none.call rfl

@[simp] theorem marked_unregisterApplicationStateObserver :
    marked (StateMachine.unregisterApplicationStateObserver env m) = marked m := by
  unfold StateMachine.unregisterApplicationStateObserver
  split
  · rfl
  split
  · rfl
  · exact (marked_call _ _).trans (mark_nil _)

@[simp] theorem marked_removeMonitor : marked (StateMachine.removeMonitor m) = marked m := by
  unfold StateMachine.removeMonitor
  split
  · rfl
  · exact (marked_call _ _).trans (mark_nil _)

@[simp] theorem marked_removePreMonitor : marked (StateMachine.removePreMonitor m) = marked m := by
  unfold StateMachine.removePreMonitor
  split
  · rfl
  · exact (marked_call _ _).trans (mark_nil _)

@[simp] theorem marked_eventMgr_disableCooperate (event : DisableCooperateEvent) :
    marked (EventManager.disableCooperate event m) = marked m :=
  marked_notify m (by simp)

theorem Unmarked.disabled {before : Cooperate} (h : Unmarked m before) :
    Unmarked m { before with machine.isCooperateEnable := false } :=
  ⟨h.current, h.peer, h.speed, h.observers, h.outputs, h.marks⟩

open StateMachine in
theorem unmarked_disable (event : DisableCooperateEvent) :
    let before := (removePreMonitor (removeMonitor (unregisterApplicationStateObserver env
      (((EventManager.disableCooperate event (Context.disableCooperate
        { m with effects := [] })).call .removeCommonEventObserver).call
          .removeAllVirtualInputDevice)))).call .unregisterDevListener
    Unmarked m { before with machine.isCooperateEnable := false } := by
  intro before
  have obsEq : obs before = obs { m with effects := [] } := by
    simp only [before, obs_call, obs_removePreMonitor, obs_removeMonitor,
      obs_unregisterApplicationStateObserver, obs_eventMgr_disableCooperate, obs_disableCooperate]
  have cleared : marked (Context.disableCooperate { m with effects := [] }) =
      marked { m with effects := [] } := rfl
  have marks : marked before = marked { m with effects := [] } := by
    simp [before, cleared]
  have unmarked : Unmarked m before := .of_obs obsEq marks
  exact unmarked.disabled

end Leaving

/-- The pointer devices are gone and no virtual track pad drives the cooperation. -/
def LosesPointerDevice (env : Env) (event : CooperateEvent) (m : Cooperate) : Prop :=
  m.machine.current = .out ∧ (∃ notice, event = .inputHotplugEvent notice) ∧
    ¬ 0 < env.virtualTrackpadDeviceId ∧ env.hasLocalPointerDevice = false

/-- A local cause ends a cooperation once, except when the last pointer device is lost. -/
theorem leavesOnce_iff (env : Env) (event : CooperateEvent) (m : Cooperate) :
    LeavesOnce env event m ↔ ¬ LosesPointerDevice env event m := by
  have only {event' : CooperateEvent} (other : ∀ notice, event' ≠ .inputHotplugEvent notice)
      (once : event'.isLocalCause = true → m.machine.current ≠ .free →
        LeftOnce env m (step env event' m)) :
      LeavesOnce env event' m ↔ ¬ LosesPointerDevice env event' m :=
    ⟨fun _ lost => lost.2.1.elim other, fun _ hl hc _ => once hl hc⟩
  cases event with
  | stop event =>
    exact only (by simp) fun _ hc => leftOnce_transfer_stop unmarked_stop hc event
  | disable event =>
    refine only (by simp) fun _ hc => ?_
    change LeftOnce env m (StateMachine.disableCooperate env event { m with effects := [] })
    exact leftOnce_transfer_disable (unmarked_disable event) hc event
  | appClosed event =>
    exact only (by simp) fun _ hc => leftOnce_transfer_appClosed (unmarked_appClosed event) hc event
  | inputHotplugEvent event =>
    have before := unmarked_hotplug (m := m) event
    constructor
    · rintro once ⟨out, lost⟩
      have hc : m.machine.current ≠ .free := by rw [out]; decide
      have free : (step env (.inputHotplugEvent event) m).machine.current = .free := by
        have handed : step env (.inputHotplugEvent event) m =
            Out.onHotplug env event (({ m with effects := [] } : Cooperate).call
              (.broadcastHotPlugToRemote event)) := by
          simp only [step, StateMachine.onEvent, StateMachine.onHotPlugEvent,
            StateMachine.transfer, machine_call, out, Out.onEvent]
        rw [handed, Out.onHotplug, context_call, if_neg lost.2.1, lost.2.2]
        exact congrArg Observed.current (obs_out_stopCooperate ..)
      exact (leftOnce_transfer_hotplug before hc event free).mp (once rfl hc free) ⟨out, lost.2⟩
    · intro kept _ hc free
      exact (leftOnce_transfer_hotplug before hc event free).mpr
        fun lost => kept ⟨lost.1, ⟨event, rfl⟩, lost.2⟩
  | _ => exact only (by simp) fun hl => absurd hl (by simp [CooperateEvent.isLocalCause])

/-- The device that plays OUT to `[2]` when its mouse is pulled. -/
theorem hotplug_stopsTwice :
    let env : Env := { localNetworkId := [1], hasLocalPointerDevice := false }
    let m : Cooperate := step { localNetworkId := [1] }
      (.start { pid := 7, userData := 0, remoteNetworkId := [2], startDeviceId := 3, errCode := 0 })
      {}
    let event := CooperateEvent.inputHotplugEvent { deviceId := 3, type := .unplug }
    m.machine.current = .out ∧ m.peer = [2] ∧ (step env event m).machine.current = .free ∧
      stopsSent (step env event m).outputs = [[2], [2]] ∧ ¬ LeavesOnce env event m := by
  intro env m event
  have isOut : m.machine.current = .out ∧ m.peer = [2] := by decide +kernel
  have free : (step env event m).machine.current = .free := by decide +kernel
  have twice : stopsSent (step env event m).outputs = [[2], [2]] := by decide +kernel
  refine ⟨isOut.1, isOut.2, free, twice, fun once => ?_⟩
  have stop := (once rfl (by rw [isOut.1]; decide) free).stop
  rw [twice, isOut.2] at stop
  cases stop

end DeviceStatus.Cooperation
