import DeviceStatus.Cooperate.Emissions
import DeviceStatus.InputEvent.PressedEvents
import DeviceStatus.Utils.Channel

/-!
# The cooperation thread

Every request, packet and timer reaches the state machine through one channel, from which the loop
of `Cooperate` takes the events one after another until it gets a QUIT. A client that starts a
cooperation waits for the promise in its event. Nobody fulfils the promise of an event that the
channel has refused or that comes after a QUIT.

## Main definitions

* `Worker`, `Worker.next` — the channel and the loop, one step of a sender or of the loop.
* `Worker.taken`, `Worker.handled` — the events that the channel takes and those that the loop gets.
* `Worker.Fresh` — every start request comes with a promise of its own.
-/

namespace DeviceStatus.Cooperation

open Transition.System
open InputEvents (MmiConstants DoubleArithmetic)
open Utils (Channel)

/-- The promises among the outputs and their values. -/
def promised (outputs : List Output) : List (Promise × Int32) :=
  outputs.filterMap fun
    | .errCode promise value => some (promise, value)
    | _ => none

section Promised

variable {outputs outputs' : List Output} {env : Env} {sent : ℕ} {networkId : NetworkId}
  {packet : DSoftbusPacket}

@[simp] theorem promised_nil : promised [] = [] := rfl

@[simp] theorem promised_append :
    promised (outputs ++ outputs') = promised outputs ++ promised outputs' :=
  List.filterMap_append

@[simp] theorem promised_errCode {errCode : Promise} {value : Int32} :
    promised (.errCode errCode value :: outputs) = (errCode, value) :: promised outputs := rfl

@[simp] theorem promised_answer {notice : CooperateNotice} :
    promised (.answer notice :: outputs) = promised outputs := rfl

@[simp] theorem promised_event {event : CooperateEvent} :
    promised (.event event :: outputs) = promised outputs := rfl

@[simp] theorem promised_addTimer {timerId interval : Int32} {event : CooperateEvent} :
    promised (.addTimer timerId interval event :: outputs) = promised outputs := rfl

@[simp] theorem promised_removeTimer {timerId : Int32} :
    promised (.removeTimer timerId :: outputs) = promised outputs := rfl

@[simp] theorem promised_sendOutputs :
    promised (DSoftbusHandler.sendOutputs env sent networkId packet) = [] := by
  unfold DSoftbusHandler.sendOutputs
  split
  · rfl
  · split <;> rfl

end Promised

namespace Observed

variable {env : Env} {u : Unseen} {request : DSoftbusPacket} {e : CooperateEvent}
  {o o' : Observed} {success : Bool} {errCode : Int32}

@[simp] theorem promised_answers : promised (o.answers success errCode) = [] := by
  unfold answers
  cases o.pending <;> rfl

/-- The states fulfil no promise. -/
theorem Transfer.promised (h : Transfer env request e o o') :
    promised o'.outputs = promised o.outputs := by
  unfold Transfer at h
  split at h
  case h_1 =>
    cases h <;>
      simp [ask, begin, bind, register, out, send, finish_eq, enableBuilder_eq,
        enableInterceptor_eq, goto, motionDragAnswer]
  case h_2 =>
    cases h <;>
      simp [stopOut, bind, register, out, send, finish_eq, enableBuilder_eq, disableInterceptor,
        updateInterceptor, goto, motionDragAnswer]
  case h_3 =>
    cases h <;>
      simp [stopIn, bind, register, confirm, reset, out, send, finish_eq, comeBackFinish_eq,
        disableBuilder, updateBuilder, goto, motionDragAnswer]
  case h_4 =>
    cases h <;> simp [stopIn, reset, out, send, finish_eq, disableBuilder, goto]

theorem Move.promised (h : Move env u e o o') (hr : e.request? = none) :
    promised o'.outputs = promised o.outputs := by
  cases h with
  | turnDown r _ hr' | accept r hr' => simp [hr] at hr'
  | keep => rfl
  | pass _ ht | pointer _ ht | enable ht | disable ht | gateClosed _ _ _ ht
  | gateOpen _ _ _ ht => exact ht.promised

end Observed

/-- The value that the promise of a request is given. -/
def verdict (env : Env) (networkId : NetworkId) (m : Cooperate) : Int32 :=
  if env.checkSrcIsSameAccount networkId = false then COMMON_PERMISSION_CHECK_ERROR
  else if Context.isAllowCooperate env m = false then COMMON_NOT_ALLOWED_DISTRIBUTED
  else RET_OK

theorem promised_acceptStart {env : Env} {e : CooperateEvent} {m : Cooperate}
    {networkId : NetworkId} {pid : Int32} {errCode : Promise} (fresh : m.outputs = []) :
    promised (StateMachine.acceptStart env networkId pid errCode e m).outputs =
      [(errCode, verdict env networkId m)] := by
  have same : Context.isAllowCooperate env (StateMachine.updateApplicationStateObserver pid m) =
    Context.isAllowCooperate env m := rfl
  unfold StateMachine.acceptStart verdict
  cases account : env.checkSrcIsSameAccount networkId with
  | false => simp [fresh]
  | true =>
    cases allow : Context.isAllowCooperate env m with
    | false =>
      have before : (StateMachine.updateApplicationStateObserver pid m).outputs = [] := fresh
      simp [same, allow, before]
    | true =>
      simp only [same, allow, Bool.not_true, Bool.false_eq_true, Bool.true_eq_false, if_false]
      refine (transfer_move env _ e).promised.trans ?_
      simp [Observed.out, fresh]

/-- A step fulfils the promise of the start request that it processes, and no other. -/
theorem promised_step (env : Env) (e : CooperateEvent) (m : Cooperate) :
    promised (step env e m).outputs =
      (e.request?.map fun r => (r.errCode, verdict env r.call.networkId m)).toList := by
  cases hr : e.request? with
  | some r =>
    cases e with
    | start n =>
      cases hr
      exact promised_acceptStart rfl
    | withOptionsStart n =>
      cases hr
      exact promised_acceptStart rfl
    | _ => cases hr
  | none => exact (step_move env m e).promised hr

structure Worker (mmi : MmiConstants) where
  channel : Channel CooperateEvent := {}
  machine : Cooperate := {}
  inputEventBuilder : InputEvents.InputEventBuilder mmi := { pointerEvent := .create mmi }
  running : Bool := true
  /-- the promises that have been fulfilled, the first one first -/
  promises : List (Promise × Int32) := []

inductive WorkerLabel where
  /-- a client, an observer, a timer or a packet sends an event -/
  | send (event : CooperateEvent)
  /-- one turn of the loop; `env` are the answers of the surroundings -/
  | loop (env : Env)

namespace Worker

variable {mmi : MmiConstants} (arithmetic : DoubleArithmetic)

/-- The constructor of `Cooperate`, when the input service has `settings` in force. -/
def start (mmi : MmiConstants) (settings : InputSettings) : Worker mmi :=
  { channel := Channel.enable {}, machine := fresh settings }

/-- `StateMachine::OnEvent`, with what it sends to its own channel and the promises it fulfils. -/
def onEvent (env : Env) (event : CooperateEvent) (w : Worker mmi) : Worker mmi :=
  let machine := step env event w.machine
  { w with
    machine
    channel := w.channel.sendAll (selfEvents machine.outputs)
    promises := w.promises ++ promised machine.outputs }

/-- `SetDamplingCoefficient`, on the worker thread. -/
def setDamplingCoefficient (notice : SetDamplingCoefficientEvent) (w : Worker mmi) : Worker mmi :=
  { w with
    inputEventBuilder :=
      w.inputEventBuilder.setDamplingCoefficient arithmetic notice.direction notice.coefficient }

/-- The body of `Loop`. -/
def handle (env : Env) (event : CooperateEvent) (w : Worker mmi) : Worker mmi :=
  match event with
  | .noop => w
  | .quit => { w with running := false }
  | .setDamplingCoefficient notice => w.setDamplingCoefficient arithmetic notice
  | event => w.onEvent env event

/-- The event that the loop gets next. -/
def received (w : Worker mmi) : Option (CooperateEvent × Channel CooperateEvent) :=
  if w.running then w.channel.receive else none

def next (l : WorkerLabel) (w : Worker mmi) : Worker mmi :=
  match l with
  | .send event => { w with channel := (w.channel.send event).2 }
  | .loop env =>
    match w.received with
    | some (event, channel) => handle arithmetic env event { w with channel }
    | none => w

/-! ## What is sent and what is handled -/

/-- The event goes to the state machine. -/
def IsPassed (event : CooperateEvent) : Bool :=
  match event with
  | .noop | .quit | .setDamplingCoefficient _ => false
  | _ => true

/-- What the state machine sends to the channel while it processes an event. -/
def sentBack (env : Env) (event : CooperateEvent) (w : Worker mmi) : List CooperateEvent :=
  if IsPassed event then selfEvents (step env event w.machine).outputs else []

/-- The events that the channel takes in a step. -/
def taken (l : WorkerLabel) (w : Worker mmi) : List CooperateEvent :=
  match l with
  | .send event => w.channel.accepted [event]
  | .loop env =>
    match w.received with
    | some (event, channel) => channel.accepted (w.sentBack env event)
    | none => []

/-- What the loop gets in a step, with the answers of the surroundings. -/
def handled (l : WorkerLabel) (w : Worker mmi) : List Stimulus :=
  match l with
  | .send _ => []
  | .loop env => (w.received.map fun item => (env, item.1)).toList

/-! ## One step -/

section Step

variable {l : WorkerLabel} {w : Worker mmi} {env : Env} {event : CooperateEvent}
  {channel : Channel CooperateEvent}

theorem handle_of_isPassed (h : IsPassed event = true) :
    handle arithmetic env event w = w.onEvent env event := by
  cases event <;> first | rfl | cases h

theorem received_spec (h : w.received = some (event, channel)) :
    w.running = true ∧ w.channel.queue = event :: channel.queue ∧
      channel.isActive = w.channel.isActive := by
  unfold received at h
  split at h
  case isTrue running => exact ⟨running, Channel.queue_of_receive h⟩
  case isFalse => cases h

/-- What the loop makes of an event, field by field. -/
theorem handle_spec (env : Env) (event : CooperateEvent) (w : Worker mmi) :
    (handle arithmetic env event w).channel = w.channel.sendAll (w.sentBack env event) ∧
      (handle arithmetic env event w).machine =
        (if IsPassed event then step env event w.machine else w.machine) ∧
      ((handle arithmetic env event w).running = true ↔ w.running = true ∧ event ≠ .quit) ∧
      (handle arithmetic env event w).promises =
        w.promises ++ (event.request?.map fun r =>
          (r.errCode, verdict env r.call.networkId w.machine)).toList := by
  cases passed : IsPassed event with
  | true =>
    have other : event ≠ .quit := by
      rintro rfl
      cases passed
    simp [handle_of_isPassed arithmetic passed, onEvent, sentBack, passed, other, promised_step]
  | false =>
    cases event with
    | noop | quit | setDamplingCoefficient =>
      simp [handle, setDamplingCoefficient, sentBack, passed, Channel.sendAll,
        CooperateEvent.request?]
    | _ => cases passed

/-- The channel is a queue. -/
theorem queue_next (l : WorkerLabel) (w : Worker mmi) :
    (handled l w).map Prod.snd ++ (next arithmetic l w).channel.queue =
      w.channel.queue ++ taken l w := by
  cases l with
  | send event =>
    have sent : (w.channel.sendAll [event]).queue = _ := Channel.queue_sendAll
    simpa [handled, taken, next, Channel.sendAll] using sent
  | loop env =>
    cases h : w.received with
    | none => simp [handled, taken, next, h]
    | some item =>
      obtain ⟨event, channel⟩ := item
      have sent := (handle_spec arithmetic env event { w with channel }).1
      have back : Worker.sentBack env event { w with channel } = w.sentBack env event := rfl
      simp only [handled, taken, next, h, sent, back, Channel.queue_sendAll,
        (received_spec h).2.1]
      simp

theorem running_next (l : WorkerLabel) (w : Worker mmi) :
    (next arithmetic l w).running = true ↔
      w.running = true ∧ .quit ∉ (handled l w).map Prod.snd := by
  cases l with
  | send event => simp [next, handled]
  | loop env =>
    cases h : w.received with
    | none => simp [next, handled, h]
    | some item =>
      simp only [next, handled, h, (handle_spec arithmetic env item.1 _).2.2.1, Option.map_some,
        Option.toList_some, List.map_cons, List.map_nil, List.mem_singleton]
      exact and_congr_right fun _ => not_congr eq_comm

end Step

/-! ## Runs -/

section Runs

/-- What the loop gets in a run that starts in `w`, with the answers of the surroundings. -/
def history (w : Worker mmi) (tr : List WorkerLabel) : List Stimulus :=
  collect (next arithmetic) handled w tr

/-- What the channel takes in a run that starts in `w`. -/
def accepted (w : Worker mmi) (tr : List WorkerLabel) : List CooperateEvent :=
  collect (next arithmetic) taken w tr

variable (w : Worker mmi) (tr : List WorkerLabel)

/-- What the channel has taken is handled in order, the rest waits. -/
theorem history_append_queue :
    (history arithmetic w tr).map Prod.snd ++
        (runFrom (next arithmetic) w tr).channel.queue =
      w.channel.queue ++ accepted arithmetic w tr := by
  have fifo := collect_append_queue (fun w : Worker mmi => w.channel.queue)
    (queue_next arithmetic) w tr
  rw [history, map_collect]
  exact fifo

theorem machine_next (l : WorkerLabel) (w : Worker mmi) :
    (next arithmetic l w).machine =
      after w.machine ((handled l w).filter fun s => IsPassed s.2) := by
  cases l with
  | send event => rfl
  | loop env =>
    cases h : w.received with
    | none => simp [next, handled, h]
    | some item =>
      have machine := (handle_spec arithmetic env item.1 { w with channel := item.2 }).2.1
      cases passed : IsPassed item.1 <;>
        simp [next, handled, h, machine, passed, Cooperation.next]

/-- The state machine has processed what it was passed, in this order, and nothing else. -/
theorem machine_runFrom :
    (runFrom (next arithmetic) w tr).machine =
      after w.machine ((history arithmetic w tr).filter fun s => IsPassed s.2) := by
  induction tr generalizing w with
  | nil => rfl
  | cons l tr ih =>
    rw [history, collect, List.filter_append, after_append, ← machine_next arithmetic l w]
    exact ih (next arithmetic l w)

theorem running_runFrom :
    (runFrom (next arithmetic) w tr).running = true ↔
      w.running = true ∧ .quit ∉ (history arithmetic w tr).map Prod.snd := by
  induction tr generalizing w with
  | nil => simp [runFrom, history, collect]
  | cons l tr ih =>
    refine (ih (next arithmetic l w)).trans ?_
    rw [running_next, history, history, collect, List.map_append, List.mem_append, not_or,
      and_assoc]

theorem handled_of_stopped {l : WorkerLabel} (h : w.running = false) : handled l w = [] := by
  cases l with
  | send event => rfl
  | loop env => simp [handled, received, h]

theorem history_of_stopped (h : w.running = false) : history arithmetic w tr = [] := by
  induction tr generalizing w with
  | nil => rfl
  | cons l tr ih =>
    have stopped : (next arithmetic l w).running = false := by
      rw [Bool.eq_false_iff, ne_eq, running_next, h]
      simp
    rw [history, collect, handled_of_stopped w h]
    exact ih _ stopped

/-- A QUIT is the last event that is handled. -/
theorem quit_last : .quit ∉ ((history arithmetic w tr).map Prod.snd).dropLast := by
  induction tr generalizing w with
  | nil => simp [history, collect]
  | cons l tr ih =>
    have single : handled l w = [] ∨ ∃ item, handled l w = [item] := by
      cases l with
      | send event => exact .inl rfl
      | loop env => cases h : w.received <;> simp [handled, h]
    have parts : history arithmetic w (l :: tr) =
      handled l w ++ history arithmetic (next arithmetic l w) tr := rfl
    rcases single with none | ⟨item, some⟩
    · rw [parts, none]
      exact ih _
    · rw [parts, some, List.singleton_append, List.map_cons]
      cases rest : history arithmetic (next arithmetic l w) tr with
      | nil => simp
      | cons first later =>
        have running : (next arithmetic l w).running = true := by
          by_contra stopped
          simp [history_of_stopped arithmetic _ tr (Bool.eq_false_iff.mpr stopped)] at rest
        have here := ((running_next arithmetic l w).mp running).2
        have after := ih (next arithmetic l w)
        rw [rest, List.map_cons] at after
        rw [some] at here
        rw [List.map_cons, List.dropLast_cons_of_ne_nil (List.cons_ne_nil _ _), List.mem_cons,
          not_or]
        exact ⟨by simpa using here, after⟩

/-- Every event that the channel takes is handled once, in the order of the senders, up to a QUIT.
The state machine is where these events lead, whatever the senders do in between. -/
theorem worker_run (settings : InputSettings) (tr : List WorkerLabel) :
    let w := runFrom (next arithmetic) (start mmi settings) tr
    let events := (history arithmetic (start mmi settings) tr).map Prod.snd
    events ++ w.channel.queue = accepted arithmetic (start mmi settings) tr ∧
      w.machine = after (fresh settings)
        ((history arithmetic (start mmi settings) tr).filter fun s => IsPassed s.2) ∧
      (w.running = true ↔ .quit ∉ events) ∧ .quit ∉ events.dropLast := by
  refine ⟨?_, ?_, ?_, quit_last arithmetic _ tr⟩
  · exact (history_append_queue arithmetic _ tr).trans (List.nil_append _)
  · exact machine_runFrom arithmetic _ tr
  · exact (running_runFrom arithmetic _ tr).trans (and_iff_right rfl)

end Runs

/-! ## Promises -/

section Promises

variable (w : Worker mmi) (tr : List WorkerLabel)

def promise? (event : CooperateEvent) : Option Promise :=
  event.request?.map (·.errCode)

/-- The promises of the start requests that clients send. -/
def sentPromises (tr : List WorkerLabel) : List Promise :=
  tr.filterMap fun
    | .send event => promise? event
    | .loop _ => none

/-- Every start request comes with a promise of its own. -/
def Fresh (tr : List WorkerLabel) : Prop := (sentPromises tr).Nodup

theorem promises_next (l : WorkerLabel) (w : Worker mmi) :
    (next arithmetic l w).promises.map Prod.fst =
      w.promises.map Prod.fst ++ ((handled l w).map Prod.snd).filterMap promise? := by
  cases l with
  | send event => simp [next, handled]
  | loop env =>
    cases h : w.received with
    | none => simp [next, handled, h]
    | some item =>
      have promises := (handle_spec arithmetic env item.1 { w with channel := item.2 }).2.2.2
      cases request : item.1.request? <;>
        simp [next, handled, h, promises, promise?, request]

/-- The promises are fulfilled as their events are handled. -/
theorem promises_runFrom :
    (runFrom (next arithmetic) w tr).promises.map Prod.fst =
      w.promises.map Prod.fst ++
        ((history arithmetic w tr).map Prod.snd).filterMap promise? := by
  induction tr generalizing w with
  | nil => simp [runFrom, history, collect]
  | cons l tr ih =>
    refine (ih (next arithmetic l w)).trans ?_
    rw [promises_next, history, history, collect, List.map_append, List.filterMap_append,
      List.append_assoc]

/-- Only clients send start requests. -/
theorem promises_taken (l : WorkerLabel) (w : Worker mmi) :
    ((taken l w).filterMap promise?).Sublist (sentPromises [l]) := by
  cases l with
  | send event =>
    simp only [taken, Channel.accepted, sentPromises]
    split
    · exact List.Sublist.refl _
    · exact List.nil_sublist _
  | loop env =>
    suffices none : (taken (.loop env) w).filterMap promise? = [] by
      rw [none]
      exact List.nil_sublist _
    apply List.filterMap_eq_nil_iff.mpr
    intro event h
    cases received : w.received with
    | none => simp [taken, received] at h
    | some item =>
      simp only [taken, received] at h
      have back := Channel.mem_of_mem_accepted h
      simp only [sentBack] at back
      split at back
      · rcases selfEvents_step back with ⟨deferrable, rfl⟩ | ⟨networkId, rfl⟩
        · simp [promise?, CooperateEvent.request_of_isDeferrable deferrable]
        · rfl
      · cases back

theorem promises_accepted :
    ((accepted arithmetic w tr).filterMap promise?).Sublist (sentPromises tr) := by
  induction tr generalizing w with
  | nil => exact List.nil_sublist _
  | cons l tr ih =>
    have parts : sentPromises (l :: tr) = sentPromises [l] ++ sentPromises tr :=
      List.filterMap_append (l := [l])
    rw [accepted, collect, List.filterMap_append, parts]
    exact (promises_taken l w).append (ih _)

theorem promise_of_request {e : CooperateEvent} {r : StartRequest} (h : e.request? = some r) :
    promise? e = some r.errCode := by
  rw [promise?, h]
  rfl

/-- A promise that is sent once is taken exactly when the channel accepts its event. -/
theorem mem_promises_accepted {p q : List WorkerLabel} {e : CooperateEvent} {r : StartRequest}
    (fresh : Fresh (p ++ .send e :: q)) (hr : e.request? = some r) :
    (r.errCode ∈ (accepted arithmetic w (p ++ .send e :: q)).filterMap promise? ↔
        (runFrom (next arithmetic) w p).channel.Accepts) ∧
      ((runFrom (next arithmetic) w p).channel.Accepts →
        e ∈ accepted arithmetic w (p ++ .send e :: q)) := by
  have promise := promise_of_request hr
  have sent : sentPromises (p ++ .send e :: q) =
      sentPromises p ++ r.errCode :: sentPromises q := by
    simp [sentPromises, promise]
  have parts : accepted arithmetic w (p ++ .send e :: q) = accepted arithmetic w p ++
      ((runFrom (next arithmetic) w p).channel.accepted [e] ++ accepted arithmetic
        (next arithmetic (.send e) (runFrom (next arithmetic) w p)) q) :=
    collect_append taken w p (.send e :: q)
  rw [Fresh, sent] at fresh
  have before : r.errCode ∉ (accepted arithmetic w p).filterMap promise? := fun h =>
    (List.nodup_append.mp fresh).2.2 _ ((promises_accepted arithmetic w p).subset h) _
      List.mem_cons_self rfl
  have after : r.errCode ∉ (accepted arithmetic
      (next arithmetic (.send e) (runFrom (next arithmetic) w p)) q).filterMap promise? := fun h =>
    (List.nodup_cons.mp (List.nodup_append.mp fresh).2.1).1
      ((promises_accepted arithmetic _ q).subset h)
  rw [parts, List.filterMap_append, List.filterMap_append, List.mem_append, List.mem_append]
  by_cases accepts : (runFrom (next arithmetic) w p).channel.Accepts
  · simp [Channel.accepted, accepts, promise]
  · simp only [Channel.accepted, accepts, if_false, List.filterMap_nil, List.not_mem_nil,
      false_or, iff_false, not_or, false_imp_iff, and_true]
    exact ⟨before, after⟩

/-- `Start` and `StartWithOptions` wait for a value that is set at most once. They return when the
loop has got their event: never when the channel refused it, and not as long as it waits there. -/
theorem start_returns_iff (settings : InputSettings) {tr : List WorkerLabel} (fresh : Fresh tr) :
    ((runFrom (next arithmetic) (start mmi settings) tr).promises.map Prod.fst).Nodup ∧
      ∀ p e r, p ++ [.send e] <+: tr → e.request? = some r →
        (r.errCode ∈
            (runFrom (next arithmetic) (start mmi settings) tr).promises.map Prod.fst ↔
          (runFrom (next arithmetic) (start mmi settings) p).channel.Accepts ∧
            e ∉ (runFrom (next arithmetic) (start mmi settings) tr).channel.queue) := by
  have promises := promises_runFrom arithmetic (start mmi settings) tr
  have fifo := history_append_queue arithmetic (start mmi settings) tr
  have taken := promises_accepted arithmetic (start mmi settings) tr
  change _ = [] ++ _ at promises fifo
  rw [List.nil_append] at promises fifo
  rw [← fifo, List.filterMap_append] at taken
  have once := taken.nodup fresh
  rw [promises]
  refine ⟨(List.nodup_append.mp once).1, ?_⟩
  rintro p e r ⟨q, rfl⟩ hr
  rw [List.append_assoc, List.singleton_append] at fresh fifo once ⊢
  obtain ⟨iff, accepted⟩ := mem_promises_accepted arithmetic (start mmi settings) fresh hr
  rw [← fifo] at iff accepted
  rw [List.filterMap_append, List.mem_append] at iff
  have promise := promise_of_request hr
  constructor
  · intro kept
    refine ⟨iff.mp (.inl kept), fun waits => ?_⟩
    exact (List.nodup_append.mp once).2.2 _ kept _
      (List.mem_filterMap.mpr ⟨e, waits, promise⟩) rfl
  · rintro ⟨accepts, gone⟩
    have handled := (List.mem_append.mp (accepted accepts)).resolve_right gone
    exact List.mem_filterMap.mpr ⟨e, handled, promise⟩

/-- A request of a client for a cooperation with the device `[2]`. -/
def oneRequest : StartCooperateEvent where
  pid := 1
  userData := 1
  remoteNetworkId := [2]
  startDeviceId := 1
  errCode := 7

/-- The request is sent and handled. -/
def oneStart : List WorkerLabel := [.send (.start oneRequest), .loop (calm [1])]

theorem fresh_oneStart : Fresh oneStart := List.nodup_singleton 7

/-- Its promise is fulfilled. -/
theorem start_returns_oneStart :
    7 ∈ (runFrom (next .atRest) (start .sample {}) oneStart).promises.map Prod.fst := by
  have sent : [] ++ [.send (.start oneRequest)] <+: oneStart := List.prefix_append _ _
  have accepts : (runFrom (next .atRest) (start .sample {}) []).channel.Accepts := by decide
  have handled : (runFrom (next .atRest) (start .sample {}) oneStart).channel.queue = [] := rfl
  refine ((start_returns_iff .atRest {} fresh_oneStart).2 _ _
    ⟨oneRequest.call, 7⟩ sent rfl).mpr ⟨accepts, ?_⟩
  rw [handled]
  exact List.not_mem_nil

end Promises

end Worker

end DeviceStatus.Cooperation
