import DeviceStatus.Cooperate.Outcomes

/-!
# A start request that fails

The steps of a start request in FREE, and what is left of them when a later one fails. Only a
refusal and a session that cannot be opened are answered; `OnStart` returns from the later steps
with the pointer shown and nothing else undone, and `OnStartWithOptions` does not look at them.

## Main definitions

* `FailureUndone`, `Established` — what a start request should come to.
* `StartSettled` — one of them, according to the state afterwards.
* `AnsweredAtOnce`, `HearsRefusal` — a request that is answered at once, and whether its client
  hears it.
* `StepsSucceed` — every step after the opening of the session succeeds.
-/

namespace DeviceStatus.Cooperation

/-! ## What a handler adds -/

/-- Whether the pointer is visible after some effects. -/
def pointerAfter (visible : Bool) (effects : List Effect) : Bool :=
  effects.foldl (fun visible e =>
    match e with
    | .call (.setPointerVisibility visible) => visible
    | _ => visible) visible

def newEffects (m m' : Cooperate) : List Effect :=
  m'.effects.drop m.effects.length

def newOutputs (m m' : Cooperate) : List Output :=
  m'.outputs.drop m.outputs.length

/-- The answers of a handler that are sent. -/
def newAnswers (env : Env) (m m' : Cooperate) : List CooperateNotice :=
  EventManager.sentNotices env (m.outputs.filterMap Output.answer?)
    ((newOutputs m m').filterMap Output.answer?)

/-- The two messages that begin a cooperation. -/
def DSoftbusPacket.isStart : DSoftbusPacket → Bool
  | .startCooperate .. | .cooperateWithOptions .. => true
  | _ => false

/-- The request that has failed has left nothing behind. -/
structure FailureUndone (env : Env) (call : PendingCall) (visible : Bool) (m m' : Cooperate) :
    Prop where
  pointer : pointerAfter visible (newEffects m m') = visible
  told : ∃ notice ∈ newAnswers env m m',
    notice.pid = call.pid ∧ notice.userData = call.userData ∧ notice.msg = .activateFail
  stopped : ∀ before packet after,
    newOutputs m m' = before ++ Output.packet call.networkId packet :: after →
      packet.isStart = true → Output.packet call.networkId .stopCooperate ∈ after

/-- The peer has got the start message, and local input is intercepted. -/
structure Established (call : PendingCall) (m m' : Cooperate) : Prop where
  sent : ∃ packet, Output.packet call.networkId packet ∈ newOutputs m m' ∧ packet.isStart = true
  installed : 0 ≤ m'.context.inputEventInterceptor.interceptorId

/-- A request leads to OUT with everything done, or it is undone. -/
structure StartSettled (env : Env) (event : CooperateEvent) (call : PendingCall) (visible : Bool)
    (m : Cooperate) : Prop where
  failed : (Free.onEvent env event m).machine.current ≠ .out →
    FailureUndone env call visible m (Free.onEvent env event m)
  out : (Free.onEvent env event m).machine.current = .out →
    Established call m (Free.onEvent env event m)

/-- The start message of a request. -/
def startMessage (env : Env) (m : Cooperate) : CooperateEvent → DSoftbusPacket
  | .start n => DSoftbusHandler.startPacket
      (Free.startNotice env n (!env.hasSessionExisted n.remoteNetworkId) m)
  | .withOptionsStart n => DSoftbusHandler.startWithOptionsPacket
      (Free.startWithOptionsNotice env n (!env.hasSessionExisted n.remoteNetworkId) m)
  | _ => .stopCooperate

/-- `OnStart` asks whether the peer is online, `OnStartWithOptions` does not. -/
def CooperateEvent.asksOnline : CooperateEvent → Bool
  | .start _ => true
  | _ => false

/-- A request that is answered at once: there is a drag, or the session cannot be opened. -/
def AnsweredAtOnce (env : Env) (call : PendingCall) : Prop :=
  env.dragState = .motionDragging ∨ env.openSession call.networkId ≠ RET_OK

def refusal (env : Env) (call : PendingCall) : CooperateNotice :=
  EventManager.startNotice call false
    (if env.dragState = .motionDragging then
      CoordinationErrCode.notAollowCooperateWhenMotionDragging.toInt32
    else Free.openSessionErrNum (env.openSession call.networkId))

/-- The refusal is sent: the session of the client is found, its network id fits into the packet
and `SendMsg` succeeds. -/
def HearsRefusal (env : Env) (call : PendingCall) (m : Cooperate) : Prop :=
  EventManager.sendNotice env
    ((m.outputs.filterMap Output.answer?).count (refusal env call)) (refusal env call) = true

instance (env : Env) (call : PendingCall) (m : Cooperate) : Decidable (HearsRefusal env call m) :=
  inferInstanceAs (Decidable (_ = true))

/-- What comes after the opening of the session succeeds: the peer is online, the start message
is sent and the interceptor is installed. -/
structure StepsSucceed (env : Env) (event : CooperateEvent) (call : PendingCall)
    (m : Cooperate) : Prop where
  online : event.asksOnline = true → env.checkDeviceOnline call.networkId = RET_OK
  sent : DSoftbusHandler.sendResult env m.outputs.length call.networkId
    (startMessage env m event) = RET_OK
  installed : 0 < m.context.inputEventInterceptor.interceptorId ∨ 0 ≤ env.addInterceptor

/-! ## The observed outcome -/

namespace Observed

variable {env : Env}

/-- The outputs that follow those of an earlier view. -/
def since (o o' : Observed) : List Output := o'.outputs.drop o.outputs.length

theorem since_of_append {o o' : Observed} {outputs : List Output}
    (h : o'.outputs = o.outputs ++ outputs) : o.since o' = outputs := by
  rw [since, h, List.drop_left]

/-- The packet is put out exactly when sending it succeeds. -/
theorem packet_mem_sendOutputs {sent : Nat} {networkId : NetworkId} {packet p : DSoftbusPacket} :
    Output.packet networkId p ∈ DSoftbusHandler.sendOutputs env sent networkId packet ↔
      DSoftbusHandler.sendResult env sent networkId packet = RET_OK ∧ p = packet := by
  have failed : RET_ERR ≠ RET_OK := by decide
  unfold DSoftbusHandler.sendOutputs DSoftbusHandler.sendResult
  grind

/-- A start message goes out, and its sender enters OUT. -/
theorem outputs_begin (env : Env) (o : Observed) (call : PendingCall) (packet : DSoftbusPacket) :
    o.since (((o.ask call).send env call.networkId packet).begin env) =
      DSoftbusHandler.sendOutputs env o.outputs.length call.networkId packet ++
        [.answer (EventManager.startNotice call true
          CoordinationErrCode.coordinationOk.toInt32)] := by
  apply since_of_append
  rw [← List.append_assoc, begin, enableInterceptor_eq]
  rfl

theorem interceptor_begin (env : Env) (o : Observed) (call : PendingCall)
    (packet : DSoftbusPacket) :
    0 ≤ (((o.ask call).send env call.networkId packet).begin env).interceptor ↔
      0 < o.interceptor ∨ 0 ≤ env.addInterceptor := by
  have same : (((o.ask call).send env call.networkId packet).begin env).interceptor =
      if 0 < o.interceptor then o.interceptor else env.addInterceptor := by
    rw [begin, enableInterceptor_eq]
    rfl
  rw [same]
  split
  · next h => exact iff_of_true (Int32.le_of_lt h) (.inl h)
  · next h => exact ⟨.inr, fun either => either.resolve_left h⟩

end Observed

section Settled

variable {env : Env} {m : Cooperate} {call : PendingCall} {visible : Bool}

theorem newOutputs_eq {m' : Cooperate} : newOutputs m m' = (obs m).since (obs m') := rfl

/-- Entering OUT is right exactly if the start message has been sent and the interceptor is
installed. -/
theorem established_iff {m' : Cooperate} {packet : DSoftbusPacket} (isStart : packet.isStart = true)
    (h : obs m' = (((obs m).ask call).send env call.networkId packet).begin env) :
    Established call m m' ↔
      DSoftbusHandler.sendResult env m.outputs.length call.networkId packet = RET_OK ∧
        (0 < m.context.inputEventInterceptor.interceptorId ∨ 0 ≤ env.addInterceptor) := by
  have outputs := Observed.outputs_begin env (obs m) call packet
  have interceptor := Observed.interceptor_begin env (obs m) call packet
  rw [← h] at outputs interceptor
  constructor
  · rintro ⟨⟨p, mem, -⟩, installed⟩
    rw [newOutputs_eq, outputs] at mem
    have put : Output.packet call.networkId p ∈
        DSoftbusHandler.sendOutputs env (obs m).outputs.length call.networkId packet := by
      simpa using mem
    exact ⟨(Observed.packet_mem_sendOutputs.mp put).1, interceptor.mp installed⟩
  · rintro ⟨sent, installed⟩
    refine ⟨⟨packet, ?_, isStart⟩, interceptor.mpr installed⟩
    rw [newOutputs_eq, outputs]
    exact List.mem_append_left _ (Observed.packet_mem_sendOutputs.mpr ⟨sent, rfl⟩)

/-- A request that is answered at once, before the pointer is hidden or anything is sent, is undone
if its client hears the answer. -/
theorem undone_iff_of_answer {m' : Cooperate}
    (outputs : newOutputs m m' = [.answer (refusal env call)])
    (pointer : pointerAfter visible (newEffects m m') = visible) :
    FailureUndone env call visible m m' ↔ HearsRefusal env call m := by
  have answers : newAnswers env m m' =
      if HearsRefusal env call m then [refusal env call] else [] := by
    rw [newAnswers, outputs]
    rfl
  constructor
  · intro undone
    obtain ⟨notice, mem, -⟩ := undone.told
    by_contra deaf
    rw [answers, if_neg deaf] at mem
    cases mem
  · intro hears
    refine ⟨pointer, ⟨refusal env call, ?_, rfl, rfl, rfl⟩, fun before packet after split => ?_⟩
    · rw [answers, if_pos hears]
      exact List.mem_singleton_self _
    · have mem : Output.packet call.networkId packet ∈ newOutputs m m' := by rw [split]; simp
      rw [outputs] at mem
      simp at mem

theorem not_undone_of_silent {m' : Cooperate}
    (silent : ∀ notice, Output.answer notice ∉ newOutputs m m') :
    ¬ FailureUndone env call visible m m' := by
  have none : (newOutputs m m').filterMap Output.answer? = [] := by
    refine List.filterMap_eq_nil_iff.mpr fun o mem => ?_
    cases o with
    | answer notice => exact absurd mem (silent notice)
    | _ => rfl
  intro undone
  obtain ⟨notice, mem, -⟩ := undone.told
  rw [newAnswers, none] at mem
  cases mem

/-- Effects that leave the pointer alone. -/
theorem pointer_of_effects {m' : Cooperate} {effects : List Effect}
    (h : m'.effects = m.effects ++ effects) (same : pointerAfter visible effects = visible) :
    pointerAfter visible (newEffects m m') = visible := by
  rw [newEffects, h, List.drop_left, same]

/-- `OnStart` when the session cannot be opened. -/
theorem onStart_noSession (n : StartCooperateEvent) (drag : env.dragState ≠ .motionDragging)
    (session : env.openSession n.remoteNetworkId ≠ RET_OK) :
    Free.onStart env n m =
      EventManager.startCooperateFinish
        { success := false
          errCode := Free.openSessionErrNum (env.openSession n.remoteNetworkId) }
        ((EventManager.startCooperate n (Context.startCooperate n m)).call
          (.openSession n.remoteNetworkId)) := by
  have peer : (EventManager.startCooperate n (Context.startCooperate n m)).peer =
      n.remoteNetworkId := rfl
  simp only [Free.onStart, Free.cooperateFail, DSoftbusHandler.openSession, peer, drag, session,
    ne_eq, not_false_eq_true, if_true, if_false]

/-- `OnStartWithOptions` when the session cannot be opened. -/
theorem onStartWithOptions_noSession (n : StartWithOptionsEvent)
    (drag : env.dragState ≠ .motionDragging)
    (session : env.openSession n.remoteNetworkId ≠ RET_OK) :
    Free.onStartWithOptions env n m =
      EventManager.startCooperateFinish
        { success := false
          errCode := Free.openSessionErrNum (env.openSession n.remoteNetworkId) }
        ((EventManager.startCooperateWithOptions n (Context.startCooperateWithOptions n m)).call
          (.openSession n.remoteNetworkId)) := by
  have peer : (EventManager.startCooperateWithOptions n
      (Context.startCooperateWithOptions n m)).peer = n.remoteNetworkId := rfl
  simp only [Free.onStartWithOptions, DSoftbusHandler.openSession, peer, drag, session,
    ne_eq, not_false_eq_true, if_true, if_false]

/-- Neither a refusal nor a session that cannot be opened touches the pointer. -/
theorem pointer_onStart (n : StartCooperateEvent)
    (h : env.dragState = .motionDragging ∨ env.openSession n.remoteNetworkId ≠ RET_OK) :
    pointerAfter visible (newEffects m (Free.onStart env n m)) = visible := by
  by_cases drag : env.dragState = .motionDragging
  · have effects : ∃ notice, (Free.onStart env n m).effects = m.effects ++ [.notice notice] :=
      ⟨_, by rw [Free.onStart, if_pos drag]; rfl⟩
    obtain ⟨notice, effects⟩ := effects
    exact pointer_of_effects effects rfl
  · have effects : ∃ notice, (Free.onStart env n m).effects =
        m.effects ++ [.call (.openSession n.remoteNetworkId), .notice notice] := by
      rw [onStart_noSession n drag (h.resolve_left drag)]
      exact ⟨_, List.append_assoc ..⟩
    obtain ⟨notice, effects⟩ := effects
    exact pointer_of_effects effects rfl

theorem pointer_onStartWithOptions (n : StartWithOptionsEvent)
    (h : env.dragState = .motionDragging ∨ env.openSession n.remoteNetworkId ≠ RET_OK) :
    pointerAfter visible (newEffects m (Free.onStartWithOptions env n m)) = visible := by
  by_cases drag : env.dragState = .motionDragging
  · have effects : ∃ notice,
        (Free.onStartWithOptions env n m).effects = m.effects ++ [.notice notice] :=
      ⟨_, by rw [Free.onStartWithOptions, if_pos drag]; rfl⟩
    obtain ⟨notice, effects⟩ := effects
    exact pointer_of_effects effects rfl
  · have effects : ∃ notice, (Free.onStartWithOptions env n m).effects =
        m.effects ++ [.call (.openSession n.remoteNetworkId), .notice notice] := by
      rw [onStartWithOptions_noSession n drag (h.resolve_left drag)]
      exact ⟨_, List.append_assoc ..⟩
    obtain ⟨notice, effects⟩ := effects
    exact pointer_of_effects effects rfl

/-- `OnStartWithOptions` once the session is open: it enters OUT, whatever became of the start
message. -/
theorem obs_startedWithOptions (n : StartWithOptionsEvent)
    (drag : env.dragState ≠ .motionDragging)
    (session : env.openSession n.remoteNetworkId = RET_OK) :
    obs (Free.onStartWithOptions env n m) =
      (((obs m).ask n.call).send env n.remoteNetworkId
        (startMessage env m (.withOptionsStart n))).begin env := by
  have message : startMessage env m (.withOptionsStart n) =
      DSoftbusHandler.startWithOptionsPacket (Free.startWithOptionsNotice env n
        (!env.hasSessionExisted n.remoteNetworkId)
        (DSoftbusHandler.openSession env n.remoteNetworkId
          (EventManager.startCooperateWithOptions n (Context.startCooperateWithOptions n m)))) := by
    rw [DSoftbusHandler.openSession, if_pos session]
    rfl
  rw [message]
  simp only [Free.onStartWithOptions, drag, session, peer_eq,
    DSoftbusHandler.startCooperateWithOptions, obs_startCallWithOptions,
    Context.obs_startCooperateWithOptions, obs_openSession, peer_bind,
    peer_register, ne_eq, not_true, if_false]
  generalize hn : Free.startWithOptionsNotice env n _ _ = notice
  have success : notice.success = true := hn ▸ rfl
  have errCode : notice.errCode = CoordinationErrCode.coordinationOk.toInt32 := hn ▸ rfl
  simp [success, errCode, Observed.ask, Observed.begin, StartWithOptionsEvent.call]

/-- A refused request, and one whose session cannot be opened, are undone if that is heard. -/
theorem settled_iff_of_answered (event : CooperateEvent) (free : m.machine.current = .free)
    (h : obs (Free.onEvent env event m) =
      { (obs m).ask call with
        outputs := (obs m).outputs ++ [.answer (refusal env call)]
        pending := (obs (Free.onEvent env event m)).pending })
    (pointer : pointerAfter visible (newEffects m (Free.onEvent env event m)) = visible) :
    StartSettled env event call visible m ↔ HearsRefusal env call m := by
  have current : (Free.onEvent env event m).machine.current = .free :=
    (congrArg Observed.current h).trans free
  have outputs : newOutputs m (Free.onEvent env event m) = [.answer (refusal env call)] :=
    Observed.since_of_append (congrArg Observed.outputs h)
  rw [← undone_iff_of_answer outputs pointer]
  constructor
  · exact fun settled => settled.failed (by rw [current]; decide)
  · exact fun undone =>
      { failed := fun _ => undone
        out := fun out => by rw [current] at out; cases out }

/-- A request that ends in FREE without an answer is not settled. -/
theorem not_settled_of_silent {event : CooperateEvent} (outputs : List Output)
    (current : (Free.onEvent env event m).machine.current ≠ .out)
    (h : (obs (Free.onEvent env event m)).outputs = (obs m).outputs ++ outputs)
    (silent : ∀ notice, Output.answer notice ∉ outputs) :
    ¬ StartSettled env event call visible m := by
  intro settled
  have new : newOutputs m (Free.onEvent env event m) = outputs := Observed.since_of_append h
  exact not_undone_of_silent (by rw [new]; exact silent) (settled.failed current)

/-- A request that leads to OUT is settled if the start message and the interceptor are. -/
theorem settled_started_iff {event : CooperateEvent} {packet : DSoftbusPacket}
    (isStart : packet.isStart = true)
    (h : obs (Free.onEvent env event m) =
      (((obs m).ask call).send env call.networkId packet).begin env) :
    StartSettled env event call visible m ↔
      DSoftbusHandler.sendResult env m.outputs.length call.networkId packet = RET_OK ∧
        (0 < m.context.inputEventInterceptor.interceptorId ∨ 0 ≤ env.addInterceptor) := by
  have current : (Free.onEvent env event m).machine.current = .out := by
    have same := congrArg Observed.current h
    rw [Observed.begin, Observed.enableInterceptor_eq] at same
    exact same
  rw [← established_iff isStart h]
  exact ⟨fun settled => settled.out current, fun started =>
    { failed := fun notOut => absurd current notOut
      out := fun _ => started }⟩

/-- `OnStart`: the steps after the opening of the session are looked at, and what fails then is
not undone. -/
theorem settled_start_iff (n : StartCooperateEvent) (free : m.machine.current = .free) :
    StartSettled env (.start n) n.call visible m ↔
      (AnsweredAtOnce env n.call ∧ HearsRefusal env n.call m) ∨
        (¬ AnsweredAtOnce env n.call ∧ StepsSucceed env (.start n) n.call m) := by
  have move := free_onStart env m n
  generalize after : obs (Free.onStart env n m) = o' at move
  generalize before : obs m = o at move
  have after : obs (Free.onEvent env (.start n) m) = o' := after
  have outputs : m.outputs = o.outputs := congrArg Observed.outputs before
  have stays (h : o'.current = o.current) :
      (Free.onEvent env (.start n) m).machine.current ≠ .out := by
    have same : (Free.onEvent env (.start n) m).machine.current = m.machine.current :=
      (congrArg Observed.current after).trans (h.trans (congrArg Observed.current before).symm)
    rw [same, free]
    decide
  -- after the opening of the session, the condition is that the steps succeed
  have reduce (drag : env.dragState ≠ .motionDragging)
      (session : env.openSession n.call.networkId = RET_OK) :
      (AnsweredAtOnce env n.call ∧ HearsRefusal env n.call m) ∨
        (¬ AnsweredAtOnce env n.call ∧ StepsSucceed env (.start n) n.call m) ↔
      StepsSucceed env (.start n) n.call m := by
    simp [AnsweredAtOnce, drag, session]
  cases move with
  | ignore hr => cases hr
  | remoteStart s hs => cases hs
  | refuse r hr drag =>
    obtain rfl : r = ⟨n.call, n.errCode⟩ := (Option.some.inj hr).symm
    rw [settled_iff_of_answered (.start n) free ?_ (pointer_onStart n (.inl drag))]
    · simp [AnsweredAtOnce, drag]
    · rw [after, before, refusal, if_pos drag]
      rfl
  | noSession r hr drag session =>
    obtain rfl : r = ⟨n.call, n.errCode⟩ := (Option.some.inj hr).symm
    rw [settled_iff_of_answered (.start n) free ?_ (pointer_onStart n (.inr session))]
    · simp [AnsweredAtOnce, session]
    · rw [after, before, refusal, if_neg drag]
      rfl
  | offline drag session online =>
    rw [reduce drag session]
    refine iff_of_false (not_settled_of_silent [] (stays rfl) ?_ nofun) ?_
    · rw [after, before, List.append_nil]
      rfl
    · exact fun steps => online (steps.online rfl)
  | notSent notice origin hp drag session online sent =>
    rw [reduce drag session]
    refine iff_of_false (not_settled_of_silent
      (DSoftbusHandler.sendOutputs env o.outputs.length n.remoteNetworkId
        (DSoftbusHandler.startPacket notice))
      (stays rfl) ?_ fun _ => Observed.not_answer_mem_sendOutputs) ?_
    · rw [after, before]
      rfl
    · intro steps
      rw [← hp, ← outputs] at sent
      exact sent steps.sent
  | noInterceptor notice origin hp drag session online sent interceptor =>
    rw [reduce drag session]
    refine iff_of_false (not_settled_of_silent
      (DSoftbusHandler.sendOutputs env o.outputs.length n.remoteNetworkId
        (DSoftbusHandler.startPacket notice))
      (stays ?_) ?_ fun _ => Observed.not_answer_mem_sendOutputs) ?_
    · rw [Observed.enableInterceptor_eq]
      rfl
    · rw [after, before, Observed.enableInterceptor_eq]
      rfl
    · exact fun steps => interceptor (by rw [← before]; exact steps.installed)
  | started notice origin hp drag session online sent interceptor =>
    rw [reduce drag session]
    have view : obs (Free.onEvent env (.start n) m) = (((obs m).ask n.call).send env
        n.call.networkId (DSoftbusHandler.startPacket notice)).begin env := by
      rw [after, before]
      rfl
    have reached : DSoftbusHandler.sendResult env m.outputs.length n.call.networkId
        (DSoftbusHandler.startPacket notice) = RET_OK := by rw [outputs]; exact sent
    have installed : 0 < m.context.inputEventInterceptor.interceptorId ∨
        0 ≤ env.addInterceptor := by
      rw [← before] at interceptor
      exact interceptor
    refine iff_of_true ((settled_started_iff rfl view).mpr ⟨reached, installed⟩) ?_
    exact
      { online := fun _ => online
        sent := by rw [← hp] at reached; exact reached
        installed := installed }

/-- `OnStartWithOptions`: the steps after the opening of the session are not looked at. -/
theorem settled_startWithOptions_iff (n : StartWithOptionsEvent)
    (free : m.machine.current = .free) :
    StartSettled env (.withOptionsStart n) n.call visible m ↔
      (AnsweredAtOnce env n.call ∧ HearsRefusal env n.call m) ∨
        (¬ AnsweredAtOnce env n.call ∧ StepsSucceed env (.withOptionsStart n) n.call m) := by
  by_cases drag : env.dragState = .motionDragging
  · have view : obs (Free.onStartWithOptions env n m) =
        ((obs m).ask n.call).out [Observed.motionDragAnswer n.call] := by
      simp [Free.onStartWithOptions, drag, Observed.ask, StartWithOptionsEvent.call]
    rw [settled_iff_of_answered (.withOptionsStart n) free ?_
      (pointer_onStartWithOptions n (.inl drag))]
    · simp [AnsweredAtOnce, drag]
    · rw [show obs (Free.onEvent env (.withOptionsStart n) m) = _ from view, refusal, if_pos drag]
      rfl
  by_cases session : env.openSession n.call.networkId = RET_OK
  swap
  · have view : obs (Free.onStartWithOptions env n m) = ((obs m).ask n.call).finish false
        (Free.openSessionErrNum (env.openSession n.remoteNetworkId)) := by
      rw [onStartWithOptions_noSession n drag session]
      simp [Observed.ask, StartWithOptionsEvent.call, EventManager.startCooperateFinish]
    rw [settled_iff_of_answered (.withOptionsStart n) free ?_
      (pointer_onStartWithOptions n (.inr session))]
    · simp [AnsweredAtOnce, session]
    · rw [show obs (Free.onEvent env (.withOptionsStart n) m) = _ from view, refusal, if_neg drag]
      rfl
  · have started : StartSettled env (.withOptionsStart n) n.call visible m ↔ _ :=
      settled_started_iff rfl (obs_startedWithOptions n drag session)
    have opened : ¬ AnsweredAtOnce env n.call := by simp [AnsweredAtOnce, drag, session]
    rw [started]
    constructor
    · rintro ⟨sent, installed⟩
      exact .inr ⟨opened,
        { online := fun asks => by cases asks
          sent := sent
          installed := installed }⟩
    · rintro (⟨refused, -⟩ | ⟨-, steps⟩)
      · exact absurd refused opened
      · exact ⟨steps.sent, steps.installed⟩

end Settled

/-- A start request in FREE is settled exactly when it is refused and its client hears of that, or
when it is not refused and every step after the opening of the session succeeds. -/
theorem startSettled_iff (env : Env) (event : CooperateEvent) (m : Cooperate) (visible : Bool)
    (r : StartRequest) (hr : event.request? = some r) (free : m.machine.current = .free) :
    StartSettled env event r.call visible m ↔
      (AnsweredAtOnce env r.call ∧ HearsRefusal env r.call m) ∨
        (¬ AnsweredAtOnce env r.call ∧ StepsSucceed env event r.call m) := by
  cases event with
  | start n =>
    obtain rfl : r = ⟨n.call, n.errCode⟩ := (Option.some.inj hr).symm
    exact settled_start_iff n free
  | withOptionsStart n =>
    obtain rfl : r = ⟨n.call, n.errCode⟩ := (Option.some.inj hr).symm
    exact settled_startWithOptions_iff n free
  | _ => cases hr

/-- The client 7 asks to start with `[2]`. -/
def startWithTwo : StartCooperateEvent :=
  { pid := 7, userData := 0, remoteNetworkId := [2], startDeviceId := 3, errCode := 0 }

def startWithTwoOptions : StartWithOptionsEvent :=
  { pid := 7, userData := 0, remoteNetworkId := [2] }

theorem startSettled_session :
    StartSettled { localNetworkId := [1], openSession := fun _ => RET_ERR } (.start startWithTwo)
      startWithTwo.call true {} :=
  (startSettled_iff _ _ _ _ ⟨startWithTwo.call, 0⟩ rfl rfl).mpr
    (.inl ⟨.inr (by decide), by decide +kernel⟩)

/-- With the peer offline nobody is told; without the interceptor OUT is entered all the same. -/
theorem failedStart_notUndone :
    let offline : Env := { localNetworkId := [1], checkDeviceOnline := fun _ => RET_ERR }
    let noInterceptor : Env := { localNetworkId := [1], addInterceptor := -1 }
    let m : Cooperate := {}
    (Free.onEvent offline (.start startWithTwo) m).machine.current = .free ∧
      newOutputs m (Free.onEvent offline (.start startWithTwo) m) = [] ∧
      ¬ StartSettled offline (.start startWithTwo) startWithTwo.call true m ∧
      (Free.onEvent noInterceptor (.withOptionsStart startWithTwoOptions) m).machine.current =
        .out ∧
      ¬ StartSettled noInterceptor (.withOptionsStart startWithTwoOptions)
        startWithTwoOptions.call true m := by
  intro offline noInterceptor m
  have inFree : (Free.onEvent offline (.start startWithTwo) m).machine.current = .free := by
    decide +kernel
  have silent : newOutputs m (Free.onEvent offline (.start startWithTwo) m) = [] := by
    decide +kernel
  have inOut : (Free.onEvent noInterceptor (.withOptionsStart startWithTwoOptions)
      m).machine.current = .out := by decide +kernel
  refine ⟨inFree, silent, fun settled => ?_, inOut, fun settled => ?_⟩
  · refine not_undone_of_silent ?_ (settled.failed (by rw [inFree]; decide))
    simp [silent]
  · exact absurd (settled.out inOut).installed (by decide +kernel)

end DeviceStatus.Cooperation
