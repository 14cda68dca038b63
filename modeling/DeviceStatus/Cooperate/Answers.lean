import DeviceStatus.Cooperate.Invariants

/-!
# Answers to start requests

A start request whose promise carries RET_OK has been accepted, and is to be answered by one
ACTIVATE_SUCCESS or ACTIVATE_FAIL notice with its pid and user data. Counted for one client,
answers and accepted requests balance along a run, with at most one request on credit while
a relay is being confirmed. The steps that break the balance are named by `LeavesUnanswered`,
those that may lose an answer on its way to the client by `Unheard`.

## Main definitions

* `answered`, `acceptances` — answers and accepted requests of one step.
* `answersSent` — the answers that reach the session of the client.
* `LeavesUnanswered` — the steps that accept a request and drop it.
* `AnsweredOnce` — the balance of a run.
-/

namespace DeviceStatus.Cooperation

open Transition Observed

/-- The identity that a request and its answer share. -/
structure Client where
  pid : Int32
  userData : Int32
  deriving DecidableEq

def PendingCall.client (call : PendingCall) : Client := ⟨call.pid, call.userData⟩

def Output.answers (k : Client) : Output → Bool
  | .answer notice => notice.pid = k.pid ∧ notice.userData = k.userData
  | _ => false

def Output.accepts (promise : Promise) : Output → Bool
  | .errCode p value => p = promise ∧ value = RET_OK
  | _ => false

/-- The answers to `k` among the outputs. -/
def answered (k : Client) (outputs : List Output) : ℕ :=
  outputs.countP (Output.answers k)

/-- The answers to `k` that are sent: the notices among the outputs are those of start requests. -/
def answersSent (k : Client) (env : Env) (outputs : List Output) : ℕ :=
  (EventManager.sentNotices env [] (outputs.filterMap Output.answer?)).countP fun notice =>
    notice.pid = k.pid ∧ notice.userData = k.userData

/-- The requests of `k` that the outputs of the event `e` accept. -/
def acceptances (k : Client) (e : CooperateEvent) (outputs : List Output) : ℕ :=
  match e.request? with
  | some r => if r.call.client = k then outputs.countP (Output.accepts r.errCode) else 0
  | none => 0

/-! ## One step -/

@[simp] theorem answered_append (k : Client) (a b : List Output) :
    answered k (a ++ b) = answered k a + answered k b := List.countP_append ..

@[simp] theorem answered_nil (k : Client) : answered k [] = 0 := rfl

theorem answered_cons (k : Client) (a : Output) (b : List Output) :
    answered k (a :: b) = answered k b + if a.answers k then 1 else 0 := List.countP_cons ..

@[simp] theorem answered_notice (k : Client) (call : PendingCall) (success : Bool)
    (errCode : Int32) :
    answered k [.answer (EventManager.startNotice call success errCode)] =
      if call.client = k then 1 else 0 := by
  obtain ⟨pid, userData⟩ := k
  simp [answered, Output.answers, EventManager.startNotice, PendingCall.client,
    List.countP_singleton]

@[simp] theorem answered_sendOutputs (k : Client) (env : Env) (sent : ℕ)
    (networkId : NetworkId) (packet : DSoftbusPacket) :
    answered k (DSoftbusHandler.sendOutputs env sent networkId packet) = 0 := by
  unfold DSoftbusHandler.sendOutputs
  split
  · rfl
  · split <;> rfl

theorem accepts_sendOutputs (p : Promise) (env : Env) (sent : ℕ)
    (networkId : NetworkId) (packet : DSoftbusPacket) :
    (DSoftbusHandler.sendOutputs env sent networkId packet).countP (Output.accepts p) = 0 := by
  unfold DSoftbusHandler.sendOutputs
  split
  · rfl
  · split <;> rfl

namespace Observed

variable {env : Env} {u : Unseen} {request : DSoftbusPacket} {e : CooperateEvent}
  {o o' : Observed} {k : Client}

/-- Whether the pending call is one of `k`. -/
def pendingOf (k : Client) (o : Observed) : ℕ :=
  match o.pending with
  | some call => if call.client = k then 1 else 0
  | none => 0

/-- The request on credit: the one that waits for a relay. -/
def due (k : Client) (o : Observed) : ℕ :=
  match o.inStep with
  | .relayConfirmation => o.pendingOf k
  | .initial => 0

/-- What a request adds to the balance when it is handed to the state. -/
def asked (k : Client) (e : CooperateEvent) : ℕ :=
  match e.request? with
  | some r => if r.call.client = k then 1 else 0
  | none => 0

@[simp] theorem answered_answers (success : Bool) (errCode : Int32) (o : Observed) :
    answered k (o.answers success errCode) = o.pendingOf k := by
  unfold answers pendingOf
  cases o.pending with
  | none => rfl
  | some call => exact answered_notice ..

theorem asked_start (n : StartCooperateEvent) :
    asked k (.start n) = if n.call.client = k then 1 else 0 := rfl

theorem asked_withOptionsStart (n : StartWithOptionsEvent) :
    asked k (.withOptionsStart n) = if n.call.client = k then 1 else 0 := rfl

theorem FreeMove.balance (h : FreeMove env request e o o') (hs : o.inStep = .initial)
    (ok : ∀ n, e = .start n → env.dragState ≠ .motionDragging →
      env.openSession n.remoteNetworkId = RET_OK →
      env.checkDeviceOnline n.remoteNetworkId = RET_OK ∧
      DSoftbusHandler.sendResult env o.outputs.length n.remoteNetworkId request = RET_OK ∧
      (0 < o.interceptor ∨ 0 ≤ env.addInterceptor)) :
    answered k o'.outputs + o'.due k = answered k o.outputs + o.due k + asked k e := by
  cases h with
  | offline drag session online => exact absurd (ok _ rfl drag session).1 online
  | notSent notice _ hp drag session _ sent =>
    exact absurd (hp ▸ (ok _ rfl drag session).2.1) sent
  | noInterceptor notice _ _ drag session _ _ interceptor =>
    exact absurd (ok _ rfl drag session).2.2 interceptor
  | remoteStart s hs =>
    have hr := request_of_remoteStart hs
    simp [bind, goto, enableBuilder_eq, due, pendingOf, asked, hr]
  | ignore hr => simp [asked, hr]
  | refuse r hr | noSession r hr =>
    simp [ask, bind, register, out, finish_eq, due, pendingOf, asked, motionDragAnswer, hr, hs]
  | started | startedWithOptions =>
    simp [ask, begin, bind, register, send, out, goto, finish_eq, enableInterceptor_eq, due,
      pendingOf, asked_start, asked_withOptionsStart, hs]

theorem request_of_stopsOut (h : StopsOut env o e) : e.request? = none := by
  cases e <;> first | rfl | exact h.elim

theorem request_of_ignoredOut (h : IgnoredOut env o e) : e.request? = none := by
  cases e <;> first | rfl | exact h.elim

theorem request_of_stopsIn (h : StopsIn env o e) : e.request? = none := by
  cases e <;> first | rfl | exact h.elim

theorem request_of_ignoredIn (h : IgnoredIn env o e) : e.request? = none := by
  cases e <;> first | rfl | exact h.elim

theorem request_of_comeBack {c : NetworkId × NetworkId} (h : e.comeBack? = some c) :
    e.request? = none := by
  cases e <;> first | rfl | cases h

theorem request_of_relay {r : DSoftbusRelayCooperate × Bool} (h : e.relay? = some r) :
    e.request? = none := by
  cases e <;> first | rfl | cases h

theorem OutMove.balance (h : OutMove env e o o') (hs : o.inStep = .initial) :
    answered k o'.outputs + o'.due k = answered k o.outputs + o.due k + asked k e := by
  cases h with
  | ignore h => simp [asked, request_of_ignoredOut h]
  | stop h =>
    simp [stopOut, disableInterceptor, send, out, goto, due, asked, request_of_stopsOut h, hs]
  | refuse r hr | busy r hr =>
    simp [register, out, finish_eq, due, pendingOf, asked, motionDragAnswer, hr, hs]
  | unplug =>
    simp [stopOut, disableInterceptor, send, out, goto, due, asked, CooperateEvent.request?, hs]
  | comeBack origin h =>
    simp [disableInterceptor, bind, goto, due, asked, request_of_comeBack h, hs]
  | remoteStart s h =>
    simp [disableInterceptor, send, out, bind, enableBuilder_eq, goto, due, asked,
      request_of_remoteStart h, hs]
  | remoteStop =>
    simp [disableInterceptor, goto, due, asked, CooperateEvent.request?, hs]
  | relayFail b he | relay b he =>
    have hr := request_of_relay he
    simp [send, out, bind, updateInterceptor, due, asked, hr, hs]

theorem InMove.balance (h : InMove env e o o') (hs : o.inStep = .initial)
    (ok : ∀ r, e.request? = some r → env.dragState ≠ .motionDragging →
      r.call.networkId ≠ env.localNetworkId) :
    answered k o'.outputs + o'.due k = answered k o.outputs + o.due k + asked k e := by
  cases h with
  | ignore h => simp [asked, request_of_ignoredIn h]
  | stop h =>
    simp [stopIn, disableBuilder, send, out, goto, due, asked, request_of_stopsIn h, hs]
  | refuse r hr => simp [out, due, asked, motionDragAnswer, hr, hs]
  | toLocal r hr drag isLocal => exact absurd isLocal (ok r hr drag)
  | comeBack r packet hr =>
    simp [register, disableBuilder, send, out, comeBackFinish_eq, goto, due, pendingOf, asked,
      hr, hs]
  | relayFail r hr =>
    simp [confirm, register, finish_eq, reset, due, pendingOf, asked, hr, hs]
  | relay r notice hr =>
    simp [confirm, register, send, out, due, pendingOf, asked, hr, hs, answered_cons,
      Output.answers]
  | remoteStart s h =>
    simp [send, out, bind, updateBuilder, due, asked, request_of_remoteStart h, hs]
  | remoteStop => simp [disableBuilder, goto, due, asked, CooperateEvent.request?, hs]

theorem RelayMove.balance (h : RelayMove env e o o') (hs : o.inStep = .relayConfirmation)
    (request : e.request? = none) (stops : ¬ StopsRelay env e)
    (stopped : ∀ n, e = .dsoftbusStopCooperate n → n.networkId ≠ o.peer)
    (crossed : ∀ n, e = .dsoftbusCooperateWithOptions n → n.networkId ≠ o.peer →
      n.networkId ≠ env.localNetworkId → n.networkId ≠ o.process) :
    answered k o'.outputs + o'.due k = answered k o.outputs + o.due k + asked k e := by
  cases h with
  | ignore => simp [asked, request]
  | stop h => exact absurd h stops
  | lose | loseTarget =>
    simp [stopIn, disableBuilder, send, out, goto, finish_eq, reset, due, pendingOf, asked,
      request, hs]
  | crossing =>
    simp [out, finish_eq, reset, due, pendingOf, asked, request, hs,
      answered_cons, Output.answers]
  | crossingWithOptions notPeer notLocal h => exact absurd h (crossed _ rfl notPeer notLocal)
  | defer =>
    simp [out, due, pendingOf, asked, request, hs,
      answered_cons, Output.answers]
  | remoteStop h => exact absurd h (stopped _ rfl)
  | done | failed =>
    simp [stopIn, disableBuilder, send, out, goto, finish_eq, reset, due, pendingOf, asked,
      request, hs,
      answered_cons, Output.answers]

/-- No state touches a promise. -/
theorem Transfer.accepts (h : Transfer env request e o o') (p : Promise) :
    o'.outputs.countP (Output.accepts p) = o.outputs.countP (Output.accepts p) := by
  have answers_none (success : Bool) (errCode : Int32) (o : Observed) :
      (o.answers success errCode).countP (Output.accepts p) = 0 := by
    unfold answers
    cases o.pending <;> rfl
  unfold Transfer at h
  split at h
  all_goals
    cases h <;>
    simp [ask, begin, bind, register, send, out, goto, finish_eq, enableInterceptor_eq,
      enableBuilder_eq, stopOut, stopIn, disableInterceptor, disableBuilder, updateBuilder,
      updateInterceptor, confirm, reset, comeBackFinish_eq, motionDragAnswer,
      accepts_sendOutputs, answers_none, Output.accepts]

/-- A relay that is dropped without a word to the client that asked for it. -/
def DropsRelay (env : Env) (o : Observed) (e : CooperateEvent) : Prop :=
  StopsRelay env e ∨ (∃ n, e = .dsoftbusStopCooperate n ∧ n.networkId = o.peer) ∨
    (∃ s, e.remoteStart? = some s ∧ ¬ Gate env o s) ∨
    ∃ n, e = .dsoftbusCooperateWithOptions n ∧ n.networkId ≠ o.peer ∧
      n.networkId ≠ env.localNetworkId ∧ n.networkId = o.process

/-- The checks that make the promise of a request carry RET_OK. -/
def Accepted (env : Env) (u : Unseen) (networkId : NetworkId) : Prop :=
  env.checkSrcIsSameAccount networkId = true ∧ u.allowed = true

/-- The steps that leave an accepted request without its answer: in FREE the failures that
`OnStart` only logs, in IN a request for this device itself, while a relay is being confirmed
any request, and what drops the relay. -/
def LeavesUnanswered (env : Env) (u : Unseen) (e : CooperateEvent) (o : Observed) : Prop :=
  match o.current, o.inStep with
  | .free, _ =>
    ∃ n, e = .start n ∧ Accepted env u n.remoteNetworkId ∧ env.dragState ≠ .motionDragging ∧
      env.openSession n.remoteNetworkId = RET_OK ∧
      ¬ (env.checkDeviceOnline n.remoteNetworkId = RET_OK ∧
        DSoftbusHandler.sendResult env 1 n.remoteNetworkId u.packet = RET_OK ∧
        (0 < o.interceptor ∨ 0 ≤ env.addInterceptor))
  | .out, _ => False
  | .in, .initial =>
    ∃ r, e.request? = some r ∧ Accepted env u r.call.networkId ∧
      env.dragState ≠ .motionDragging ∧ r.call.networkId = env.localNetworkId
  | .in, .relayConfirmation =>
    (∃ r, e.request? = some r ∧ Accepted env u r.call.networkId) ∨ DropsRelay env o e

theorem Transfer.balance (h : Transfer env request e o o') (ho : Aligned o)
    (free : o.current = .free → ∀ n, e = .start n → env.dragState ≠ .motionDragging →
      env.openSession n.remoteNetworkId = RET_OK →
      env.checkDeviceOnline n.remoteNetworkId = RET_OK ∧
      DSoftbusHandler.sendResult env o.outputs.length n.remoteNetworkId request = RET_OK ∧
      (0 < o.interceptor ∨ 0 ≤ env.addInterceptor))
    (sink : o.current = .in → o.inStep = .initial → ∀ r, e.request? = some r →
      env.dragState ≠ .motionDragging → r.call.networkId ≠ env.localNetworkId)
    (relay : o.inStep = .relayConfirmation → e.request? = none ∧ ¬ DropsRelay env o e) :
    answered k o'.outputs + o'.due k = answered k o.outputs + o.due k + asked k e := by
  have initial (hc : o.current ≠ .in) : o.inStep = .initial := by
    cases hs : o.inStep with
    | initial => rfl
    | relayConfirmation => exact absurd (ho.relay hs) hc
  unfold Transfer at h
  split at h
  case h_1 hc => exact h.balance (initial (by simp [hc])) (free hc)
  case h_2 hc => exact h.balance (initial (by simp [hc]))
  case h_3 hc hs => exact h.balance hs (sink hc hs)
  case h_4 hc hs =>
    obtain ⟨hr, hd⟩ := relay hs
    refine h.balance hs hr (fun hst => hd (.inl hst)) ?_ ?_
    · exact fun n he hn => hd (.inr (.inl ⟨n, he, hn⟩))
    · exact fun n he h₁ h₂ h₃ => hd (.inr (.inr (.inr ⟨n, he, h₁, h₂, h₃⟩)))

/-- An event that is no request, handed to the state. -/
theorem Transfer.balance_of_none (h : Transfer env request e o o') (ho : Aligned o)
    (hr : e.request? = none) (relay : o.inStep = .relayConfirmation → ¬ DropsRelay env o e) :
    answered k o'.outputs + o'.due k = answered k o.outputs + o.due k := by
  have hb := h.balance (k := k) ho (fun _ n he => by subst he; cases hr)
    (fun _ _ r he => by simp [hr] at he) (fun hs => ⟨hr, relay hs⟩)
  simpa [asked, hr] using hb

theorem Move.balance (h : Move env u e o o') (ho : Aligned o) (fresh : o.outputs = [])
    (ok : ¬ LeavesUnanswered env u e o) :
    answered k o'.outputs + o'.due k = acceptances k e o'.outputs + o.due k := by
  have relay (hs : o.inStep = .relayConfirmation) :
      (∀ r, e.request? = some r → ¬ Accepted env u r.call.networkId) ∧
        ¬ DropsRelay env o e := by
    simp only [LeavesUnanswered, ho.relay hs, hs, not_or, not_exists, not_and] at ok
    exact ok
  have plain (hr : e.request? = none)
      (hb : answered k o'.outputs + o'.due k = answered k o.outputs + o.due k) :
      answered k o'.outputs + o'.due k = acceptances k e o'.outputs + o.due k := by
    simpa [acceptances, hr, fresh] using hb
  cases h with
  | keep hk =>
    exact plain (by cases e <;> first | rfl | cases hk) rfl
  | pass hp ht =>
    have hr := request_of_isPassedOn hp
    exact plain hr (ht.balance_of_none ho hr fun hs => (relay hs).2)
  | pointer position ht =>
    refine plain rfl (ht.balance_of_none ho rfl fun hs hd => (relay hs).2 ?_)
    rcases hd with hd | ⟨n, hn, -⟩ | ⟨s, hs, -⟩ | ⟨n, hn, -⟩
    · exact .inl hd
    · cases hn
    · cases hs
    · cases hn
  | enable ht =>
    refine plain rfl (ht.balance_of_none ⟨ho.1, ho.2, ho.3, ho.4⟩ rfl fun _ hd => ?_)
    rcases hd with hd | ⟨n, hn, -⟩ | ⟨s, hs, -⟩ | ⟨n, hn, -⟩
    · exact hd
    · cases hn
    · cases hs
    · cases hn
  | disable ht =>
    exact plain rfl (ht.balance_of_none ⟨ho.1, ho.2, ho.3, ho.4⟩ rfl
      fun hs _ => (relay hs).2 (.inl trivial))
  | turnDown r value hr hd =>
    have hne : value ≠ RET_OK := by
      rcases hd with ⟨-, rfl⟩ | ⟨-, rfl⟩ <;> decide
    simp [out, fresh, acceptances, hr, answered_cons, Output.answers, Output.accepts, hne, due,
      pendingOf]
  | accept r hr account allow ht =>
    have hp := ht.accepts r.errCode
    have hb := ht.balance (k := k) ⟨ho.1, ho.2, ho.3, ho.4⟩ ?free ?sink ?relay
    case free =>
      rintro hc n rfl drag session
      cases hr
      by_contra hn
      have hc : o.current = .free := hc
      refine ok ?_
      simp only [LeavesUnanswered, hc]
      exact ⟨n, rfl, ⟨account, allow⟩, drag, session, by simpa [out, fresh] using hn⟩
    case sink =>
      intro hc hs r' hr' drag isLocal
      cases hr.symm.trans hr'
      have hc : o.current = .in := hc
      have hs : o.inStep = .initial := hs
      refine ok ?_
      simp only [LeavesUnanswered, hc, hs]
      exact ⟨r, hr, ⟨account, allow⟩, drag, isLocal⟩
    case relay =>
      exact fun hs => absurd ⟨account, allow⟩ ((relay hs).1 r hr)
    have hd : (o.out [.errCode r.errCode RET_OK]).due k = o.due k := rfl
    have hz : answered k (o.out [.errCode r.errCode RET_OK]).outputs = 0 := by
      simp [out, fresh, answered_cons, Output.answers]
    have ha : acceptances k e o'.outputs = asked k e := by
      have h1 : o'.outputs.countP (Output.accepts r.errCode) = 1 := by
        simpa [out, fresh, Output.accepts] using hp
      simp only [acceptances, asked, hr, h1]
    omega
  | gateClosed s hs gate ht =>
    exact plain (request_of_remoteStart hs) (ht.balance_of_none ho rfl
      fun hr _ => (relay hr).2 (.inr (.inr (.inl ⟨s, hs, gate⟩))))
  | gateOpen s hs gate ht =>
    have hr := request_of_remoteStart hs
    exact plain hr (ht.balance_of_none ho hr fun hs => (relay hs).2)

end Observed

/-! ## On the way to the client -/

/-- Every answer to a request would be sent: a session is found for the pid, the network id fits
into the packet, and `SendMsg` succeeds. -/
def Hears (env : Env) (call : PendingCall) : Prop :=
  ∀ count success errCode,
    EventManager.sendNotice env count (EventManager.startNotice call success errCode) = true

/-- A request that waits, or the one in the event, belongs to a client that may not hear of it. -/
def Unheard (env : Env) (e : CooperateEvent) (m : Cooperate) : Prop :=
  ∃ call, (m.context.eventMgr.startCall = some call ∨ ∃ r, e.request? = some r ∧ r.call = call) ∧
    ¬ Hears env call

namespace Observed

variable {env : Env} {u : Unseen} {request : DSoftbusPacket} {e : CooperateEvent}
  {o o' : Observed} {notice : CooperateNotice}

/-- The notice is an answer to the request that waits or to the one in the event. -/
def AnswersCall (e : CooperateEvent) (o : Observed) (notice : CooperateNotice) : Prop :=
  ∃ call, (o.pending = some call ∨ ∃ r, e.request? = some r ∧ r.call = call) ∧
    ∃ success errCode, notice = EventManager.startNotice call success errCode

theorem AnswersCall.of_request {r : StartRequest} (hr : e.request? = some r) {success : Bool}
    {errCode : Int32} (h : notice = EventManager.startNotice r.call success errCode) :
    AnswersCall e o notice :=
  ⟨r.call, .inr ⟨r, hr, rfl⟩, success, errCode, h⟩

theorem AnswersCall.of_pending {success : Bool} {errCode : Int32}
    (h : ∃ call, o.pending = some call ∧ notice = EventManager.startNotice call success errCode) :
    AnswersCall e o notice := by
  obtain ⟨call, waits, same⟩ := h
  exact ⟨call, .inl waits, success, errCode, same⟩

theorem Transfer.answersCall (h : Transfer env request e o o')
    (mem : .answer notice ∈ o'.outputs) (fresh : .answer notice ∉ o.outputs) :
    AnswersCall e o notice := by
  unfold Transfer at h
  split at h
  all_goals
    cases h <;>
    simp [ask, begin, bind, register, send, out, goto, finish_eq, enableInterceptor_eq,
      enableBuilder_eq, stopOut, stopIn, disableInterceptor, disableBuilder, updateBuilder,
      updateInterceptor, confirm, reset, comeBackFinish_eq, motionDragAnswer,
      not_answer_mem_sendOutputs, answer_mem_answers, fresh] at mem
  all_goals first
    | exact .of_request ‹_› mem
    | exact .of_request rfl mem
    | exact .of_pending mem

theorem Move.answersCall (h : Move env u e o o') (mem : .answer notice ∈ o'.outputs)
    (fresh : o.outputs = []) : AnswersCall e o notice := by
  have none : Output.answer notice ∉ o.outputs := by simp [fresh]
  cases h with
  | keep => exact absurd mem none
  | pass _ ht => exact ht.answersCall mem none
  | pointer position ht => exact ht.answersCall mem none
  | enable ht => exact ht.answersCall mem none
  | disable ht => exact ht.answersCall mem none
  | turnDown r value => simp [out, fresh] at mem
  | accept r _ _ _ ht => exact ht.answersCall mem (by simp [out, fresh])
  | gateOpen s _ _ ht => exact ht.answersCall mem none
  | gateClosed s hs _ ht =>
    obtain ⟨call, waits | ⟨r, hr, -⟩, rest⟩ := ht.answersCall mem none
    · exact ⟨call, .inl waits, rest⟩
    · cases hr

end Observed

/-- An event that no client misses sends every answer that it has. -/
theorem answersSent_step {env : Env} {e : CooperateEvent} {m : Cooperate} (k : Client)
    (heard : ¬ Unheard env e m) :
    answersSent k env (step env e m).outputs = answered k (step env e m).outputs := by
  have move := step_move env m e
  have sends : ∀ notice ∈ (step env e m).outputs.filterMap Output.answer?, ∀ count,
      EventManager.sendNotice env count notice = true := by
    intro notice mem count
    obtain ⟨o, mem, same⟩ := List.mem_filterMap.mp mem
    obtain rfl : o = .answer notice := by cases o <;> cases same; rfl
    obtain ⟨call, asks, success, errCode, rfl⟩ := move.answersCall mem rfl
    by_contra lost
    exact heard ⟨call, asks, fun hears => lost (hears count success errCode)⟩
  rw [answersSent, EventManager.sentNotices_of_forall sends, List.countP_filterMap, answered]
  refine List.countP_congr fun o _ => ?_
  cases o <;> simp [Output.answer?, Output.answers]

/-! ## Runs -/

/-- The answers that are sent to `k` in a run from `m`. -/
def answersOf (k : Client) (m : Cooperate) (tr : List Stimulus) : ℕ :=
  System.total next (fun l m => answersSent k l.1 (next l m).outputs) m tr

/-- The requests of `k` that a run from `m` accepts. -/
def acceptancesOf (k : Client) (m : Cooperate) (tr : List Stimulus) : ℕ :=
  System.total next (fun l m => acceptances k l.2 (next l m).outputs) m tr

/-- Every accepted request of a client has had its one answer when the device is FREE, and no
client is ever answered more often than it has been accepted. -/
def AnsweredOnce (m : Cooperate) (tr : List Stimulus) : Prop :=
  ∀ k, answersOf k m tr ≤ acceptancesOf k m tr ∧
    ((after m tr).machine.current = .free → answersOf k m tr = acceptancesOf k m tr)

/-- The steps that may leave an accepted request without its answer. -/
def LosesAnswer (l : Stimulus) (m : Cooperate) : Prop :=
  LeavesUnanswered l.1 (unseen l.1 l.2 m) l.2 (obs m) ∨ Unheard l.1 l.2 m

/-- Along a run without such steps, answers and accepted requests balance. -/
theorem answersOf_add_due (settings : InputSettings) (k : Client) (tr : List Stimulus)
    (run : System.EachStep next (fun l m => ¬ LosesAnswer l m) (fresh settings) tr) :
    answersOf k (fresh settings) tr + (obs (after (fresh settings) tr)).due k =
      acceptancesOf k (fresh settings) tr := by
  have step (l : Stimulus) (m : Cooperate) (hm : Aligned (obs m))
      (ok : ¬ LosesAnswer l m) :
      answersSent k l.1 (next l m).outputs + (obs (next l m)).due k =
        acceptances k l.2 (next l m).outputs + (obs m).due k := by
    rw [next, answersSent_step k fun lost => ok (.inr lost)]
    exact (step_move l.1 m l.2).balance ⟨hm.1, hm.2, hm.3, hm.4⟩ rfl fun lost => ok (.inl lost)
  have h := System.total_add_due (fun m => (obs m).due k) aligned_next step
    (aligned_fresh settings) run
  have hz : (obs (fresh settings)).due k = 0 := rfl
  rwa [hz, Nat.add_zero] at h

theorem start_requests_answered_once (settings : InputSettings) (tr : List Stimulus)
    (run : System.EachStep next (fun l m => ¬ LosesAnswer l m) (fresh settings) tr) :
    AnsweredOnce (fresh settings) tr := by
  intro k
  have hb := answersOf_add_due settings k tr run
  refine ⟨by omega, fun hc => ?_⟩
  have hal := aligned_after settings tr
  have hs : (obs (after (fresh settings) tr)).inStep = .initial := by
    cases hs : (obs (after (fresh settings) tr)).inStep with
    | initial => rfl
    | relayConfirmation =>
      have hin := hal.relay hs
      have hc : (obs (after (fresh settings) tr)).current = .free := hc
      simp [hc] at hin
  have hd : (obs (after (fresh settings) tr)).due k = 0 := by
    simp [Observed.due, hs]
  omega

/-- `OnStart` of FREE returns without a notice when the peer is not online. -/
theorem start_offline_unanswered :
    ¬ AnsweredOnce (fresh {})
      [({ localNetworkId := [65], checkDeviceOnline := fun _ => RET_ERR },
        .start { pid := 1, userData := 1, remoteNetworkId := [66], startDeviceId := 0,
                 errCode := 0 })] := by
  intro h
  have hk := (h ⟨1, 1⟩).2 (by decide)
  revert hk
  decide

theorem hears_of_takes {call : PendingCall} {env : Env}
    (session : env.findSessionByPid = fun _ _ => true) (taken : env.sendMsg = fun _ _ => true)
    (fits : call.networkId.length ≤ 2035) : Hears env call := by
  intro count success errCode
  have room : EventManager.chkRWError (EventManager.startNotice call success errCode) = false := by
    rw [EventManager.chkRWError, decide_eq_false_iff_not]
    change ¬ 2048 < 3 * 4 + (call.networkId.length + 1)
    omega
  simp [EventManager.sendNotice, session, taken, room]

/-- The requests of two clients, one that succeeds and, after a stop, one whose session cannot be
opened. -/
theorem start_answered :
    AnsweredOnce (fresh {})
      [({ localNetworkId := [65] },
        .start { pid := 1, userData := 1, remoteNetworkId := [66], startDeviceId := 0,
                 errCode := 0 }),
       ({ localNetworkId := [65] }, .stop { pid := 1, userData := 2 }),
       ({ localNetworkId := [65], openSession := fun _ => RET_ERR },
        .start { pid := 2, userData := 1, remoteNetworkId := [67], startDeviceId := 0,
                 errCode := 1 })] := by
  refine start_requests_answered_once {} _ (.cons ?_ (.cons ?_ (.cons ?_ .nil)))
  · rintro (⟨n, hn, -, -, -, lost⟩ | ⟨call, waits | ⟨r, hr, rfl⟩, deaf⟩)
    · cases hn
      exact lost ⟨rfl, by decide, .inr (by decide)⟩
    · cases waits
    · cases hr
      exact deaf (hears_of_takes rfl rfl (by decide))
  · rintro (lost | ⟨call, waits | ⟨r, hr, rfl⟩, deaf⟩)
    · have out : (obs (next ({ localNetworkId := [65] },
          .start { pid := 1, userData := 1, remoteNetworkId := [66], startDeviceId := 0,
                   errCode := 0 }) (fresh {}))).current = .out := by decide
      rw [LeavesUnanswered, out] at lost
      exact lost
    · cases waits
    · cases hr
  · rintro (⟨n, hn, -, -, session, -⟩ | ⟨call, waits | ⟨r, hr, rfl⟩, deaf⟩)
    · cases hn
      exact absurd session (by decide)
    · cases waits
    · cases hr
      exact deaf (hears_of_takes rfl rfl (by decide))

end DeviceStatus.Cooperation
