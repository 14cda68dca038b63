import DeviceStatus.Cooperate.Invariants
import DeviceStatus.Cooperate.SpeedMoves

/-!
# What one event does to a relay attempt

A relay attempt is under way while the step of IN is `RelayConfirmation`. `AttemptMove` says
once what an event can make of it, in terms of the event and of the state before: it is begun,
kept, answered by the peer, or broken off. Answers to a relay come from outside and from the
timer that the attempt armed, never from the outputs of any other step.

## Main definitions

* `CooperateEvent.refusedBy?` — the sender of a negative answer.
* `StartsRelay`, `Stops`, `Interrupts` — what begins an attempt and what breaks one off.
* `Observed.AttemptMove` — the outcomes of an event, as far as the attempt goes.
-/

namespace DeviceStatus.Cooperation

/-- The sender of a negative answer to a relay; the timer of a relay stands for one of the
peer. -/
def CooperateEvent.refusedBy? (e : CooperateEvent) : Option NetworkId :=
  match e.finished? with
  | some (n, _) => if n.normal then none else some n.networkId
  | none => none

/-- The output puts no answer to a relay into the channel, now or later. -/
def Output.AnswersNoRelay : Output → Prop
  | .event e | .addTimer _ _ e => e.finished? = none
  | _ => True

section AnswersNoRelay

variable (e : CooperateEvent)

@[simp] theorem answersNoRelay_event : (Output.event e).AnswersNoRelay ↔ e.finished? = none :=
  Iff.rfl

@[simp] theorem answersNoRelay_addTimer (timerId interval : Int32) :
    (Output.addTimer timerId interval e).AnswersNoRelay ↔ e.finished? = none :=
  Iff.rfl

@[simp] theorem answersNoRelay_removeTimer (timerId : Int32) :
    (Output.removeTimer timerId).AnswersNoRelay :=
  trivial

@[simp] theorem answersNoRelay_errCode (errCode : Promise) (value : Int32) :
    (Output.errCode errCode value).AnswersNoRelay :=
  trivial

@[simp] theorem answersNoRelay_answer (notice : CooperateNotice) :
    (Output.answer notice).AnswersNoRelay :=
  trivial

end AnswersNoRelay

/-- The request asks the peer of an IN device to hand over to a third device. -/
def StartsRelay (env : Env) (e : CooperateEvent) (m : Cooperate) : Prop :=
  m.machine.current = .in ∧ m.machine.inStep = .initial ∧
    ∃ r, e.request? = some r ∧ env.checkSrcIsSameAccount r.call.networkId = true ∧
      Context.isAllowCooperate env m = true ∧ env.dragState ≠ .motionDragging ∧
      r.call.networkId ≠ env.localNetworkId ∧ r.call.networkId ≠ m.peer ∧
      env.openSession r.call.networkId = RET_OK

/-- STOP and DISABLE, STOP of the peer, and the loss of the peer or of the target. A board is
lost only if it was online. -/
def Stops (env : Env) (e : CooperateEvent) (m : Cooperate) : Prop :=
  match handled env e (obs m) with
  | .disable _ | .stop _ => True
  | .dsoftbusStopCooperate n => n.networkId = m.peer
  | .ddmBoardOffline n => n.networkId ∈ m.machine.onlineBoards ∧
      (n.networkId = m.peer ∨ n.networkId = m.machine.process.remoteNetworkId)
  | e => e.lost? = some m.peer ∨ e.lost? = some m.machine.process.remoteNetworkId

/-- What else breaks a relay off: a client's death, a mouse of this host, and a start message
of the target. -/
def Interrupts (env : Env) (e : CooperateEvent) (m : Cooperate) : Prop :=
  match handled env e (obs m) with
  | .appClosed _ => True
  | .inputPointerEvent n => CooperateEvent.isLocalPointer env [] (.inputPointerEvent n) = true
  | e => ∃ s, e.remoteStart? = some s ∧ s.networkId = m.machine.process.remoteNetworkId ∧
      s.networkId ≠ m.peer ∧ s.networkId ≠ env.localNetworkId

/-- None of the outputs answers a relay. -/
def Quiet (outputs : List Output) : Prop := ∀ x ∈ outputs, x.AnswersNoRelay

section Quiet

variable {env : Env} {o : Observed}

@[simp] theorem quiet_nil : Quiet [] :=
  List.forall_mem_nil _

@[simp] theorem quiet_cons {x : Output} {l : List Output} :
    Quiet (x :: l) ↔ x.AnswersNoRelay ∧ Quiet l :=
  List.forall_mem_cons

@[simp] theorem quiet_append {l l' : List Output} : Quiet (l ++ l') ↔ Quiet l ∧ Quiet l' :=
  List.forall_mem_append

@[simp] theorem quiet_sendOutputs (sent : ℕ) (networkId : NetworkId) (packet : DSoftbusPacket) :
    Quiet (DSoftbusHandler.sendOutputs env sent networkId packet) := by
  intro x hx
  unfold DSoftbusHandler.sendOutputs at hx
  split at hx
  · cases hx
  · split at hx
    · rcases List.mem_singleton.mp hx with rfl
      trivial
    · rcases List.mem_pair.mp hx with rfl | rfl
      · trivial
      · rfl

@[simp] theorem quiet_answers (success : Bool) (errCode : Int32) :
    Quiet (o.answers success errCode) := by
  intro x hx
  obtain ⟨call, -, rfl⟩ := Option.map_eq_some_iff.mp (Option.mem_toList.mp hx)
  trivial

end Quiet

theorem finished_of_remoteStart {e : CooperateEvent} {s : RemoteStart}
    (h : e.remoteStart? = some s) : e.finished? = none := by
  cases e <;> first | rfl | cases h

namespace Observed

/-- What breaks off a relay that is under way, in terms of the observed part. -/
def BreaksOff (env : Env) (e : CooperateEvent) (o : Observed) : Prop :=
  StopsRelay env e ∨ LosesPeer o e ∨ e.lost? = some o.process ∨
    (∃ n, e = .dsoftbusStopCooperate n ∧ n.networkId = o.peer) ∨
    ∃ s, e.remoteStart? = some s ∧ s.networkId = o.process ∧ s.networkId ≠ o.peer ∧
      s.networkId ≠ env.localNetworkId

/-- The outcomes of an event, as far as the relay attempt goes. -/
inductive AttemptMove (env : Env) (e : CooperateEvent) (o o' : Observed) : Prop
  | idle (before : o.inStep = .initial) (after : o'.inStep = .initial) (quiet : Quiet o'.outputs)
  | begin (r : StartRequest) (before : o.inStep = .initial) (current : o.current = .in)
      (hr : e.request? = some r) (drag : env.dragState ≠ .motionDragging)
      (notLocal : r.call.networkId ≠ env.localNetworkId) (notPeer : r.call.networkId ≠ o.peer)
      (session : env.openSession r.call.networkId = RET_OK)
      (after : o'.inStep = .relayConfirmation) (peer : o'.peer = o.peer)
      (timerId : o'.timerId = env.addTimer) (others : List Output)
      (quiet : Quiet others) (timeout : CooperateEvent)
      (refuses : timeout.refusedBy? = some o.peer)
      (outputs : o'.outputs = others ++ [.addTimer env.addTimer DEFAULT_TIMEOUT timeout])
  | keep (before : o.inStep = .relayConfirmation) (after : o'.inStep = .relayConfirmation)
      (peer : o'.peer = o.peer) (timerId : o'.timerId = o.timerId) (quiet : Quiet o'.outputs)
  | answer (n : DSoftbusRelayCooperateFinished) (withOptions : Bool)
      (he : e.finished? = some (n, withOptions)) (sender : n.networkId = o.peer)
      (before : o.inStep = .relayConfirmation) (after : o'.inStep = .initial)
      (removed : .removeTimer o.timerId ∈ o'.outputs) (quiet : Quiet o'.outputs)
  | breakOff (h : BreaksOff env e o) (before : o.inStep = .relayConfirmation)
      (after : o'.inStep = .initial) (quiet : Quiet o'.outputs)

section Moves

variable {env : Env} {u : Unseen} {request : DSoftbusPacket} {e : CooperateEvent}
  {o o' : Observed}

theorem not_relayConfirmation {step : InStep} (h : step ≠ .relayConfirmation) :
    step = .initial := by
  cases step
  · rfl
  · exact absurd rfl h

theorem FreeMove.inStep (h : FreeMove env request e o o') : o'.inStep = o.inStep := by
  cases h <;>
    simp [ask, begin, bind, register, send, Observed.out, goto, finish_eq, enableInterceptor_eq,
      enableBuilder_eq]

theorem FreeMove.quiet (h : FreeMove env request e o o') (ho : Quiet o.outputs) :
    Quiet o'.outputs := by
  cases h <;>
    simp_all [ask, begin, bind, register, send, Observed.out, goto, finish_eq,
      enableInterceptor_eq, enableBuilder_eq, motionDragAnswer]

theorem OutMove.inStep (h : OutMove env e o o') : o'.inStep = o.inStep := by
  cases h <;>
    simp [stopOut, bind, register, send, Observed.out, goto, finish_eq, disableInterceptor,
      enableBuilder_eq, updateInterceptor]

theorem OutMove.quiet (h : OutMove env e o o') (ho : Quiet o.outputs) : Quiet o'.outputs := by
  cases h <;>
    simp_all [stopOut, bind, register, send, Observed.out, goto, finish_eq,
      disableInterceptor, enableBuilder_eq, updateInterceptor, motionDragAnswer]

/-- In its initial step IN begins an attempt or goes on without one. -/
theorem InMove.attempt (h : InMove env e o o') (hc : o.current = .in)
    (before : o.inStep = .initial) (ho : Quiet o.outputs) : AttemptMove env e o o' := by
  cases h with
  | relay r notice hr drag notLocal notPeer session target =>
    refine .begin r before hc hr drag notLocal notPeer session rfl rfl rfl
      (o.outputs ++ DSoftbusHandler.sendOutputs env o.outputs.length o.peer
        (DSoftbusHandler.relayPacket notice)) ?_ (relayTimeout e o.peer) ?_ ?_
    · exact quiet_append.mpr ⟨ho, quiet_sendOutputs _ _ _⟩
    · unfold relayTimeout
      split <;> rfl
    · simp [send, Observed.out, confirm, register]
  | _ =>
    refine .idle before ?_ ?_ <;>
      simp_all [stopIn, bind, register, send, Observed.out, goto, finish_eq,
        disableBuilder, updateBuilder, confirm, reset, comeBackFinish_eq,
        motionDragAnswer]

theorem RelayMove.attempt (h : RelayMove env e o o')
    (before : o.inStep = .relayConfirmation) (ho : Quiet o.outputs) : AttemptMove env e o o' := by
  have quiet : Quiet o'.outputs := by
    cases h with
    | defer s hs => simp [Observed.out, ho, finished_of_remoteStart hs]
    | crossing | crossingWithOptions | remoteStop =>
      simp_all [Observed.out, finish_eq, reset, CooperateEvent.finished?]
    | _ => simp_all [stopIn, send, Observed.out, goto, finish_eq, disableBuilder, reset]
  cases h with
  | ignore => exact .keep before before rfl rfl ho
  | stop h => exact .breakOff (.inl h) before rfl quiet
  | lose h => exact .breakOff (.inr (.inl h)) before rfl quiet
  | loseTarget h => exact .breakOff (.inr (.inr (.inl h))) before rfl quiet
  | crossing notPeer notLocal h =>
    exact .breakOff (.inr (.inr (.inr (.inr ⟨_, rfl, h, notPeer, notLocal⟩)))) before rfl quiet
  | crossingWithOptions notPeer notLocal h =>
    exact .breakOff (.inr (.inr (.inr (.inr ⟨_, rfl, h, notPeer, notLocal⟩)))) before rfl quiet
  | defer => exact .keep before before rfl rfl quiet
  | remoteStop h => exact .breakOff (.inr (.inr (.inr (.inl ⟨_, rfl, h⟩)))) before rfl quiet
  | done withOptions packet he sender =>
    refine .answer _ withOptions he sender before rfl ?_ quiet
    simp [send, Observed.out, disableBuilder, goto, reset, finish_eq]
  | failed withOptions he sender =>
    refine .answer _ withOptions he sender before ?_ ?_ quiet
    · simp [stopIn, send, Observed.out, disableBuilder, goto, reset, finish_eq]
    · simp [stopIn, send, Observed.out, disableBuilder, goto, reset, finish_eq]

theorem Transfer.attempt (h : Transfer env request e o o') (ha : Aligned o)
    (ho : Quiet o.outputs) : AttemptMove env e o o' := by
  have initial (hc : o.current ≠ .in) : o.inStep = .initial :=
    not_relayConfirmation fun hr => hc (ha.relay hr)
  unfold Transfer at h
  split at h
  case h_1 hc =>
    have before := initial (by simp [hc])
    exact .idle before (h.inStep.trans before) (h.quiet ho)
  case h_2 hc =>
    have before := initial (by simp [hc])
    exact .idle before (h.inStep.trans before) (h.quiet ho)
  case h_3 hc hs => exact h.attempt hc hs ho
  case h_4 hs => exact h.attempt hs ho

/-- Neither the switch nor what was put out before matters to a relay. -/
theorem AttemptMove.frame {outputs : List Output} {enabled : Bool}
    (h : AttemptMove env e { o with outputs := outputs, enabled := enabled } o') :
    AttemptMove env e o o' := by
  cases h with
  | idle before after quiet => exact .idle before after quiet
  | begin r before current hr drag notLocal notPeer session after peer timerId others quiet
      timeout refuses outputs =>
    exact .begin r before current hr drag notLocal notPeer session after peer timerId others quiet
      timeout refuses outputs
  | keep before after peer timerId quiet => exact .keep before after peer timerId quiet
  | answer n withOptions he sender before after removed quiet =>
    exact .answer n withOptions he sender before after removed quiet
  | breakOff h before after quiet => exact .breakOff h before after quiet

theorem AttemptMove.unchanged (quiet : Quiet o.outputs) : AttemptMove env e o o := by
  cases hs : o.inStep with
  | initial => exact .idle hs hs quiet
  | relayConfirmation => exact .keep hs hs rfl rfl quiet

/-- The position of a pointer event decides nothing. -/
theorem AttemptMove.of_position {n : InputPointerEvent} {position : Coordinate}
    (h : AttemptMove env (.inputPointerEvent { n with position }) o o') :
    AttemptMove env (.inputPointerEvent n) o o' := by
  cases h with
  | idle before after quiet => exact .idle before after quiet
  | begin r _ _ hr => cases hr
  | keep before after peer timerId quiet => exact .keep before after peer timerId quiet
  | answer n withOptions he => cases he
  | breakOff h before after quiet =>
    refine .breakOff ?_ before after quiet
    rcases h with h | h | h | ⟨n, h, -⟩ | ⟨s, h, -⟩
    · exact .inl h
    · rcases h with ⟨n, h⟩ | h <;> cases h
    · cases h
    · cases h
    · cases h

theorem Move.attempt (h : Move env u e o o') (ha : Aligned o) (ho : Quiet o.outputs) :
    AttemptMove env (handled env e o) o o' := by
  have frame {outputs : List Output} {enabled : Bool} :
      Aligned { o with outputs := outputs, enabled := enabled } := ⟨ha.1, ha.2, ha.3, ha.4⟩
  cases h with
  | keep => exact .unchanged ho
  | pass hp ht =>
    have hs : e.remoteStart? = none := by cases e <;> first | rfl | cases hp
    rw [handled_of_none env hs]
    exact ht.attempt ha ho
  | pointer position ht => exact (ht.attempt ha ho).of_position
  | enable ht => exact (ht.attempt frame ho).frame
  | disable ht => exact (ht.attempt frame ho).frame
  | turnDown r value hr =>
    have quiet : Quiet (o.out [.errCode r.errCode value]).outputs := by simp [Observed.out, ho]
    cases hs : o.inStep with
    | initial => exact .idle hs hs quiet
    | relayConfirmation => exact .keep hs hs rfl rfl quiet
  | accept r hr account allow ht =>
    have hs : e.remoteStart? = none := by cases e <;> first | rfl | cases hr
    rw [handled_of_none env hs]
    have quiet : Quiet (o.out [.errCode r.errCode RET_OK]).outputs := by simp [Observed.out, ho]
    exact (ht.attempt frame quiet).frame
  | gateClosed s hs gate ht =>
    have stop : handled env e o = .stop { isUnchained := true } := by
      simp only [handled, hs]
      exact if_neg gate
    rw [stop]
    exact ht.attempt ha ho
  | gateOpen s hs gate ht =>
    have same : handled env e o = e := by
      simp only [handled, hs]
      exact if_pos gate
    rw [same]
    exact ht.attempt ha ho

end Moves

end Observed

open Observed

variable {env : Env} {e : CooperateEvent} {m : Cooperate}

theorem step_attempt (env : Env) (e : CooperateEvent) (m : Cooperate) (ha : Aligned (obs m)) :
    AttemptMove env (handled env e (obs m)) (obs m) (obs (step env e m)) := by
  have move := step_move env m e
  exact (move.attempt ⟨ha.1, ha.2, ha.3, ha.4⟩ quiet_nil).frame (o := obs m)

theorem handled_eq_or_stop (env : Env) (e : CooperateEvent) (o : Observed) :
    handled env e o = e ∨ handled env e o = .stop { isUnchained := true } := by
  unfold handled
  split
  · exact .inl rfl
  · split
    · exact .inl rfl
    · exact .inr rfl

/-- An attempt is begun by a request that passes the checks of the state machine. -/
theorem startsRelay_of_begin {r : StartRequest} (before : m.machine.inStep = .initial)
    (current : m.machine.current = .in) (hr : (handled env e (obs m)).request? = some r)
    (drag : env.dragState ≠ .motionDragging) (notLocal : r.call.networkId ≠ env.localNetworkId)
    (notPeer : r.call.networkId ≠ m.peer) (session : env.openSession r.call.networkId = RET_OK)
    (after : (step env e m).machine.inStep = .relayConfirmation) : StartsRelay env e m := by
  have same : handled env e (obs m) = e := by
    rcases handled_eq_or_stop env e (obs m) with same | stop
    · exact same
    · rw [stop] at hr
      cases hr
  rw [same] at hr
  rcases (step_move env m e).of_request hr with ⟨value, -, ho⟩ | ⟨account, allow, -⟩
  · have hs : (step env e m).machine.inStep = m.machine.inStep := congrArg Observed.inStep ho
    rw [before, after] at hs
    cases hs
  · exact ⟨current, before, r, hr, account, allow, drag, notLocal, notPeer, session⟩

/-- A board that was not online is not handed on. -/
theorem inStep_step_offline {n : DDMBoardOfflineEvent}
    (h : n.networkId ∉ m.machine.onlineBoards) :
    (step env (.ddmBoardOffline n) m).machine.inStep = m.machine.inStep := by
  change (StateMachine.onBoardOffline env n { m with effects := [] }).machine.inStep = _
  unfold StateMachine.onBoardOffline
  rw [if_neg h]

theorem stops_of_lost {networkId : NetworkId}
    (h : (handled env e (obs m)).lost? = some networkId)
    (hn : networkId = m.peer ∨ networkId = m.machine.process.remoteNetworkId)
    (before : m.machine.inStep = .relayConfirmation)
    (after : (step env e m).machine.inStep = .initial) : Stops env e m := by
  unfold Stops
  cases hk : handled env e (obs m) with
  | ddmBoardOffline n =>
    rw [hk] at h
    cases h
    obtain rfl : e = .ddmBoardOffline n := by
      rcases handled_eq_or_stop env e (obs m) with same | stop
      · exact same.symm.trans hk
      · cases stop.symm.trans hk
    refine ⟨?_, hn⟩
    by_contra offline
    rw [inStep_step_offline offline, before] at after
    cases after
  | dsoftbusSessionClosed n | ddpCooperateSwitchChanged n =>
    rw [hk] at h
    rcases hn with rfl | rfl
    · exact .inl h
    · exact .inr h
  | _ =>
    rw [hk] at h
    cases h

/-- What breaks a relay off is a stop or an interruption. -/
theorem stops_or_interrupts (h : BreaksOff env (handled env e (obs m)) (obs m))
    (before : m.machine.inStep = .relayConfirmation)
    (after : (step env e m).machine.inStep = .initial) :
    Stops env e m ∨ Interrupts env e m := by
  rcases h with h | h | h | ⟨n, h, hn⟩ | ⟨s, hs, h⟩
  · unfold Stops Interrupts
    cases hk : handled env e (obs m) with
    | disable | stop => exact .inl trivial
    | inputPointerEvent n =>
      rw [hk] at h
      exact .inr h
    | _ =>
      rw [hk] at h
      exact h.elim
  · rcases h with ⟨n, h⟩ | h
    · right
      unfold Interrupts
      rw [h]
      trivial
    · exact .inl (stops_of_lost h (.inl rfl) before after)
  · exact .inl (stops_of_lost h (.inr rfl) before after)
  · left
    unfold Stops
    rw [h]
    exact hn
  · right
    unfold Interrupts
    cases hk : handled env e (obs m) with
    | dsoftbusStartCooperate | dsoftbusCooperateWithOptions =>
      rw [hk] at hs
      exact ⟨s, hs, h⟩
    | _ =>
      rw [hk] at hs
      cases hs

end DeviceStatus.Cooperation
