import DeviceStatus.Cooperate.Outcomes
import DeviceStatus.Library.Transition

/-!
# Invariants of one device

Runs of one device, from a fresh `Cooperate`, through any events with any answers of the
surroundings. `Aligned` ties the two ends of the input path to the state; it holds along
every run. What can go wrong is that OUT is entered without an interceptor, and the one
request that does so is named by `StartsUnarmed`.

## Main definitions

* `Stimulus`, `after` — the events of a run and the state they lead to.
* `Observed.Aligned` — the invariant of every run.
* `InputPathInStep` — the invariant with an interceptor whenever the state is OUT.
* `BindsSink` — the step that makes a device the sink of its peer.
-/

namespace DeviceStatus.Cooperation

open Transition Observed

/-- An event, and the answers of the surroundings while it is processed. -/
abbrev Stimulus := Env × CooperateEvent

def fresh (settings : InputSettings) : Cooperate :=
  { input := settings }

def next (l : Stimulus) (m : Cooperate) : Cooperate :=
  step l.1 l.2 m

/-- The state that a run leads to, its events oldest first. -/
def after (m : Cooperate) (tr : List Stimulus) : Cooperate :=
  System.runFrom next m tr

@[simp] theorem after_nil (m : Cooperate) : after m [] = m := rfl

@[simp] theorem after_cons (m : Cooperate) (l : Stimulus) (tr : List Stimulus) :
    after m (l :: tr) = after (next l m) tr := rfl

theorem after_append (m : Cooperate) (tr tr' : List Stimulus) :
    after m (tr ++ tr') = after (after m tr) tr' := by
  simp only [after, System.runFrom, List.foldl_append]

theorem after_snoc (m : Cooperate) (tr : List Stimulus) (l : Stimulus) :
    after m (tr ++ [l]) = next l (after m tr) := by
  rw [after_append]; rfl

/-- The invariant rule for one device. -/
theorem after_invariant {I : Cooperate → Prop} {m : Cooperate} (init : I m)
    (step : ∀ l m, I m → I (next l m)) (tr : List Stimulus) : I (after m tr) := by
  induction tr generalizing m with
  | nil => exact init
  | cons l tr ih => exact ih (step l m init)

namespace Observed

variable {env : Env} {u : Unseen} {request : DSoftbusPacket} {e : CooperateEvent}
  {o o' : Observed}

/-! ## The input path -/

/-- The builder is on exactly in IN, an interceptor is held in OUT only, both work for the
peer, and `RelayConfirmation` is a step of IN. -/
structure Aligned (o : Observed) : Prop where
  builder : o.builder = true ↔ o.current = .in
  builderPeer : o.current = .in → o.builderPeer = o.peer
  interceptor : 0 < o.interceptor → o.current = .out ∧ o.interceptorPeer = o.peer
  relay : o.inStep = .relayConfirmation → o.current = .in

theorem not_pos_disable (i : Int32) : ¬ 0 < if 0 < i then -1 else i := by
  split
  · decide
  · assumption

theorem FreeMove.aligned (h : FreeMove env request e o o') (hc : o.current = .free)
    (ho : Aligned o) : Aligned o' := by
  have hi : ¬ 0 < o.interceptor := fun hi => by simp [(ho.interceptor hi).1] at hc
  have hb : o.builder = false := by simpa [hc] using ho.builder
  have hr : o.inStep ≠ .relayConfirmation := fun hr => by simp [ho.relay hr] at hc
  cases h <;> constructor <;>
    simp_all [ask, begin, bind, register, send, out, goto, finish_eq, enableInterceptor_eq,
      enableBuilder_eq, Int32.lt_asymm, -Int32.not_lt]

theorem OutMove.aligned (h : OutMove env e o o') (hc : o.current = .out) (ho : Aligned o) :
    Aligned o' := by
  have hb : o.builder = false := by simpa [hc] using ho.builder
  have hr : o.inStep ≠ .relayConfirmation := fun hr => by simp [ho.relay hr] at hc
  have hp := ho.interceptor
  cases h <;> constructor <;>
    simp_all [stopOut, bind, register, send, out, goto, finish_eq, disableInterceptor,
      enableBuilder_eq, updateInterceptor, not_pos_disable]

theorem InMove.aligned (h : InMove env e o o') (hc : o.current = .in)
    (hs : o.inStep = .initial) (ho : Aligned o) : Aligned o' := by
  have hi : ¬ 0 < o.interceptor := fun hi => by simp [(ho.interceptor hi).1] at hc
  have hp := ho.builderPeer hc
  have hb := ho.builder.mpr hc
  cases h <;> constructor <;>
    simp_all [stopIn, bind, register, send, out, goto, finish_eq, disableBuilder,
      updateBuilder, confirm, reset, comeBackFinish_eq]

theorem RelayMove.aligned (h : RelayMove env e o o') (hc : o.current = .in) (ho : Aligned o) :
    Aligned o' := by
  have hi : ¬ 0 < o.interceptor := fun hi => by simp [(ho.interceptor hi).1] at hc
  have hp := ho.builderPeer hc
  have hb := ho.builder.mpr hc
  cases h <;> constructor <;>
    simp_all [stopIn, send, out, goto, finish_eq, disableBuilder, reset]

theorem Transfer.aligned (h : Transfer env request e o o') (ho : Aligned o) : Aligned o' := by
  unfold Transfer at h
  split at h
  case h_1 hc => exact h.aligned hc ho
  case h_2 hc => exact h.aligned hc ho
  case h_3 hc hs => exact h.aligned hc hs ho
  case h_4 hc _ => exact h.aligned hc ho

theorem Move.aligned (h : Move env u e o o') (ho : Aligned o) : Aligned o' :=
  h.rule (fun _ _ _ ho => ⟨ho.1, ho.2, ho.3, ho.4⟩) (fun _ _ _ ht => ht.aligned) ho

end Observed

theorem aligned_fresh (settings : InputSettings) : Aligned (obs (fresh settings)) := by
  constructor <;> simp [obs, fresh]

theorem aligned_next (l : Stimulus) (m : Cooperate) (h : Aligned (obs m)) :
    Aligned (obs (next l m)) :=
  (step_move l.1 m l.2).aligned ⟨h.1, h.2, h.3, h.4⟩

theorem aligned_after (settings : InputSettings) (tr : List Stimulus) :
    Aligned (obs (after (fresh settings) tr)) :=
  after_invariant (aligned_fresh settings) aligned_next tr

/-! ## An interceptor whenever the state is OUT -/

/-- A start request that FREE takes to OUT although the input service gave no interceptor:
`OnStartWithOptions` does not look at the result of `Enable`, and `Enable` takes the id 0 for
a success. -/
def StartsUnarmed (l : Stimulus) (m : Cooperate) : Prop :=
  match l.2 with
  | .start n =>
    m.machine.current = .free ∧ l.1.checkSrcIsSameAccount n.remoteNetworkId = true ∧
      Context.isAllowCooperate l.1 m = true ∧ l.1.dragState ≠ .motionDragging ∧
      l.1.openSession n.remoteNetworkId = RET_OK ∧
      l.1.checkDeviceOnline n.remoteNetworkId = RET_OK ∧
      DSoftbusHandler.sendResult l.1 1 n.remoteNetworkId (requestPacket l.1 (.start n) m) =
        RET_OK ∧
      l.1.addInterceptor = 0
  | .withOptionsStart n =>
    m.machine.current = .free ∧ l.1.checkSrcIsSameAccount n.remoteNetworkId = true ∧
      Context.isAllowCooperate l.1 m = true ∧ l.1.dragState ≠ .motionDragging ∧
      l.1.openSession n.remoteNetworkId = RET_OK ∧ l.1.addInterceptor ≤ 0
  | _ => False

/-- State and input path agree. -/
structure InputPathInStep (m : Cooperate) : Prop where
  builder : m.context.inputEventBuilder.enable = true ↔ m.machine.current = .in
  interceptor : 0 < m.context.inputEventInterceptor.interceptorId ↔ m.machine.current = .out
  builderPeer : m.context.inputEventBuilder.enable = true →
    m.context.inputEventBuilder.remoteNetworkId = m.peer
  interceptorPeer : 0 < m.context.inputEventInterceptor.interceptorId →
    m.context.inputEventInterceptor.remoteNetworkId = m.peer
  relay : m.machine.inStep = .relayConfirmation → m.machine.current = .in

namespace Observed

variable {env : Env} {u : Unseen} {request : DSoftbusPacket} {e : CooperateEvent}
  {o o' : Observed}

def Armed (o : Observed) : Prop :=
  o.current = .out → 0 < o.interceptor

theorem OutMove.armed (h : OutMove env e o o') (hc : o.current = .out) (ho : Armed o) :
    Armed o' := by
  have hi := ho hc
  cases h <;> intro hc' <;>
    simp_all [stopOut, bind, register, send, out, goto, finish_eq, enableBuilder_eq,
      updateInterceptor]

theorem InMove.armed (h : InMove env e o o') (hc : o.current = .in) : Armed o' := by
  cases h <;> intro hc' <;>
    simp_all [stopIn, bind, register, send, out, goto, finish_eq, disableBuilder,
      updateBuilder, confirm, reset, comeBackFinish_eq]

theorem RelayMove.armed (h : RelayMove env e o o') (hc : o.current = .in) : Armed o' := by
  cases h <;> intro hc' <;>
    simp_all [stopIn, send, out, goto, finish_eq, disableBuilder, reset]

/-- What FREE needs of the input service for OUT to be armed. -/
theorem FreeMove.armed (h : FreeMove env request e o o') (hc : o.current = .free)
    (plain : ∀ n, e = .start n → env.dragState ≠ .motionDragging →
      env.openSession n.remoteNetworkId = RET_OK →
      env.checkDeviceOnline n.remoteNetworkId = RET_OK →
      DSoftbusHandler.sendResult env o.outputs.length n.remoteNetworkId request = RET_OK →
      env.addInterceptor ≠ 0)
    (options : ∀ n, e = .withOptionsStart n → env.dragState ≠ .motionDragging →
      env.openSession n.remoteNetworkId = RET_OK → 0 < env.addInterceptor) : Armed o' := by
  intro hc'
  cases h with
  | started notice _ hp drag session online sent hi =>
    have hne := plain _ rfl drag session online (hp ▸ sent)
    have hpos : ¬ 0 < o.interceptor → 0 < env.addInterceptor := fun hn =>
      Int32.lt_of_le_of_ne (hi.resolve_left hn) hne.symm
    simp only [begin, finish_eq, goto, enableInterceptor_eq, ask, send, out, register, bind]
    split
    · assumption
    · exact hpos ‹_›
  | startedWithOptions notice _ drag session =>
    have hpos := options _ rfl drag session
    simp only [begin, finish_eq, goto, enableInterceptor_eq, ask, send, out, register, bind]
    split
    · assumption
    · exact hpos
  | _ => simp_all [ask, bind, register, send, out, goto, finish_eq, enableInterceptor_eq,
      enableBuilder_eq]

theorem FreeMove.unarmed_start {n : StartCooperateEvent}
    (h : FreeMove env request (.start n) o o') (hi : ¬ 0 < o.interceptor)
    (drag : env.dragState ≠ .motionDragging)
    (session : env.openSession n.remoteNetworkId = RET_OK)
    (online : env.checkDeviceOnline n.remoteNetworkId = RET_OK)
    (sent : DSoftbusHandler.sendResult env o.outputs.length n.remoteNetworkId request = RET_OK)
    (zero : env.addInterceptor = 0) : o'.current = .out ∧ ¬ 0 < o'.interceptor := by
  cases h with
  | ignore hr => cases hr
  | refuse _ _ hd => exact absurd hd drag
  | noSession r hr _ hs => cases hr; exact absurd session hs
  | offline _ _ ho => exact absurd online ho
  | notSent notice _ hp _ _ _ hs => exact absurd (hp ▸ sent) hs
  | noInterceptor notice _ _ _ _ _ _ hn => exact absurd (.inr (zero ▸ Int32.le_refl _)) hn
  | started =>
    simp [begin, finish_eq, goto, enableInterceptor_eq, ask, send, out, register, bind, hi, zero,
      -Int32.not_lt]
  | remoteStart _ hs => cases hs

theorem FreeMove.unarmed_startWithOptions {n : StartWithOptionsEvent}
    (h : FreeMove env request (.withOptionsStart n) o o') (hi : ¬ 0 < o.interceptor)
    (drag : env.dragState ≠ .motionDragging)
    (session : env.openSession n.remoteNetworkId = RET_OK)
    (none : env.addInterceptor ≤ 0) : o'.current = .out ∧ ¬ 0 < o'.interceptor := by
  cases h with
  | ignore hr => cases hr
  | refuse _ _ hd => exact absurd hd drag
  | noSession r hr _ hs => cases hr; exact absurd session hs
  | startedWithOptions =>
    simp [begin, finish_eq, goto, enableInterceptor_eq, ask, send, out, register, bind, hi, none]
  | remoteStart _ hs => cases hs

theorem Transfer.armed (h : Transfer env request e o o') (ho : Armed o)
    (plain : ∀ n, e = .start n → o.current = .free → env.dragState ≠ .motionDragging →
      env.openSession n.remoteNetworkId = RET_OK →
      env.checkDeviceOnline n.remoteNetworkId = RET_OK →
      DSoftbusHandler.sendResult env o.outputs.length n.remoteNetworkId request = RET_OK →
      env.addInterceptor ≠ 0)
    (options : ∀ n, e = .withOptionsStart n → o.current = .free →
      env.dragState ≠ .motionDragging → env.openSession n.remoteNetworkId = RET_OK →
      0 < env.addInterceptor) : Armed o' := by
  unfold Transfer at h
  split at h
  case h_1 hc => exact h.armed hc (fun n he => plain n he hc) (fun n he => options n he hc)
  case h_2 hc => exact h.armed hc ho
  case h_3 hc _ => exact h.armed hc
  case h_4 hc _ => exact h.armed hc

/-- An event that is not a start request needs nothing of the input service. -/
theorem Transfer.armed_of_none (h : Transfer env request e o o') (ho : Armed o)
    (hr : e.request? = none) : Armed o' :=
  h.armed ho (fun n he => by subst he; cases hr) (fun n he => by subst he; cases hr)

theorem Move.armed (h : Move env u e o o') (ho : Armed o)
    (plain : ∀ n, e = .start n → o.current = .free →
      env.checkSrcIsSameAccount n.remoteNetworkId = true → u.allowed = true →
      env.dragState ≠ .motionDragging → env.openSession n.remoteNetworkId = RET_OK →
      env.checkDeviceOnline n.remoteNetworkId = RET_OK →
      DSoftbusHandler.sendResult env (o.outputs.length + 1) n.remoteNetworkId u.packet = RET_OK →
      env.addInterceptor ≠ 0)
    (options : ∀ n, e = .withOptionsStart n → o.current = .free →
      env.checkSrcIsSameAccount n.remoteNetworkId = true → u.allowed = true →
      env.dragState ≠ .motionDragging → env.openSession n.remoteNetworkId = RET_OK →
      0 < env.addInterceptor) : Armed o' := by
  cases h with
  | keep => exact ho
  | pass hp ht => exact ht.armed_of_none ho (request_of_isPassedOn hp)
  | pointer _ ht => exact ht.armed_of_none ho rfl
  | enable ht => exact ht.armed_of_none ho rfl
  | disable ht => exact ht.armed_of_none ho rfl
  | turnDown => exact ho
  | accept r hr account allow ht =>
    refine ht.armed ho ?_ ?_
    · intro n he hc drag session online sent
      subst he
      cases hr
      exact plain n rfl hc account allow drag session online (by simpa [out] using sent)
    · intro n he hc drag session
      subst he
      cases hr
      exact options n rfl hc account allow drag session
  | gateClosed s _ _ ht => exact ht.armed_of_none ho rfl
  | gateOpen s hs _ ht => exact ht.armed_of_none ho (request_of_remoteStart hs)

end Observed

theorem armed_next {l : Stimulus} {m : Cooperate} (h : Armed (obs m))
    (ok : ¬ StartsUnarmed l m) : Armed (obs (next l m)) := by
  obtain ⟨env, e⟩ := l
  refine (step_move env m e).armed h ?_ ?_
  · rintro n rfl hc account allow drag session online sent hz
    exact ok ⟨hc, account, allow, drag, session, online, sent, hz⟩
  · rintro n rfl hc account allow drag session
    refine Int32.not_le.mp fun hle => ok ⟨hc, account, allow, drag, session, hle⟩

/-- An accepted request is handled by FREE, with no interceptor installed. -/
theorem Observed.Aligned.free_request {env : Env} {e : CooperateEvent} {m : Cooperate}
    (h : Aligned (obs m)) {r : StartRequest} (hr : e.request? = some r)
    (hc : m.machine.current = .free)
    (account : env.checkSrcIsSameAccount r.call.networkId = true)
    (allow : Context.isAllowCooperate env m = true) :
    ¬ 0 < (obs m).interceptor ∧ FreeMove env (requestPacket env e m) e
      (({ obs m with outputs := [] } : Observed).out [.errCode r.errCode RET_OK])
        (obs (step env e m)) := by
  have hc : (obs m).current = .free := hc
  have ht := (step_move env m e).accepted hr account allow
  exact ⟨fun hi => by simp [(h.interceptor hi).1] at hc, ht.of_free hc⟩

/-- The requests that `StartsUnarmed` names do enter OUT without an interceptor. -/
theorem out_unarmed_of_startsUnarmed {l : Stimulus} {m : Cooperate} (h : Aligned (obs m))
    (hs : StartsUnarmed l m) :
    (next l m).machine.current = .out ∧
      ¬ 0 < (next l m).context.inputEventInterceptor.interceptorId := by
  obtain ⟨env, e⟩ := l
  match e, hs with
  | .start n, ⟨hc, account, allow, drag, session, online, sent, hz⟩ =>
    have hr : (CooperateEvent.start n).request? = some ⟨n.call, n.errCode⟩ := rfl
    obtain ⟨hi, ht⟩ := h.free_request hr hc account allow
    exact ht.unarmed_start hi drag session online (by simpa [out] using sent) hz
  | .withOptionsStart n, ⟨hc, account, allow, drag, session, hz⟩ =>
    have hr : (CooperateEvent.withOptionsStart n).request? = some ⟨n.call, n.errCode⟩ := rfl
    obtain ⟨hi, ht⟩ := h.free_request hr hc account allow
    exact ht.unarmed_startWithOptions hi drag session hz

theorem inputPathInStep_iff (m : Cooperate) :
    InputPathInStep m ↔ Aligned (obs m) ∧ Armed (obs m) := by
  constructor
  · rintro ⟨hb, hi, hbp, hip, hr⟩
    exact ⟨⟨hb, fun hc => hbp (hb.mpr hc), fun h => ⟨hi.mp h, hip h⟩, hr⟩, hi.mpr⟩
  · rintro ⟨⟨hb, hbp, hi, hr⟩, ha⟩
    exact ⟨hb, ⟨fun h => (hi h).1, ha⟩, fun h => hbp (hb.mp h), fun h => (hi h).2, hr⟩

/-- State and input path stay in step in exactly the runs in which no start request enters OUT
unarmed. -/
theorem inputPathInStep_run_iff (settings : InputSettings) (tr : List Stimulus) :
    (∀ p, p <+: tr → InputPathInStep (after (fresh settings) p)) ↔
      System.EachStep next (fun l m => ¬ StartsUnarmed l m) (fresh settings) tr := by
  constructor
  · intro h p l hp hs
    have hal := aligned_after settings p
    obtain ⟨hc, hi⟩ := out_unarmed_of_startsUnarmed hal hs
    have hn := h _ hp
    rw [after_snoc] at hn
    exact hi (hn.interceptor.mpr hc)
  · intro h p
    induction p using List.reverseRecOn with
    | nil =>
      intro _
      refine (inputPathInStep_iff _).mpr ⟨aligned_fresh settings, ?_⟩
      intro hc
      cases hc
    | append_singleton p l ih =>
      intro hp
      have hpre : p <+: tr := (List.prefix_append p [l]).trans hp
      have hm := (inputPathInStep_iff _).mp (ih hpre)
      rw [after_snoc]
      exact (inputPathInStep_iff _).mpr ⟨aligned_next _ _ hm.1, armed_next hm.2 (h p l hp)⟩

/-- `OnStartWithOptions` of FREE goes on when the interceptor could not be added. -/
theorem startWithOptions_unarmed :
    ¬ InputPathInStep (after (fresh {})
      [({ localNetworkId := [65], addInterceptor := -1 },
        .withOptionsStart { remoteNetworkId := [66] })]) := by
  intro h
  have hout := h.interceptor.mpr (by decide)
  revert hout
  decide

/-! ## The gate in front of IN -/

namespace Observed

variable {env : Env} {u : Unseen} {request : DSoftbusPacket} {e : CooperateEvent}
  {o o' : Observed}

/-- Only a start message leads to IN, or to another peer in IN. -/
theorem Transfer.sink (h : Transfer env request e o o') (hc : o'.current = .in) :
    o'.enabled = o.enabled ∧ ((o.current = .in ∧ o'.peer = o.peer) ∨
      ∃ s, e.remoteStart? = some s ∧ o'.peer = s.originNetworkId) := by
  unfold Transfer at h
  split at h
  all_goals
    cases h <;>
    simp_all [ask, begin, bind, register, send, out, goto, finish_eq, enableInterceptor_eq,
      enableBuilder_eq, stopOut, stopIn, disableInterceptor, disableBuilder, updateBuilder,
      updateInterceptor, confirm, reset, comeBackFinish_eq]

/-- Every state and step answers DISABLE by ending the cooperation. -/
theorem Transfer.free_of_disable {n : DisableCooperateEvent}
    (h : Transfer env request (.disable n) o o') : o'.current = .free := by
  unfold Transfer at h
  split at h
  case h_1 hc =>
    cases h with
    | ignore => exact hc
    | refuse r hr | noSession r hr => cases hr
    | remoteStart s hs => cases hs
  case h_2 =>
    cases h with
    | ignore h => exact h.elim
    | stop => rfl
    | refuse r hr | busy r hr => cases hr
    | comeBack origin h => cases h
    | remoteStart s hs => cases hs
    | relayFail withOptions he | relay withOptions he => cases withOptions <;> cases he
  case h_3 =>
    cases h with
    | ignore h => exact h.elim
    | stop => rfl
    | refuse r hr | toLocal r hr | relayFail r hr => cases hr
    | comeBack r _ hr => cases hr
    | relay r _ hr => cases hr
    | remoteStart s hs => cases hs
  case h_4 =>
    cases h with
    | ignore h => exact h.elim
    | stop => rfl
    | lose h => rcases h with ⟨n, hn⟩ | hl <;> contradiction
    | loseTarget h => cases h
    | defer s hs => cases hs
    | done withOptions _ he => cases withOptions <;> cases he
    | failed withOptions he => cases withOptions <;> cases he

/-- IN is kept, or entered for the origin of a start message that passed the gate. -/
theorem Move.sink (h : Move env u e o o') (hc : o'.current = .in) :
    (o.current = .in ∧ o'.peer = o.peer ∧ (o.enabled = true → o'.enabled = true)) ∨
      ∃ s, e.remoteStart? = some s ∧ Gate env o s ∧ o'.enabled = true ∧
        o'.peer = s.originNetworkId := by
  cases h with
  | keep => exact .inl ⟨hc, rfl, id⟩
  | turnDown => exact .inl ⟨hc, rfl, id⟩
  | pass hp ht =>
    obtain ⟨he, hk | ⟨s, hs, -⟩⟩ := ht.sink hc
    · exact .inl ⟨hk.1, hk.2, he.trans⟩
    · cases e <;> first | (cases hs; done) | cases hp
  | pointer _ ht =>
    obtain ⟨he, hk | ⟨s, hs, -⟩⟩ := ht.sink hc
    · exact .inl ⟨hk.1, hk.2, he.trans⟩
    · cases hs
  | enable ht =>
    obtain ⟨he, hk | ⟨s, hs, -⟩⟩ := ht.sink hc
    · exact .inl ⟨hk.1, hk.2, fun _ => he⟩
    · cases hs
  | disable ht => simp [ht.free_of_disable] at hc
  | accept r hr _ _ ht =>
    obtain ⟨he, hk | ⟨s, hs, -⟩⟩ := ht.sink hc
    · exact .inl ⟨hk.1, hk.2, he.trans⟩
    · simp [request_of_remoteStart hs] at hr
  | gateClosed s _ _ ht =>
    obtain ⟨he, hk | ⟨s, hs, -⟩⟩ := ht.sink hc
    · exact .inl ⟨hk.1, hk.2, he.trans⟩
    · cases hs
  | gateOpen s hs gate ht =>
    obtain ⟨he, hk | ⟨s', hs', hp⟩⟩ := ht.sink hc
    · exact .inl ⟨hk.1, hk.2, he.trans⟩
    · exact .inr ⟨s', hs', by cases hs.symm.trans hs'; exact gate, he.trans gate.2, hp⟩

theorem Move.free_of_disable {n : DisableCooperateEvent} (h : Move env u (.disable n) o o') :
    o'.current = .free := by
  cases h with
  | keep hk | pass hp => contradiction
  | disable ht => exact ht.free_of_disable
  | turnDown r _ hr | accept r hr => cases hr
  | gateClosed s hs | gateOpen s hs => cases hs

end Observed

/-- The event `l` makes the device `m` the sink of `peer`: it is a start message with the peer
as its origin that passes the check of the switch and the same-account check for the origin. -/
def BindsSink (l : Stimulus) (m : Cooperate) (peer : NetworkId) : Prop :=
  ∃ s, l.2.remoteStart? = some s ∧ s.originNetworkId = peer ∧
    StateMachine.checkSameAccount l.1 s.originNetworkId s.userId s.accountId = true ∧
    m.machine.isCooperateEnable = true

/-- Some event of the run bound the device to its peer, and it has been IN with that peer ever
since. -/
def SinkSince (m : Cooperate) (tr : List Stimulus) : Prop :=
  ∃ p l q, tr = p ++ l :: q ∧ BindsSink l (after m p) (after m tr).peer ∧
    ∀ r, r <+: q → (after m (p ++ l :: r)).machine.current = .in ∧
      (after m (p ++ l :: r)).peer = (after m tr).peer

theorem SinkSince.snoc {m : Cooperate} {tr : List Stimulus} {l : Stimulus}
    (h : SinkSince m tr) (hc : (after m (tr ++ [l])).machine.current = .in)
    (hp : (after m (tr ++ [l])).peer = (after m tr).peer) : SinkSince m (tr ++ [l]) := by
  obtain ⟨p, b, q, rfl, hb, hq⟩ := h
  refine ⟨p, b, q ++ [l], by simp, hp ▸ hb, ?_⟩
  intro r hr
  rw [hp]
  rcases List.prefix_concat_iff.mp hr with rfl | hr
  · simp only [List.append_assoc, List.cons_append] at hc hp
    exact ⟨hc, hp⟩
  · exact hq r hr

theorem SinkSince.bound {m : Cooperate} {tr : List Stimulus} {l : Stimulus}
    (h : BindsSink l (after m tr) (after m (tr ++ [l])).peer)
    (hc : (after m (tr ++ [l])).machine.current = .in) : SinkSince m (tr ++ [l]) := by
  refine ⟨tr, l, [], rfl, h, ?_⟩
  intro r hr
  rw [List.prefix_nil.mp hr]
  exact ⟨hc, rfl⟩

theorem sinkSince_after {m : Cooperate} (hm : m.machine.current ≠ .in) (tr : List Stimulus)
    (hc : (after m tr).machine.current = .in) :
    (after m tr).machine.isCooperateEnable = true ∧ SinkSince m tr := by
  induction tr using List.reverseRecOn with
  | nil => exact absurd hc hm
  | append_singleton tr l ih =>
    have hmove := step_move l.1 (after m tr) l.2
    have hn : obs (after m (tr ++ [l])) = obs (step l.1 l.2 (after m tr)) := by
      rw [after_snoc]; rfl
    rw [← hn] at hmove
    rcases hmove.sink hc with ⟨hin, hp, he⟩ | ⟨s, hs, gate, he, hp⟩
    · obtain ⟨henabled, hsince⟩ := ih hin
      exact ⟨he henabled, hsince.snoc hc hp⟩
    · exact ⟨he, .bound ⟨s, hs, hp.symm, gate.1, gate.2⟩ hc⟩

/-- No cooperation, and neither end of the input path is in use. -/
structure Ended (m : Cooperate) : Prop where
  current : m.machine.current = .free
  builder : m.context.inputEventBuilder.enable = false
  interceptor : ¬ 0 < m.context.inputEventInterceptor.interceptorId

theorem ended_of_free {m : Cooperate} (h : Aligned (obs m)) (hc : (obs m).current = .free) :
    Ended m where
  current := hc
  builder := Bool.eq_false_iff.mpr fun hb => by simp [h.builder.mp hb] at hc
  interceptor hi := by simp [(h.interceptor hi).1] at hc

/-- The gate of remote control: a device is IN only under an event that passed the checks made
for its peer, and DISABLE ends every cooperation. -/
theorem remote_control_gate (settings : InputSettings) (tr : List Stimulus) :
    ((after (fresh settings) tr).machine.current = .in →
      (after (fresh settings) tr).machine.isCooperateEnable = true ∧
        SinkSince (fresh settings) tr) ∧
    ∀ env n, Ended (after (fresh settings) (tr ++ [(env, .disable n)])) := by
  refine ⟨sinkSince_after (by simp [fresh]) tr, fun env n => ?_⟩
  apply ended_of_free (aligned_after settings _)
  rw [after_snoc]
  exact (step_move env _ (.disable n)).free_of_disable

/-- The gate at work: the device is enabled, then a peer starts. -/
theorem remote_control_gate_start :
    let env : Env := { localNetworkId := [65] }
    let tr : List Stimulus :=
      [(env, .enable { tokenId := 1, pid := 1, userData := 1 }),
        (env, .dsoftbusStartCooperate { networkId := [66], originNetworkId := [66] })]
    (after (fresh {}) tr).machine.isCooperateEnable = true ∧ SinkSince (fresh {}) tr :=
  (remote_control_gate {} _).1 (by decide)

end DeviceStatus.Cooperation
