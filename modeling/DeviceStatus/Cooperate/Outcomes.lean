import DeviceStatus.Cooperate.Refinement

/-!
# What becomes of one event

The moves read backwards: given the state and the event, what the state is afterwards. These
are the facts that the invariants of a device, of two and of three devices are made of.
-/

namespace DeviceStatus.Cooperation

namespace Observed

variable {env : Env} {u : Unseen} {request : DSoftbusPacket} {e : CooperateEvent}
  {o o' : Observed}

/-! ## The operations as updates -/

/-- What finishing a request puts out. -/
def answers (success : Bool) (errCode : Int32) (o : Observed) : List Output :=
  (o.pending.map fun call => .answer (EventManager.startNotice call success errCode)).toList

theorem finish_eq (success : Bool) (errCode : Int32) (o : Observed) :
    o.finish success errCode =
      { o with pending := none, outputs := o.outputs ++ o.answers success errCode } := by
  obtain ⟨⟩ := o
  unfold finish answers
  split <;> simp_all

theorem comeBackFinish_eq (result : Int32) (o : Observed) :
    o.comeBackFinish result =
      { o with
        pending := none
        outputs := o.outputs ++ o.answers (result = RET_OK)
          (if result = RET_OK then CoordinationErrCode.coordinationOk.toInt32
            else CoordinationErrCode.sendPacketFailed.toInt32) } := by
  unfold comeBackFinish
  split <;> simp [finish_eq, *]

theorem answer_mem_answers {success : Bool} {errCode : Int32} {notice : CooperateNotice} :
    Output.answer notice ∈ o.answers success errCode ↔
      ∃ call, o.pending = some call ∧ notice = EventManager.startNotice call success errCode := by
  unfold answers
  cases o.pending <;> simp

theorem not_answer_mem_sendOutputs {sent : Nat} {networkId : NetworkId} {packet : DSoftbusPacket}
    {notice : CooperateNotice} :
    Output.answer notice ∉ DSoftbusHandler.sendOutputs env sent networkId packet := by
  unfold DSoftbusHandler.sendOutputs
  grind

theorem enableBuilder_eq (o : Observed) :
    o.enableBuilder =
      { o with builder := true, builderPeer := if o.builder then o.builderPeer else o.peer } := by
  obtain ⟨⟩ := o
  unfold enableBuilder
  split <;> simp_all

theorem enableInterceptor_eq (o : Observed) :
    o.enableInterceptor env =
      { o with
        interceptor := if 0 < o.interceptor then o.interceptor else env.addInterceptor
        interceptorPeer := if 0 < o.interceptor then o.interceptorPeer else o.peer } := by
  obtain ⟨⟩ := o
  unfold enableInterceptor
  split <;> simp_all

/-- Events only move a device through its state; the state machine itself touches no more
than the outputs and the switch. -/
theorem Move.rule {I : Observed → Prop}
    (frame : ∀ o outputs enabled, I o → I { o with outputs := outputs, enabled := enabled })
    (transfer : ∀ e o o', Transfer env u.packet e o o' → I o → I o')
    (h : Move env u e o o') (ho : I o) : I o' := by
  cases h with
  | keep => exact ho
  | pass _ ht => exact transfer _ _ _ ht ho
  | pointer _ ht => exact transfer _ _ _ ht ho
  | enable ht => exact transfer _ _ _ ht (frame o o.outputs true ho)
  | disable ht => exact transfer _ _ _ ht (frame o o.outputs false ho)
  | turnDown r value => exact frame o _ o.enabled ho
  | accept r _ _ _ ht => exact transfer _ _ _ ht (frame o _ o.enabled ho)
  | gateClosed _ _ _ ht => exact transfer _ _ _ ht ho
  | gateOpen _ _ _ ht => exact transfer _ _ _ ht ho

/-- What becomes of a start request. -/
theorem Move.of_request (h : Move env u e o o') {r : StartRequest} (hr : e.request? = some r) :
    (∃ value, TurnedDown env u r.call.networkId value ∧
      o' = o.out [.errCode r.errCode value]) ∨
    (env.checkSrcIsSameAccount r.call.networkId = true ∧ u.allowed = true ∧
      Transfer env u.packet e (o.out [.errCode r.errCode RET_OK]) o') := by
  have hne : ∀ {s}, e.remoteStart? ≠ some s := fun hs => by
    simp [request_of_remoteStart hs] at hr
  cases h with
  | keep hk => cases e <;> first | (cases hr; done) | cases hk
  | pass hp => simp [request_of_isPassedOn hp] at hr
  | pointer | enable | disable => cases hr
  | turnDown r' value hr' hd =>
    cases hr.symm.trans hr'
    exact .inl ⟨value, hd, rfl⟩
  | accept r' hr' account allow ht =>
    cases hr.symm.trans hr'
    exact .inr ⟨account, allow, ht⟩
  | gateClosed s hs | gateOpen s hs => exact absurd hs hne

/-- What is neither bookkeeping nor dealt with by the state machine reaches the state as it
is. -/
theorem Move.of_isPassedOn (h : Move env u e o o') (hp : e.isPassedOn = true)
    (hk : e.isBookkeeping = false) : Transfer env u.packet e o o' := by
  cases h with
  | pass _ ht => exact ht
  | keep h => simp [h] at hk
  | pointer | enable | disable => cases hp
  | turnDown r _ hr | accept r hr => simp [request_of_isPassedOn hp] at hr
  | gateClosed s hs | gateOpen s hs => cases e <;> first | (cases hs; done) | cases hp

/-- A start message that passes the gate reaches the state, another one becomes a STOP. -/
theorem Move.of_remoteStart (h : Move env u e o o') {s : RemoteStart}
    (hs : e.remoteStart? = some s) :
    (Gate env o s ∧ Transfer env u.packet e o o') ∨
      (¬ Gate env o s ∧ Transfer env u.packet (.stop { isUnchained := true }) o o') := by
  cases h with
  | gateOpen s' hs' gate ht =>
    cases hs.symm.trans hs'
    exact .inl ⟨gate, ht⟩
  | gateClosed s' hs' gate ht =>
    cases hs.symm.trans hs'
    exact .inr ⟨gate, ht⟩
  | keep h | pass h => cases e <;> first | (cases hs; done) | cases h
  | turnDown r _ hr | accept r hr => simp [request_of_remoteStart hs] at hr
  | pointer | enable | disable => cases hs

theorem Move.of_gate (h : Move env u e o o') {s : RemoteStart} (hs : e.remoteStart? = some s)
    (gate : Gate env o s) : Transfer env u.packet e o o' := by
  rcases h.of_remoteStart hs with ⟨-, ht⟩ | ⟨shut, -⟩
  · exact ht
  · exact absurd gate shut

/-- Mouse input reaches the state with the position from before the event. -/
theorem Move.of_pointer {n : InputPointerEvent} (h : Move env u (.inputPointerEvent n) o o') :
    ∃ position, Transfer env u.packet (.inputPointerEvent { n with position }) o o' := by
  cases h with
  | pointer position ht => exact ⟨position, ht⟩
  | keep h | pass h => cases h
  | turnDown r _ hr | accept r hr => cases hr
  | gateClosed s hs | gateOpen s hs => cases hs

/-- A request that passes the checks reaches the state. -/
theorem Move.accepted (h : Move env u e o o') {r : StartRequest} (hr : e.request? = some r)
    (account : env.checkSrcIsSameAccount r.call.networkId = true) (allow : u.allowed = true) :
    Transfer env u.packet e (o.out [.errCode r.errCode RET_OK]) o' := by
  rcases h.of_request hr with ⟨_, hd, -⟩ | ⟨-, -, ht⟩
  · rcases hd with ⟨hf, -⟩ | ⟨hf, -⟩
    · simp [account] at hf
    · simp [allow] at hf
  · exact ht

theorem Transfer.of_free (h : Transfer env request e o o') (hc : o.current = .free) :
    FreeMove env request e o o' := by
  simpa only [Transfer, hc] using h

theorem Transfer.of_out (h : Transfer env request e o o') (hc : o.current = .out) :
    OutMove env e o o' := by
  simpa only [Transfer, hc] using h

theorem Transfer.of_in (h : Transfer env request e o o') (hc : o.current = .in)
    (hs : o.inStep = .initial) : InMove env e o o' := by
  simpa only [Transfer, hc, hs] using h

theorem Transfer.of_relay (h : Transfer env request e o o') (hc : o.current = .in)
    (hs : o.inStep = .relayConfirmation) : RelayMove env e o o' := by
  simpa only [Transfer, hc, hs] using h

/-! ## FREE -/

/-- FREE only acts on a start request and on a start message. -/
theorem FreeMove.idle (h : FreeMove env request e o o') (hr : e.request? = none)
    (hs : e.remoteStart? = none) : o' = o := by
  cases h <;> simp_all [CooperateEvent.request?]

theorem FreeMove.of_remoteStart (h : FreeMove env request e o o') {s : RemoteStart}
    (hs : e.remoteStart? = some s) :
    o' = (o.bind s.originNetworkId).enableBuilder.goto .in := by
  have hr := request_of_remoteStart hs
  cases h <;> simp_all [CooperateEvent.request?]

/-! ## OUT -/

theorem OutMove.of_stop {p : StopCooperateEvent} (h : OutMove env (.stop p) o o') :
    o' = o.stopOut env := by
  cases h <;> simp_all [IgnoredOut, CooperateEvent.request?, CooperateEvent.remoteStart?,
    CooperateEvent.comeBack?, CooperateEvent.relay?]

/-- OUT turns every request down. -/
theorem OutMove.of_request {r : StartRequest} (h : OutMove env e o o')
    (hr : e.request? = some r) :
    o' = o.out [motionDragAnswer r.call] ∨
      o' = (o.register r.call).finish false
        CoordinationErrCode.unexpectedStartCall.toInt32 := by
  cases h with
  | refuse r' hr' =>
    cases hr.symm.trans hr'
    exact .inl rfl
  | busy r' hr' =>
    cases hr.symm.trans hr'
    exact .inr rfl
  | ignore hi | stop hi => cases e <;> first | (cases hr; done) | exact hi.elim
  | unplug | remoteStop => cases hr
  | _ => cases e <;> cases hr <;>
      simp_all [CooperateEvent.remoteStart?, CooperateEvent.comeBack?, CooperateEvent.relay?]

theorem OutMove.of_pointer {n : InputPointerEvent} (h : OutMove env (.inputPointerEvent n) o o') :
    o' = o := by
  cases h <;> simp_all [StopsOut, CooperateEvent.request?, CooperateEvent.remoteStart?,
    CooperateEvent.comeBack?, CooperateEvent.relay?]

/-- A start message of the peer ends a cooperation that goes out. -/
theorem OutMove.of_peerStart {s : RemoteStart} (h : OutMove env e o o')
    (hs : e.remoteStart? = some s) (notLocal : s.networkId ≠ env.localNetworkId)
    (peer : s.networkId = o.peer) : o' = o.stopOut env := by
  cases h with
  | stop => rfl
  | remoteStart s' hs' _ notPeer =>
    cases hs.symm.trans hs'
    exact absurd peer notPeer
  | unplug | remoteStop => cases hs
  | _ => cases e <;> cases hs <;> simp_all [IgnoredOut, CooperateEvent.request?,
      CooperateEvent.comeBack?, CooperateEvent.relay?]

theorem OutMove.of_remoteStop {n : DSoftbusStopCooperate}
    (h : OutMove env (.dsoftbusStopCooperate n) o o') :
    o' = if n.networkId = o.peer then o.disableInterceptor.goto .free else o := by
  cases h <;> simp_all [StopsOut, IgnoredOut, CooperateEvent.request?,
    CooperateEvent.remoteStart?, CooperateEvent.comeBack?, CooperateEvent.relay?]

theorem OutMove.of_comeBack {networkId origin : NetworkId} (h : OutMove env e o o')
    (hc : e.comeBack? = some (networkId, origin)) :
    o' = if networkId = o.peer then (o.disableInterceptor.bind origin).goto .free else o := by
  cases e <;> cases hc <;> cases h <;>
    simp_all [StopsOut, IgnoredOut, CooperateEvent.request?, CooperateEvent.remoteStart?,
      CooperateEvent.comeBack?, CooperateEvent.relay?]

/-- A relay request of the peer is granted or refused by whether the session with the target
can be opened. -/
theorem OutMove.of_relay {n : DSoftbusRelayCooperate} {withOptions : Bool}
    (h : OutMove env e o o') (hr : e.relay? = some (n, withOptions)) :
    o' = if n.networkId = o.peer then
        if env.openSession n.targetNetworkId = RET_OK then
          ((o.send env o.peer (relayFinish n withOptions true)).bind
            n.targetNetworkId).updateInterceptor
        else o.send env o.peer (relayFinish n withOptions false)
      else o := by
  cases e <;> cases hr <;> cases h <;>
    simp_all [StopsOut, IgnoredOut, CooperateEvent.request?, CooperateEvent.remoteStart?,
      CooperateEvent.comeBack?, CooperateEvent.relay?]

theorem OutMove.of_finished {r : DSoftbusRelayCooperateFinished × Bool}
    (h : OutMove env e o o') (hr : e.finished? = some r) : o' = o := by
  cases e <;> cases hr <;> cases h <;>
    simp_all [StopsOut, CooperateEvent.request?, CooperateEvent.remoteStart?,
      CooperateEvent.comeBack?, CooperateEvent.relay?]

/-! ## IN, initial step -/

theorem InMove.of_stop {p : StopCooperateEvent} (h : InMove env (.stop p) o o') :
    o' = o.stopIn env := by
  cases h <;> simp_all [IgnoredIn, CooperateEvent.request?, CooperateEvent.remoteStart?]

theorem InMove.of_pointer {n : InputPointerEvent} (h : InMove env (.inputPointerEvent n) o o') :
    o' = o ∨ o' = o.stopIn env := by
  cases h <;> simp_all [CooperateEvent.request?, CooperateEvent.remoteStart?]

theorem InMove.of_remoteStop {n : DSoftbusStopCooperate}
    (h : InMove env (.dsoftbusStopCooperate n) o o') :
    o' = if n.networkId = o.peer then o.disableBuilder.goto .free else o := by
  cases h <;> simp_all [StopsIn, IgnoredIn, CooperateEvent.request?,
    CooperateEvent.remoteStart?]

/-- A start message of the peer changes nothing. -/
theorem InMove.of_peerStart {s : RemoteStart} (h : InMove env e o o')
    (hs : e.remoteStart? = some s) (peer : s.networkId = o.peer) : o' = o := by
  cases h with
  | ignore => rfl
  | remoteStart s' hs' notPeer =>
    cases hs.symm.trans hs'
    exact absurd peer notPeer
  | remoteStop => cases hs
  | _ => cases e <;> cases hs <;> simp_all [StopsIn, CooperateEvent.request?]

theorem InMove.of_comeBack {c : NetworkId × NetworkId} (h : InMove env e o o')
    (hc : e.comeBack? = some c) : o' = o := by
  cases e <;> cases hc <;> cases h <;>
    simp_all [StopsIn, CooperateEvent.request?, CooperateEvent.remoteStart?]

theorem InMove.of_relay {r : DSoftbusRelayCooperate × Bool} (h : InMove env e o o')
    (hr : e.relay? = some r) : o' = o := by
  cases e <;> cases hr <;> cases h <;>
    simp_all [StopsIn, CooperateEvent.request?, CooperateEvent.remoteStart?]

theorem InMove.of_finished {r : DSoftbusRelayCooperateFinished × Bool}
    (h : InMove env e o o') (hr : e.finished? = some r) : o' = o := by
  cases e <;> cases hr <;> cases h <;>
    simp_all [StopsIn, CooperateEvent.request?, CooperateEvent.remoteStart?]

/-! ## IN, waiting for the relay -/

theorem RelayMove.of_stop {p : StopCooperateEvent} (h : RelayMove env (.stop p) o o') :
    o' = (o.stopIn env).reset := by
  cases h <;> simp_all [IgnoredRelay, LosesPeer, CooperateEvent.lost?,
    CooperateEvent.remoteStart?, CooperateEvent.finished?]

theorem RelayMove.of_remoteStop {n : DSoftbusStopCooperate}
    (h : RelayMove env (.dsoftbusStopCooperate n) o o') :
    o' = if n.networkId = o.peer then (o.out [.event (.dsoftbusStopCooperate n)]).reset
      else o := by
  cases h <;> simp_all [StopsRelay, IgnoredRelay, LosesPeer, CooperateEvent.lost?,
    CooperateEvent.remoteStart?, CooperateEvent.finished?]

/-- While a relay is asked for, further requests are passed over. -/
theorem RelayMove.of_request {r : StartRequest} (h : RelayMove env e o o')
    (hr : e.request? = some r) : o' = o := by
  cases e <;> cases hr <;> cases h <;>
    simp_all [StopsRelay, LosesPeer, CooperateEvent.lost?, CooperateEvent.remoteStart?,
      CooperateEvent.finished?]

theorem RelayMove.of_relay {r : DSoftbusRelayCooperate × Bool} (h : RelayMove env e o o')
    (hr : e.relay? = some r) : o' = o := by
  cases e <;> cases hr <;> cases h <;>
    simp_all [StopsRelay, LosesPeer, CooperateEvent.lost?, CooperateEvent.remoteStart?,
      CooperateEvent.finished?]

/-- An answer of the peer completes the relay or ends the cooperation. -/
theorem RelayMove.of_finished {n : DSoftbusRelayCooperateFinished} {withOptions : Bool}
    (h : RelayMove env e o o') (hf : e.finished? = some (n, withOptions)) :
    (n.networkId ≠ o.peer ∧ o' = o) ∨
    (n.networkId = o.peer ∧ n.normal = true ∧
      ∃ packet, IsRelayedStart o.peer withOptions packet ∧
        o' = (((((o.out [.removeTimer o.timerId]).disableBuilder).send env o.process
          packet).finish true CoordinationErrCode.coordinationOk.toInt32).goto .free).reset) ∨
    (n.networkId = o.peer ∧ n.normal = false ∧
      o' = ((o.out [.removeTimer o.timerId]).finish false
        CoordinationErrCode.coordinationOk.toInt32).reset.stopIn env) := by
  cases e <;> cases hf <;> cases h <;>
    simp_all [StopsRelay, IgnoredRelay, LosesPeer, CooperateEvent.lost?,
      CooperateEvent.remoteStart?, CooperateEvent.finished?]
  all_goals exact ⟨_, ‹_›, rfl⟩

end Observed

end DeviceStatus.Cooperation
