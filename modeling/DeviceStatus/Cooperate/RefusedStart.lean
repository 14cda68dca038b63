import DeviceStatus.Cooperate.Notices

/-!
# A start message that is refused

A start message whose origin fails the same-account check becomes a STOP that is handed to the
current state, whoever its peer is. So while a cooperation goes on, such a message of a third
device ends it, and the peer sees the difference.

## Main definitions

* `Refused` — a start message of a third device that fails the check.
* `Undisturbed` — an event that leaves the cooperation and its peer alone.
* `seenBy` — what a run sends to one peer.
-/

namespace DeviceStatus.Cooperation

/-- A start message that reaches a cooperation, is not of the peer and fails the check. -/
structure Refused (env : Env) (event : CooperateEvent) (m : Cooperate) (s : RemoteStart) :
    Prop where
  start : event.remoteStart? = some s
  cooperating : m.machine.current ≠ .free
  notPeer : s.originNetworkId ≠ m.peer
  otherAccount : StateMachine.checkSameAccount env s.originNetworkId s.userId s.accountId = false

/-- What an output does to the session with a peer. -/
def Output.reaches (networkId : NetworkId) : Output → Bool
  | .packet id _ => id = networkId
  | .closeSession id => id = networkId
  | _ => false

/-- A call that changes the virtual devices or the sessions. -/
def Call.disturbs : Call → Bool
  | .addVirtualInputDevice _ | .removeVirtualInputDevice _ | .removeAllVirtualInputDevice
  | .closeAllSessions => true
  | _ => false

def Effect.disturbs : Effect → Bool
  | .call c => c.disturbs
  | _ => false

/-- The event changes nothing of the cooperation, and its peer sees nothing of it. -/
structure Undisturbed (env : Env) (event : CooperateEvent) (m : Cooperate) : Prop where
  current : (step env event m).machine.current = m.machine.current
  inStep : (step env event m).machine.inStep = m.machine.inStep
  peer : (step env event m).peer = m.peer
  builder : (step env event m).context.inputEventBuilder = m.context.inputEventBuilder
  interceptor : (step env event m).context.inputEventInterceptor = m.context.inputEventInterceptor
  calls : ∀ e ∈ (step env event m).effects, e.disturbs = false
  silent : (step env event m).outputs.filter (Output.reaches m.peer) = []

/-! ## Runs -/

/-- The state after a run, each event with the answers of its surroundings. -/
def runAll (trace : List (Env × CooperateEvent)) (m : Cooperate) : Cooperate :=
  trace.foldl (fun m l => step l.1 l.2 m) m

/-- What the events of a run send to a peer or do to the session with it. -/
def seenBy (networkId : NetworkId) : List (Env × CooperateEvent) → Cooperate → List Output
  | [], _ => []
  | l :: trace, m =>
    (step l.1 l.2 m).outputs.filter (Output.reaches networkId) ++
      seenBy networkId trace (step l.1 l.2 m)

theorem seenBy_append (networkId : NetworkId) (trace trace' : List (Env × CooperateEvent))
    (m : Cooperate) :
    seenBy networkId (trace ++ trace') m =
      seenBy networkId trace m ++ seenBy networkId trace' (runAll trace m) := by
  induction trace generalizing m with
  | nil => rfl
  | cons l trace ih =>
    rw [List.cons_append, seenBy, seenBy, ih, List.append_assoc]
    rfl

/-! ## The refusal -/

section Refusal

variable {env : Env} {event : CooperateEvent} {m : Cooperate} {s : RemoteStart}

/-- The current state gets a STOP in place of the message. -/
theorem step_refused (h : Refused env event m s) :
    step env event m =
      StateMachine.transfer env (.stop { isUnchained := true }) { m with effects := [] } := by
  have refuse (event : CooperateEvent) (m : Cooperate) :
      StateMachine.acceptRemoteStart env s.originNetworkId s.userId s.accountId event m =
        StateMachine.transfer env (.stop { isUnchained := true }) m := by
    rw [StateMachine.acceptRemoteStart, h.otherAccount]; rfl
  have start := h.start
  cases event with
  | dsoftbusStartCooperate event => cases start; exact refuse ..
  | dsoftbusCooperateWithOptions event => cases start; exact refuse ..
  | _ => cases start

/-- The cooperation is left as for a stop request of a client. -/
theorem leftOnce_refused (h : Refused env event m s) : LeftOnce env m (step env event m) := by
  have untouched : Unmarked m { m with effects := [] } := .of_eq _ rfl rfl rfl
  rw [step_refused h]
  exact leftOnce_transfer_stop untouched h.cooperating _

theorem reaches_of_stopsSent {outputs : List Output} {networkId : NetworkId}
    (h : networkId ∈ stopsSent outputs) : outputs.filter (Output.reaches networkId) ≠ [] := by
  obtain ⟨o, mem, stop⟩ := List.mem_filterMap.mp h
  have reaches : o.reaches networkId = true := by
    cases o with
    | packet id packet => cases packet <;> simp_all [Output.reaches]
    | closeSession id => simp_all [Output.reaches]
    | _ => cases stop
  exact List.ne_nil_of_mem (List.mem_filter.mpr ⟨mem, reaches⟩)

/-- The peer sees the refusal of the third device's message. -/
theorem peer_sees_refused (h : Refused env event m s) :
    (step env event m).outputs.filter (Output.reaches m.peer) ≠ [] := by
  apply reaches_of_stopsSent
  rw [(leftOnce_refused h).stop]
  exact List.mem_singleton_self _

theorem current_of_stop (m : Cooperate) (param : StopCooperateEvent)
    (h : m.machine.current ≠ .free) :
    (StateMachine.transfer env (.stop param) m).machine.current = .free := by
  change (obs (StateMachine.transfer env (.stop param) m)).current = .free
  unfold StateMachine.transfer
  cases hs : m.machine.current with
  | free => exact absurd hs h
  | out =>
    change (obs (Out.onStop env param m)).current = .free
    simp only [Out.onStop, obs_unchainConnections, obs_stopCooperateFinish, obs_out_stopCooperate]
    rfl
  | «in» =>
    change (obs (In.onEvent env (.stop param) m)).current = .free
    unfold In.onEvent
    cases m.machine.inStep with
    | initial =>
      change (obs (In.Initial.onStop env param m)).current = .free
      simp only [In.Initial.onStop, obs_unchainConnections, obs_stopCooperateFinish,
        obs_in_stopCooperate]
      rfl
    | relayConfirmation =>
      change (obs (In.RelayConfirmation.onStop env param m)).current = .free
      simp only [In.RelayConfirmation.onStop, In.RelayConfirmation.onReset,
        obs_unchainConnections, obs_reset, obs_in_stopCooperate]
      rfl

end Refusal

/-- Whatever has happened before, a refused start message ends the cooperation with a peer that
has nothing to do with it: it leads to FREE, and the peer sees it. -/
theorem refusedStart_disturbs (trace : List (Env × CooperateEvent)) (start : Cooperate) (env : Env)
    (event : CooperateEvent) (s : RemoteStart) (h : Refused env event (runAll trace start) s) :
    ¬ Undisturbed env event (runAll trace start) ∧
      (step env event (runAll trace start)).machine.current = .free ∧
      seenBy (runAll trace start).peer (trace ++ [(env, event)]) start ≠
        seenBy (runAll trace start).peer trace start := by
  have sees := peer_sees_refused h
  refine ⟨fun undisturbed => sees undisturbed.silent, ?_, ?_⟩
  · rw [step_refused h]
    exact current_of_stop _ _ h.cooperating
  · rw [seenBy_append, seenBy, seenBy, List.append_nil]
    intro same
    exact sees (List.append_right_eq_self.mp same)

/-- The device that plays IN to `[2]`. -/
def toldByTwo : List (Env × CooperateEvent) :=
  [({ localNetworkId := [1] }, .enable { tokenId := 0, pid := 7, userData := 0 }),
    ({ localNetworkId := [1] }, .dsoftbusStartCooperate
      { networkId := [2], originNetworkId := [2], success := true })]

/-- The start message of a device of another account. -/
def startOfThree : DSoftbusStartCooperate :=
  { networkId := [3], originNetworkId := [3], success := true }

theorem refusedStart_disturbs_in :
    let env : Env := { localNetworkId := [1], checkSameAccountToLocal := fun id => id ≠ [3] }
    let event := CooperateEvent.dsoftbusStartCooperate startOfThree
    ¬ Undisturbed env event (runAll toldByTwo {}) ∧
      (step env event (runAll toldByTwo {})).machine.current = .free ∧
      seenBy (runAll toldByTwo {}).peer (toldByTwo ++ [(env, event)]) {} ≠
        seenBy (runAll toldByTwo {}).peer toldByTwo {} :=
  refusedStart_disturbs toldByTwo {} _ _ ⟨[3], [3], startOfThree.userId, startOfThree.accountId⟩
    { start := rfl
      cooperating := by decide +kernel
      notPeer := by decide +kernel
      otherAccount := rfl }

/-- The message of `[3]` stops the cooperation with `[2]`. -/
theorem refusedStart_stops :
    let env : Env := { localNetworkId := [1], checkSameAccountToLocal := fun id => id ≠ [3] }
    let event := CooperateEvent.dsoftbusStartCooperate startOfThree
    let m := runAll toldByTwo {}
    m.machine.current = .in ∧ m.peer = [2] ∧
      StateMachine.checkSameAccount env [3] startOfThree.userId startOfThree.accountId = false ∧
      (step env event m).machine.current = .free ∧
      stopsSent (step env event m).outputs = [[2]] ∧ ¬ Undisturbed env event m := by
  intro env event m
  have isIn : m.machine.current = .in := by decide +kernel
  have free : (step env event m).machine.current = .free := by decide +kernel
  refine ⟨isIn, by decide +kernel, rfl, free, by decide +kernel, fun undisturbed => ?_⟩
  have same := undisturbed.current
  rw [free, isIn] at same
  cases same

end DeviceStatus.Cooperation
