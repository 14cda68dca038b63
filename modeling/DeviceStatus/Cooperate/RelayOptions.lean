import DeviceStatus.Cooperate.Invariants

/-!
# Relays with options

A WITH_OPTIONS_START for a third device is relayed like a START: the request goes to the peer,
the peer answers, and the target is started. `CompletedRelay` is one such relay, with any
events in between. The request leaves through the plain RELAY_COOPERATE, so the answer and
the start message are plain ones too, and the options never reach the target.

## Main definitions

* `CompletedRelay` — a relay with options from its request to its normal response.
* `CompletedRelay.HandledWithOptions`, `CompletedRelay.OptionsReachTarget` — what is expected
  of it.
-/

namespace DeviceStatus.Cooperation

open Observed

theorem mem_sendOutputs {env : Env} {sent : ℕ} {networkId networkId' : NetworkId}
    {packet packet' : DSoftbusPacket}
    (h : .packet networkId' packet' ∈ DSoftbusHandler.sendOutputs env sent networkId packet) :
    networkId' = networkId ∧ packet' = packet := by
  unfold DSoftbusHandler.sendOutputs at h
  split at h
  · simp at h
  · split at h
    · simpa using h
    · simp at h

namespace Observed

variable {env : Env} {u : Unseen} {request : DSoftbusPacket} {e : CooperateEvent}
  {o o' : Observed} {networkId : NetworkId} {packet : DSoftbusPacket}

theorem not_mem_answers (success : Bool) (errCode : Int32) (o : Observed) :
    .packet networkId packet ∉ o.answers success errCode := by
  unfold answers
  cases o.pending <;> simp

/-- On entering `RelayConfirmation` the peer is asked by a plain RELAY_COOPERATE. -/
theorem InMove.relay_packet (h : InMove env e o o') (hs : o.inStep = .initial)
    (entered : o'.inStep = .relayConfirmation)
    (hp : .packet networkId packet ∈ o'.outputs) (hn : .packet networkId packet ∉ o.outputs) :
    ∃ notice, packet = DSoftbusHandler.relayPacket notice := by
  cases h with
  | relay r notice =>
    simp only [out, send, confirm, register, List.append_assoc, List.mem_append] at hp
    rcases hp with hp | hp | hp
    · exact absurd hp hn
    · exact ⟨notice, (mem_sendOutputs hp).2⟩
    · simp at hp
  | _ => simp_all [stopIn, bind, register, send, out, goto, finish_eq, disableBuilder,
      updateBuilder, confirm, reset, comeBackFinish_eq]

/-- RELAY_COOPERATE is answered by a plain RELAY_COOPERATE_FINISHED, if at all. -/
theorem Transfer.relay_answer {n : DSoftbusRelayCooperate}
    (h : Transfer env request (.dsoftbusRelayCooperate n) o o')
    (hp : .packet networkId packet ∈ o'.outputs) (hn : .packet networkId packet ∉ o.outputs) :
    ∃ notice, packet = DSoftbusHandler.relayFinishPacket notice := by
  have ignored (ho : o' = o) : False := hn (ho ▸ hp)
  unfold Transfer at h
  split at h
  case h_1 => exact (ignored (h.idle rfl rfl)).elim
  case h_2 =>
    have ho := h.of_relay rfl
    split_ifs at ho
    · simp only [ho, send, out, bind, updateInterceptor, List.mem_append] at hp
      exact ⟨_, (mem_sendOutputs (hp.resolve_left hn)).2⟩
    · simp only [ho, send, out, List.mem_append] at hp
      exact ⟨_, (mem_sendOutputs (hp.resolve_left hn)).2⟩
    · exact (ignored ho).elim
  case h_3 => exact (ignored (h.of_relay rfl)).elim
  case h_4 => exact (ignored (h.of_relay rfl)).elim

/-- A plain response starts the target without options. -/
theorem Transfer.response_packet {n : DSoftbusRelayCooperateFinished}
    (h : Transfer env request (.dsoftbusRelayCooperateFinished n) o o')
    (hp : .packet networkId packet ∈ o'.outputs) (hn : .packet networkId packet ∉ o.outputs) :
    packet = .stopCooperate ∨ ∃ notice, packet = DSoftbusHandler.startPacket notice := by
  have ignored (ho : o' = o) : False := hn (ho ▸ hp)
  unfold Transfer at h
  split at h
  case h_1 => exact (ignored (h.idle rfl rfl)).elim
  case h_2 => exact (ignored (h.of_finished rfl)).elim
  case h_3 => exact (ignored (h.of_finished rfl)).elim
  case h_4 =>
    rcases h.of_finished rfl with ⟨-, ho⟩ | ⟨-, -, p, hs, ho⟩ | ⟨-, -, ho⟩
    · exact (ignored ho).elim
    · obtain ⟨notice, -, -, rfl⟩ := hs
      simp only [ho, send, out, disableBuilder, finish_eq, goto, reset, List.mem_append] at hp
      rcases hp with ((hp | hp) | hp) | hp
      · exact absurd hp hn
      · simp at hp
      · exact .inr ⟨notice, (mem_sendOutputs hp).2⟩
      · exact (not_mem_answers _ _ _ hp).elim
    · simp only [ho, stopIn, send, out, disableBuilder, finish_eq, goto, reset,
        List.mem_append] at hp
      rcases hp with ((hp | hp) | hp) | hp
      · exact absurd hp hn
      · simp at hp
      · exact (not_mem_answers _ _ _ hp).elim
      · exact .inl (mem_sendOutputs hp).2

end Observed

/-- A relay with options, from the request on a device that is IN to the response that
completes it. Both peers run this code; anything may happen in between, as long as the sink
still waits for the response. -/
structure CompletedRelay where
  sinkNetworkId : NetworkId
  sink : Cooperate
  request : StartWithOptionsEvent
  requestEnv : Env
  current : sink.machine.current = .in
  initial : sink.machine.inStep = .initial
  entered : (step requestEnv (.withOptionsStart request) sink).machine.inStep =
    .relayConfirmation
  /-- what the sink sends to its peer -/
  relay : DSoftbusPacket
  sent : .packet sink.peer relay ∈ (step requestEnv (.withOptionsStart request) sink).outputs
  /-- the OUT device, and what it answers -/
  source : Cooperate
  sourceEnv : Env
  answer : DSoftbusPacket
  answered : .packet sinkNetworkId answer ∈
    (step sourceEnv (relay.onPacket sinkNetworkId) source).outputs
  meanwhile : List Stimulus
  waiting : (after (step requestEnv (.withOptionsStart request) sink)
    meanwhile).machine.inStep = .relayConfirmation
  responseEnv : Env
  normal : answer.grantsRelay = true

namespace CompletedRelay

/-- The event that completes the relay on the sink. -/
def response (r : CompletedRelay) : CooperateEvent :=
  r.answer.onPacket r.sink.peer

/-- The sink after the response. -/
def completed (r : CompletedRelay) : Cooperate :=
  step r.responseEnv r.response
    (after (step r.requestEnv (.withOptionsStart r.request) r.sink) r.meanwhile)

/-- `OnResponseWithOptions` handles the response. -/
def HandledWithOptions (r : CompletedRelay) : Prop :=
  ∃ n, r.response = .dsoftbusRelayCooperateWithOptionsFinished n

/-- The target is sent COOPERATE_WITH_OPTIONS with the options of the request. -/
def OptionsReachTarget (r : CompletedRelay) : Prop :=
  ∃ notice : DSoftbusCooperateOptions,
    notice.cooperateOptions =
      { displayX := r.request.displayX, displayY := r.request.displayY
        displayId := r.request.displayId } ∧
    .packet r.request.remoteNetworkId (DSoftbusHandler.startWithOptionsPacket notice) ∈
      r.completed.outputs

theorem relay_plain (r : CompletedRelay) :
    ∃ notice, r.relay = DSoftbusHandler.relayPacket notice := by
  have hm := step_move r.requestEnv r.sink (.withOptionsStart r.request)
  rcases hm.of_request rfl with ⟨value, -, ho⟩ | ⟨-, -, ht⟩
  · have hi := congrArg Observed.inStep ho
    have hi : InStep.relayConfirmation = r.sink.machine.inStep := r.entered.symm.trans hi
    simp [r.initial] at hi
  · exact (ht.of_in r.current r.initial).relay_packet r.initial r.entered r.sent (by simp [out])

theorem answer_plain (r : CompletedRelay) :
    ∃ notice, r.answer = DSoftbusHandler.relayFinishPacket notice := by
  obtain ⟨notice, hr⟩ := r.relay_plain
  have ha := r.answered
  rw [hr] at ha
  exact ((step_move r.sourceEnv r.source _).of_isPassedOn rfl rfl).relay_answer ha (by simp)

/-- The response and whatever the sink sends on it are plain. -/
theorem completed_plain (r : CompletedRelay) :
    (∃ n, r.response = .dsoftbusRelayCooperateFinished n) ∧
    ∀ networkId packet, .packet networkId packet ∈ r.completed.outputs →
      packet = .stopCooperate ∨ ∃ notice, packet = DSoftbusHandler.startPacket notice := by
  obtain ⟨notice, ha⟩ := r.answer_plain
  have hr : ∃ n, r.response = .dsoftbusRelayCooperateFinished n :=
    ⟨_, by rw [response, ha]; rfl⟩
  refine ⟨hr, fun networkId packet hp => ?_⟩
  obtain ⟨n, hr⟩ := hr
  rw [completed, hr] at hp
  exact ((step_move r.responseEnv _ _).of_isPassedOn rfl rfl).response_packet hp (by simp)

/-- No relay with options that completes keeps them: the plain handler takes the response, and
the target never sees COOPERATE_WITH_OPTIONS. -/
theorem never_keeps_options (r : CompletedRelay) :
    ¬ r.HandledWithOptions ∧ ¬ r.OptionsReachTarget := by
  obtain ⟨⟨n, hr⟩, hp⟩ := r.completed_plain
  constructor
  · rintro ⟨n', hr'⟩
    rw [hr] at hr'
    cases hr'
  · rintro ⟨notice, -, hn⟩
    rcases hp _ _ hn with h | ⟨notice', h⟩ <;> cases h

end CompletedRelay

/-- Device A is the sink of B and is asked to go on to C with options. -/
def relayToC : CompletedRelay where
  sinkNetworkId := [65]
  sink := { machine := { current := .in }, context := { remoteNetworkId := [66] } }
  request := { remoteNetworkId := [67], displayX := 30, displayY := 40, displayId := 1 }
  requestEnv := { localNetworkId := [65] }
  current := rfl
  initial := rfl
  entered := by decide
  relay := .relayCooperate [67] 10 10 0 (-1) [] true
  sent := .tail _ (.head _)
  source := { machine := { current := .out }, context := { remoteNetworkId := [65] } }
  sourceEnv := { localNetworkId := [66] }
  answer := .relayCooperateFinished [67] true 0
  answered := .head _
  meanwhile := []
  waiting := by decide
  responseEnv := { localNetworkId := [65] }
  normal := rfl

theorem relayToC_drops_options :
    ¬ (relayToC.HandledWithOptions ∧ relayToC.OptionsReachTarget) := by
  rintro ⟨⟨n, hn⟩, -⟩
  cases hn

end DeviceStatus.Cooperation
