import DeviceStatus.Cooperate.Answers
import DeviceStatus.Cooperate.Network
import DeviceStatus.Cooperate.PacketRoundTrip

/-!
# What an event puts out

Every packet, event and timer that a device puts out while it processes an event, with where it
comes from. The network ids in a packet are those of the device, its peer and the target of its
relay, and those in the event.

## Main definitions

* `Observed.Emission` — the outputs that an event can have.
* `Observed.sources` — the network ids that a device knows of while it processes an event.
-/

namespace DeviceStatus.Cooperation

/-- The network id that a packet names. -/
def DSoftbusPacket.id? : DSoftbusPacket → Option NetworkId
  | .startCooperate origin .. | .comeBack origin .. | .comeBackWithOptions origin ..
  | .cooperateWithOptions origin .. => some origin
  | .relayCooperate target .. | .relayCooperateFinished target ..
  | .relayCooperateWithOptions target .. | .relayCooperateWithOptionsFinished target _ =>
      some target
  | .stopCooperate => none

/-- The account that a packet carries. -/
def DSoftbusPacket.account? : DSoftbusPacket → Option StdString
  | .startCooperate _ _ _ _ _ _ _ _ accountId _ | .relayCooperate _ _ _ _ _ accountId _
  | .cooperateWithOptions _ _ _ _ _ _ _ accountId _
  | .relayCooperateWithOptions _ _ _ _ accountId _ => some accountId
  | _ => none

theorem DSoftbusPacket.mem_strings {packet : DSoftbusPacket} {s : StdString}
    (h : s ∈ packet.strings) : packet.id? = some s ∨ packet.account? = some s := by
  cases packet <;> simp_all [strings, id?, account?] <;> grind

namespace CooperateEvent

/-- The network ids that the peer of a device, or the target of its relay, may be after the
event. -/
def named (e : CooperateEvent) : List NetworkId :=
  (e.request?.map (·.call.networkId)).toList ++ (e.remoteStart?.map (·.originNetworkId)).toList ++
    (e.comeBack?.map Prod.snd).toList ++ (e.relay?.map (·.1.targetNetworkId)).toList

/-- A message for the initial step of IN, which is put off when a relay is being confirmed. -/
def isDeferrable : CooperateEvent → Bool
  | .dsoftbusStartCooperate _ | .dsoftbusCooperateWithOptions _ | .dsoftbusStopCooperate _ => true
  | _ => false

theorem request_of_isDeferrable {e : CooperateEvent} (h : e.isDeferrable = true) :
    e.request? = none := by
  cases e <;> first | rfl | cases h

end CooperateEvent

namespace Observed

variable {env : Env} {u : Unseen} {request : DSoftbusPacket} {e : CooperateEvent}
  {o o' : Observed} {x : Output}

def sources (env : Env) (e : CooperateEvent) (o : Observed) : List NetworkId :=
  env.localNetworkId :: o.peer :: o.process :: e.named

inductive Emission (env : Env) (e : CooperateEvent) (o : Observed) : Output → Prop
  | packet (receiver : NetworkId) (packet : DSoftbusPacket) (sent : ℕ)
      (fits : packet.chkRWError = false) (taken : env.sendPacket sent receiver packet = RET_OK)
      (ids : ∀ networkId ∈ packet.id?, networkId ∈ o.sources env e)
      (account : ∀ accountId ∈ packet.account?, accountId = [] ∨ e.request? ≠ none) :
      Emission env e o (.packet receiver packet)
  | closeSession (receiver : NetworkId) (packet : DSoftbusPacket) (sent : ℕ)
      (fits : packet.chkRWError = false) (refused : env.sendPacket sent receiver packet ≠ RET_OK) :
      Emission env e o (.closeSession receiver)
  | sessionClosed (networkId : NetworkId) (packet : DSoftbusPacket) (sent : ℕ)
      (fits : packet.chkRWError = false) (refused : env.sendPacket sent networkId packet ≠ RET_OK) :
      Emission env e o (.event (.dsoftbusSessionClosed { networkId }))
  /-- the event is put off -/
  | again (h : e.isDeferrable = true) : Emission env e o (.event e)
  | later (timerId : Int32) (h : e.isDeferrable = true) :
      Emission env e o (.addTimer timerId DEFAULT_COOLING_TIME e)
  | relayTimeout (timerId : Int32) :
      Emission env e o (.addTimer timerId DEFAULT_TIMEOUT (relayTimeout e o.peer))
  | removeTimer (timerId : Int32) : Emission env e o (.removeTimer timerId)
  | answer (notice : CooperateNotice) : Emission env e o (.answer notice)

theorem emission_of_send {sent : ℕ} {receiver : NetworkId} {packet : DSoftbusPacket}
    (h : x ∈ DSoftbusHandler.sendOutputs env sent receiver packet)
    (ids : ∀ networkId ∈ packet.id?, networkId ∈ o.sources env e)
    (account : ∀ accountId ∈ packet.account?, accountId = [] ∨ e.request? ≠ none) :
    Emission env e o x := by
  unfold DSoftbusHandler.sendOutputs at h
  split at h
  case isTrue => cases h
  case isFalse fits =>
    have fits : packet.chkRWError = false := by simpa using fits
    split at h
    case isTrue taken =>
      obtain rfl := List.mem_singleton.mp h
      exact .packet receiver packet sent fits taken ids account
    case isFalse refused =>
      rcases List.mem_pair.mp h with rfl | rfl
      · exact .closeSession receiver packet sent fits refused
      · exact .sessionClosed receiver packet sent fits refused

theorem emission_of_naming {sent : ℕ} {receiver networkId : NetworkId} {packet : DSoftbusPacket}
    (h : x ∈ DSoftbusHandler.sendOutputs env sent receiver packet)
    (named : packet.id? = some networkId) (known : networkId ∈ o.sources env e)
    (account : ∀ accountId ∈ packet.account?, accountId = [] ∨ e.request? ≠ none) :
    Emission env e o x := by
  refine emission_of_send h ?_ account
  intro id hid
  cases named.symm.trans hid
  exact known

theorem emission_of_stop {sent : ℕ} {receiver : NetworkId}
    (h : x ∈ DSoftbusHandler.sendOutputs env sent receiver .stopCooperate) :
    Emission env e o x :=
  emission_of_send h (by rintro _ ⟨⟩) (by rintro _ ⟨⟩)

theorem emission_of_answers {success : Bool} {errCode : Int32} {o₁ : Observed}
    (h : x ∈ o₁.answers success errCode) : Emission env e o x := by
  obtain ⟨call, -, rfl⟩ := Option.map_eq_some_iff.mp (Option.mem_toList.mp h)
  exact .answer _

@[simp] theorem localNetworkId_mem_sources : env.localNetworkId ∈ o.sources env e := by
  simp [sources]

@[simp] theorem peer_mem_sources : o.peer ∈ o.sources env e := by
  simp [sources]

@[simp] theorem process_mem_sources : o.process ∈ o.sources env e := by
  simp [sources]

theorem request_mem_sources {r : StartRequest} (h : e.request? = some r) :
    r.call.networkId ∈ o.sources env e := by
  simp [sources, CooperateEvent.named, h]

theorem relay_mem_sources {n : DSoftbusRelayCooperate} {withOptions : Bool}
    (h : e.relay? = some (n, withOptions)) : n.targetNetworkId ∈ o.sources env e := by
  simp [sources, CooperateEvent.named, h]

theorem IsComeBack.id {origin : NetworkId} {packet : DSoftbusPacket}
    (h : IsComeBack origin e packet) : packet.id? = some origin := by
  cases e with
  | start | withOptionsStart =>
    obtain ⟨notice, rfl, rfl⟩ := h
    rfl
  | _ => exact h.elim

theorem IsRelayedStart.id {origin : NetworkId} {withOptions : Bool} {packet : DSoftbusPacket}
    (h : IsRelayedStart origin withOptions packet) : packet.id? = some origin := by
  cases withOptions with
  | false | true =>
    obtain ⟨notice, rfl, -, rfl⟩ := h
    rfl

theorem IsRelayedStart.account {origin : NetworkId} {withOptions : Bool}
    {packet : DSoftbusPacket} (h : IsRelayedStart origin withOptions packet) :
    ∀ accountId ∈ packet.account?, accountId = [] ∨ e.request? ≠ none := by
  cases withOptions with
  | false | true =>
    obtain ⟨notice, -, account, rfl⟩ := h
    rintro _ ⟨⟩
    exact .inl account

theorem FreeMove.emission (h : FreeMove env request e o o') (hx : x ∈ o'.outputs) :
    x ∈ o.outputs ∨ Emission env e o x := by
  cases h with
  | ignore | offline => exact .inl hx
  | refuse | noSession =>
    simp only [ask, bind, register, out, finish_eq, motionDragAnswer, List.mem_append,
      List.mem_singleton] at hx
    grind [Emission, emission_of_answers]
  | notSent notice origin | noInterceptor notice origin =>
    simp only [ask, bind, register, out, send, enableInterceptor_eq, List.mem_append] at hx
    rcases hx with hx | hx
    · exact .inl hx
    · exact .inr (emission_of_naming hx (congrArg some origin) (by simp)
        fun _ _ => .inr (Option.some_ne_none _))
  | started notice origin | startedWithOptions notice origin =>
    simp only [ask, begin, bind, register, out, send, finish_eq, enableInterceptor_eq, goto,
      List.mem_append] at hx
    rcases hx with (hx | hx) | hx
    · exact .inl hx
    · exact .inr (emission_of_naming hx (congrArg some origin) (by simp)
        fun _ _ => .inr (Option.some_ne_none _))
    · exact .inr (emission_of_answers hx)
  | remoteStart =>
    rw [enableBuilder_eq] at hx
    exact .inl hx

theorem OutMove.emission (h : OutMove env e o o') (hx : x ∈ o'.outputs) :
    x ∈ o.outputs ∨ Emission env e o x := by
  cases h with
  | ignore | comeBack | remoteStop => exact .inl hx
  | stop | remoteStart =>
    simp only [stopOut, disableInterceptor, bind, out, send, enableBuilder_eq, goto,
      List.mem_append] at hx
    exact hx.imp_right emission_of_stop
  | unplug =>
    simp only [stopOut, disableInterceptor, out, send, goto, List.mem_append] at hx
    rcases hx with (hx | hx) | hx
    · exact .inl hx
    · exact .inr (emission_of_stop hx)
    · exact .inr (emission_of_stop hx)
  | refuse =>
    rcases List.mem_append.mp hx with hx | hx
    · exact .inl hx
    · cases List.mem_singleton.mp hx
      exact .inr (.answer _)
  | busy =>
    rw [finish_eq] at hx
    exact (List.mem_append.mp hx).imp_right emission_of_answers
  | relayFail withOptions he | relay withOptions he =>
    simp only [bind, out, send, updateInterceptor, List.mem_append] at hx
    refine hx.imp_right fun sent => emission_of_naming sent ?_ (relay_mem_sources he) ?_
    · cases withOptions <;> rfl
    · cases withOptions <;> rintro _ ⟨⟩

theorem InMove.emission (h : InMove env e o o') (hx : x ∈ o'.outputs) :
    x ∈ o.outputs ∨ Emission env e o x := by
  cases h with
  | ignore | remoteStop => exact .inl hx
  | stop | remoteStart =>
    simp only [stopIn, disableBuilder, bind, out, send, updateBuilder, goto,
      List.mem_append] at hx
    exact hx.imp_right emission_of_stop
  | refuse =>
    rcases List.mem_append.mp hx with hx | hx
    · exact .inl hx
    · cases List.mem_singleton.mp hx
      exact .inr (.answer _)
  | toLocal | relayFail =>
    simp only [confirm, register, finish_eq, reset, List.mem_append] at hx
    exact hx.imp_right emission_of_answers
  | comeBack r packet hr drag notLocal peer isComeBack =>
    simp only [register, disableBuilder, out, send, comeBackFinish_eq, goto,
      List.mem_append] at hx
    rcases hx with (hx | hx) | hx
    · exact .inl hx
    · exact .inr (emission_of_naming hx isComeBack.id (by simp) fun _ _ => .inr (by simp [hr]))
    · exact .inr (emission_of_answers hx)
  | relay r notice hr _ _ _ _ target =>
    simp only [confirm, register, out, send, List.mem_append, List.mem_singleton] at hx
    rcases hx with (hx | hx) | rfl
    · exact .inl hx
    · exact .inr (emission_of_naming hx (congrArg some target) (request_mem_sources hr)
        fun _ _ => .inr (by simp [hr]))
    · exact .inr (.relayTimeout _)

theorem RelayMove.emission (h : RelayMove env e o o') (hx : x ∈ o'.outputs) :
    x ∈ o.outputs ∨ Emission env e o x := by
  cases h with
  | ignore => exact .inl hx
  | stop =>
    simp only [stopIn, disableBuilder, out, send, goto, reset, List.mem_append] at hx
    exact hx.imp_right emission_of_stop
  | lose =>
    simp only [stopIn, disableBuilder, out, send, goto, finish_eq, reset, List.mem_append] at hx
    rcases hx with (hx | hx) | hx
    · exact .inl hx
    · exact .inr (emission_of_stop hx)
    · exact .inr (emission_of_answers hx)
  | loseTarget =>
    simp only [finish_eq, reset, List.mem_append] at hx
    exact hx.imp_right emission_of_answers
  | crossing =>
    simp only [out, finish_eq, reset, List.mem_append, List.mem_singleton] at hx
    rcases hx with (hx | rfl) | hx
    · exact .inl hx
    · exact .inr (.again rfl)
    · exact .inr (emission_of_answers hx)
  | crossingWithOptions | remoteStop =>
    simp only [out, reset, List.mem_append, List.mem_singleton] at hx
    rcases hx with hx | rfl
    · exact .inl hx
    · exact .inr (.again rfl)
  | defer s hs =>
    simp only [out, List.mem_append, List.mem_singleton] at hx
    rcases hx with hx | rfl
    · exact .inl hx
    · refine .inr (.later _ ?_)
      cases e <;> first | rfl | cases hs
  | done withOptions packet he peer normal isStart =>
    simp only [out, disableBuilder, send, finish_eq, goto, reset, List.mem_append,
      List.mem_singleton] at hx
    rcases hx with ((hx | rfl) | hx) | hx
    · exact .inl hx
    · exact .inr (.removeTimer _)
    · exact .inr (emission_of_naming hx isStart.id (by simp) isStart.account)
    · exact .inr (emission_of_answers hx)
  | failed =>
    simp only [stopIn, disableBuilder, out, send, finish_eq, goto, reset, List.mem_append,
      List.mem_singleton] at hx
    rcases hx with ((hx | rfl) | hx) | hx
    · exact .inl hx
    · exact .inr (.removeTimer _)
    · exact .inr (emission_of_answers hx)
    · exact .inr (emission_of_stop hx)

theorem Transfer.emission (h : Transfer env request e o o') (hx : x ∈ o'.outputs) :
    x ∈ o.outputs ∨ Emission env e o x := by
  unfold Transfer at h
  split at h
  case h_1 => exact h.emission hx
  case h_2 => exact h.emission hx
  case h_3 => exact h.emission hx
  case h_4 => exact h.emission hx

/-- Emissions depend on the device through its peer and the target of its relay only. -/
theorem Emission.congr {o₁ : Observed} (h : Emission env e o₁ x) (peer : o₁.peer = o.peer)
    (process : o₁.process = o.process) : Emission env e o x := by
  have same : o₁.sources env e = o.sources env e := by rw [sources, sources, peer, process]
  cases h with
  | packet receiver packet sent fits taken ids account =>
    exact .packet receiver packet sent fits taken (same ▸ ids) account
  | closeSession receiver packet sent fits refused =>
    exact .closeSession receiver packet sent fits refused
  | sessionClosed networkId packet sent fits refused =>
    exact .sessionClosed networkId packet sent fits refused
  | again deferrable => exact .again deferrable
  | later timerId deferrable => exact .later timerId deferrable
  | relayTimeout timerId => exact peer ▸ .relayTimeout timerId
  | removeTimer timerId => exact .removeTimer timerId
  | answer notice => exact .answer notice

/-- The emissions of an event that the state machine hands on in another form. -/
theorem Emission.replace {e' : CooperateEvent} (h : Emission env e' o x)
    (handled : e'.isDeferrable = false) (named : e'.named = []) (noRequest : e'.request? = none)
    (timeout : Observed.relayTimeout e' o.peer = Observed.relayTimeout e o.peer) :
    Emission env e o x := by
  cases h with
  | packet receiver packet sent fits taken ids account =>
    refine .packet receiver packet sent fits taken (fun networkId id => ?_) fun accountId has => ?_
    · have known := ids networkId id
      simp only [sources, named] at known ⊢
      grind
    · exact .inl ((account accountId has).resolve_right (by simp [noRequest]))
  | closeSession receiver packet sent fits refused =>
    exact .closeSession receiver packet sent fits refused
  | sessionClosed networkId packet sent fits refused =>
    exact .sessionClosed networkId packet sent fits refused
  | again deferrable => simp [handled] at deferrable
  | later timerId deferrable => simp [handled] at deferrable
  | relayTimeout timerId => exact timeout ▸ .relayTimeout timerId
  | removeTimer timerId => exact .removeTimer timerId
  | answer notice => exact .answer notice

/-- Everything that an event puts out: its emissions, and the promise of a start request. -/
theorem Move.emission (h : Move env u e o o') (hx : x ∈ o'.outputs) :
    x ∈ o.outputs ∨ Emission env e o x ∨
      ∃ r value, e.request? = some r ∧ x = .errCode r.errCode value := by
  cases h with
  | keep => exact .inl hx
  | pass _ ht | gateOpen _ _ _ ht => exact (ht.emission hx).imp_right .inl
  | pointer position ht =>
    refine (ht.emission hx).imp_right fun emitted => .inl (emitted.replace rfl rfl rfl rfl)
  | enable ht | disable ht =>
    exact (ht.emission hx).imp_right fun emitted => .inl (emitted.congr rfl rfl)
  | turnDown r value hr =>
    rcases List.mem_append.mp hx with hx | hx
    · exact .inl hx
    · exact .inr (.inr ⟨r, value, hr, List.mem_singleton.mp hx⟩)
  | accept r hr _ _ ht =>
    rcases ht.emission hx with hx | emitted
    · rcases List.mem_append.mp hx with hx | hx
      · exact .inl hx
      · exact .inr (.inr ⟨r, RET_OK, hr, List.mem_singleton.mp hx⟩)
    · exact .inr (.inl (emitted.congr rfl rfl))
  | gateClosed s hs _ ht =>
    refine (ht.emission hx).imp_right fun emitted => .inl (emitted.replace rfl rfl rfl ?_)
    cases e <;> first | rfl | cases hs

/-! ## The peer and the target of a relay -/

theorem Transfer.known (h : Transfer env request e o o') :
    o'.peer ∈ o.sources env e ∧ o'.process ∈ o.sources env e := by
  unfold Transfer at h
  split at h
  case h_1 =>
    cases h with
    | ignore => simp
    | refuse r hr | noSession r hr =>
      simp [ask, bind, register, out, finish_eq, request_mem_sources hr]
    | remoteStart s hs =>
      simp [bind, goto, enableBuilder_eq, sources, CooperateEvent.named, hs]
    | _ =>
      simp [ask, begin, bind, register, out, send, finish_eq, enableInterceptor_eq, goto, sources,
        CooperateEvent.named, CooperateEvent.request?]
  case h_2 =>
    cases h with
    | comeBack origin back =>
      simp [disableInterceptor, bind, goto, sources, CooperateEvent.named, back]
    | remoteStart s hs =>
      simp [disableInterceptor, bind, goto, send, out, enableBuilder_eq, sources,
        CooperateEvent.named, hs]
    | relay withOptions he =>
      simp [bind, send, out, updateInterceptor, relay_mem_sources he]
    | _ => simp [stopOut, disableInterceptor, register, out, send, finish_eq, goto]
  case h_3 =>
    cases h with
    | relay r notice hr | relayFail r hr =>
      simp [confirm, register, out, send, finish_eq, reset, request_mem_sources hr]
    | remoteStart s hs =>
      simp [bind, send, out, updateBuilder, sources, CooperateEvent.named, hs]
    | _ =>
      simp [stopIn, disableBuilder, register, out, send, finish_eq, comeBackFinish_eq, goto]
  case h_4 =>
    cases h <;> simp [stopIn, disableBuilder, out, send, finish_eq, goto, reset]

theorem Move.known (h : Move env u e o o') :
    o'.peer ∈ o.sources env e ∧ o'.process ∈ o.sources env e := by
  have fewer {e' : CooperateEvent} (named : e'.named = []) {networkId : NetworkId}
      (known : networkId ∈ o.sources env e') : networkId ∈ o.sources env e := by
    simp only [sources, named] at known ⊢
    grind
  cases h with
  | keep | turnDown => simp [out]
  | pass _ ht | gateOpen _ _ _ ht => exact ht.known
  | accept r _ _ _ ht => exact ht.known
  | pointer position ht | gateClosed _ _ _ ht => exact ht.known.imp (fewer rfl) (fewer rfl)
  | enable ht | disable ht => exact ht.known

end Observed

/-! ## A step of the code -/

open Observed

variable {env : Env} {e : CooperateEvent} {m : Cooperate}

theorem emission_of_mem_step {x : Output} (hx : x ∈ (step env e m).outputs) :
    Emission env e (obs m) x ∨ ∃ r value, e.request? = some r ∧ x = .errCode r.errCode value := by
  rcases (step_move env m e).emission hx with hx | emitted | promised
  · cases hx
  · exact .inl (emitted.congr rfl rfl)
  · exact .inr promised

theorem known_step :
    (step env e m).peer ∈ (obs m).sources env e ∧
      (step env e m).machine.process.remoteNetworkId ∈ (obs m).sources env e :=
  (step_move env m e).known

theorem mem_selfEvents {outputs : List Output} {event : CooperateEvent} :
    event ∈ selfEvents outputs ↔ .event event ∈ outputs := by
  simp only [selfEvents, List.mem_filterMap]
  constructor
  · rintro ⟨x, hx, shows⟩
    cases x <;> simp_all
  · intro h
    exact ⟨_, h, rfl⟩

theorem mem_packetsTo {outputs : List Output} {networkId : NetworkId} {packet : DSoftbusPacket} :
    packet ∈ packetsTo networkId outputs ↔ .packet networkId packet ∈ outputs := by
  simp only [packetsTo, List.mem_filterMap]
  constructor
  · rintro ⟨x, hx, shows⟩
    cases x <;> grind
  · intro h
    exact ⟨_, h, by simp⟩

/-! ## Accounts -/

namespace Observed

/-- No packet carries an account but that of this device. -/
def LocalAccount (env : Env) (outputs : List Output) : Prop :=
  ∀ receiver packet, .packet receiver packet ∈ outputs →
    ∀ accountId ∈ packet.account?, accountId = [] ∨ accountId = env.accountId

theorem LocalAccount.append {outputs outputs' : List Output} (h : LocalAccount env outputs)
    (h' : LocalAccount env outputs') : LocalAccount env (outputs ++ outputs') := by
  intro receiver packet hx
  rcases List.mem_append.mp hx with hx | hx
  · exact h receiver packet hx
  · exact h' receiver packet hx

theorem localAccount_send {sent : ℕ} {receiver : NetworkId} {packet : DSoftbusPacket}
    (account : ∀ accountId ∈ packet.account?, accountId = [] ∨ accountId = env.accountId) :
    LocalAccount env (DSoftbusHandler.sendOutputs env sent receiver packet) := by
  unfold DSoftbusHandler.sendOutputs
  split
  · simp [LocalAccount]
  · split
    · intro receiver' packet' hx
      cases List.mem_singleton.mp hx
      exact account
    · simp [LocalAccount]

theorem localAccount_answers {success : Bool} {errCode : Int32} {o : Observed} :
    LocalAccount env (o.answers success errCode) := by
  intro receiver packet hx
  obtain ⟨call, -, eq⟩ := Option.map_eq_some_iff.mp (Option.mem_toList.mp hx)
  cases eq

theorem FreeMove.localAccount_start {n : StartCooperateEvent} {o o' : Observed}
    {request : DSoftbusPacket} (h : FreeMove env request (.start n) o o')
    (account : ∀ accountId ∈ request.account?, accountId = [] ∨ accountId = env.accountId)
    (ho : LocalAccount env o.outputs) : LocalAccount env o'.outputs := by
  cases h with
  | ignore | offline => exact ho
  | refuse => exact ho.append (by simp [LocalAccount, motionDragAnswer])
  | noSession =>
    rw [finish_eq]
    exact ho.append localAccount_answers
  | notSent notice _ hp => exact ho.append (localAccount_send (hp ▸ account))
  | noInterceptor notice _ hp =>
    rw [enableInterceptor_eq]
    exact ho.append (localAccount_send (hp ▸ account))
  | started notice _ hp =>
    rw [begin, enableInterceptor_eq, finish_eq]
    exact (ho.append (localAccount_send (hp ▸ account))).append localAccount_answers
  | remoteStart s hs => cases hs

/-- In OUT, and while a relay is confirmed, a request sends nothing. -/
theorem OutMove.localAccount {o o' : Observed} {r : StartRequest} (h : OutMove env e o o')
    (hr : e.request? = some r) (ho : LocalAccount env o.outputs) :
    LocalAccount env o'.outputs := by
  rcases h.of_request hr with rfl | rfl
  · exact ho.append (by simp [LocalAccount, motionDragAnswer])
  · rw [finish_eq]
    exact ho.append localAccount_answers

/-- The packet of a relay request, in IN. -/
theorem InMove.localAccount {o o' : Observed} (h : InMove env e o o')
    (relayed : ∀ r, e.request? = some r → env.dragState ≠ .motionDragging →
      r.call.networkId ≠ env.localNetworkId → r.call.networkId ≠ o.peer →
      env.openSession r.call.networkId = RET_OK → LocalAccount env o'.outputs)
    (hr : e.request? ≠ none) (ho : LocalAccount env o.outputs) :
    LocalAccount env o'.outputs := by
  cases h with
  | ignore | remoteStop => exact ho
  | stop h => exact absurd (request_of_stopsIn h) hr
  | refuse => exact ho.append (by simp [LocalAccount, motionDragAnswer])
  | toLocal | relayFail =>
    simp only [confirm, register, finish_eq, reset]
    exact ho.append localAccount_answers
  | comeBack r packet _ _ _ _ isComeBack =>
    simp only [register, disableBuilder, out, send, comeBackFinish_eq, goto]
    refine (ho.append (localAccount_send ?_)).append localAccount_answers
    cases e with
    | start | withOptionsStart =>
      obtain ⟨notice, -, rfl⟩ := isComeBack
      rintro _ ⟨⟩
    | _ => exact isComeBack.elim
  | relay r notice hr drag notLocal notPeer session =>
    exact relayed r hr drag notLocal notPeer session
  | remoteStart s hs => exact absurd (request_of_remoteStart hs) hr

theorem localAccount_free_onStartWithOptions {n : StartWithOptionsEvent}
    (ho : LocalAccount env (obs m).outputs) :
    LocalAccount env (obs (Free.onStartWithOptions env n m)).outputs := by
  by_cases drag : env.dragState = .motionDragging
  · simp only [Free.onStartWithOptions, drag, if_true, obs_motionDragging,
      obs_startCallWithOptions, Context.obs_startCooperateWithOptions]
    exact ho.append (by simp [LocalAccount, motionDragAnswer])
  by_cases session : env.openSession n.remoteNetworkId = RET_OK
  swap
  · simp [Free.onStartWithOptions, drag, session, peer_eq, finish_eq]
    exact ho.append localAccount_answers
  simp only [Free.onStartWithOptions, drag, session, peer_eq,
    DSoftbusHandler.startCooperateWithOptions, obs_startCallWithOptions,
    Context.obs_startCooperateWithOptions, obs_openSession, peer_bind, peer_register,
    ne_eq, not_true, if_false]
  generalize hn : Free.startWithOptionsNotice env n _ _ = notice
  have account : notice.accountId = env.accountId := hn ▸ rfl
  simp only [Context.obs_onTransitionOut, obs_transiteTo, obs_startCooperateWithOptionsFinish,
    obs_enableInterceptor, obs_send, finish_eq, enableInterceptor_eq, goto, obs_openSession,
    obs_startCallWithOptions, Context.obs_startCooperateWithOptions]
  refine (ho.append (localAccount_send ?_)).append localAccount_answers
  rintro _ ⟨⟩
  exact .inr account

theorem localAccount_onProgress {n : StartCooperateEvent}
    (session : env.openSession (obs m).process = RET_OK) (ho : LocalAccount env (obs m).outputs) :
    LocalAccount env (obs (In.RelayConfirmation.onProgress env n m)).outputs := by
  have session : env.openSession m.machine.process.remoteNetworkId = RET_OK := session
  simp only [In.RelayConfirmation.onProgress, session, ne_eq, not_true, if_false, obs_emit,
    DSoftbusHandler.relayCooperate, peer_eq, obs_openSession, obs_timerId, obs_send]
  refine (ho.append (localAccount_send ?_)).append (by simp [LocalAccount])
  rintro _ ⟨⟩
  exact .inr rfl

theorem localAccount_onProgressWithOptions {n : StartWithOptionsEvent}
    (session : env.openSession (obs m).process = RET_OK) (ho : LocalAccount env (obs m).outputs) :
    LocalAccount env (obs (In.RelayConfirmation.onProgressWithOptions env n m)).outputs := by
  have session : env.openSession m.machine.process.remoteNetworkId = RET_OK := session
  simp only [In.RelayConfirmation.onProgressWithOptions, session, ne_eq, not_true, if_false,
    obs_emit, DSoftbusHandler.relayCooperate, peer_eq, obs_openSession, obs_send,
    obs_timerIdWithOptions]
  refine (ho.append (localAccount_send ?_)).append (by simp [LocalAccount])
  rintro _ ⟨⟩
  exact .inr rfl

theorem localAccount_in_onStart {n : StartCooperateEvent}
    (ho : LocalAccount env (obs m).outputs) :
    LocalAccount env (obs (In.Initial.onStart env n m)).outputs := by
  refine (in_onStart env m n).localAccount ?_ nofun ho
  rintro r ⟨⟩ drag notLocal isPeer session
  have isLocal : n.remoteNetworkId ≠ env.localNetworkId := notLocal
  let mo := EventManager.startCooperate n (Context.resetPriv m)
  have hp : mo.isPeer n.remoteNetworkId = false := decide_eq_false isPeer
  have h : obs (In.Initial.onStart env n m) = obs (In.Initial.onRelay env n mo) := by
    simp only [In.Initial.onStart, drag, isLocal_false isLocal, hp, mo, if_false,
      Bool.false_eq_true]
  rw [h]
  exact localAccount_onProgress session ho

theorem localAccount_in_onStartWithOptions {n : StartWithOptionsEvent}
    (ho : LocalAccount env (obs m).outputs) :
    LocalAccount env (obs (In.Initial.onStartWithOptions env n m)).outputs := by
  refine (in_onStartWithOptions env m n).localAccount ?_ nofun ho
  rintro r ⟨⟩ drag notLocal isPeer session
  have isLocal : n.remoteNetworkId ≠ env.localNetworkId := notLocal
  let mo := EventManager.startCooperateWithOptions n
    (Context.updateCooperateOptions n (Context.resetPriv m))
  have hp : mo.isPeer n.remoteNetworkId = false := decide_eq_false isPeer
  have h : obs (In.Initial.onStartWithOptions env n m) =
      obs (In.Initial.onRelayWithOptions env n mo) := by
    simp only [In.Initial.onStartWithOptions, drag, isLocal_false isLocal, hp, mo, if_false,
      Bool.false_eq_true]
  rw [h]
  exact localAccount_onProgressWithOptions session ho

/-- A request that is handed to the state. -/
theorem localAccount_transfer {r : StartRequest} (hr : e.request? = some r)
    (ho : LocalAccount env (obs m).outputs) :
    LocalAccount env (obs (StateMachine.transfer env e m)).outputs := by
  unfold StateMachine.transfer In.onEvent
  cases hc : m.machine.current with
  | free =>
    cases e with
    | start n =>
      refine (free_onStart env m n).localAccount_start ?_ ho
      rintro _ ⟨⟩
      exact .inr rfl
    | withOptionsStart n => exact localAccount_free_onStartWithOptions ho
    | _ => cases hr
  | out => exact (out_move env m e).localAccount hr ho
  | «in» =>
    cases hs : m.machine.inStep with
    | initial =>
      cases e with
      | start n => exact localAccount_in_onStart ho
      | withOptionsStart n => exact localAccount_in_onStartWithOptions ho
      | _ => cases hr
    | relayConfirmation =>
      have same := (relay_move env m e).of_request hr
      simp only
      rw [same]
      exact ho

theorem localAccount_acceptStart {r : StartRequest} (hr : e.request? = some r)
    {networkId : NetworkId} {pid : Int32} (ho : LocalAccount env (obs m).outputs) :
    LocalAccount env (obs (StateMachine.acceptStart env networkId pid r.errCode e m)).outputs := by
  have promise (value : Int32) :
      LocalAccount env ((obs m).out [.errCode r.errCode value]).outputs :=
    ho.append (by simp [LocalAccount])
  unfold StateMachine.acceptStart
  split
  · rw [obs_emit]
    exact promise _
  simp only
  split
  · rw [obs_emit]
    exact promise _
  · refine localAccount_transfer hr ?_
    rw [obs_emit]
    exact promise _

end Observed

/-- The account in a packet is empty or that of this device. -/
theorem account_of_mem_step {receiver : NetworkId} {packet : DSoftbusPacket}
    (hx : .packet receiver packet ∈ (step env e m).outputs) {accountId : StdString}
    (has : packet.account? = some accountId) : accountId = [] ∨ accountId = env.accountId := by
  have fresh : LocalAccount env (obs { m with effects := [] }).outputs := by
    rintro _ _ ⟨⟩
  cases hr : e.request? with
  | none =>
    rcases emission_of_mem_step hx with emitted | ⟨r, value, -, eq⟩
    · cases emitted with
      | packet _ _ sent fits taken ids account =>
        exact .inl ((account accountId has).resolve_right (by simp [hr]))
    · cases eq
  | some r =>
    cases e with
    | start n =>
      cases hr
      exact localAccount_acceptStart (e := .start n) rfl fresh receiver packet hx accountId has
    | withOptionsStart n =>
      cases hr
      exact localAccount_acceptStart (e := .withOptionsStart n) rfl fresh receiver packet hx
        accountId has
    | _ => cases hr

/-- What a device sends to its own channel is the event once more or the loss of a session. -/
theorem selfEvents_step {event : CooperateEvent} (h : event ∈ selfEvents (step env e m).outputs) :
    (e.isDeferrable = true ∧ event = e) ∨
      ∃ networkId, event = .dsoftbusSessionClosed { networkId } := by
  rcases emission_of_mem_step (mem_selfEvents.mp h) with emitted | ⟨r, value, -, eq⟩
  · cases emitted with
    | sessionClosed networkId => exact .inr ⟨networkId, rfl⟩
    | again deferrable => exact .inl ⟨deferrable, rfl⟩
  · cases eq

end DeviceStatus.Cooperation
