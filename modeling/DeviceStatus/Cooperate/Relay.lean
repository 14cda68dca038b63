import DeviceStatus.Cooperate.Network
import DeviceStatus.Cooperate.Handover

/-!
# Agreement of three devices over a relay

A sends its input to B, and B asks for a relay to C, over reliable links. Whatever the three
devices do then is a step of `Handover` as long as three things do not happen: A grants a
request that B does not wait on any more, B leaves its confirmation step for anything but the
answer although A has turned to C already, and C turns the start message down.

## Main definitions

* `Place`, `Stations` — A, B and C, and that their names differ.
* `Travels`, `Pending` — what the links and the channels of the three can hold.
* `Observed.Part` — what holds of each device at its place, and `Observed.Sent`, `Observed.Left`,
  `Observed.Asked`, `Observed.Passed` and `Observed.Stopped`, what one event makes of it.
-/

namespace DeviceStatus.Cooperation

open Transition Observed

inductive Place where
  | a | b | c
  deriving DecidableEq

/-- The network ids differ, and fit in a packet with the rest of a start message. -/
structure Stations (id : Place → NetworkId) : Prop where
  injective : Function.Injective id
  short : ∀ i, (id i).length + 32 ≤ MAX_STREAM_BUF_SIZE

/-- The answer that B gives itself when its timer runs out. -/
def relayExpired (id : Place → NetworkId) : CooperateEvent :=
  .dsoftbusRelayCooperateFinished { networkId := id .a, normal := false }

/-- What can be under way from one device to another; A takes leave only when it stops. -/
def Travels (live : Prop) (id : Place → NetworkId) : Place → Place → DSoftbusPacket → Prop
  | .b, .a, .relayCooperate target .. => target = id .c
  | .b, .a, .stopCooperate | .c, .a, .stopCooperate => True
  | .a, .b, .relayCooperateFinished .. => True
  | .a, .b, .stopCooperate | .a, .c, .stopCooperate => ¬ live
  | .b, .c, .startCooperate origin .. => origin = id .a
  | _, _, _ => False

/-- What can wait in a device's own channel. -/
def Pending (live : Prop) (id : Place → NetworkId) : Place → CooperateEvent → Prop
  | .b, .dsoftbusStopCooperate _ => ¬ live
  | .b, event => event = relayExpired id
  | _, _ => False

/-- A sends to B or to C, and B and C listen to A if to anybody. -/
def Role (id : Place → NetworkId) : Place → Observed → Prop
  | .a, o => o.current = .free ∨ (o.current = .out ∧ (o.peer = id .b ∨ o.peer = id .c))
  | .b, o => o.current = .free ∨
      (o.current = .in ∧ o.peer = id .a ∧ (o.inStep = .relayConfirmation → o.process = id .c))
  | .c, o => o.inStep = .initial ∧ (o.current = .free ∨ (o.current = .in ∧ o.peer = id .a))

/-- `packets` for `i`, and nothing for anybody else. -/
def only (i : Place) (packets : List DSoftbusPacket) : Place → List DSoftbusPacket :=
  fun j => if j = i then packets else []

namespace Observed

/-- What the device `i` has put out besides answers to its clients. -/
structure Sent (id : Place → NetworkId) (i : Place) (o : Observed)
    (packets : Place → List DSoftbusPacket) : Prop where
  packets : ∀ j, j ≠ i → packetsTo (id j) o.outputs = packets j
  events : selfEvents o.outputs = []
  timers : ∀ ts, ∀ t ∈ setTimers ts o.outputs, t ∈ ts ∨ (i = .b ∧ t.2 = relayExpired id)

/-- The state, the peer and the step of the device have not changed, and it has sent nothing. -/
structure Stayed (id : Place → NetworkId) (i : Place) (o o' : Observed) : Prop where
  current : o'.current = o.current
  peer : o'.peer = o.peer
  inStep : o'.inStep = o.inStep
  role : Role id i o'
  sent : o'.Sent id i (only i [])

/-- What the device `i` has become and has put out fits in with the others. -/
structure Part (live : Prop) (id : Place → NetworkId) (i : Place) (o : Observed) : Prop where
  role : Role id i o
  packets : ∀ j, j ≠ i → ∀ p ∈ packetsTo (id j) o.outputs, Travels live id i j p
  events : ∀ e ∈ selfEvents o.outputs, Pending live id i e
  timers : ∀ ts, ∀ t ∈ setTimers ts o.outputs, t ∈ ts ∨ (i = .b ∧ t.2 = relayExpired id)

variable {live : Prop} {id : Place → NetworkId} {env : Env} {u : Unseen} {request : DSoftbusPacket}
  {i : Place} {o o' : Observed}

theorem Sent.part {packets : Place → List DSoftbusPacket} (h : o.Sent id i packets)
    (role : Role id i o) (travels : ∀ j, ∀ p ∈ packets j, Travels live id i j p) :
    Part live id i o where
  role := role
  packets j hj p hp := travels j p (h.packets j hj ▸ hp)
  events e he := by simp [h.events] at he
  timers := h.timers

theorem mem_only {i j : Place} {p : DSoftbusPacket} {packets : List DSoftbusPacket}
    (h : p ∈ only i packets j) : j = i ∧ p ∈ packets := by
  unfold only at h
  split at h
  case isTrue hj => exact ⟨hj, h⟩
  case isFalse => simp at h

theorem packetsTo_only (ids : Stations id) (i j : Place) (packet : DSoftbusPacket)
    (outputs : List Output) :
    packetsTo (id j) (.packet (id i) packet :: outputs) =
      only i [packet] j ++ packetsTo (id j) outputs := by
  unfold only
  split
  case isTrue h => simp [h]
  case isFalse h => simp [packetsTo, ids.injective.eq_iff, Ne.symm h]

@[simp] theorem only_nil (i j : Place) : only i [] j = [] := by
  simp [only]

/-- The device is FREE and has told A so. -/
structure Left (id : Place → NetworkId) (i : Place) (o : Observed) : Prop where
  current : o.current = .free
  sent : o.Sent id i (only .a [.stopCooperate])

theorem left_stopIn (ids : Stations id) (reliable : env.Reliable (id i)) (hp : o.peer = id .a)
    (ho : o.Sent id i (only i [])) : Left id i (o.stopIn env) := by
  refine ⟨rfl, ⟨fun j hj => ?_, ?_, ?_⟩⟩
  · simpa [stopIn, disableBuilder, send, out, goto, reliable.sendOutputs, hp,
      packetsTo_only ids] using ho.packets j hj
  · simpa [stopIn, disableBuilder, send, out, goto, reliable.sendOutputs] using ho.events
  · simpa [stopIn, disableBuilder, send, out, goto, reliable.sendOutputs] using ho.timers

/-! ## B -/

/-- B asks A for the relay, if the message fits. -/
structure Asked (id : Place → NetworkId) (o : Observed) : Prop where
  current : o.current = .in
  peer : o.peer = id .a
  inStep : o.inStep = .relayConfirmation
  process : o.process = id .c
  sent : ∃ packets, o.Sent id .b (only .a packets) ∧ (packets = [] ∨
    ∃ notice : DSoftbusRelayCooperate, notice.targetNetworkId = id .c ∧
      packets = [DSoftbusHandler.relayPacket notice])

/-- B starts C on behalf of A. -/
structure Passed (id : Place → NetworkId) (o : Observed) : Prop where
  current : o.current = .free
  sent : ∃ notice : DSoftbusStartCooperate, notice.originNetworkId = id .a ∧
    o.Sent id .b (only .c [DSoftbusHandler.startPacket notice])

theorem Transfer.holder_stop {n : StopCooperateEvent} (h : Transfer env request (.stop n) o o')
    (ids : Stations id) (reliable : env.Reliable (id .b)) (role : Role id .b o)
    (ho : o.Sent id .b (only .b [])) :
    (o.current = .free ∧ Stayed id .b o o') ∨ (o.current = .in ∧ Left id .b o') := by
  rcases role with hc | ⟨hc, hp, hpr⟩
  · obtain rfl := (h.of_free hc).idle rfl rfl
    exact .inl ⟨hc, rfl, rfl, rfl, .inl hc, ho⟩
  · have left := left_stopIn ids reliable hp ho
    refine .inr ⟨hc, ?_⟩
    cases hs : o.inStep with
    | initial =>
      obtain rfl := (h.of_in hc hs).of_stop
      exact left
    | relayConfirmation =>
      obtain rfl := (h.of_relay hc hs).of_stop
      exact ⟨left.current, left.sent.packets, left.sent.events, left.sent.timers⟩

/-- A request for C while B listens to A. -/
theorem Transfer.holder_start {n : StartCooperateEvent} (h : Transfer env request (.start n) o o')
    (ids : Stations id) (reliable : env.Reliable (id .b)) (hn : n.remoteNetworkId = id .c)
    (hc : o.current = .in) (role : Role id .b o) (ho : o.Sent id .b (only .b [])) :
    Stayed id .b o o' ∨ (o.inStep = .initial ∧ Asked id o') := by
  obtain hf | ⟨-, hp, hpr⟩ := role
  · simp [hc] at hf
  obtain ⟨hpk, he, ht⟩ := ho
  have ne (j : Place) (h : id .c = id j) : j = .c := (ids.injective h).symm
  cases hs : o.inStep with
  | relayConfirmation =>
    obtain rfl := (h.of_relay hc hs).of_request rfl
    exact .inl ⟨rfl, rfl, rfl, .inr ⟨hc, hp, hpr⟩, hpk, he, ht⟩
  | initial =>
    cases h.of_in hc hs with
    | ignore hi | stop hi => exact hi.elim
    | refuse r hr drag =>
      refine .inl ⟨rfl, rfl, rfl, .inr ⟨hc, hp, hpr⟩, ?_, ?_, ?_⟩
      · simpa [out, motionDragAnswer] using hpk
      · simpa [out, motionDragAnswer] using he
      · simpa [out, motionDragAnswer] using ht
    | toLocal r hr drag toLocal =>
      cases hr
      have := ne .b (hn.symm.trans (toLocal.trans reliable.localNetworkId))
      contradiction
    | comeBack r packet hr drag notLocal toPeer =>
      cases hr
      have := ne .a (hn.symm.trans (toPeer.trans hp))
      contradiction
    | relayFail r hr =>
      refine .inl ⟨?_, ?_, ?_, .inr ⟨?_, ?_, ?_⟩, ?_, ?_, ?_⟩
      · simp [finish_eq, confirm, register, reset]
      · simp [finish_eq, confirm, register, reset]
      · simp [finish_eq, confirm, register, reset, hs]
      · simp [finish_eq, confirm, register, reset, hc]
      · simp [finish_eq, confirm, register, reset, hp]
      · simp [finish_eq, confirm, register, reset]
      · simpa [finish_eq, confirm, register, reset] using hpk
      · simpa [finish_eq, confirm, register, reset] using he
      · simpa [finish_eq, confirm, register, reset] using ht
    | relay r notice hr drag notLocal notPeer session target =>
      cases hr
      have target : notice.targetNetworkId = id .c := target.trans hn
      let packets := if (DSoftbusHandler.relayPacket notice).chkRWError then []
        else [DSoftbusHandler.relayPacket notice]
      have outs : DSoftbusHandler.sendOutputs env o.outputs.length (id .a)
          (DSoftbusHandler.relayPacket notice) = packets.map (.packet (id .a)) := by
        simp only [reliable.sendOutputs, packets]
        split <;> rfl
      have toA (j : Place) : packetsTo (id j) (packets.map (.packet (id .a))) =
          only .a packets j := by
        simp only [packets]
        split
        · simp
        · simpa using packetsTo_only ids .a j _ []
      refine .inr ⟨rfl, hc, hp, rfl, hn, packets, ⟨fun j hj => ?_, ?_, fun ts t hts => ?_⟩, ?_⟩
      · simpa [out, send, confirm, register, hp, outs, toA] using hpk j hj
      · simp [out, send, confirm, register, hp, outs, he]
      · simp only [out, send, confirm, register, hp, outs, setTimers_append,
          setTimers_map_packet] at hts
        rcases mem_setTimers_addTimer hts with hold | hnew
        · exact ht ts t hold
        · exact .inr ⟨rfl, hnew⟩
      · simp only [packets]
        split
        · exact .inl rfl
        · exact .inr ⟨notice, target, rfl⟩
    | remoteStart s hs => cases hs

/-- The answer of A, or of the timer. -/
theorem Transfer.holder_finished {n : DSoftbusRelayCooperateFinished}
    (h : Transfer env request (.dsoftbusRelayCooperateFinished n) o o') (ids : Stations id)
    (reliable : env.Reliable (id .b)) (hn : n.networkId = id .a) (role : Role id .b o)
    (ho : o.Sent id .b (only .b [])) :
    (¬ (o.current = .in ∧ o.inStep = .relayConfirmation) ∧ Stayed id .b o o') ∨
    (o.current = .in ∧ o.inStep = .relayConfirmation ∧ n.normal = false ∧ Left id .b o') ∨
    (o.current = .in ∧ o.inStep = .relayConfirmation ∧ n.normal = true ∧ Passed id o') := by
  have same (ho' : o' = o) : Stayed id .b o o' := by
    subst ho'
    exact ⟨rfl, rfl, rfl, role, ho⟩
  rcases role with hc | ⟨hc, hp, hpr⟩
  · exact .inl ⟨by simp [hc], same ((h.of_free hc).idle rfl rfl)⟩
  cases hs : o.inStep with
  | initial => exact .inl ⟨by simp, same ((h.of_in hc hs).of_finished rfl)⟩
  | relayConfirmation =>
    have hpr := hpr hs
    obtain ⟨hpk, he, ht⟩ := ho
    rcases (h.of_relay hc hs).of_finished rfl with
      ⟨notPeer, -⟩ | ⟨-, normal, packet, isStart, ho'⟩ | ⟨-, normal, ho'⟩
    · exact absurd (hn.trans hp.symm) notPeer
    · refine .inr (.inr ⟨hc, rfl, normal, ?_⟩)
      obtain ⟨notice, origin, account, rfl⟩ := isStart
      have origin : notice.originNetworkId = id .a := origin.trans hp
      have fits : (DSoftbusHandler.startPacket notice).chkRWError = false := by
        have short := ids.short .a
        simp only [DSoftbusHandler.startPacket, DSoftbusPacket.chkRWError,
          DSoftbusPacket.payloadSize, DSoftbusPacket.sizeofString, DSoftbusPacket.sizeofInt32,
          DSoftbusPacket.sizeofBool, origin, account, decide_eq_false_iff_not, List.length_nil]
        omega
      subst ho'
      refine ⟨rfl, notice, origin, fun j hj => ?_, ?_, fun ts t hts => ?_⟩
      · simpa [finish_eq, out, send, disableBuilder, goto, reset, reliable.sendOutputs, fits, hpr,
          packetsTo_only ids] using hpk j hj
      · simpa [finish_eq, out, send, disableBuilder, goto, reset, reliable.sendOutputs,
          fits] using he
      · simp [finish_eq, out, send, disableBuilder, goto, reset, reliable.sendOutputs,
          fits] at hts
        exact ht ts t hts.1
    · refine .inr (.inl ⟨hc, rfl, normal, ?_⟩)
      subst ho'
      refine left_stopIn ids reliable (by simpa [finish_eq, out, reset] using hp)
        ⟨?_, ?_, fun ts t hts => ?_⟩
      · simpa [finish_eq, out, reset] using hpk
      · simpa [finish_eq, out, reset] using he
      · simp only [finish_eq, out, reset, setTimers_append, setTimers_answers,
          setTimers_removeTimer, setTimers_nil, List.mem_filter] at hts
        exact ht ts t hts.1

/-- A STOP_COOPERATE that reaches B, or that B has put off while it waited. -/
theorem Transfer.holder_remoteStop {n : DSoftbusStopCooperate}
    (h : Transfer env request (.dsoftbusStopCooperate n) o o') (stopped : ¬ live)
    (role : Role id .b o) (ho : o.Sent id .b (only .b [])) : Part live id .b o' := by
  have same (role : Role id .b o) : Part live id .b o := ho.part role (by simp)
  rcases role with hc | ⟨hc, hp, hpr⟩
  · obtain rfl := (h.of_free hc).idle rfl rfl
    exact same (.inl hc)
  cases hs : o.inStep with
  | initial =>
    have ho' := (h.of_in hc hs).of_remoteStop
    split at ho'
    · subst ho'
      exact Sent.part ⟨ho.packets, ho.events, ho.timers⟩ (.inl rfl) (by simp)
    · exact ho' ▸ same (.inr ⟨hc, hp, hpr⟩)
  | relayConfirmation =>
    have ho' := (h.of_relay hc hs).of_remoteStop
    split at ho'
    · subst ho'
      refine ⟨.inr ⟨hc, hp, fun h => by cases h⟩, fun j hj p hpj => ?_, fun e he => ?_,
        fun ts t ht => ho.timers ts t (by simpa [out, reset] using ht)⟩
      · simp [out, reset, ho.packets j hj] at hpj
      · obtain rfl : e = _ := by simpa [out, reset, ho.events] using he
        exact stopped
    · exact ho' ▸ same (.inr ⟨hc, hp, hpr⟩)

/-! ## A -/

/-- A has stopped, and may have told so those it sent to. -/
structure Stopped (id : Place → NetworkId) (o : Observed) : Prop where
  current : o.current = .free
  part : Part False id .a o

theorem Sent.stopped {packets : Place → List DSoftbusPacket} (h : o.Sent id .a packets)
    (hc : o.current = .free) (travels : ∀ j, ∀ p ∈ packets j, Travels False id .a j p) :
    Stopped id o :=
  ⟨hc, h.part (.inl hc) travels⟩

theorem Transfer.sender_stop {n : StopCooperateEvent} (h : Transfer env request (.stop n) o o')
    (ids : Stations id) (reliable : env.Reliable (id .a)) (role : Role id .a o)
    (ho : o.Sent id .a (only .a [])) : Stopped id o' := by
  rcases role with hc | ⟨hc, hp⟩
  · obtain rfl := (h.of_free hc).idle rfl rfl
    exact ho.stopped hc (by simp)
  · obtain rfl := (h.of_out hc).of_stop
    have sent (k : Place) (hk : o.peer = id k) :
        (o.stopOut env).Sent id .a (only k [.stopCooperate]) := by
      refine ⟨fun j hj => ?_, ?_, ?_⟩
      · simpa [stopOut, disableInterceptor, send, out, goto, reliable.sendOutputs, hk,
          packetsTo_only ids] using ho.packets j hj
      · simpa [stopOut, disableInterceptor, send, out, goto, reliable.sendOutputs] using ho.events
      · simpa [stopOut, disableInterceptor, send, out, goto, reliable.sendOutputs] using ho.timers
    rcases hp with hp | hp
    · refine (sent .b hp).stopped rfl fun j p hp => ?_
      obtain ⟨rfl, hp⟩ := mem_only hp
      obtain rfl := List.mem_singleton.mp hp
      exact not_false
    · refine (sent .c hp).stopped rfl fun j p hp => ?_
      obtain ⟨rfl, hp⟩ := mem_only hp
      obtain rfl := List.mem_singleton.mp hp
      exact not_false

theorem Transfer.sender_remoteStop {n : DSoftbusStopCooperate}
    (h : Transfer env request (.dsoftbusStopCooperate n) o o') (role : Role id .a o)
    (ho : o.Sent id .a (only .a [])) :
    Stopped id o' ∨ (o.current = .out ∧ n.networkId ≠ o.peer ∧ Stayed id .a o o') := by
  rcases role with hc | ⟨hc, hp⟩
  · obtain rfl := (h.of_free hc).idle rfl rfl
    exact .inl (ho.stopped hc (by simp))
  · have ho' := (h.of_out hc).of_remoteStop
    split at ho'
    case isTrue =>
      subst ho'
      have sent : (o.disableInterceptor.goto .free).Sent id .a (only .a []) :=
        ⟨ho.packets, ho.events, ho.timers⟩
      exact .inl (sent.stopped rfl (by simp))
    case isFalse notPeer =>
      subst ho'
      exact .inr ⟨hc, notPeer, rfl, rfl, rfl, .inr ⟨hc, hp⟩, ho⟩

/-- A has answered a relay request of B. -/
structure Answered (id : Place → NetworkId) (granted : Bool) (n : DSoftbusRelayCooperate)
    (o o' : Observed) : Prop where
  current : o'.current = .out
  peer : o'.peer = if granted then id .c else o.peer
  sent : o'.Sent id .a (only .b [relayFinish n false granted])

theorem Transfer.sender_relay {n : DSoftbusRelayCooperate}
    (h : Transfer env request (.dsoftbusRelayCooperate n) o o') (ids : Stations id)
    (reliable : env.Reliable (id .a)) (hn : n.networkId = id .b)
    (target : n.targetNetworkId = id .c) (role : Role id .a o)
    (ho : o.Sent id .a (only .a [])) :
    Stopped id o' ∨ (o.current = .out ∧ o.peer = id .c ∧ Stayed id .a o o') ∨
    (o.current = .out ∧ o.peer = id .b ∧ env.openSession (id .c) ≠ RET_OK ∧
      Answered id false n o o') ∨
    (o.current = .out ∧ o.peer = id .b ∧ env.openSession (id .c) = RET_OK ∧
      Answered id true n o o') := by
  rcases role with hc | ⟨hc, hp⟩
  · obtain rfl := (h.of_free hc).idle rfl rfl
    exact .inl (ho.stopped hc (by simp))
  have ho' := (h.of_out hc).of_relay rfl
  rcases hp with hp | hp
  swap
  · rw [if_neg (by simp [hn, hp, ids.injective.eq_iff])] at ho'
    subst ho'
    exact .inr (.inl ⟨hc, hp, rfl, rfl, rfl, .inr ⟨hc, .inr hp⟩, ho⟩)
  rw [if_pos (hn.trans hp.symm), target, hp] at ho'
  have fits (normal : Bool) : (relayFinish n false normal).chkRWError = false := by
    have short := ids.short .c
    simp only [relayFinish, DSoftbusHandler.relayFinishPacket, DSoftbusPacket.chkRWError,
      DSoftbusPacket.payloadSize, DSoftbusPacket.sizeofString, DSoftbusPacket.sizeofInt32,
      DSoftbusPacket.sizeofBool, target, decide_eq_false_iff_not, Bool.false_eq_true, if_false]
    omega
  have sent (normal : Bool) : (o.send env (id .b) (relayFinish n false normal)).Sent id .a
      (only .b [relayFinish n false normal]) := by
    refine ⟨fun j hj => ?_, ?_, ?_⟩
    · simpa [send, out, reliable.sendOutputs, fits, packetsTo_only ids] using ho.packets j hj
    · simpa [send, out, reliable.sendOutputs, fits] using ho.events
    · simpa [send, out, reliable.sendOutputs, fits] using ho.timers
  split at ho'
  case isTrue session =>
    subst ho'
    refine .inr (.inr (.inr ⟨hc, hp, session, hc, rfl, ?_⟩))
    exact ⟨(sent true).packets, (sent true).events, (sent true).timers⟩
  case isFalse session =>
    subst ho'
    exact .inr (.inr (.inl ⟨hc, hp, session, hc, rfl, sent false⟩))

/-! ## C -/

theorem Transfer.target_stop {n : StopCooperateEvent} (h : Transfer env request (.stop n) o o')
    (ids : Stations id) (reliable : env.Reliable (id .c)) (role : Role id .c o)
    (ho : o.Sent id .c (only .c [])) :
    (o.current = .free ∧ Stayed id .c o o') ∨
    (o.current = .in ∧ Left id .c o' ∧ o'.inStep = .initial) := by
  obtain ⟨hs, hc | ⟨hc, hp⟩⟩ := role
  · obtain rfl := (h.of_free hc).idle rfl rfl
    exact .inl ⟨hc, rfl, rfl, rfl, ⟨hs, .inl hc⟩, ho⟩
  · obtain rfl := (h.of_in hc hs).of_stop
    exact .inr ⟨hc, left_stopIn ids reliable hp ho, hs⟩

theorem Transfer.target_remoteStop {n : DSoftbusStopCooperate}
    (h : Transfer env request (.dsoftbusStopCooperate n) o o') (role : Role id .c o)
    (ho : o.Sent id .c (only .c [])) : Part live id .c o' := by
  obtain ⟨hs, hc | ⟨hc, hp⟩⟩ := role
  · obtain rfl := (h.of_free hc).idle rfl rfl
    exact ho.part ⟨hs, .inl hc⟩ (by simp)
  · have ho' := (h.of_in hc hs).of_remoteStop
    split at ho'
    · subst ho'
      exact Sent.part ⟨ho.packets, ho.events, ho.timers⟩ ⟨hs, .inl rfl⟩ (by simp)
    · exact ho' ▸ ho.part ⟨hs, .inr ⟨hc, hp⟩⟩ (by simp)

/-- C listens to A; a cooperation that it was part of before is given up. -/
structure Started (id : Place → NetworkId) (o o' : Observed) : Prop where
  current : o'.current = .in
  peer : o'.peer = id .a
  inStep : o'.inStep = .initial
  sent : o'.Sent id .c (only .a (if o.current = .in then [.stopCooperate] else []))

theorem Transfer.target_start {n : DSoftbusStartCooperate}
    (h : Transfer env request (.dsoftbusStartCooperate n) o o') (ids : Stations id)
    (reliable : env.Reliable (id .c)) (hn : n.networkId = id .b)
    (origin : n.originNetworkId = id .a) (role : Role id .c o)
    (ho : o.Sent id .c (only .c [])) : Started id o o' := by
  obtain ⟨hs, hc | ⟨hc, hp⟩⟩ := role
  · have ho' := (h.of_free hc).of_remoteStart rfl
    rw [enableBuilder_eq] at ho'
    subst ho'
    refine ⟨rfl, origin, hs, ⟨fun j hj => ?_, ho.events, ho.timers⟩⟩
    simpa [hc, goto, bind] using ho.packets j hj
  · cases h.of_in hc hs with
    | remoteStart s hs' notPeer notLocal =>
      cases hs'
      refine ⟨hc, origin, hs, ⟨fun j hj => ?_, ?_, ?_⟩⟩
      · simpa [send, out, bind, updateBuilder, reliable.sendOutputs, hp, hc,
          packetsTo_only ids] using ho.packets j hj
      · simpa [send, out, bind, updateBuilder, reliable.sendOutputs] using ho.events
      · simpa [send, out, bind, updateBuilder, reliable.sendOutputs] using ho.timers
    | ignore hi =>
      rcases hi with hi | hi
      · simp [hn, hp, ids.injective.eq_iff] at hi
      · simp [hn, reliable.localNetworkId, ids.injective.eq_iff] at hi
    | stop hi => exact hi.elim
    | refuse r hr | toLocal r hr | comeBack r _ hr | relayFail r hr | relay r _ hr => cases hr

end Observed

end DeviceStatus.Cooperation
