import DeviceStatus.Cooperate.Relay

/-!
# Agreement of three devices over a relay: runs

The parts of the three devices put together. Every step that goes as it should is a step of
`Handover`, so with nothing in flight A sends to a device that listens to it. B may leave its
confirmation step after A has turned to C, and then A goes on sending to a device in FREE.

## Main definitions

* `RelayLabel`, `Orderly` — the steps that are looked at, and those that go as they should.
* `World.Relaying` — what holds of the three devices along every run.
* `World.handover` — the abstract hand-over they make up.
-/

namespace DeviceStatus.Cooperation

open Transition Observed

namespace World

variable {ι : Type*} [DecidableEq ι]

/-- What is seen of a device before it processes an event. -/
def view (w : World ι) (i : ι) : Observed := { obs (w.device i) with outputs := [] }

/-- `i` has become and has put out `o`, and nothing else has changed. -/
structure Moved (id : ι → NetworkId) (i : ι) (o : Observed) (w w' : World ι) : Prop where
  view : w'.view i = { o with outputs := [] }
  others : ∀ j, j ≠ i → w'.view j = w.view j
  link : ∀ j, w'.link i j = w.link i j ++ packetsTo (id j) o.outputs
  links : ∀ j, j ≠ i → w'.link j = w.link j
  channel : w'.channel i = w.channel i ++ selfEvents o.outputs
  channels : ∀ j, j ≠ i → w'.channel j = w.channel j
  timers : w'.timers i = setTimers (w.timers i) o.outputs
  timersOf : ∀ j, j ≠ i → w'.timers j = w.timers j

theorem process_moved (id : ι → NetworkId) (i : ι) (env : Env) (event : CooperateEvent)
    (w : World ι) :
    Moved id i (obs (step env event (w.device i))) w (w.process id i env event) where
  view := by simp [World.view]
  others j hj := by simp [World.view, hj]
  link j := by simp
  links j hj := by funext k; simp [hj]
  channel := by simp
  channels j hj := by simp [hj]
  timers := by simp
  timersOf j hj := by simp [hj]

variable (id : Place → NetworkId) (w : World Place)

/-- A sends its input to somebody. -/
def live : Prop := (w.view .a).current ≠ .free

instance : Decidable w.live := by unfold live; infer_instance

/-- The devices play their roles, and only what belongs to the relay is in flight. -/
structure Relaying : Prop where
  role : ∀ i, Role id i (w.view i)
  packets : ∀ i j, i ≠ j → ∀ p ∈ w.link i j, Travels w.live id i j p
  channel : ∀ i, ∀ e ∈ w.channel i, Pending w.live id i e
  timers : ∀ i, ∀ t ∈ w.timers i, i = .b ∧ t.2 = relayExpired id

/-- What B says to A with a packet. -/
def request : DSoftbusPacket → Request
  | .relayCooperate .. => .relay
  | _ => .stop

def holderOf (o : Observed) : Holder :=
  match o.current, o.inStep with
  | .in, .initial => .listening
  | .in, .relayConfirmation => .asking
  | _, _ => .free

/-- The hand-over that the three devices make up as long as A sends. -/
def core : Handover where
  direction := if (w.view .a).peer = id .c then .toC else .toB
  holder := holderOf (w.view .b)
  target := (w.view .c).current = .in
  requests := (w.link .b .a).map request
  answers := (w.link .a .b).map DSoftbusPacket.grantsRelay
  starts := (w.link .b .c).length
  stops := (w.link .c .a).length

def handover : Option Handover := if w.live then some (w.core id) else none

variable {id w} {w' : World Place} {i : Place} {o : Observed} {live live' : Prop}

theorem travels_mono (h : live' → live) {i j : Place} {p : DSoftbusPacket}
    (ht : Travels live id i j p) : Travels live' id i j p := by
  cases i <;> cases j <;> cases p <;> first | exact ht | exact fun hl => ht (h hl)

theorem pending_mono (h : live' → live) {i : Place} {e : CooperateEvent}
    (he : Pending live id i e) : Pending live' id i e := by
  cases i <;> cases e <;> first | exact he | exact fun hl => he (h hl)

/-- A device that has played its part leaves the others theirs. -/
theorem Relaying.moved (h : w.Relaying id) (m : Moved id i o w w') (mono : w'.live → w.live)
    (part : Part w'.live id i o) : w'.Relaying id where
  role j := by
    by_cases hj : j = i
    · subst hj
      rw [m.view]
      cases j <;> exact part.role
    · rw [m.others j hj]
      exact h.role j
  packets j k hjk p hp := by
    by_cases hj : j = i
    · subst hj
      rw [m.link, List.mem_append] at hp
      rcases hp with hp | hp
      · exact travels_mono mono (h.packets j k hjk p hp)
      · exact part.packets k hjk.symm p hp
    · rw [m.links j hj] at hp
      exact travels_mono mono (h.packets j k hjk p hp)
  channel j e he := by
    by_cases hj : j = i
    · subst hj
      rw [m.channel, List.mem_append] at he
      rcases he with he | he
      · exact pending_mono mono (h.channel j e he)
      · exact part.events e he
    · rw [m.channels j hj] at he
      exact pending_mono mono (h.channel j e he)
  timers j t ht := by
    by_cases hj : j = i
    · subst hj
      rw [m.timers] at ht
      rcases part.timers _ t ht with ht | ht
      · exact h.timers j t ht
      · exact ht
    · rw [m.timersOf j hj] at ht
      exact h.timers j t ht

/-! ## The hand-over, device by device -/

theorem Moved.core_a (m : Moved id .a o w w') :
    w'.core id = { w.core id with
      direction := if o.peer = id .c then .toC else .toB
      answers := (w.core id).answers ++
        (packetsTo (id .b) o.outputs).map DSoftbusPacket.grantsRelay } := by
  simp [core, m.view, m.others, m.link, m.links]

theorem Moved.core_b (m : Moved id .b o w w') :
    w'.core id = { w.core id with
      holder := holderOf o
      requests := (w.core id).requests ++ (packetsTo (id .a) o.outputs).map request
      starts := (w.core id).starts + (packetsTo (id .c) o.outputs).length } := by
  simp [core, m.view, m.others, m.link, m.links, holderOf]

theorem Moved.core_c (m : Moved id .c o w w') :
    w'.core id = { w.core id with
      target := o.current = .in
      stops := (w.core id).stops + (packetsTo (id .a) o.outputs).length } := by
  simp [core, m.view, m.others, m.link, m.links]

theorem Moved.live_iff (m : Moved id i o w w') (hi : i ≠ .a) : w'.live ↔ w.live := by
  unfold World.live
  rw [m.others .a hi.symm]

theorem Moved.live_a (m : Moved id .a o w w') : w'.live ↔ o.current ≠ .free := by
  unfold World.live
  rw [m.view]

/-- Once A has stopped the hand-over is over. -/
theorem next_stopped (h : ¬ w'.live) : Handover.Next (w.handover id) (w'.handover id) := by
  simp only [handover, if_neg h]
  split
  · exact .stop
  · rfl

theorem next_live (hl : w'.live ↔ w.live)
    (h : w.live → Handover.Step (w.core id) (some (w'.core id))) :
    Handover.Next (w.handover id) (w'.handover id) := by
  by_cases hw : w.live
  · simp only [handover, if_pos hw, if_pos (hl.mpr hw)]
    exact h hw
  · exact next_stopped (mt hl.mp hw)

/-- The world with the oldest packet from `i` to `j` taken from its link. -/
theorem Relaying.setLink (h : w.Relaying id) {i j : Place} {packet : DSoftbusPacket}
    {rest : List DSoftbusPacket} (hl : w.link i j = packet :: rest) :
    (w.setLink i j rest).Relaying id where
  role := h.role
  packets k m hkm p hp := by
    refine h.packets k m hkm p ?_
    by_cases hk : k = i
    · subst hk
      by_cases hm : m = j
      · subst hm
        rw [link_setLink] at hp
        exact hl ▸ .tail _ hp
      · simpa [World.setLink, hm] using hp
    · rwa [link_setLink_of_ne hk] at hp
  channel := h.channel
  timers := h.timers

/-- The devices go on playing their roles, and the hand-over has taken a step. -/
structure Goes (id : Place → NetworkId) (w w' : World Place) : Prop where
  relaying : w'.Relaying id
  next : Handover.Next (w.handover id) (w'.handover id)

theorem Relaying.stopped (h : w.Relaying id) (m : Moved id .a o w w') (stopped : Stopped id o) :
    w'.Relaying id ∧ ¬ w'.live := by
  have hl : ¬ w'.live := by simp [m.live_a, stopped.current]
  refine ⟨h.moved m (fun hw => absurd hw hl) ?_, hl⟩
  exact ⟨stopped.part.role, fun j hj p hp => travels_mono hl (stopped.part.packets j hj p hp),
    fun e he => pending_mono hl (stopped.part.events e he), stopped.part.timers⟩

/-- What a device that is left as it was has sent: nothing. -/
theorem sent_view (i : Place) : (w.view i).Sent id i (only i []) :=
  ⟨fun j _ => by simp [view], rfl, fun ts t ht => .inl ht⟩

variable {env : Env}

theorem process_move (env : Env) (event : CooperateEvent) (w : World Place) (i : Place) :
    Move env (unseen env event (w.device i)) event (w.view i)
      (obs (step env event (w.device i))) :=
  step_move env (w.device i) event

/-! ### What becomes of A -/

theorem Relaying.stayed_a (h : w.Relaying id) (m : Moved id .a o w w')
    (stayed : Stayed id .a (w.view .a) o) :
    w'.Relaying id ∧ (w'.live ↔ w.live) ∧ w'.core id = w.core id := by
  have hl : w'.live ↔ w.live := by
    rw [m.live_a, stayed.current]
    rfl
  refine ⟨h.moved m hl.mp (stayed.sent.part stayed.role (by simp)), hl, ?_⟩
  rw [m.core_a, stayed.peer, stayed.sent.packets .b (by decide)]
  simp [core]

theorem Relaying.answered_a (ids : Stations id) (h : w.Relaying id) (m : Moved id .a o w w')
    {granted : Bool} {n : DSoftbusRelayCooperate} (hc : (w.view .a).current = .out)
    (hp : (w.view .a).peer = id .b) (answered : Answered id granted n (w.view .a) o) :
    w'.Relaying id ∧ (w'.live ↔ w.live) ∧ (w.core id).direction = .toB ∧ w'.core id =
      { w.core id with
        direction := if granted then .toC else (w.core id).direction
        answers := (w.core id).answers ++ [granted] } := by
  obtain ⟨hc', hp', sent⟩ := answered
  have hl : w'.live ↔ w.live := by
    rw [m.live_a]
    simp [live, hc, hc']
  have hd : (w.core id).direction = .toB := if_neg (by simp [hp, ids.injective.eq_iff])
  have role : Role id .a o := by
    refine .inr ⟨hc', ?_⟩
    cases granted
    · exact .inl (hp'.trans hp)
    · exact .inr hp'
  refine ⟨h.moved m hl.mp (sent.part role ?_), hl, hd, ?_⟩
  · intro j p hp
    obtain ⟨rfl, hp⟩ := mem_only hp
    obtain rfl := List.mem_singleton.mp hp
    trivial
  · rw [m.core_a, hp', sent.packets .b (by decide), hd]
    cases granted <;> simp [only, hp, ids.injective.eq_iff, relayFinish,
      DSoftbusHandler.relayFinishPacket, DSoftbusPacket.grantsRelay]

/-! ### What becomes of B -/

theorem holderOf_eq_listening {o : Observed} (hc : o.current = .in) (hs : o.inStep = .initial) :
    holderOf o = .listening := by
  simp [holderOf, hc, hs]

theorem holderOf_eq_asking {o : Observed} :
    holderOf o = .asking ↔ o.current = .in ∧ o.inStep = .relayConfirmation := by
  unfold holderOf
  split <;> simp_all

theorem holderOf_eq_free {o : Observed} (hc : o.current = .free) : holderOf o = .free := by
  simp [holderOf, hc]

theorem holderOf_ne_free {o : Observed} (hc : o.current = .in) : holderOf o ≠ .free := by
  cases hs : o.inStep <;> simp [holderOf, hc, hs]

theorem Relaying.stayed_b (h : w.Relaying id) (m : Moved id .b o w w')
    (stayed : Stayed id .b (w.view .b) o) : w'.Relaying id ∧ w'.core id = w.core id := by
  refine ⟨h.moved m (m.live_iff (by decide)).mp (stayed.sent.part stayed.role (by simp)), ?_⟩
  have holder : holderOf o = holderOf (w.view .b) := by
    simp only [holderOf, stayed.current, stayed.inStep]
  rw [m.core_b, holder, stayed.sent.packets .a (by decide), stayed.sent.packets .c (by decide)]
  simp [core]

theorem Relaying.left_b (h : w.Relaying id) (m : Moved id .b o w w') (left : Left id .b o) :
    w'.Relaying id ∧ w'.core id =
      { w.core id with holder := .free, requests := (w.core id).requests ++ [.stop] } := by
  constructor
  · refine h.moved m (m.live_iff (by decide)).mp (left.sent.part (.inl left.current) ?_)
    intro j p hp
    obtain ⟨rfl, hp⟩ := mem_only hp
    obtain rfl := List.mem_singleton.mp hp
    trivial
  · rw [m.core_b, holderOf_eq_free left.current, left.sent.packets .a (by decide),
      left.sent.packets .c (by decide)]
    simp [only, request]

theorem Relaying.asked_b (h : w.Relaying id) (m : Moved id .b o w w') (asked : Asked id o) :
    w'.Relaying id ∧ ∃ sent, (sent = [.relay] ∨ sent = []) ∧ w'.core id =
      { w.core id with holder := .asking, requests := (w.core id).requests ++ sent } := by
  obtain ⟨hc, hp, hs, hpr, packets, sent, hpk⟩ := asked
  constructor
  · refine h.moved m (m.live_iff (by decide)).mp (sent.part (.inr ⟨hc, hp, fun _ => hpr⟩) ?_)
    intro j p hp
    obtain ⟨rfl, hp⟩ := mem_only hp
    rcases hpk with rfl | ⟨notice, target, rfl⟩
    · simp at hp
    · obtain rfl := List.mem_singleton.mp hp
      exact target
  · refine ⟨packets.map request, ?_, ?_⟩
    · rcases hpk with rfl | ⟨notice, target, rfl⟩
      · exact .inr rfl
      · exact .inl rfl
    · rw [m.core_b, holderOf_eq_asking.mpr ⟨hc, hs⟩, sent.packets .a (by decide),
        sent.packets .c (by decide)]
      simp [only]

theorem Relaying.passed_b (h : w.Relaying id) (m : Moved id .b o w w') (passed : Passed id o) :
    w'.Relaying id ∧ w'.core id =
      { w.core id with holder := .free, starts := (w.core id).starts + 1 } := by
  obtain ⟨hc, notice, origin, sent⟩ := passed
  constructor
  · refine h.moved m (m.live_iff (by decide)).mp (sent.part (.inl hc) ?_)
    intro j p hp
    obtain ⟨rfl, hp⟩ := mem_only hp
    obtain rfl := List.mem_singleton.mp hp
    exact origin
  · rw [m.core_b, holderOf_eq_free hc, sent.packets .a (by decide), sent.packets .c (by decide)]
    simp [only]

/-- B has dealt with a STOP_COOPERATE, which only is there once A has stopped. -/
theorem Relaying.part_of_stopped (h : w.Relaying id) (m : Moved id i o w w') (hi : i ≠ .a)
    (part : Part w.live id i o) (stopped : ¬ w.live) : Goes id w w' := by
  have hl : ¬ w'.live := mt (m.live_iff hi).mp stopped
  refine ⟨h.moved m (m.live_iff hi).mp ⟨part.role, fun j hj p hp => ?_, fun e he => ?_,
    part.timers⟩, next_stopped hl⟩
  · exact travels_mono (m.live_iff hi).mp (part.packets j hj p hp)
  · exact pending_mono (m.live_iff hi).mp (part.events e he)

/-! ### What becomes of C -/

theorem Relaying.stayed_c (h : w.Relaying id) (m : Moved id .c o w w')
    (stayed : Stayed id .c (w.view .c) o) : w'.Relaying id ∧ w'.core id = w.core id := by
  refine ⟨h.moved m (m.live_iff (by decide)).mp (stayed.sent.part stayed.role (by simp)), ?_⟩
  rw [m.core_c, stayed.current, stayed.sent.packets .a (by decide)]
  simp [core]

theorem Relaying.left_c (h : w.Relaying id) (m : Moved id .c o w w') (left : Left id .c o)
    (hs : o.inStep = .initial) :
    w'.Relaying id ∧ w'.core id =
      { w.core id with target := false, stops := (w.core id).stops + 1 } := by
  constructor
  · refine h.moved m (m.live_iff (by decide)).mp (left.sent.part ⟨hs, .inl left.current⟩ ?_)
    intro j p hp
    obtain ⟨rfl, hp⟩ := mem_only hp
    obtain rfl := List.mem_singleton.mp hp
    trivial
  · rw [m.core_c, left.current, left.sent.packets .a (by decide)]
    simp [only]

theorem Relaying.started_c (h : w.Relaying id) (m : Moved id .c o w w')
    (started : Started id (w.view .c) o) :
    w'.Relaying id ∧ w'.core id = { w.core id with
      target := true
      stops := if (w.core id).target then (w.core id).stops + 1 else (w.core id).stops } := by
  obtain ⟨hc, hp, hs, sent⟩ := started
  constructor
  · refine h.moved m (m.live_iff (by decide)).mp (sent.part ⟨hs, .inr ⟨hc, hp⟩⟩ ?_)
    intro j p hp
    obtain ⟨rfl, hp⟩ := mem_only hp
    split at hp
    · obtain rfl := List.mem_singleton.mp hp
      trivial
    · simp at hp
  · rw [m.core_c, hc, sent.packets .a (by decide)]
    by_cases ht : (w.view .c).current = .in <;> simp [only, core, ht]

/-! ### Requests -/

section Requests

variable {n : StopCooperateEvent}

theorem Relaying.stop_a (ids : Stations id) (h : w.Relaying id) (reliable : env.Reliable (id .a)) :
    Goes id w (w.process id .a env (.stop n)) := by
  have ht := (process_move env (.stop n) w .a).of_isPassedOn rfl rfl
  obtain ⟨hr, hl⟩ := h.stopped (process_moved id .a env (.stop n) w)
    (ht.sender_stop ids reliable (h.role .a) (sent_view .a))
  exact ⟨hr, next_stopped hl⟩

/-- B waits for the answer to its request. -/
def Asking (w : World Place) : Prop :=
  (w.device .b).machine.current = .in ∧ (w.device .b).machine.inStep = .relayConfirmation

/-- A has turned to C. -/
def Turned (id : Place → NetworkId) (w : World Place) : Prop :=
  (w.device .a).machine.current = .out ∧ (w.device .a).peer = id .c

theorem Relaying.turned (h : w.Relaying id) (hl : w.live) (hd : (w.core id).direction = .toC) :
    w.Turned id := by
  rcases h.role .a with hc | ⟨hc, -⟩
  · exact absurd hc hl
  · refine ⟨hc, ?_⟩
    by_cases hp : (w.view .a).peer = id .c
    · exact hp
    · simp [core, hp] at hd

theorem Relaying.stop_b (ids : Stations id) (h : w.Relaying id) (reliable : env.Reliable (id .b))
    (orderly : ¬ (w.Asking ∧ w.Turned id)) : Goes id w (w.process id .b env (.stop n)) := by
  have ht := (process_move env (.stop n) w .b).of_isPassedOn rfl rfl
  have m := process_moved id .b env (.stop n) w
  rcases ht.holder_stop ids reliable (h.role .b) (sent_view .b) with ⟨-, stayed⟩ | ⟨hc, left⟩
  · obtain ⟨hr, hcore⟩ := h.stayed_b m stayed
    exact ⟨hr, next_live (m.live_iff (by decide)) fun _ => hcore ▸ .stay⟩
  · obtain ⟨hr, hcore⟩ := h.left_b m left
    refine ⟨hr, next_live (m.live_iff (by decide)) fun hl => hcore ▸ .leave ?_ ?_⟩
    · exact holderOf_ne_free hc
    · rintro ⟨asking, dir⟩
      exact orderly ⟨holderOf_eq_asking.mp asking, h.turned hl dir⟩

theorem Relaying.stop_c (ids : Stations id) (h : w.Relaying id) (reliable : env.Reliable (id .c)) :
    Goes id w (w.process id .c env (.stop n)) := by
  have ht := (process_move env (.stop n) w .c).of_isPassedOn rfl rfl
  have m := process_moved id .c env (.stop n) w
  rcases ht.target_stop ids reliable (h.role .c) (sent_view .c) with ⟨-, stayed⟩ | ⟨hc, left, hs⟩
  · obtain ⟨hr, hcore⟩ := h.stayed_c m stayed
    exact ⟨hr, next_live (m.live_iff (by decide)) fun _ => hcore ▸ .stay⟩
  · obtain ⟨hr, hcore⟩ := h.left_c m left hs
    refine ⟨hr, next_live (m.live_iff (by decide)) fun _ => hcore ▸ .leaveTarget ?_⟩
    simp [core, hc]

theorem Relaying.start_b {n : StartCooperateEvent} (ids : Stations id) (h : w.Relaying id)
    (reliable : env.Reliable (id .b)) (hn : n.remoteNetworkId = id .c)
    (hc : (w.device .b).machine.current = .in) : Goes id w (w.process id .b env (.start n)) := by
  have hm := process_move env (.start n) w .b
  have m := process_moved id .b env (.start n) w
  have role (errCode : Promise) (value : Int32) :
      Role id .b ((w.view .b).out [.errCode errCode value]) := h.role .b
  have sent (errCode : Promise) (value : Int32) :
      ((w.view .b).out [.errCode errCode value]).Sent id .b (only .b []) :=
    ⟨fun j _ => by simp [out, view], rfl, fun ts t ht => .inl ht⟩
  have result : Stayed id .b (w.view .b) (obs (step env (.start n) (w.device .b))) ∨
      ((w.view .b).inStep = .initial ∧ Asked id (obs (step env (.start n) (w.device .b)))) := by
    rcases hm.of_request rfl with ⟨value, -, ho⟩ | ⟨-, -, ht⟩
    · rw [ho]
      exact .inl ⟨rfl, rfl, rfl, role _ _, sent _ _⟩
    · rcases ht.holder_start ids reliable hn hc (role _ _) (sent _ _) with stayed | ⟨hs, asked⟩
      · exact .inl ⟨stayed.current, stayed.peer, stayed.inStep, stayed.role, stayed.sent⟩
      · exact .inr ⟨hs, asked⟩
  rcases result with stayed | ⟨hs, asked⟩
  · obtain ⟨hr, hcore⟩ := h.stayed_b m stayed
    exact ⟨hr, next_live (m.live_iff (by decide)) fun _ => hcore ▸ .stay⟩
  · obtain ⟨hr, packets, hpk, hcore⟩ := h.asked_b m asked
    refine ⟨hr, next_live (m.live_iff (by decide)) fun _ => hcore ▸ .ask ?_ hpk⟩
    exact holderOf_eq_listening hc hs

end Requests

/-! ### Answers that reach B -/

/-- An answer of A, or the one that the timer stands for. -/
theorem Relaying.finished_b (h : w.Relaying id) (env : Env)
    {n : DSoftbusRelayCooperateFinished} (ids : Stations id) (reliable : env.Reliable (id .b))
    (hn : n.networkId = id .a) :
    (w.process id .b env (.dsoftbusRelayCooperateFinished n)).Relaying id ∧
    ((w.process id .b env (.dsoftbusRelayCooperateFinished n)).live ↔ w.live) ∧
    ((¬ w.Asking ∧ (w.process id .b env (.dsoftbusRelayCooperateFinished n)).core id = w.core id) ∨
      (w.Asking ∧ n.normal = false ∧
        (w.process id .b env (.dsoftbusRelayCooperateFinished n)).core id =
          { w.core id with holder := .free, requests := (w.core id).requests ++ [.stop] }) ∨
      (w.Asking ∧ n.normal = true ∧
        (w.process id .b env (.dsoftbusRelayCooperateFinished n)).core id =
          { w.core id with holder := .free, starts := (w.core id).starts + 1 })) := by
  have ht := (process_move env (.dsoftbusRelayCooperateFinished n) w .b).of_isPassedOn rfl rfl
  have m := process_moved id .b env (.dsoftbusRelayCooperateFinished n) w
  have hl := m.live_iff (by decide)
  rcases ht.holder_finished ids reliable hn (h.role .b) (sent_view .b) with
    ⟨notAsking, stayed⟩ | ⟨hc, hs, normal, left⟩ | ⟨hc, hs, normal, passed⟩
  · obtain ⟨hr, hcore⟩ := h.stayed_b m stayed
    exact ⟨hr, hl, .inl ⟨notAsking, hcore⟩⟩
  · obtain ⟨hr, hcore⟩ := h.left_b m left
    exact ⟨hr, hl, .inr (.inl ⟨⟨hc, hs⟩, normal, hcore⟩)⟩
  · obtain ⟨hr, hcore⟩ := h.passed_b m passed
    exact ⟨hr, hl, .inr (.inr ⟨⟨hc, hs⟩, normal, hcore⟩)⟩

/-- A STOP_COOPERATE at B or C. -/
theorem Relaying.remoteStop (h : w.Relaying id) (env : Env) {n : DSoftbusStopCooperate}
    (hi : i ≠ .a) (stopped : ¬ w.live) :
    Goes id w (w.process id i env (.dsoftbusStopCooperate n)) := by
  have ht := (process_move env (.dsoftbusStopCooperate n) w i).of_isPassedOn rfl rfl
  have m := process_moved id i env (.dsoftbusStopCooperate n) w
  cases i with
  | a => exact absurd rfl hi
  | b =>
    exact h.part_of_stopped m hi (ht.holder_remoteStop stopped (h.role .b) (sent_view .b)) stopped
  | c => exact h.part_of_stopped m hi (ht.target_remoteStop (h.role .c) (sent_view .c)) stopped

/-! ### Deliveries -/

section Deliveries

variable {packet : DSoftbusPacket} {rest : List DSoftbusPacket}

theorem core_setLink (i j : Place) : (w.setLink i j rest).core id =
    { w.core id with
      requests := ((w.setLink i j rest).link .b .a).map request
      answers := ((w.setLink i j rest).link .a .b).map DSoftbusPacket.grantsRelay
      starts := ((w.setLink i j rest).link .b .c).length
      stops := ((w.setLink i j rest).link .c .a).length } := rfl

theorem Relaying.deliver_ab (ids : Stations id) (h : w.Relaying id)
    (reliable : env.Reliable (id .b)) (hl : w.link .a .b = packet :: rest) :
    Goes id w ((w.setLink .a .b rest).process id .b env (packet.onPacket (id .a))) := by
  have h₁ := h.setLink hl
  have travels := h.packets .a .b (by decide) packet (hl ▸ .head _)
  have ha : (w.core id).answers = packet.grantsRelay :: rest.map DSoftbusPacket.grantsRelay := by
    simp [core, hl]
  have hcore₁ : (w.setLink .a .b rest).core id =
      { w.core id with answers := rest.map DSoftbusPacket.grantsRelay } := by
    rw [core_setLink]
    simp [World.setLink, core]
  cases packet with
  | relayCooperateFinished target normal uid =>
    obtain ⟨hr, hlive, hcase⟩ := h₁.finished_b env
      (n := { networkId := id .a, targetNetworkId := target, normal, uid }) ids reliable rfl
    refine ⟨hr, next_live hlive fun _ => ?_⟩
    rcases hcase with ⟨notAsking, hcore⟩ | ⟨asking, rfl, hcore⟩ | ⟨asking, rfl, hcore⟩
    · exact (hcore.trans hcore₁) ▸ .unasked (mt holderOf_eq_asking.mp notAsking) ha
    · rw [hcore₁] at hcore
      exact hcore ▸ .refused (holderOf_eq_asking.mpr asking) ha
    · rw [hcore₁] at hcore
      exact hcore ▸ .granted (holderOf_eq_asking.mpr asking) ha
  | stopCooperate =>
    have goes := h₁.remoteStop env (i := .b)
      (n := { networkId := id .a, normal := true }) (by decide) travels
    have m := process_moved id .b env (.dsoftbusStopCooperate
      { networkId := id .a, normal := true }) (w.setLink .a .b rest)
    exact ⟨goes.relaying, next_stopped (mt (m.live_iff (by decide)).mp travels)⟩
  | _ => exact travels.elim

/-- A RELAY_COOPERATE is granted only if B still waits, see `Orderly`. -/
theorem Relaying.deliver_ba (ids : Stations id) (h : w.Relaying id)
    (reliable : env.Reliable (id .a)) (hl : w.link .b .a = packet :: rest)
    (orderly : request packet = .relay → (w.device .a).machine.current = .out →
      (w.device .a).peer = id .b → env.openSession (id .c) = RET_OK → w.Asking) :
    Goes id w ((w.setLink .b .a rest).process id .a env (packet.onPacket (id .b))) := by
  have h₁ := h.setLink hl
  have travels := h.packets .b .a (by decide) packet (hl ▸ .head _)
  have hrq : (w.core id).requests = request packet :: rest.map request := by simp [core, hl]
  have hcore₁ : (w.setLink .b .a rest).core id =
      { w.core id with requests := rest.map request } := by
    rw [core_setLink]
    simp [World.setLink, core]
  have m := process_moved id .a env (packet.onPacket (id .b)) (w.setLink .b .a rest)
  have dir (hp : (w.view .a).peer = id .c) : (w.core id).direction = .toC := if_pos hp
  cases packet with
  | relayCooperate target pointerSpeed touchPadSpeed uid userId accountId check =>
    have ht := (process_move env (.dsoftbusRelayCooperate
      { networkId := id .b, targetNetworkId := target, normal := true, pointerSpeed, touchPadSpeed,
        uid, userId, accountId, needCheckSameAccount := check })
      (w.setLink .b .a rest) .a).of_isPassedOn rfl rfl
    rcases ht.sender_relay ids reliable rfl travels (h.role .a) (sent_view .a) with
      stopped | ⟨hc, hp, stayed⟩ | ⟨hc, hp, session, answered⟩ | ⟨hc, hp, session, answered⟩
    · obtain ⟨hr, hlive⟩ := h₁.stopped m stopped
      exact ⟨hr, next_stopped hlive⟩
    · obtain ⟨hr, hlive, hcore⟩ := h₁.stayed_a m stayed
      exact ⟨hr, next_live hlive fun _ => (hcore.trans hcore₁) ▸ .notPeer (dir hp) hrq⟩
    · obtain ⟨hr, hlive, hd, hcore⟩ := h₁.answered_a ids m hc hp answered
      rw [hcore₁] at hd hcore
      exact ⟨hr, next_live hlive fun _ => hcore ▸ .refuse hd hrq⟩
    · obtain ⟨hr, hlive, hd, hcore⟩ := h₁.answered_a ids m hc hp answered
      rw [hcore₁] at hd hcore
      have asking := orderly rfl hc hp session
      exact ⟨hr, next_live hlive fun _ => hcore ▸ .grant hd hrq (holderOf_eq_asking.mpr asking)⟩
  | stopCooperate =>
    have ht := (process_move env (.dsoftbusStopCooperate { networkId := id .b, normal := true })
      (w.setLink .b .a rest) .a).of_isPassedOn rfl rfl
    rcases ht.sender_remoteStop (h.role .a) (sent_view .a) with stopped | ⟨hc, notPeer, stayed⟩
    · obtain ⟨hr, hlive⟩ := h₁.stopped m stopped
      exact ⟨hr, next_stopped hlive⟩
    · obtain ⟨hr, hlive, hcore⟩ := h₁.stayed_a m stayed
      have hp : (w.view .a).peer = id .c := by
        rcases h.role .a with hf | ⟨-, hp | hp⟩
        · exact absurd (hc.symm.trans hf) (by decide)
        · exact absurd hp.symm notPeer
        · exact hp
      exact ⟨hr, next_live hlive fun _ => (hcore.trans hcore₁) ▸ .notPeer (dir hp) hrq⟩
  | _ => exact travels.elim

/-- C is started only if its gate is open, see `Orderly`. -/
theorem Relaying.deliver_bc (ids : Stations id) (h : w.Relaying id)
    (reliable : env.Reliable (id .c)) (hl : w.link .b .c = packet :: rest)
    (orderly : w.live → ∀ s ∈ (packet.onPacket (id .b)).remoteStart?,
      Gate env (w.view .c) s) :
    Goes id w ((w.setLink .b .c rest).process id .c env (packet.onPacket (id .b))) := by
  have h₁ := h.setLink hl
  have travels := h.packets .b .c (by decide) packet (hl ▸ .head _)
  have hs : (w.core id).starts = rest.length + 1 := by simp [core, hl]
  have hcore₁ : (w.setLink .b .c rest).core id = { w.core id with starts := rest.length } := by
    rw [core_setLink]
    simp [World.setLink, core]
  have m := process_moved id .c env (packet.onPacket (id .b)) (w.setLink .b .c rest)
  have hlive := m.live_iff (by decide)
  have move := process_move env (packet.onPacket (id .b)) (w.setLink .b .c rest) .c
  cases packet with
  | startCooperate origin =>
    rcases move.of_remoteStart rfl with ⟨-, ht⟩ | ⟨shut, ht⟩
    · obtain ⟨hr, hcore⟩ := h₁.started_c m
        (ht.target_start ids reliable rfl travels (h.role .c) (sent_view .c))
      rw [hcore₁] at hcore
      exact ⟨hr, next_live hlive fun _ => hcore ▸ .start hs⟩
    · have stopped : ¬ w.live := fun hw => shut (orderly hw _ rfl)
      have ended : ¬ (World.process id .c env _ (w.setLink .b .c rest)).live := mt hlive.mp stopped
      rcases ht.target_stop ids reliable (h.role .c) (sent_view .c) with
        ⟨-, stayed⟩ | ⟨hc, left, hstep⟩
      · exact ⟨(h₁.stayed_c m stayed).1, next_stopped ended⟩
      · exact ⟨(h₁.left_c m left hstep).1, next_stopped ended⟩
  | _ => exact travels.elim

theorem Relaying.deliver_ac (h : w.Relaying id) (hl : w.link .a .c = packet :: rest) :
    Goes id w ((w.setLink .a .c rest).process id .c env (packet.onPacket (id .a))) := by
  have h₁ := h.setLink hl
  have travels := h.packets .a .c (by decide) packet (hl ▸ .head _)
  cases packet with
  | stopCooperate =>
    have goes := h₁.remoteStop env (i := .c)
      (n := { networkId := id .a, normal := true }) (by decide) travels
    have m := process_moved id .c env (.dsoftbusStopCooperate
      { networkId := id .a, normal := true }) (w.setLink .a .c rest)
    exact ⟨goes.relaying, next_stopped (mt (m.live_iff (by decide)).mp travels)⟩
  | _ => exact travels.elim

theorem Relaying.deliver_ca (h : w.Relaying id)
    (hl : w.link .c .a = packet :: rest) :
    Goes id w ((w.setLink .c .a rest).process id .a env (packet.onPacket (id .c))) := by
  have h₁ := h.setLink hl
  have travels := h.packets .c .a (by decide) packet (hl ▸ .head _)
  have hs : (w.core id).stops = rest.length + 1 := by simp [core, hl]
  have hcore₁ : (w.setLink .c .a rest).core id = { w.core id with stops := rest.length } := by
    rw [core_setLink]
    simp [World.setLink, core]
  cases packet with
  | stopCooperate =>
    have m := process_moved id .a env (.dsoftbusStopCooperate
      { networkId := id .c, normal := true }) (w.setLink .c .a rest)
    have ht := (process_move env (.dsoftbusStopCooperate { networkId := id .c, normal := true })
      (w.setLink .c .a rest) .a).of_isPassedOn rfl rfl
    rcases ht.sender_remoteStop (h.role .a) (sent_view .a) with stopped | ⟨hc, notPeer, stayed⟩
    · obtain ⟨hr, hlive⟩ := h₁.stopped m stopped
      exact ⟨hr, next_stopped hlive⟩
    · obtain ⟨hr, hlive, hcore⟩ := h₁.stayed_a m stayed
      have dir : (w.core id).direction = .toB := if_neg (Ne.symm notPeer)
      exact ⟨hr, next_live hlive fun _ => (hcore.trans hcore₁) ▸ .notTarget dir hs⟩
  | _ => exact travels.elim

end Deliveries

/-! ### B's own channel -/

/-- Taking an event from a channel, or putting the answer of a timer there. -/
theorem Relaying.setChannel (h : w.Relaying id) (events : List CooperateEvent)
    (he : ∀ e ∈ events, Pending w.live id i e) :
    Relaying id { w with channel := Function.update w.channel i events } where
  role := h.role
  packets := h.packets
  channel j e hj := by
    by_cases hji : j = i
    · subst hji
      exact he e (by simpa using hj)
    · exact h.channel j e (by simpa [hji] using hj)
  timers := h.timers

/-- B takes what its timer has left behind only while A has not turned to C, see `Orderly`. -/
theorem Relaying.loop_b (ids : Stations id) (h : w.Relaying id)
    (reliable : env.Reliable (id .b)) {event : CooperateEvent} {rest : List CooperateEvent}
    (hl : w.channel .b = event :: rest) (orderly : ¬ (w.Asking ∧ w.Turned id)) :
    Goes id w (process id .b env event
      { w with channel := Function.update w.channel .b rest }) := by
  have pending := h.channel .b event (hl ▸ .head _)
  have h₁ := h.setChannel (i := .b) rest fun e he => h.channel .b e (hl ▸ .tail _ he)
  have late : event = relayExpired id → Goes id w (process id .b env event
      { w with channel := Function.update w.channel .b rest }) := by
    rintro rfl
    obtain ⟨hr, hlive, hcase⟩ := h₁.finished_b env
      (n := { networkId := id .a, normal := false }) ids reliable rfl
    refine ⟨hr, next_live hlive fun hw => ?_⟩
    rcases hcase with ⟨notAsking, hcore⟩ | ⟨asking, -, hcore⟩ | ⟨-, normal, -⟩
    · exact hcore ▸ .stay
    · have holder : holderOf (w.view .b) = .asking := holderOf_eq_asking.mpr asking
      refine hcore ▸ .leave (h := w.core id) (ne_of_eq_of_ne holder (by decide)) ?_
      rintro ⟨-, dir⟩
      exact orderly ⟨asking, h.turned hw dir⟩
    · cases normal
  cases event with
  | dsoftbusStopCooperate n =>
    have stopped : ¬ w.live := pending
    have goes := h₁.remoteStop env (i := .b) (n := n) (by decide) stopped
    have m := process_moved id .b env (.dsoftbusStopCooperate n)
      { w with channel := Function.update w.channel .b rest }
    exact ⟨goes.relaying, next_stopped (mt (m.live_iff (by decide)).mp stopped)⟩
  | _ => exact late pending

theorem Relaying.expire (h : w.Relaying id) (i : Place) (n : ℕ) :
    Goes id w (World.next id (.expire i n) w) := by
  simp only [World.next]
  cases ht : (w.timers i)[n]? with
  | none => exact ⟨h, next_live Iff.rfl fun _ => .stay⟩
  | some timer =>
    obtain ⟨hi, he⟩ := h.timers i timer (List.mem_of_getElem? ht)
    subst hi
    have h₁ := h.setChannel (i := .b) (w.channel .b ++ [timer.2]) fun e hmem => by
      rcases List.mem_append.mp hmem with hmem | hmem
      · exact h.channel .b e hmem
      · rw [List.mem_singleton.mp hmem, he]
        exact rfl
    refine ⟨⟨h₁.role, h₁.packets, h₁.channel, fun j t hj => ?_⟩,
      next_live Iff.rfl fun _ => .stay⟩
    by_cases hjb : j = .b
    · subst hjb
      exact h.timers .b t ((List.eraseIdx_sublist _ n).mem (by simpa using hj))
    · exact h.timers j t (by simpa [hjb] using hj)

end World

/-! ## Runs -/

/-- A sends its input to B, and nothing is in flight. -/
structure World.Connected (id : Place → NetworkId) (w : World Place) : Prop where
  sender : (w.device .a).machine.current = .out ∧ (w.device .a).peer = id .b
  holder : (w.device .b).machine.current = .in ∧ (w.device .b).machine.inStep = .initial ∧
    (w.device .b).peer = id .a
  target : (w.device .c).machine.current = .free ∧ (w.device .c).machine.inStep = .initial
  quiet : w.Quiet
  channel : ∀ i, w.channel i = []
  timers : ∀ i, w.timers i = []

/-- B asks for C while it listens to A; any device is stopped; packets arrive; B's timer runs
out and is heard of. The links are reliable. -/
def RelayLabel (id : Place → NetworkId) (w : World Place) : Label Place → Prop
  | .request i env (.stop _) => env.Reliable (id i)
  | .request i env (.start n) => i = .b ∧ env.Reliable (id .b) ∧ n.remoteNetworkId = id .c ∧
      (w.device .b).machine.current = .in
  | .request .. => False
  | .deliver i j env => i ≠ j ∧ env.Reliable (id j)
  | .loop i env => env.Reliable (id i)
  | .expire .. => True

def relaySystem (id : Place → NetworkId) : System (World Place) (Label Place) :=
  (System.ofFun (World.Connected id) (World.next id)).restrict fun w l _ => RelayLabel id w l

/-- The step goes as it should: B does not leave its confirmation step for a stop or for its
timer when A has turned to C; A grants a request only while B waits on it; C does not turn down
a start message for A. -/
def Orderly (id : Place → NetworkId) (w : World Place) : Label Place → Prop
  | .request .b _ (.stop _) => ¬ (w.Asking ∧ w.Turned id)
  | .loop .b _ => w.channel .b ≠ [] → ¬ (w.Asking ∧ w.Turned id)
  | .deliver .b .a env => ∀ packet ∈ (w.link .b .a).head?, World.request packet = .relay →
      (w.device .a).machine.current = .out → (w.device .a).peer = id .b →
        env.openSession (id .c) = RET_OK → w.Asking
  | .deliver .b .c env => ∀ packet ∈ (w.link .b .c).head?,
      (w.device .a).machine.current ≠ .free →
        ∀ s ∈ (packet.onPacket (id .b)).remoteStart?, Gate env (obs (w.device .c)) s
  | _ => True

namespace World

variable {id : Place → NetworkId} {w : World Place} {l : Label Place}

theorem Relaying.goes_deliver (ids : Stations id) (h : w.Relaying id) {i j : Place} {env : Env}
    (hij : i ≠ j) (reliable : env.Reliable (id j)) (orderly : Orderly id w (.deliver i j env)) :
    Goes id w (w.next id (.deliver i j env)) := by
  cases hl : w.link i j with
  | nil =>
    rw [next_deliver_nil id hl]
    exact ⟨h, next_live Iff.rfl fun _ => .stay⟩
  | cons packet rest =>
    rw [next_deliver_cons id hl]
    have none (travels : ¬ Travels w.live id i j packet) : Goes id w
        ((w.setLink i j rest).process id j env (packet.onPacket (id i))) :=
      absurd (h.packets i j hij packet (hl ▸ .head _)) travels
    cases i <;> cases j
    case a.a | b.b | c.c => exact absurd rfl hij
    case a.b => exact h.deliver_ab ids reliable hl
    case a.c => exact h.deliver_ac hl
    case b.a => exact h.deliver_ba ids reliable hl (orderly packet (by simp [hl]))
    case b.c =>
      exact h.deliver_bc ids reliable hl fun hw => orderly packet (by simp [hl]) hw
    case c.a => exact h.deliver_ca hl
    case c.b => exact none (by cases packet <;> exact not_false)

/-- A step that goes as it should keeps the devices in their roles and is a step of the
hand-over. -/
theorem Relaying.goes (ids : Stations id) (h : w.Relaying id) (hl : RelayLabel id w l)
    (orderly : Orderly id w l) : Goes id w (w.next id l) := by
  have stays : Goes id w w := ⟨h, next_live Iff.rfl fun _ => .stay⟩
  cases l with
  | request i env event =>
    cases event with
    | stop n =>
      cases i with
      | a => exact h.stop_a ids hl
      | b => exact h.stop_b ids hl orderly
      | c => exact h.stop_c ids hl
    | start n =>
      obtain ⟨rfl, reliable, hn, hc⟩ := hl
      exact h.start_b ids reliable hn hc
    | _ => exact hl.elim
  | deliver i j env => exact h.goes_deliver ids hl.1 hl.2 orderly
  | loop i env =>
    cases hch : w.channel i with
    | nil => rwa [next_loop_nil id hch]
    | cons event rest =>
      have pending := h.channel i event (hch ▸ .head _)
      cases i with
      | a | c => exact pending.elim
      | b =>
        simp only [World.next, hch]
        exact h.loop_b ids hl hch (orderly (by simp [hch]))
  | expire i n => exact h.expire i n

theorem Connected.relaying (h : w.Connected id) : w.Relaying id where
  role i := by
    cases i with
    | a => exact .inr ⟨h.sender.1, .inl h.sender.2⟩
    | b =>
      refine .inr ⟨h.holder.1, h.holder.2.2, fun hs => ?_⟩
      exact absurd (h.holder.2.1.symm.trans hs) (by decide)
    | c => exact ⟨h.target.2, .inl h.target.1⟩
  packets i j _ p hp := by simp [h.quiet i j] at hp
  channel i e he := by simp [h.channel i] at he
  timers i t ht := by simp [h.timers i] at ht

theorem Connected.handover (ids : Stations id) (h : w.Connected id) :
    w.handover id = some ⟨.toB, .listening, false, [], [], 0, 0⟩ := by
  have hl : w.live := fun hf => absurd (h.sender.1.symm.trans hf) (by decide)
  have hp : (w.view .a).peer ≠ id .c := by
    rw [show (w.view .a).peer = id .b from h.sender.2]
    simp [ids.injective.eq_iff]
  have hb : holderOf (w.view .b) = .listening := holderOf_eq_listening h.holder.1 h.holder.2.1
  have hc : (w.view .c).current = .free := h.target.1
  have hq := h.quiet
  unfold World.Quiet at hq
  simp [World.handover, hl, core, hp, hb, hc, hq]

end World

/-- Orderly runs are runs of the hand-over. -/
def relaySimulation {id : Place → NetworkId} (ids : Stations id) :
    Simulation ((relaySystem id).restrict fun w l _ => Orderly id w l)
      (Handover.system (Label Place)) (World.Relaying id) where
  abs := World.handover id
  init _ h := ⟨World.Connected.relaying h, World.Connected.handover ids h⟩
  step w l w' hw h := by
    obtain ⟨⟨rfl, hl⟩, orderly⟩ := h
    obtain ⟨hr, hn⟩ := hw.goes ids hl orderly
    exact ⟨hr, hn⟩

/-- Three devices and a relay: along runs that go as they should, when nothing is in flight and
A is in OUT, the device that it sends to is in IN and has A as its peer. -/
theorem relay_agreement {id : Place → NetworkId} (ids : Stations id) {tr : List (Label Place)}
    {w : World Place} (run : ((relaySystem id).restrict fun w l _ => Orderly id w l).Run tr w)
    (quiet : w.Quiet) (x : Place) (hx : x ≠ .a) (out : (w.device .a).machine.current = .out)
    (peer : (w.device .a).peer = id x) :
    (w.device x).machine.current = .in ∧ (w.device x).peer = id .a := by
  obtain ⟨hw, hrun⟩ := (relaySimulation ids).run run
  have hl : w.live := fun hf => absurd (out.symm.trans hf) (by decide)
  have phase := Handover.phase_of_run hrun (w.core id) (if_pos hl)
  have hq := quiet
  unfold World.Quiet at hq
  obtain ⟨toB, toC⟩ := phase.listens (by simp [World.core, hq]) (by simp [World.core, hq])
    (by simp [World.core, hq]) (by simp [World.core, hq])
  cases x with
  | a => exact absurd rfl hx
  | b =>
    have notC : (w.view .a).peer ≠ id .c := by
      rw [show (w.view .a).peer = id .b from peer]
      simp [ids.injective.eq_iff]
    rcases hw.role .b with hf | ⟨hc, hp, -⟩
    · exact absurd (World.holderOf_eq_free hf) (toB (if_neg notC))
    · exact ⟨hc, hp⟩
  | c =>
    have listens : (w.view .c).current = .in := by simpa [World.core] using toC (if_pos peer)
    rcases (hw.role .c).2 with hf | ⟨hc, hp⟩
    · exact absurd (listens.symm.trans hf) (by decide)
    · exact ⟨hc, hp⟩

/-! ## Three devices -/

def threeNames : Place → NetworkId
  | .a => [1]
  | .b => [2]
  | .c => [3]

theorem stations_threeNames : Stations threeNames where
  injective i j h := by cases i <;> cases j <;> first | rfl | cases h
  short i := by cases i <;> decide

/-- A sends its input to B, and C has just been enabled. -/
def threeDevices : World Place where
  device
    | .a => {
        context := {
          remoteNetworkId := [2]
          inputEventInterceptor := { interceptorId := 1, remoteNetworkId := [2] } }
        machine := { current := .out, isCooperateEnable := true } }
    | .b => {
        context := {
          remoteNetworkId := [1]
          inputEventBuilder := { enable := true, remoteNetworkId := [1] } }
        machine := { current := .in, isCooperateEnable := true } }
    | .c => { machine := { isCooperateEnable := true } }
  link _ _ := []
  channel _ := []
  timers _ := []

theorem connected_threeDevices : threeDevices.Connected threeNames :=
  ⟨⟨rfl, rfl⟩, ⟨rfl, rfl, rfl⟩, ⟨rfl, rfl⟩, fun _ _ => rfl, fun _ => rfl, fun _ => rfl⟩

def relay (tr : List (Label Place)) : World Place :=
  System.runFrom (World.next threeNames) threeDevices tr

def askForC : Label Place :=
  .request .b (calm (threeNames .b)) <| .start
    { pid := 1, userData := 1, remoteNetworkId := threeNames .c, startDeviceId := 1, errCode := 0 }

def stopB : Label Place :=
  .request .b (calm (threeNames .b)) (.stop {})

def arrives (i j : Place) : Label Place :=
  .deliver i j (calm (threeNames j))

theorem reliable_calm (networkId : NetworkId) : (calm networkId).Reliable networkId :=
  (friendly_calm networkId).toReliable

theorem quiet_of_pairs {w : World Place}
    (h : ∀ l ∈ [w.link .a .a, w.link .a .b, w.link .a .c, w.link .b .a, w.link .b .b,
      w.link .b .c, w.link .c .a, w.link .c .b, w.link .c .c], l = []) : w.Quiet := by
  intro i j
  cases i <;> cases j <;> exact h _ (by simp)

/-- The relay with every message delivered at once ends with C listening to A. -/
theorem relay_agreement_handedOver :
    ((relay [askForC, arrives .b .a, arrives .a .b, arrives .b .c]).device .c).machine.current =
        .in ∧
      ((relay [askForC, arrives .b .a, arrives .a .b, arrives .b .c]).device .c).peer =
        threeNames .a := by
  have start : ((relaySystem threeNames).restrict fun w l _ => Orderly threeNames w l).Run []
      (relay []) := .start connected_threeDevices
  have asked := start.next (l := askForC) ⟨⟨rfl, rfl, reliable_calm _, rfl, rfl⟩, trivial⟩
  have granted := asked.next (l := arrives .b .a)
    ⟨⟨rfl, by decide, reliable_calm _⟩, fun _ _ _ _ _ _ => ⟨rfl, rfl⟩⟩
  have passed := granted.next (l := arrives .a .b)
    ⟨⟨rfl, by decide, reliable_calm _⟩, trivial⟩
  have begun := passed.next (l := arrives .b .c)
    ⟨⟨rfl, by decide, reliable_calm _⟩, fun _ _ _ _ _ =>
      ⟨(friendly_calm _).checkSameAccount .., rfl⟩⟩
  exact relay_agreement stations_threeNames begun (quiet_of_pairs (by decide)) .c (by decide) rfl
    rfl

/-- B is stopped before the answer of A arrives; later its timer runs out. -/
def stoppedMidway : List (Label Place) :=
  [askForC, arrives .b .a, stopB, arrives .b .a, arrives .a .b, .expire .b 0,
    .loop .b (calm (threeNames .b))]

/-- A goes on sending to C, which nobody has started. -/
theorem stopped_relay_disagrees :
    ¬ ∀ (id : Place → NetworkId) (tr : List (Label Place)) (w : World Place), Stations id →
      (relaySystem id).Run tr w → w.Quiet → (∀ i, w.timers i = []) →
        ∀ x, x ≠ .a → (w.device .a).machine.current = .out → (w.device .a).peer = id x →
          (w.device x).machine.current = .in ∧ (w.device x).peer = id .a := by
  intro claim
  have run : (relaySystem threeNames).Run stoppedMidway (relay stoppedMidway) := by
    refine System.run_restrict connected_threeDevices ?_
    refine .cons ⟨rfl, reliable_calm _, rfl, rfl⟩ (.cons ⟨by decide, reliable_calm _⟩ ?_)
    refine .cons (reliable_calm _) (.cons ⟨by decide, reliable_calm _⟩ ?_)
    refine .cons ⟨by decide, reliable_calm _⟩ (.cons trivial ?_)
    exact .cons (reliable_calm _) .nil
  have timers (i : Place) : (relay stoppedMidway).timers i = [] := by
    cases i <;> rfl
  have free : ((relay stoppedMidway).device .c).machine.current = .free := rfl
  have listens := (claim threeNames stoppedMidway _ stations_threeNames run
    (quiet_of_pairs (by decide)) timers .c (by decide) rfl rfl).1
  exact absurd (free.symm.trans listens) (by decide)

end DeviceStatus.Cooperation
