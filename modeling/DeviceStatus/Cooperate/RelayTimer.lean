import DeviceStatus.Cooperate.RelayAttempt

/-!
# Relay timers and relay attempts

A device with its channel, its pending timers and a clock. Attempts are counted, and an answer
to a relay is marked with the attempt it is meant for; the code itself knows no such mark. The
timer of an attempt is cancelled when an answer ends the attempt and left alone when anything
else does, so it can outlive the attempt and fail the next one.

## Main definitions

* `RelayWorld`, `RelayWorld.next` — the device among its timers, and its steps.
* `EndsOwn` — what is expected of a step that ends an attempt.
* `KeepsApart` — the steps that keep the answers of attempts apart.
-/

namespace DeviceStatus.Cooperation

open Transition Observed

/-- An event in the channel, and the attempt that it answers, if it answers one. -/
structure Posted where
  event : CooperateEvent
  attempt : Option ℕ := none

/-- The event has nothing to do with relays. -/
def Posted.Foreign (p : Posted) : Prop :=
  p.event.finished? = none ∧ p.attempt = none

theorem Posted.Foreign.not_refused {p : Posted} {peer : NetworkId} (h : p.Foreign) :
    p.event.refusedBy? ≠ some peer := by
  unfold CooperateEvent.refusedBy?
  rw [h.1]
  simp

/-- A one-shot timer of the cooperation, and what it posts at `due`. -/
structure PendingTimer where
  timerId : Int32
  due : ℕ
  post : Posted

structure RelayWorld where
  device : Cooperate
  clock : ℕ := 0
  timers : List PendingTimer := []
  channel : List Posted := []
  /-- the attempts begun so far, which is also the number of the last one -/
  attempts : ℕ := 0

/-- Time passes, an event is posted from outside, a timer runs out, or the device handles the
oldest event of its channel. -/
inductive TimedLabel where
  | pass (ms : ℕ)
  | post (p : Posted)
  | fire (i : ℕ)
  | handle (env : Env)

namespace RelayWorld

/-- A timer that is armed for an answer is that of the attempt under way. -/
def armed (timerId interval : Int32) (event : CooperateEvent) (w : RelayWorld) : PendingTimer where
  timerId := timerId
  due := w.clock + interval.toInt.toNat
  post := { event, attempt := if event.finished?.isSome then some w.attempts else none }

/-- What an output of the device does to timers and channel; a timer that could not be added
has a negative id. -/
def perform (w : RelayWorld) : Output → RelayWorld
  | .addTimer timerId interval event =>
      if 0 ≤ timerId then { w with timers := w.timers ++ [w.armed timerId interval event] } else w
  | .removeTimer timerId => { w with timers := w.timers.filter (·.timerId ≠ timerId) }
  | .event event => { w with channel := w.channel ++ [{ event }] }
  | _ => w

/-- The device handles `p`, which has been taken from the channel. -/
def handle (env : Env) (p : Posted) (w : RelayWorld) : RelayWorld :=
  let device := step env p.event w.device
  let begins := w.device.machine.inStep = .initial ∧ device.machine.inStep = .relayConfirmation
  device.outputs.foldl perform
    { w with device, attempts := if begins then w.attempts + 1 else w.attempts }

/-- Nothing can answer an attempt that has not begun, and no timer fires before it is due. -/
def next (l : TimedLabel) (w : RelayWorld) : RelayWorld :=
  match l with
  | .pass ms => { w with clock := w.clock + ms }
  | .post p =>
      { w with channel := w.channel ++ [{ p with attempt := p.attempt.filter (· ≤ w.attempts) }] }
  | .fire i =>
      match w.timers[i]? with
      | some t =>
        if t.due ≤ w.clock then
          { w with timers := w.timers.eraseIdx i, channel := w.channel ++ [t.post] }
        else w
      | none => w
  | .handle env =>
      match w.channel with
      | p :: rest => handle env p { w with channel := rest }
      | [] => w

def UnderWay (w : RelayWorld) : Prop := w.device.machine.inStep = .relayConfirmation

/-- A timer that was armed for the last attempt is pending. -/
def TimerPending (w : RelayWorld) : Prop := ∃ t ∈ w.timers, t.post.attempt = some w.attempts

/-- `p` may end the attempt under way: it is a positive answer of the peer, a negative one to
this very attempt, or an explicit end. -/
def MayEnd (env : Env) (p : Posted) (w : RelayWorld) : Prop :=
  (∃ n withOptions, p.event.finished? = some (n, withOptions) ∧ n.networkId = w.device.peer ∧
    n.normal = true) ∨
  (p.event.refusedBy? = some w.device.peer ∧ p.attempt = some w.attempts) ∨
  Stops env p.event w.device

/-- If the step ends an attempt, it does so for a reason of the attempt's own, and the timer of
the attempt is not pending afterwards. -/
def EndsOwn (l : TimedLabel) (w : RelayWorld) : Prop :=
  match l, w.channel with
  | .handle env, p :: _ =>
      w.UnderWay → ¬ (next l w).UnderWay →
        w.MayEnd env p ∧ ∀ t ∈ (next l w).timers, t.post.attempt ≠ some w.attempts
  | _, _ => True

/-- No negative answer to an earlier attempt comes in during a later one, no relay begins while
a negative answer of the peer waits, and nothing but an answer ends an attempt unless it is an
explicit end that finds no timer of the attempt. -/
def KeepsApart (l : TimedLabel) (w : RelayWorld) : Prop :=
  match l, w.channel with
  | .post p, _ => w.UnderWay → p.event.refusedBy? = some w.device.peer → p.attempt = some w.attempts
  | .handle env, p :: rest =>
      (w.UnderWay → ¬ Interrupts env p.event w.device ∧
        (Stops env p.event w.device → ¬ w.TimerPending)) ∧
      (StartsRelay env p.event w.device →
        ∀ q ∈ rest, q.event.refusedBy? ≠ some w.device.peer)
  | _, _ => True

/-! ## What the outputs of an event do -/

section Perform

variable {w : RelayWorld} {outputs : List Output} {t : PendingTimer} {p : Posted}

@[simp] theorem device_perform (x : Output) : (w.perform x).device = w.device := by
  unfold perform
  grind

@[simp] theorem attempts_perform (x : Output) : (w.perform x).attempts = w.attempts := by
  unfold perform
  grind

@[simp] theorem armed_perform (x : Output) (timerId interval : Int32) (event : CooperateEvent) :
    (w.perform x).armed timerId interval event = w.armed timerId interval event := by
  unfold perform armed
  grind

@[simp] theorem device_foldl_perform : (outputs.foldl perform w).device = w.device := by
  induction outputs generalizing w with
  | nil => rfl
  | cons x outputs ih => simp [ih]

@[simp] theorem attempts_foldl_perform : (outputs.foldl perform w).attempts = w.attempts := by
  induction outputs generalizing w with
  | nil => rfl
  | cons x outputs ih => simp [ih]

theorem mem_timers_perform {x : Output} (h : t ∈ (w.perform x).timers) :
    (t ∈ w.timers ∧ x ≠ .removeTimer t.timerId) ∨
      ∃ timerId interval event, x = .addTimer timerId interval event ∧
        t = w.armed timerId interval event := by
  unfold perform at h
  grind

theorem mem_channel_perform {x : Output} (h : p ∈ (w.perform x).channel) :
    p ∈ w.channel ∨ ∃ event, x = .event event ∧ p = { event } := by
  unfold perform at h
  grind

/-- A pending timer was pending before and has not been removed, or it has been armed. -/
theorem mem_timers_foldl (h : t ∈ (outputs.foldl perform w).timers) :
    (t ∈ w.timers ∧ .removeTimer t.timerId ∉ outputs) ∨
      ∃ timerId interval event, .addTimer timerId interval event ∈ outputs ∧
        t = w.armed timerId interval event := by
  induction outputs generalizing w with
  | nil => exact .inl ⟨h, List.not_mem_nil⟩
  | cons x outputs ih =>
    rcases ih h with ⟨ht, kept⟩ | ⟨timerId, interval, event, added, rfl⟩
    · rcases mem_timers_perform ht with ⟨ht, hx⟩ | ⟨timerId, interval, event, rfl, rfl⟩
      · exact .inl ⟨ht, by grind⟩
      · exact .inr ⟨timerId, interval, event, List.mem_cons_self, rfl⟩
    · exact .inr ⟨timerId, interval, event, List.mem_cons_of_mem _ added, armed_perform ..⟩

theorem mem_channel_foldl (h : p ∈ (outputs.foldl perform w).channel) :
    p ∈ w.channel ∨ ∃ event, .event event ∈ outputs ∧ p = { event } := by
  induction outputs generalizing w with
  | nil => exact .inl h
  | cons x outputs ih =>
    rcases ih h with hp | ⟨event, posted, rfl⟩
    · rcases mem_channel_perform hp with hp | ⟨event, rfl, rfl⟩
      · exact .inl hp
      · exact .inr ⟨event, List.mem_cons_self, rfl⟩
    · exact .inr ⟨event, List.mem_cons_of_mem _ posted, rfl⟩

theorem foreign_armed {timerId interval : Int32} {event : CooperateEvent}
    (h : event.finished? = none) : (w.armed timerId interval event).post.Foreign := by
  refine ⟨h, ?_⟩
  simp [armed, h]

theorem timers_of_quiet (quiet : Quiet outputs) (h : t ∈ (outputs.foldl perform w).timers) :
    (t ∈ w.timers ∧ .removeTimer t.timerId ∉ outputs) ∨ t.post.Foreign := by
  rcases mem_timers_foldl h with old | ⟨timerId, interval, event, added, rfl⟩
  · exact .inl old
  · exact .inr (foreign_armed (quiet _ added))

theorem channel_of_quiet (quiet : Quiet outputs) (h : p ∈ (outputs.foldl perform w).channel) :
    p ∈ w.channel ∨ p.Foreign := by
  rcases mem_channel_foldl h with old | ⟨event, posted, rfl⟩
  · exact .inl old
  · exact .inr ⟨quiet _ posted, rfl⟩

end Perform

/-! ## The invariant -/

/-- A timer armed for an answer is that of the attempt under way, under the id that the state
machine keeps, and no negative answer to another attempt waits for it. -/
structure Apart (w : RelayWorld) : Prop where
  aligned : Aligned (obs w.device)
  timers : ∀ t ∈ w.timers, t.post.Foreign ∨
    (w.UnderWay ∧ t.post.attempt = some w.attempts ∧ t.timerId = w.device.machine.timerId)
  channel : w.UnderWay → ∀ p ∈ w.channel,
    p.event.refusedBy? = some w.device.peer → p.attempt = some w.attempts

section Invariant

variable {w : RelayWorld} {env : Env} {p : Posted} {t : PendingTimer}

theorem not_underWay (h : w.device.machine.inStep = .initial) : ¬ w.UnderWay := by
  intro hw
  cases h.symm.trans hw

@[simp] theorem device_handle : (handle env p w).device = step env p.event w.device := by
  simp [handle]

theorem underWay_handle : (handle env p w).UnderWay ↔
    (obs (step env p.event w.device)).inStep = .relayConfirmation := by
  simp [UnderWay, obs]

theorem not_underWay_handle (after : (obs (step env p.event w.device)).inStep = .initial) :
    ¬ (handle env p w).UnderWay := by
  intro hw
  cases after.symm.trans (underWay_handle.mp hw)

theorem attempts_handle_of_underWay (before : w.UnderWay) :
    (handle env p w).attempts = w.attempts := by
  have before : w.device.machine.inStep = .relayConfirmation := before
  simp [handle, before]

/-- What an event leaves of the timers, if it brings no answer. -/
theorem timers_handle (quiet : Quiet (step env p.event w.device).outputs)
    (h : t ∈ (handle env p w).timers) :
    (t ∈ w.timers ∧ .removeTimer t.timerId ∉ (step env p.event w.device).outputs) ∨
      t.post.Foreign := by
  have left := timers_of_quiet quiet h
  exact left

theorem channel_handle {q : Posted} (quiet : Quiet (step env p.event w.device).outputs)
    (h : q ∈ (handle env p w).channel) : q ∈ w.channel ∨ q.Foreign := by
  have left := channel_of_quiet quiet h
  exact left

/-- The event that arms a timer for an answer puts no answer into the channel itself. -/
theorem handle_of_begin {others : List Output} {timeout : CooperateEvent}
    (quiet : Quiet others) (refuses : timeout.refusedBy? = some w.device.peer)
    (outputs : (step env p.event w.device).outputs =
      others ++ [.addTimer env.addTimer DEFAULT_TIMEOUT timeout]) :
    (∀ t ∈ (handle env p w).timers, t ∈ w.timers ∨ t.post.Foreign ∨
      (t.timerId = env.addTimer ∧ t.post.attempt = some (handle env p w).attempts)) ∧
    ∀ q ∈ (handle env p w).channel, q ∈ w.channel ∨ q.Foreign := by
  constructor
  · intro t ht
    rcases mem_timers_foldl ht with ⟨old, -⟩ | ⟨timerId, interval, event, added, rfl⟩
    · exact .inl old
    · right
      rw [outputs] at added
      rcases List.mem_append.mp added with other | last
      · exact .inl (foreign_armed (quiet _ other))
      · right
        obtain ⟨rfl, rfl, rfl⟩ : timerId = env.addTimer ∧ interval = DEFAULT_TIMEOUT ∧
            event = timeout := by simpa using last
        have answer : event.finished?.isSome := by
          unfold CooperateEvent.refusedBy? at refuses
          split at refuses
          · rename_i h
            simp [h]
          · cases refuses
        refine ⟨rfl, ?_⟩
        simp [armed, answer, handle]
  · intro q hq
    rcases mem_channel_foldl hq with old | ⟨event, posted, rfl⟩
    · exact .inl old
    · right
      rw [outputs] at posted
      rcases List.mem_append.mp posted with other | last
      · exact ⟨quiet _ other, rfl⟩
      · simp at last

theorem finished_handled {e : CooperateEvent} {o : Observed} {r : DSoftbusRelayCooperate × Bool}
    (h : (handled env e o).finished? = some r) : e.finished? = some r := by
  rcases handled_eq_or_stop env e o with same | stop
  · rwa [same] at h
  · rw [stop] at h
    cases h

/-- An attempt that ends does so for a reason of its own, and leaves no timer behind. -/
theorem ended_handle (h : Apart w)
    (own : w.UnderWay → p.event.refusedBy? = some w.device.peer → p.attempt = some w.attempts)
    (ends : w.UnderWay → ¬ Interrupts env p.event w.device ∧
      (Stops env p.event w.device → ¬ w.TimerPending))
    (before : w.UnderWay) (after : ¬ (handle env p w).UnderWay) :
    w.MayEnd env p ∧ ∀ t ∈ (handle env p w).timers, t.post.Foreign := by
  have here : w.device.machine.inStep = .relayConfirmation := before
  cases step_attempt env p.event w.device h.aligned with
  | idle initial => cases here.symm.trans initial
  | begin _ initial => cases here.symm.trans initial
  | keep _ still => exact absurd (underWay_handle.mpr still) after
  | answer n withOptions he sender _ _ removed quiet =>
    have answer := finished_handled he
    constructor
    · cases normal : n.normal with
      | true => exact .inl ⟨n, withOptions, answer, sender, normal⟩
      | false =>
        have refused : p.event.refusedBy? = some w.device.peer := by
          unfold CooperateEvent.refusedBy?
          rw [answer]
          have sender : n.networkId = w.device.peer := sender
          simpa [normal] using sender
        exact .inr (.inl ⟨refused, own before refused⟩)
    · intro t ht
      rcases timers_handle quiet ht with ⟨old, kept⟩ | foreign
      · rcases h.timers t old with foreign | ⟨-, -, id⟩
        · exact foreign
        · rw [id] at kept
          exact absurd removed kept
      · exact foreign
  | breakOff breaks _ initial quiet =>
    obtain ⟨noInterrupt, noTimer⟩ := ends before
    have stops : Stops env p.event w.device :=
      (stops_or_interrupts breaks here initial).resolve_right noInterrupt
    refine ⟨.inr (.inr stops), fun t ht => ?_⟩
    rcases timers_handle quiet ht with ⟨old, -⟩ | foreign
    · rcases h.timers t old with foreign | ⟨-, tagged, -⟩
      · exact foreign
      · exact absurd ⟨t, old, tagged⟩ (noTimer stops)
    · exact foreign

theorem apart_handle (h : Apart w)
    (own : w.UnderWay → p.event.refusedBy? = some w.device.peer → p.attempt = some w.attempts)
    (ends : w.UnderWay → ¬ Interrupts env p.event w.device ∧
      (Stops env p.event w.device → ¬ w.TimerPending))
    (starts : StartsRelay env p.event w.device →
      ∀ q ∈ w.channel, q.event.refusedBy? ≠ some w.device.peer) :
    Apart (handle env p w) := by
  have aligned : Aligned (obs (handle env p w).device) := by
    rw [device_handle]
    exact aligned_next (env, p.event) w.device h.aligned
  cases step_attempt env p.event w.device h.aligned with
  | idle before after quiet =>
    refine ⟨aligned, fun t ht => ?_, fun hw => ?_⟩
    · rcases timers_handle quiet ht with ⟨old, -⟩ | foreign
      · exact .inl ((h.timers t old).resolve_right fun tagged => not_underWay before tagged.1)
      · exact .inl foreign
    · exact absurd hw (not_underWay_handle after)
  | begin r before current hr drag notLocal notPeer session after peer timerId others quiet
      timeout refuses outputs =>
    obtain ⟨timers, channel⟩ := handle_of_begin quiet refuses outputs
    have relay := startsRelay_of_begin before current hr drag notLocal notPeer session after
    have peer : (step env p.event w.device).peer = w.device.peer := peer
    have timerId : (step env p.event w.device).machine.timerId = env.addTimer := timerId
    have underWay : (handle env p w).UnderWay := underWay_handle.mpr after
    refine ⟨aligned, fun t ht => ?_, fun _ q hq refused => ?_⟩
    · rcases timers t ht with old | foreign | ⟨id, tagged⟩
      · exact .inl ((h.timers t old).resolve_right fun tagged => not_underWay before tagged.1)
      · exact .inl foreign
      · exact .inr ⟨underWay, tagged, by rw [id, device_handle, timerId]⟩
    · rw [device_handle, peer] at refused
      rcases channel q hq with old | foreign
      · exact absurd refused (starts relay q old)
      · exact absurd refused foreign.not_refused
  | keep before after peer timerId quiet =>
    have peer : (step env p.event w.device).peer = w.device.peer := peer
    have timerId : (step env p.event w.device).machine.timerId = w.device.machine.timerId :=
      timerId
    have attempts : (handle env p w).attempts = w.attempts := attempts_handle_of_underWay before
    have underWay : (handle env p w).UnderWay := underWay_handle.mpr after
    refine ⟨aligned, fun t ht => ?_, fun _ q hq refused => ?_⟩
    · rcases timers_handle quiet ht with ⟨old, -⟩ | foreign
      · rcases h.timers t old with foreign | ⟨-, tagged, id⟩
        · exact .inl foreign
        · exact .inr ⟨underWay, by rw [attempts, tagged], by rw [id, device_handle, timerId]⟩
      · exact .inl foreign
    · rw [device_handle, peer] at refused
      rcases channel_handle quiet hq with old | foreign
      · rw [attempts]
        exact h.channel before q old refused
      · exact absurd refused foreign.not_refused
  | answer _ _ _ _ before after =>
    have gone : ¬ (handle env p w).UnderWay := not_underWay_handle after
    obtain ⟨-, foreign⟩ := ended_handle h own ends before gone
    exact ⟨aligned, fun t ht => .inl (foreign t ht), fun hw => absurd hw gone⟩
  | breakOff _ before after =>
    have gone : ¬ (handle env p w).UnderWay := not_underWay_handle after
    obtain ⟨-, foreign⟩ := ended_handle h own ends before gone
    exact ⟨aligned, fun t ht => .inl (foreign t ht), fun hw => absurd hw gone⟩

/-! ## Runs -/

/-- Taking the oldest event from the channel keeps the invariant. -/
theorem Apart.tail {rest : List Posted} (h : Apart w) (hc : w.channel = p :: rest) :
    Apart { w with channel := rest } where
  aligned := h.aligned
  timers := h.timers
  channel hw q hq := h.channel hw q (hc ▸ List.mem_cons_of_mem p hq)

theorem apart_next {l : TimedLabel} (h : Apart w) (ok : KeepsApart l w) : Apart (next l w) := by
  cases l with
  | pass ms => exact ⟨h.aligned, h.timers, h.channel⟩
  | post p =>
    refine ⟨h.aligned, h.timers, fun hw q hq refused => ?_⟩
    rcases List.mem_append.mp hq with old | new
    · exact h.channel hw q old refused
    · obtain rfl := List.mem_singleton.mp new
      have own : p.attempt = some w.attempts := ok hw refused
      simp [next, own]
  | fire i =>
    unfold next
    dsimp only
    split
    · rename_i t ht
      have pending : t ∈ w.timers := List.mem_of_getElem? ht
      split
      · refine ⟨h.aligned, fun t' ht' => h.timers t' (List.mem_of_mem_eraseIdx ht'),
          fun hw q hq refused => ?_⟩
        rcases List.mem_append.mp hq with old | new
        · exact h.channel hw q old refused
        · obtain rfl := List.mem_singleton.mp new
          rcases h.timers t pending with foreign | ⟨-, tagged, -⟩
          · exact absurd refused foreign.not_refused
          · exact tagged
      · exact h
    · exact h
  | handle env =>
    unfold next
    unfold KeepsApart at ok
    cases hc : w.channel with
    | nil => exact h
    | cons p rest =>
      rw [hc] at ok
      apply apart_handle (h.tail hc)
      · intro hw refused
        exact h.channel hw p (hc ▸ List.mem_cons_self) refused
      · exact ok.1
      · exact ok.2

theorem endsOwn_of_apart {l : TimedLabel} (h : Apart w) (ok : KeepsApart l w) : EndsOwn l w := by
  cases l with
  | handle env =>
    cases hc : w.channel with
    | nil => simp [EndsOwn, hc]
    | cons p rest =>
      simp only [KeepsApart, hc] at ok
      simp only [EndsOwn, next, hc]
      intro before after
      have own (hw : w.UnderWay) := h.channel hw p (hc ▸ List.mem_cons_self)
      obtain ⟨mayEnd, foreign⟩ := ended_handle (h.tail hc) own ok.1 before after
      exact ⟨mayEnd, fun t ht => by simp [(foreign t ht).2]⟩
  | _ => trivial

end Invariant

/-- A fresh device, with nothing pending. -/
def start (settings : InputSettings) : RelayWorld :=
  { device := fresh settings }

theorem apart_start (settings : InputSettings) : Apart (start settings) where
  aligned := aligned_fresh settings
  timers t ht := by cases ht
  channel hw := by cases hw

instance (w : RelayWorld) : Decidable w.UnderWay :=
  inferInstanceAs (Decidable (_ = _))

def startToC : CooperateEvent :=
  .start { pid := 1, userData := 1, remoteNetworkId := [67], startDeviceId := 1, errCode := 1 }

/-- Device A is made the sink of B and asked to hand over to C, after `ms` milliseconds. -/
def relayRun (ms : ℕ) (timerId : Int32) : List TimedLabel :=
  [.post { event := .dsoftbusStartCooperate { networkId := [66], originNetworkId := [66] } },
    .handle { localNetworkId := [65] }, .pass ms,
    .post { event := startToC },
    .handle { localNetworkId := [65], addTimer := timerId }]

def enableRun : List TimedLabel :=
  [.post { event := .enable { tokenId := 1, pid := 1, userData := 1 } },
    .handle { localNetworkId := [65] }]

/-- B never answers, and the timer of the attempt ends it. -/
def timeoutRun : List TimedLabel :=
  enableRun ++ relayRun 0 1 ++ [.pass 5000, .fire 0, .handle { localNetworkId := [65] }]

/-- The first attempt is stopped and its timer stays; a second one is four seconds old when the
timer of the first runs out. -/
def staleTimeoutRun : List TimedLabel :=
  enableRun ++ relayRun 0 1 ++ [.post { event := .stop {} }, .handle { localNetworkId := [65] }] ++
    relayRun 1000 2 ++ [.pass 4000, .fire 0, .handle { localNetworkId := [65] }]

end RelayWorld

end DeviceStatus.Cooperation
