import DeviceStatus.Library.Transition
import DeviceStatus.Service.MsdpClient

/-!
# Subscribers to the device status

The manager keeps the callbacks of each type, but one event for all callbacks of a type, the one
that was asked for last. The algorithm of a type is enabled for each callback, and disabled when
the last callback of all types goes. The death of a callback is logged.

## Main definitions

* `DeviceStatusManager`, `DeviceStatusManager.next` — the manager and its client, one operation.
* `DeviceStatusManager.Served` — what subscribers expect of an operation.
* `DeviceStatusManager.Unshared` — the operations for which the sharing does no harm.
-/

namespace DeviceStatus.Service

open Transition.System

/-- The value is one that the event asks for. -/
def ActivityEvent.Matches (value : OnChangedValue) : ActivityEvent → Prop
  | .enter => value = .enter
  | .exit => value = .exit
  | .enterExit => value = .enter ∨ value = .exit
  | .invalid => False

/-- The `switch` of `NotifyDeviceStatusChange`. -/
def ActivityEvent.passes (value : OnChangedValue) : ActivityEvent → Bool
  | .enter => value = .enter
  | .exit => value = .exit
  | .enterExit => true
  | .invalid => false

/-- Callbacks are told apart by their remote objects. -/
structure DeviceStatusManager where
  listeners : DeviceType → Finset ℕ := fun _ => ∅
  arrs : DeviceType → ActivityEvent := fun _ => .invalid
  client : MsdpClient := {}
  /-- a call does not return, and holds `mutex_` -/
  hung : Bool := false
  dead : Finset ℕ := ∅
  /-- the event that each live callback has asked for last and not given up since -/
  asked : DeviceType → ℕ → Option ActivityEvent := fun _ _ => none

namespace DeviceStatusManager

inductive Label where
  | subscribe (env : MsdpEnv) (type : DeviceType) (event : ActivityEvent) (callback : ℕ)
  | unsubscribe (type : DeviceType) (event : ActivityEvent) (callback : ℕ)
  | died (callback : ℕ)
  | report (type : DeviceType) (value : OnChangedValue)

/-- `InitAlgoMngrInterface` and `InitDataCallback`. -/
def enable (sensor : Bool) (env : MsdpEnv) (type : DeviceType) (s : DeviceStatusManager) :
    DeviceStatusManager :=
  match s.client.initMsdpImpl sensor env type with
  | .retOk client => { s with client := { client with callBacksMgr := true } }
  | .retErr client => { s with client }
  | .hangs client => { s with client, hung := true }

/-- A call that passes the checks of its arguments and gets `mutex_`. -/
def Enters (type : DeviceType) (event : ActivityEvent) (callback : ℕ) (s : DeviceStatusManager) :
    Prop :=
  type ≠ .invalid ∧ event ≠ .invalid ∧ s.hung = false ∧ callback ∉ s.dead

instance {type : DeviceType} {event : ActivityEvent} {callback : ℕ} {s : DeviceStatusManager} :
    Decidable (s.Enters type event callback) :=
  inferInstanceAs (Decidable (_ ∧ _ ∧ _ ∧ _))

def ask (type : DeviceType) (callback : ℕ) (event : Option ActivityEvent)
    (s : DeviceStatusManager) : DeviceType → ℕ → Option ActivityEvent :=
  fun other c => if other = type ∧ c = callback then event else s.asked other c

/-- What `Subscribe` writes before it enables the algorithm. -/
def listen (type : DeviceType) (event : ActivityEvent) (callback : ℕ) (s : DeviceStatusManager) :
    DeviceStatusManager :=
  { s with
    arrs := Function.update s.arrs type event
    asked := s.ask type callback (some event)
    listeners := Function.update s.listeners type (insert callback (s.listeners type)) }

def subscribe (sensor : Bool) (env : MsdpEnv) (type : DeviceType) (event : ActivityEvent)
    (callback : ℕ) (s : DeviceStatusManager) : DeviceStatusManager :=
  if s.Enters type event callback then
    if callback ∈ s.listeners type then s.listen type event callback
    else (s.listen type event callback).enable sensor env type
  else s

def unlisten (type : DeviceType) (callback : ℕ) (s : DeviceStatusManager) :
    DeviceStatusManager :=
  { s with
    asked := s.ask type callback none
    listeners := Function.update s.listeners type ((s.listeners type).erase callback) }

/-- The event is only checked. -/
def unsubscribe (sensor : Bool) (type : DeviceType) (event : ActivityEvent) (callback : ℕ)
    (s : DeviceStatusManager) : DeviceStatusManager :=
  if s.Enters type event callback then
    if s.listeners type ≠ ∅ ∧ ∀ other, (s.unlisten type callback).listeners other = ∅ then
      { s.unlisten type callback with client := (s.client.disable sensor type).1 }
    else s.unlisten type callback
  else s

/-- `OnRemoteDied` writes a log. -/
def died (callback : ℕ) (s : DeviceStatusManager) : DeviceStatusManager :=
  { s with
    dead := insert callback s.dead
    asked := fun type c => if c = callback then none else s.asked type c }

/-- `NotifyDeviceStatusChange`: the callbacks that are told of a value. -/
def notified (type : DeviceType) (value : OnChangedValue) (s : DeviceStatusManager) : Finset ℕ :=
  if s.hung = false ∧ s.client.callBacksMgr = true ∧ (s.arrs type).passes value then
    s.listeners type
  else ∅

def next (sensor : Bool) : Label → DeviceStatusManager → DeviceStatusManager
  | .subscribe env type event callback, s => s.subscribe sensor env type event callback
  | .unsubscribe type event callback, s => s.unsubscribe sensor type event callback
  | .died callback, s => s.died callback
  | .report _ _, s => s

/-- A type is enabled exactly if some live callback has asked for it, and none but those that have
are kept. -/
structure InStep (s : DeviceStatusManager) : Prop where
  enabled : ∀ type, s.client.Enabled type ↔ ∃ callback, s.asked type callback ≠ none
  kept : ∀ type callback, callback ∈ s.listeners type → s.asked type callback ≠ none

/-- An operation leaves the manager in step, and a report goes to those whose own event matches. -/
def Served (sensor : Bool) (l : Label) (s : DeviceStatusManager) : Prop :=
  (next sensor l s).InStep ∧
    ∀ type value, l = .report type value → ∀ callback event, s.asked type callback = some event →
      (callback ∈ s.notified type value ↔ event.Matches value)

/-- What keeps an operation from doing harm: a first callback gets its algorithm, a last callback
of a type is the last of all types and its type was initialised once, nobody dies subscribed, and
a report passes for the type exactly if each callback wants it. -/
def Unshared (sensor : Bool) (l : Label) (s : DeviceStatusManager) : Prop :=
  match l with
  | .subscribe env type event callback =>
    s.Enters type event callback → s.listeners type = ∅ →
      ∃ client, s.client.initMsdpImpl sensor env type = .retOk client
  | .unsubscribe type event callback =>
    s.Enters type event callback → s.listeners type = {callback} →
      (∀ other, other ≠ type → s.listeners other = ∅) ∧ s.client.CountedOnce sensor type
  | .died callback => ∀ type, callback ∉ s.listeners type
  | .report type value => ∀ callback event, s.asked type callback = some event →
      (event.Matches value ↔ s.hung = false ∧ (s.arrs type).passes value)

/-- The invariant of a manager whose operations did no harm. -/
structure Good (sensor : Bool) (s : DeviceStatusManager) : Prop where
  inStep : s.InStep
  client : s.client.Valid sensor
  listed : ∀ type callback, s.asked type callback ≠ none → callback ∈ s.listeners type
  valid : s.listeners .invalid = ∅
  callBacksMgr : ∀ type, s.client.Enabled type → s.client.callBacksMgr = true

variable {sensor : Bool} {env : MsdpEnv} {type : DeviceType} {event : ActivityEvent}
  {callback : ℕ} {value : OnChangedValue} {s : DeviceStatusManager}

theorem good_init (sensor : Bool) : Good sensor {} where
  inStep := ⟨by simp [MsdpClient.Enabled, CallCounts.Positive, CallCounts.init], by simp⟩
  client := MsdpClient.valid_init sensor
  listed := by simp
  valid := rfl
  callBacksMgr := by simp [MsdpClient.Enabled, CallCounts.Positive, CallCounts.init]

/-- In a good state a type is enabled exactly if it has callbacks. -/
theorem Good.enabled_iff (good : s.Good sensor) :
    s.client.Enabled type ↔ (s.listeners type).Nonempty := by
  rw [good.inStep.enabled]
  constructor
  · rintro ⟨callback, h⟩
    exact ⟨callback, good.listed type callback h⟩
  · rintro ⟨callback, h⟩
    exact ⟨callback, good.inStep.kept type callback h⟩

/-- A manager with one more callback of a type, which the client counts. -/
theorem Good.listen (good : s.Good sensor) {client : MsdpClient} {hung : Bool}
    (known : type ≠ .invalid) (valid : client.Valid sensor)
    (off : MsdpClient.AgreeOff type s.client client) (enabled : client.Enabled type)
    (registered : client.callBacksMgr = true) :
    Good sensor { s.listen type event callback with client, hung } where
  inStep := by
    constructor
    · intro other
      by_cases h : other = type
      · subst h
        exact iff_of_true enabled ⟨callback, by simp [DeviceStatusManager.listen, ask]⟩
      · rw [off other h, good.inStep.enabled]
        simp [DeviceStatusManager.listen, ask, h]
    · intro other c
      have := good.inStep.kept other c
      simp only [DeviceStatusManager.listen, ask, Function.update_apply]
      grind
  client := valid
  listed := by
    intro other c
    have := good.listed other c
    simp only [DeviceStatusManager.listen, ask, Function.update_apply]
    grind
  valid := by simpa [DeviceStatusManager.listen, Ne.symm known] using good.valid
  callBacksMgr := fun _ _ => registered

theorem Good.subscribe (good : s.Good sensor)
    (ok : s.Unshared sensor (.subscribe env type event callback)) :
    (s.subscribe sensor env type event callback).Good sensor := by
  unfold DeviceStatusManager.subscribe
  split
  swap
  next => exact good
  next enters =>
  have known := enters.1
  have off : MsdpClient.AgreeOff type s.client s.client := fun _ _ => Iff.rfl
  have old : s.listeners type ≠ ∅ → s.client.Enabled type :=
    fun h => good.enabled_iff.mpr (Finset.nonempty_iff_ne_empty.mpr h)
  split
  next listed =>
    have enabled := old (Finset.ne_empty_of_mem listed)
    exact good.listen known good.client off enabled (good.callBacksMgr type enabled)
  next =>
  obtain ⟨o, init⟩ : ∃ o, s.client.initMsdpImpl sensor env type = o := ⟨_, rfl⟩
  have spec : o.Spec sensor type s.client := init ▸ MsdpClient.initMsdpImpl_spec good.client
  have first : (∀ c, o ≠ .retOk c) → s.client.Enabled type := by
    intro failed
    apply old
    intro none
    obtain ⟨c, ended⟩ := ok enters none
    exact failed c (init ▸ ended)
  simp only [enable, DeviceStatusManager.listen, init]
  cases o with
  | retOk c =>
    refine good.listen known ?_ spec.off (spec.retOk c rfl) rfl
    obtain ⟨algo, mock, fresh, created, algoCounts, mockCounts, counters⟩ := spec.valid
    exact ⟨algo, mock, fresh, created, algoCounts, mockCounts, counters⟩
  | retErr c =>
    have enabled := first nofun
    refine good.listen known spec.valid spec.off ((spec.same nofun).mpr enabled) ?_
    exact spec.callBacksMgr.trans (good.callBacksMgr type enabled)
  | hangs c =>
    have enabled := first nofun
    refine good.listen known spec.valid spec.off ((spec.same nofun).mpr enabled) ?_
    exact spec.callBacksMgr.trans (good.callBacksMgr type enabled)

theorem unshared_of_subscribe (good : s.Good sensor)
    (inStep : (s.subscribe sensor env type event callback).InStep) :
    s.Unshared sensor (.subscribe env type event callback) := by
  intro enters none
  have disabled : ¬ s.client.Enabled type := by simp [good.enabled_iff, none]
  by_contra failed
  push Not at failed
  obtain ⟨o, init⟩ : ∃ o, s.client.initMsdpImpl sensor env type = o := ⟨_, rfl⟩
  have spec : o.Spec sensor type s.client := init ▸ MsdpClient.initMsdpImpl_spec good.client
  have asked : (s.subscribe sensor env type event callback).asked type callback = some event := by
    cases o <;> simp [subscribe, enters, none, enable, listen, ask, init]
  have client : (s.subscribe sensor env type event callback).client = o.client := by
    cases o with
    | retOk c => exact absurd init (failed c)
    | _ => simp [subscribe, enters, none, enable, listen, init, MsdpClient.Outcome.client]
  have enabled := (inStep.enabled type).mpr ⟨callback, by simp [asked]⟩
  rw [client, spec.same fun c h => failed c (init.trans h)] at enabled
  exact disabled enabled

/-- A manager with one callback less, the client counting what is left. -/
theorem Good.unlisten (good : s.Good sensor) {client : MsdpClient}
    (valid : client.Valid sensor) (off : MsdpClient.AgreeOff type s.client client)
    (enabled : client.Enabled type ↔ ((s.listeners type).erase callback).Nonempty)
    (same : client.callBacksMgr = s.client.callBacksMgr) :
    Good sensor { s.unlisten type callback with client } where
  inStep := by
    constructor
    · intro other
      by_cases h : other = type
      · subst h
        rw [enabled]
        have kept := good.inStep.kept other
        have listed := good.listed other
        simp only [DeviceStatusManager.unlisten, ask, Finset.Nonempty, Finset.mem_erase]
        grind
      · rw [off other h, good.inStep.enabled]
        simp [DeviceStatusManager.unlisten, ask, h]
    · intro other c
      have := good.inStep.kept other c
      simp only [DeviceStatusManager.unlisten, ask, Function.update_apply]
      grind
  client := valid
  listed := by
    intro other c
    have := good.listed other c
    simp only [DeviceStatusManager.unlisten, ask, Function.update_apply]
    grind
  valid := by
    have := good.valid
    simp only [DeviceStatusManager.unlisten, Function.update_apply]
    grind
  callBacksMgr := by
    intro other h
    rw [same]
    by_cases ne : other = type
    · subst ne
      have some := (enabled.mp h).mono (Finset.erase_subset _ _)
      exact good.callBacksMgr other (good.enabled_iff.mpr some)
    · exact good.callBacksMgr other ((off other ne).mp h)

/-- The algorithm is disabled when the last callback of all goes. -/
theorem unsubscribe_last (enters : s.Enters type event callback)
    (last : s.listeners type = {callback}) :
    s.unsubscribe sensor type event callback =
      if ∀ other, other ≠ type → s.listeners other = ∅ then
        { s.unlisten type callback with client := (s.client.disable sensor type).1 }
      else s.unlisten type callback := by
  have empty : (∀ other, (s.unlisten type callback).listeners other = ∅) ↔
      ∀ other, other ≠ type → s.listeners other = ∅ := by
    simp only [unlisten, Function.update_apply, last]
    grind
  simp [unsubscribe, enters, last, empty]

theorem unsubscribe_of_others (enters : s.Enters type event callback)
    (others : s.listeners type ≠ {callback}) :
    s.unsubscribe sensor type event callback = s.unlisten type callback := by
  have some : s.listeners type ≠ ∅ → (s.unlisten type callback).listeners type ≠ ∅ := by
    intro h
    have := Finset.erase_eq_empty_iff (s.listeners type) callback
    simp [unlisten, this, h, others]
  simp only [unsubscribe, enters, if_true]
  grind

theorem Good.unsubscribe (good : s.Good sensor)
    (ok : s.Unshared sensor (.unsubscribe type event callback)) :
    (s.unsubscribe sensor type event callback).Good sensor := by
  by_cases enters : s.Enters type event callback
  swap
  · simpa [DeviceStatusManager.unsubscribe, enters] using good
  have off : MsdpClient.AgreeOff type s.client s.client := fun _ _ => Iff.rfl
  by_cases last : s.listeners type = {callback}
  · obtain ⟨alone, once⟩ := ok enters last
    have enabled : s.client.Enabled type := by simp [good.enabled_iff, last]
    obtain ⟨disabled, kept⟩ := MsdpClient.disable_spec good.client enters.1 enabled
    obtain ⟨valid, off, same⟩ := kept once
    rw [unsubscribe_last enters last, if_pos alone]
    refine good.unlisten valid off ?_ same
    simpa [last] using disabled.mpr once
  · rw [unsubscribe_of_others enters last]
    refine good.unlisten good.client off ?_ rfl
    rw [good.enabled_iff]
    have := Finset.erase_eq_empty_iff (s.listeners type) callback
    simp [Finset.nonempty_iff_ne_empty, this, last]

theorem unshared_of_unsubscribe (good : s.Good sensor)
    (inStep : (s.unsubscribe sensor type event callback).InStep) :
    s.Unshared sensor (.unsubscribe type event callback) := by
  intro enters last
  have enabled : s.client.Enabled type := by simp [good.enabled_iff, last]
  have nobody : ∀ c, (s.unlisten type callback).asked type c = none := by
    intro c
    have := good.listed type c
    simp only [unlisten, ask]
    grind
  have off : ¬ (s.unsubscribe sensor type event callback).client.Enabled type := by
    rw [inStep.enabled]
    rintro ⟨c, h⟩
    rw [unsubscribe_last enters last] at h
    split at h <;> exact h (nobody c)
  rw [unsubscribe_last enters last] at off
  split at off
  next alone =>
    exact ⟨alone, (MsdpClient.disable_spec good.client enters.1 enabled).1.mp off⟩
  next => exact absurd enabled off

theorem Good.died (good : s.Good sensor) (ok : s.Unshared sensor (.died callback)) :
    (s.died callback).Good sensor := by
  have asked : (s.died callback).asked = s.asked := by
    funext type c
    have := good.listed type callback
    have := ok type
    simp only [DeviceStatusManager.died]
    grind
  constructor
  · exact ⟨asked ▸ good.inStep.enabled, asked ▸ good.inStep.kept⟩
  · exact good.client
  · exact asked ▸ good.listed
  · exact good.valid
  · exact good.callBacksMgr

theorem unshared_of_died (inStep : (s.died callback).InStep) :
    s.Unshared sensor (.died callback) := by
  intro type listed
  exact inStep.kept type callback listed (by simp [died])

/-- A callback that has asked is told of what passes for its type. -/
theorem Good.mem_notified (good : s.Good sensor) (asked : s.asked type callback = some event) :
    callback ∈ s.notified type value ↔ s.hung = false ∧ (s.arrs type).passes value = true := by
  have some : s.asked type callback ≠ none := by simp [asked]
  have listed := good.listed type callback some
  have registered := good.callBacksMgr type ((good.inStep.enabled type).mpr ⟨callback, some⟩)
  simp only [notified, registered]
  grind

theorem Good.next {l : Label} (good : s.Good sensor) (ok : s.Unshared sensor l) :
    (next sensor l s).Good sensor := by
  cases l with
  | subscribe => exact good.subscribe ok
  | unsubscribe => exact good.unsubscribe ok
  | died => exact good.died ok
  | report => exact good

theorem Good.served_iff (l : Label) (good : s.Good sensor) :
    s.Served sensor l ↔ s.Unshared sensor l := by
  constructor
  · rintro ⟨inStep, told⟩
    cases l with
    | subscribe => exact unshared_of_subscribe good inStep
    | unsubscribe => exact unshared_of_unsubscribe good inStep
    | died => exact unshared_of_died inStep
    | report type value =>
      intro callback event asked
      rw [← told type value rfl callback event asked, good.mem_notified asked]
  · intro ok
    refine ⟨(good.next ok).inStep, ?_⟩
    rintro type value rfl callback event asked
    rw [good.mem_notified asked]
    exact (ok callback event asked).symm

/-- Every operation of a run serves the subscribers exactly if none does harm. -/
theorem served_iff_unshared (sensor : Bool) (tr : List Label) :
    EachStep (next sensor) (Served sensor) {} tr ↔
      EachStep (next sensor) (Unshared sensor) {} tr :=
  EachStep.iff_of_invariant (fun _ _ good ok => Good.next good ok)
    (fun l _ good => good.served_iff l) (good_init sensor)

/-- The second of two callbacks changes the event of the first. -/
theorem event_shared :
    ¬ ∀ sensor tr, EachStep (next sensor) (Served sensor) {} tr := by
  intro h
  have served := h false [.subscribe {} .still .enter 1, .subscribe {} .still .exit 2,
    .report .still .enter] [.subscribe {} .still .enter 1, .subscribe {} .still .exit 2] _
    List.prefix_rfl
  have told := (served.2 .still .enter rfl 1 .enter (by decide)).mpr rfl
  revert told
  decide

end DeviceStatusManager

end DeviceStatus.Service
