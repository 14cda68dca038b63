import DeviceStatus.Library.Transition
import DeviceStatus.Service.MsdpClient
import Mathlib.Data.Finset.Basic

/-!
# Motion subscriptions of the stationary server

The server subscribes to the motion service for its first callback and unsubscribes after its last
one. The latest value is kept, handed to a callback when it subscribes, and forgotten when the
server unsubscribes. An event that the service has taken up may come later than that.

## Main definitions

* `StationaryServer`, `StationaryServer.next` — the callbacks and the cache of `TYPE_STAND`, one
  section under the lock at a time.
* `StationaryServer.InStep` — what is expected of the subscription, the callbacks and the cache.
* `StationaryServer.Timely` — no event comes late, and no callback is listed without a death
  recipient.
-/

namespace DeviceStatus.Stationary

open DeviceStatus.Service Transition.System

def motionTypeStand : ℤ := 3602

structure MotionEvent where
  type : ℤ
  status : ℤ
  deriving DecidableEq

structure Data where
  type : DeviceType
  value : OnChangedValue
  deriving DecidableEq

/-- `DEVICE_STATUS_TYPE_MAP`, an unknown type becoming the first one of the enumeration. -/
def deviceStatusTypeMap (type : ℤ) : DeviceType :=
  if type = motionTypeStand then .stand else .absoluteStill

/-- `MotionCallback::OnMotionChanged`. -/
def onMotionChanged (motionEvent : MotionEvent) : Data where
  type := deviceStatusTypeMap motionEvent.type
  value :=
    if motionEvent.status = 1 then .enter
    else if motionEvent.status = 0 then .exit
    else .invalid

/-- An event, with the motion callback that it was reported to. -/
structure Report where
  motionCallback : ℕ
  event : MotionEvent
  deriving DecidableEq

inductive Result where
  | retOk
  | retErr
  deriving DecidableEq

structure StationaryServer where
  /-- `deviceStatusMotionCallbacks_` of the type, by remote objects -/
  callbacks : Option (Finset ℕ) := none
  /-- `cacheData_` of the type, with the motion callback that it came through -/
  cacheData : Option (ℕ × Data) := none
  motionCallback : Option ℕ := none
  created : ℕ := 0
  /-- the motion callbacks that are subscribed to the motion service -/
  service : Finset ℕ := ∅
  /-- the events that the service has taken up -/
  inFlight : List Report := []
  dead : Finset ℕ := ∅
  /-- the callbacks whose death is reported to the server -/
  recipients : Finset ℕ := ∅
  /-- the deaths that are reported and not handled yet -/
  notices : Finset ℕ := ∅
  /-- the callbacks that death handlers have collected and not removed yet -/
  delCallbacks : Finset ℕ := ∅
  /-- the callbacks that have subscribed with success, and neither unsubscribed nor died since -/
  subscribed : Finset ℕ := ∅

namespace StationaryServer

inductive Label where
  /-- whether the service can be subscribed, and a death recipient be added to a living object -/
  | subscribeMotion (callback : ℕ) (started linked : Bool)
  | unsubscribeMotion (callback : ℕ)
  | died (callback : ℕ)
  /-- the section of `StationaryServerDeathRecipient` -/
  | deathRecipient (callback : ℕ)
  /-- the removal after that section -/
  | remove (callback : ℕ)
  | report (report : Report)
  /-- an event reaches `NotifyMotionCallback` -/
  | notifyMotionCallback (report : Report)

/-- The callbacks of the type. -/
def clients (s : StationaryServer) : Finset ℕ := s.callbacks.getD ∅

/-- The motion callback is created and subscribed, if there is none yet. -/
def subscribeCallback (started : Bool) (s : StationaryServer) : Option StationaryServer :=
  match s.motionCallback with
  | some _ => some s
  | none =>
    if started then
      some { s with
        motionCallback := some s.created
        created := s.created + 1
        service := insert s.created s.service }
    else none

/-- The result, and the value that the callback is handed. The result of adding the death recipient
is not looked at. -/
def subscribeMotion (callback : ℕ) (started linked : Bool) (s : StationaryServer) :
    Result × Option (ℕ × Data) × StationaryServer :=
  match s.subscribeCallback started with
  | none => (.retErr, none, s)
  | some s =>
    (.retOk, s.cacheData,
      { s with
        callbacks := some (insert callback s.clients)
        recipients :=
          if linked ∧ callback ∉ s.dead then insert callback s.recipients else s.recipients
        subscribed := if callback ∈ s.dead then s.subscribed else insert callback s.subscribed })

def unsubscribeMotion (callback : ℕ) (s : StationaryServer) : Result × StationaryServer :=
  match s.callbacks with
  | none => (.retErr, s)
  | some callbacks =>
    if callback ∉ callbacks then (.retErr, s)
    else
      let s := { s with
        callbacks := some (callbacks.erase callback)
        recipients := s.recipients.erase callback
        subscribed := s.subscribed.erase callback }
      if callbacks.erase callback = ∅ then
        (.retOk,
          { s with
            service := s.service.filter fun motionCallback => s.motionCallback ≠ some motionCallback
            motionCallback := none
            cacheData := none })
      else (.retOk, s)

def died (callback : ℕ) (s : StationaryServer) : StationaryServer :=
  { s with
    dead := insert callback s.dead
    notices := if callback ∈ s.recipients then insert callback s.notices else s.notices
    recipients := s.recipients.erase callback
    subscribed := s.subscribed.erase callback }

def deathRecipient (callback : ℕ) (s : StationaryServer) : StationaryServer :=
  if callback ∈ s.notices then
    { s with
      notices := s.notices.erase callback
      delCallbacks :=
        if callback ∈ s.clients then insert callback s.delCallbacks else s.delCallbacks }
  else s

def notifyMotionCallback (report : Report) (s : StationaryServer) : StationaryServer :=
  if report ∈ s.inFlight then
    { s with
      inFlight := s.inFlight.erase report
      cacheData := some (report.motionCallback, onMotionChanged report.event) }
  else s

def next : Label → StationaryServer → StationaryServer
  | .subscribeMotion callback started linked, s => (s.subscribeMotion callback started linked).2.2
  | .unsubscribeMotion callback, s => (s.unsubscribeMotion callback).2
  | .died callback, s => s.died callback
  | .deathRecipient callback, s => s.deathRecipient callback
  | .remove callback, s =>
    if callback ∈ s.delCallbacks then
      { (s.unsubscribeMotion callback).2 with delCallbacks := s.delCallbacks.erase callback }
    else s
  | .report report, s =>
    if report.motionCallback ∈ s.service then { s with inFlight := s.inFlight ++ [report] } else s
  | .notifyMotionCallback report, s => s.notifyMotionCallback report

/-- What a callback is handed at its subscription. -/
def handed (s : StationaryServer) (l : Label) : Option (ℕ × Data) :=
  match l with
  | .subscribeMotion callback started linked => (s.subscribeMotion callback started linked).2.1
  | _ => none

/-- No death is to be handled. -/
def Quiet (s : StationaryServer) : Prop := s.notices = ∅ ∧ s.delCallbacks = ∅

/-- What is expected of a step and of the state that it leads to. -/
structure InStep (s : StationaryServer) (l : Label) : Prop where
  service : (next l s).service.Nonempty ↔ (next l s).clients.Nonempty
  alive : ∀ callback ∉ (next l s).dead,
    callback ∈ (next l s).clients ↔ callback ∈ (next l s).subscribed
  dead : (next l s).Quiet → ∀ callback ∈ (next l s).clients, callback ∉ (next l s).dead
  /-- a value that is handed out came through the motion callback that is subscribed -/
  handed : ∀ value ∈ s.handed l, value.1 ∈ (next l s).service

/-- An event comes while the motion callback is subscribed that it was reported to, and the death
recipient can be added to a callback that is listed. -/
def Timely (s : StationaryServer) (l : Label) : Prop :=
  match l with
  | .subscribeMotion callback started linked =>
    (s.subscribeCallback started).isSome → linked = true ∧ callback ∉ s.dead
  | .notifyMotionCallback report => report ∈ s.inFlight → report.motionCallback ∈ s.service
  | _ => True

/-! ### What a step keeps -/

structure Good (s : StationaryServer) : Prop where
  service : ∀ motionCallback, motionCallback ∈ s.service ↔ s.motionCallback = some motionCallback
  clients : s.motionCallback.isSome ↔ s.clients.Nonempty
  cache : ∀ value ∈ s.cacheData, value.1 ∈ s.service
  alive : ∀ callback ∉ s.dead, callback ∈ s.clients ↔ callback ∈ s.subscribed
  linked : ∀ callback ∈ s.clients, callback ∉ s.dead → callback ∈ s.recipients
  noticed : ∀ callback ∈ s.clients, callback ∈ s.dead →
    callback ∈ s.notices ∨ callback ∈ s.delCallbacks

variable {s : StationaryServer} {callback : ℕ}

theorem good_start : Good {} := by
  constructor <;> simp [clients]

theorem Good.subscribed_iff (h : s.Good) : s.service.Nonempty ↔ s.clients.Nonempty := by
  rw [← h.clients, Option.isSome_iff_exists]
  exact exists_congr h.service

theorem Good.subscribeCallback (h : s.Good) {started : Bool} {t : StationaryServer}
    (ok : s.subscribeCallback started = some t) :
    ∃ motionCallback created service,
      t = { s with motionCallback := some motionCallback, created, service } ∧
      (∀ other, other ∈ service ↔ motionCallback = other) ∧
      ∀ value ∈ s.cacheData, value.1 ∈ service := by
  unfold StationaryServer.subscribeCallback at ok
  split at ok
  next motionCallback known =>
    obtain rfl := Option.some.inj ok
    refine ⟨motionCallback, s.created, s.service, by rw [← known], fun other => ?_, h.cache⟩
    rw [h.service, known, Option.some_inj]
  next unknown =>
    obtain ⟨-, ⟨⟩⟩ := Option.ite_none_right_eq_some.mp ok
    have idle : ∀ other, other ∉ s.service := by simp [h.service, unknown]
    refine ⟨s.created, s.created + 1, insert s.created s.service, rfl, fun other => ?_,
      fun value mem => absurd (h.cache value mem) (idle value.1)⟩
    simp [idle, eq_comm]

/-- A subscription that is refused changes nothing; one that succeeds hands out what the
subscribed motion callback has cached. -/
theorem Good.subscribeMotion (h : s.Good) {started linked : Bool}
    (ok : s.Timely (.subscribeMotion callback started linked)) :
    (s.subscribeMotion callback started linked).2.2.Good ∧
    ∀ value ∈ (s.subscribeMotion callback started linked).2.1,
      value.1 ∈ (s.subscribeMotion callback started linked).2.2.service := by
  unfold StationaryServer.subscribeMotion
  cases begun : s.subscribeCallback started with
  | none => exact ⟨h, nofun⟩
  | some t =>
    obtain ⟨rfl, living⟩ := ok (by simp [begun])
    obtain ⟨motionCallback, created, service, rfl, current, cache⟩ := h.subscribeCallback begun
    refine ⟨?_, cache⟩
    have clients : ∀ other, other ∈ insert callback s.clients ↔
        other = callback ∨ other ∈ s.clients := fun other => Finset.mem_insert
    constructor
    · simpa using current
    · simp [StationaryServer.clients]
    · exact cache
    · intro other alive
      have before := h.alive other alive
      simp only [StationaryServer.clients, Option.getD_some, living, if_false] at before ⊢
      grind
    · intro other mem alive
      have before := h.linked other
      simp only [StationaryServer.clients, Option.getD_some, living, not_false_eq_true,
        and_true, if_true] at before mem ⊢
      grind
    · intro other mem dead
      have before := h.noticed other
      simp only [StationaryServer.clients, Option.getD_some] at before mem ⊢
      grind

/-- What is left after a callback is taken out of the set. -/
theorem unsubscribeMotion_eq (mem : callback ∈ s.clients) :
    ∃ service motionCallback cacheData,
      (s.unsubscribeMotion callback).2 = { s with
        callbacks := some (s.clients.erase callback)
        recipients := s.recipients.erase callback
        subscribed := s.subscribed.erase callback
        service, motionCallback, cacheData } ∧
      (s.clients.erase callback = ∅ ∧ motionCallback = none ∧ cacheData = none ∧
          service = s.service.filter (fun other => s.motionCallback ≠ some other) ∨
        s.clients.erase callback ≠ ∅ ∧ motionCallback = s.motionCallback ∧
          cacheData = s.cacheData ∧ service = s.service) := by
  unfold unsubscribeMotion clients at *
  cases known : s.callbacks with
  | none => simp [known] at mem
  | some callbacks =>
    rw [known, Option.getD_some] at mem
    by_cases last : callbacks.erase callback = ∅
    · exact ⟨_, _, _, by simp [mem, last], .inl ⟨last, rfl, rfl, rfl⟩⟩
    · exact ⟨_, _, _, by simp [mem, last], .inr ⟨last, rfl, rfl, rfl⟩⟩

theorem unsubscribeMotion_of_not_mem (absent : callback ∉ s.clients) :
    (s.unsubscribeMotion callback).2 = s := by
  unfold unsubscribeMotion
  split
  next => rfl
  next callbacks known =>
    rw [if_pos]
    simpa [clients, known] using absent

theorem Good.unsubscribeMotion (h : s.Good) (callback : ℕ) {delCallbacks : Finset ℕ}
    (keeps : ∀ other ∈ s.delCallbacks, other ≠ callback → other ∈ delCallbacks) :
    Good { (s.unsubscribeMotion callback).2 with delCallbacks } := by
  by_cases mem : callback ∈ s.clients
  · obtain ⟨service, motionCallback, cacheData, eq, changes⟩ := unsubscribeMotion_eq mem
    rw [eq]
    have present : s.motionCallback.isSome := h.clients.mpr ⟨callback, mem⟩
    constructor
    · have before := h.service
      grind
    · show motionCallback.isSome ↔ (s.clients.erase callback).Nonempty
      rw [Finset.nonempty_iff_ne_empty]
      obtain ⟨last, rfl, -⟩ | ⟨more, rfl, -⟩ := changes
      · exact iff_of_false nofun fun more => more last
      · exact iff_of_true present more
    · have before := h.cache
      grind
    · intro other alive
      show other ∈ s.clients.erase callback ↔ other ∈ s.subscribed.erase callback
      rw [Finset.mem_erase, Finset.mem_erase, h.alive other alive]
    · intro other (left : other ∈ s.clients.erase callback) alive
      obtain ⟨ne, before⟩ := Finset.mem_erase.mp left
      exact Finset.mem_erase.mpr ⟨ne, h.linked other before alive⟩
    · intro other (left : other ∈ s.clients.erase callback) dead
      obtain ⟨ne, before⟩ := Finset.mem_erase.mp left
      exact (h.noticed other before dead).imp_right fun collected => keeps other collected ne
  · rw [unsubscribeMotion_of_not_mem mem]
    refine ⟨h.service, h.clients, h.cache, h.alive, h.linked, fun other left dead => ?_⟩
    have ne : other ≠ callback := fun same => mem (same ▸ left)
    exact (h.noticed other left dead).imp_right fun collected => keeps other collected ne

theorem Good.died (h : s.Good) (callback : ℕ) : (s.died callback).Good := by
  refine ⟨h.service, h.clients, h.cache, fun other alive => ?_, fun other mem alive => ?_,
    fun other mem dead => ?_⟩
  · show other ∈ s.clients ↔ other ∈ s.subscribed.erase callback
    have alive : other ∉ insert callback s.dead := alive
    have before := h.alive other
    grind
  · have before := h.linked other mem
    show other ∈ s.recipients.erase callback
    have alive : other ∉ insert callback s.dead := alive
    grind
  · -- a callback that is listed while it lives has its death reported
    have before := h.noticed other mem
    have linked := h.linked other mem
    simp only [StationaryServer.died] at before dead ⊢
    grind

theorem Good.deathRecipient (h : s.Good) (callback : ℕ) : (s.deathRecipient callback).Good := by
  unfold StationaryServer.deathRecipient
  split
  next notice =>
    refine ⟨h.service, h.clients, h.cache, h.alive, h.linked, fun other mem dead => ?_⟩
    have before := h.noticed other mem dead
    have listed : other ∈ s.clients := mem
    grind
  next => exact h

theorem Good.notifyMotionCallback (h : s.Good) {report : Report}
    (ok : s.Timely (.notifyMotionCallback report)) : (s.notifyMotionCallback report).Good := by
  unfold StationaryServer.notifyMotionCallback
  split
  next waits =>
    refine ⟨h.service, h.clients, fun value mem => ?_, h.alive, h.linked, h.noticed⟩
    obtain rfl := Option.some.inj mem
    exact ok waits
  next => exact h

theorem Good.next (l : Label) (s : StationaryServer) (h : s.Good) (ok : s.Timely l) :
    (next l s).Good := by
  cases l with
  | subscribeMotion callback started linked => exact (h.subscribeMotion ok).1
  | unsubscribeMotion callback =>
    have kept : (s.unsubscribeMotion callback).2.delCallbacks = s.delCallbacks := by
      by_cases mem : callback ∈ s.clients
      · obtain ⟨_, _, _, eq, -⟩ := unsubscribeMotion_eq mem
        rw [eq]
      · rw [unsubscribeMotion_of_not_mem mem]
    have good := h.unsubscribeMotion callback fun other mem _ => mem
    rw [← kept] at good
    exact good
  | died callback => exact h.died callback
  | deathRecipient callback => exact h.deathRecipient callback
  | remove callback =>
    simp only [StationaryServer.next]
    split
    next => exact h.unsubscribeMotion callback (fun other mem ne => Finset.mem_erase.mpr ⟨ne, mem⟩)
    next => exact h
  | report report =>
    simp only [StationaryServer.next]
    split
    next => exact ⟨h.service, h.clients, h.cache, h.alive, h.linked, h.noticed⟩
    next => exact h
  | notifyMotionCallback report => exact h.notifyMotionCallback ok

theorem Good.inStep (l : Label) (s : StationaryServer) (h : s.Good) (ok : s.Timely l) :
    s.InStep l := by
  have after := h.next l s ok
  refine ⟨after.subscribed_iff, after.alive, fun quiet callback mem dead => ?_, ?_⟩
  · obtain ⟨handled, removed⟩ := quiet
    simpa [handled, removed] using after.noticed callback mem dead
  · cases l with
    | subscribeMotion callback started linked => exact (h.subscribeMotion ok).2
    | _ => exact nofun

/-- In every run in which events come in time and death recipients can be added, subscriptions and
the cache are in step. -/
theorem inStep_of_timely (tr : List Label) (run : EachStep next (fun l s => s.Timely l) {} tr) :
    EachStep next (fun l s => s.InStep l) {} tr :=
  run.of_invariant Good.next Good.inStep good_start

/-- A value is cached for the second callback, and the first one dies. -/
def posture : List Label :=
  [.subscribeMotion 1 true true, .report ⟨0, ⟨3602, 1⟩⟩, .notifyMotionCallback ⟨0, ⟨3602, 1⟩⟩,
    .subscribeMotion 2 true true, .died 1, .deathRecipient 1, .remove 1, .unsubscribeMotion 2]

theorem inStep_posture : EachStep next (fun l s => s.InStep l) {} posture := by
  apply inStep_of_timely
  refine .cons (fun _ => ⟨rfl, by decide⟩) (.cons trivial (.cons (fun _ => ?_)
    (.cons (fun _ => ⟨rfl, ?_⟩) (.cons trivial (.cons trivial (.cons trivial
      (.cons trivial .nil)))))))
  · decide +kernel
  · decide +kernel

/-- An event comes after the last callback has unsubscribed, and its value is handed to the next
one. -/
theorem late_event_handed : ¬ EachStep next (fun l s => s.InStep l) {}
    [.subscribeMotion 1 true true, .report ⟨0, ⟨3602, 1⟩⟩, .unsubscribeMotion 1,
      .notifyMotionCallback ⟨0, ⟨3602, 1⟩⟩, .subscribeMotion 2 true true] := by
  intro run
  have current := run.tail.tail.tail.tail.head.handed (0, ⟨.stand, .enter⟩) (by decide +kernel)
  exact absurd current (by decide +kernel)

end StationaryServer

end DeviceStatus.Stationary
