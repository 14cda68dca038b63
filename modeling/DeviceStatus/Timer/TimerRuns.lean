import DeviceStatus.Library.Transition
import DeviceStatus.Timer.TimerManager
import Mathlib.Tactic.Ring

/-!
# Runs of the timer manager

Any sequence of calls of the timer manager on its worker thread. `ProcessTimersInternal` is
entered by one label and goes on by another, one turn of its loop at a time; the calls that
stand between two turns are those of the callback that the first of them ran. The callback that
the `k`-th call of `AddTimer` passes is known as `k`.

## Main definitions

* `TimerRun`, `TimerRun.next` — the list of timers with its history, and the calls.
* `TimerRun.Allowed` — the clock does not go back, and only one call processes the timers.
* `TimerRun.Sound` — the invariant of every run.
* `TimerRun.backlog`, `TimerRun.pendingBy` — what bounds the turns of a call, and the calls
  that are needed.
-/

namespace DeviceStatus.Timers

open Transition

/-- A callback that ran, when it was due, and the clock reading of the call that ran it. -/
structure Firing where
  callback : ℕ
  due : ℤ
  time : ℤ

structure TimerRun where
  timers : List (TimerItem ℕ) := []
  clock : ℤ := 0
  /-- the `presentTime` of the call of `ProcessTimersInternal` that is under way -/
  presentTime : Option ℤ := none
  /-- the calls of `AddTimer` so far -/
  calls : ℕ := 0
  /-- the timers, as they were added -/
  added : List (TimerItem ℕ) := []
  /-- the callbacks of timers that a call has removed or reset -/
  touched : List ℕ := []
  fired : List Firing := []

inductive TimerLabel where
  | addTimer (nowTime intervalMs repeatCount : ℤ) (callable : Bool)
  | resetTimer (nowTime timerId : ℤ)
  | removeTimer (timerId : ℤ)
  | processTimers (nowTime : ℤ)
  | pass

def TimerLabel.isPass : TimerLabel → Bool
  | .pass => true
  | _ => false

namespace TimerRun

def touch (timerId : ℤ) (w : TimerRun) : List ℕ :=
  w.touched ++ (w.timers.filter fun timer => timer.id = timerId).map (·.callback)

def addTimer (nowTime intervalMs repeatCount : ℤ) (callable : Bool) (w : TimerRun) : TimerRun :=
  let timers := (addTimerInternal nowTime intervalMs repeatCount
    (if callable then some w.calls else none) w.timers).2
  { w with
    timers
    clock := nowTime
    calls := w.calls + 1
    added := w.added ++ timers.filter (·.callback = w.calls) }

def turn (presentTime : ℤ) (w : TimerRun) : TimerRun :=
  match Timers.pass presentTime w.timers with
  | .stop timers => { w with timers, presentTime := none }
  | .run timer timers =>
    { w with
      timers
      fired := w.fired ++
        [{ callback := timer.callback, due := timer.nextCallTime, time := presentTime }] }

def next (l : TimerLabel) (w : TimerRun) : TimerRun :=
  match l with
  | .addTimer nowTime intervalMs repeatCount callable =>
      addTimer nowTime intervalMs repeatCount callable w
  | .resetTimer nowTime timerId =>
      { w with
        timers := (resetTimerInternal nowTime timerId w.timers).2
        clock := nowTime
        touched := w.touch timerId }
  | .removeTimer timerId =>
      { w with
        timers := (removeTimerInternal timerId w.timers).2
        touched := w.touch timerId }
  | .processTimers nowTime => { w with clock := nowTime, presentTime := some nowTime }
  | .pass =>
      match w.presentTime with
      | none => w
      | some presentTime => turn presentTime w

/-- The clock does not go back, and its readings fit an `int64_t`. -/
def Reads (nowTime : ℤ) (w : TimerRun) : Prop := w.clock ≤ nowTime ∧ nowTime ≤ INT64_MAX

def Allowed (l : TimerLabel) (w : TimerRun) : Prop :=
  match l with
  | .addTimer nowTime _ _ _ | .resetTimer nowTime _ => Reads nowTime w
  | .processTimers nowTime => Reads nowTime w ∧ w.presentTime = none
  | .removeTimer _ | .pass => True

/-- How often the `k`-th callback has run. -/
def runs (k : ℕ) (w : TimerRun) : ℕ := w.fired.countP (·.callback = k)

/-- When the last run of a timer with a repeat count is due. -/
def lastDue (a : TimerItem ℕ) : ℤ := a.nextCallTime + (a.repeatCount - 1) * a.intervalMs

/-- How far a timer that was added as `a` has come after `n` runs: it is pending for the next
one, or it is gone because that was the last, or because the time of a later run overflows. -/
def Progress (a : TimerItem ℕ) (n : ℕ) (timers : List (TimerItem ℕ)) : Prop :=
  (∃ t ∈ timers, t.callback = a.callback ∧ t.intervalMs = a.intervalMs ∧
    t.repeatCount = a.repeatCount ∧ t.callbackCount = n ∧ n < a.repeatCount ∧
    t.nextCallTime = a.nextCallTime + n * a.intervalMs) ∨
  ((∀ t ∈ timers, t.callback ≠ a.callback) ∧ (n = a.repeatCount ∨ INT64_MAX < lastDue a))

/-- What holds of the timers, callbacks and readings in every run. -/
structure Sound (w : TimerRun) : Prop where
  wellFormed : WellFormed w.timers
  clock : 0 ≤ w.clock ∧ w.clock ≤ INT64_MAX
  present : ∀ p, w.presentTime = some p → p ≤ w.clock
  dues : ∀ t ∈ w.timers, 0 ≤ t.nextCallTime
  callbacks : (w.timers.map (·.callback)).Nodup
  known : ∀ t ∈ w.timers, t.callback < w.calls
  addedKnown : ∀ a ∈ w.added, a.callback < w.calls
  intervals : ∀ a ∈ w.added, MIN_INTERVAL ≤ a.intervalMs
  firedKnown : ∀ f ∈ w.fired, f.callback < w.calls
  inTime : ∀ f ∈ w.fired, f.due ≤ f.time

/-- The progress of every timer that is to run a number of times and was left alone. -/
def Tracked (w : TimerRun) : Prop :=
  ∀ a ∈ w.added, 1 ≤ a.repeatCount → a.callback ∉ w.touched →
    Progress a (runs a.callback w) w.timers

section Invariant

variable {w : TimerRun} {a timer : TimerItem ℕ} {rest : List (TimerItem ℕ)}
  {nowTime intervalMs repeatCount timerId : ℤ} {callable : Bool}

theorem Progress.congr {n : ℕ} {l l' : List (TimerItem ℕ)} (h : Progress a n l)
    (same : ∀ t, t.callback = a.callback → (t ∈ l' ↔ t ∈ l)) : Progress a n l' := by
  rcases h with ⟨t, ht, hc, state⟩ | ⟨gone, done⟩
  · exact .inl ⟨t, (same t hc).mpr ht, hc, state⟩
  · exact .inr ⟨fun t ht hc => gone t ((same t hc).mp ht) hc, done⟩

/-! ### One list in place of another -/

theorem Sound.erase (h : Sound w) (hs : rest.Sublist w.timers) :
    Sound { w with timers := rest } :=
  { h with
    wellFormed := h.wellFormed.sublist hs
    dues := fun t ht => h.dues t (hs.subset ht)
    callbacks := h.callbacks.sublist (hs.map _)
    known := fun t ht => h.known t (hs.subset ht) }

theorem Sound.insert (h : Sound w) (free : ∀ t ∈ w.timers, t.id ≠ timer.id)
    (bound : timer.id < MAX_TIMER_COUNT) (interval : MIN_INTERVAL ≤ timer.intervalMs)
    (due : 0 ≤ timer.nextCallTime) (known : timer.callback < w.calls)
    (own : ∀ t ∈ w.timers, t.callback ≠ timer.callback) :
    Sound { w with timers := insertTimerInternal timer w.timers } :=
  { h with
    wellFormed := h.wellFormed.insert free bound interval
    dues := by
      intro t ht
      rcases mem_insertTimerInternal.mp ht with rfl | ht
      · exact due
      · exact h.dues t ht
    callbacks := by
      rw [((perm_insertTimerInternal timer w.timers).map _).nodup_iff, List.map_cons,
        List.nodup_cons]
      refine ⟨fun hm => ?_, h.callbacks⟩
      obtain ⟨t, ht, hc⟩ := List.mem_map.mp hm
      exact own t ht hc
    known := by
      intro t ht
      rcases mem_insertTimerInternal.mp ht with rfl | ht
      · exact known
      · exact h.known t ht }

theorem Sound.read (h : Sound w) (reads : Reads nowTime w) : Sound { w with clock := nowTime } :=
  { h with
    clock := ⟨h.clock.1.trans reads.1, reads.2⟩
    present := fun p hp => (h.present p hp).trans reads.1 }

theorem Sound.call (h : Sound w) : Sound { w with calls := w.calls + 1 } :=
  { h with
    known := fun t ht => (h.known t ht).trans (Nat.lt_succ_self _)
    addedKnown := fun a ha => (h.addedKnown a ha).trans (Nat.lt_succ_self _)
    firedKnown := fun f hf => (h.firedKnown f hf).trans (Nat.lt_succ_self _) }

/-- A timer that is taken out is one of its own, by id and by callback. -/
theorem Sound.of_perm (h : Sound w) (hp : (timer :: rest).Perm w.timers) :
    (∀ t ∈ rest, t.id ≠ timer.id) ∧ timer.id < MAX_TIMER_COUNT ∧
      MIN_INTERVAL ≤ timer.intervalMs ∧ 0 ≤ timer.nextCallTime ∧ timer.callback < w.calls ∧
      ∀ t ∈ rest, t.callback ≠ timer.callback := by
  obtain ⟨free, bound, interval⟩ := h.wellFormed.free_of_perm hp
  have mem : timer ∈ w.timers := hp.subset List.mem_cons_self
  have nodup := (hp.map (·.callback)).nodup_iff.mpr h.callbacks
  refine ⟨free, bound, interval, h.dues timer mem, h.known timer mem, fun t ht hc => ?_⟩
  exact (List.nodup_cons.mp nodup).1 (List.mem_map.mpr ⟨t, ht, hc⟩)

/-! ### Adding a timer -/

/-- What a call of `AddTimer` adds, if it adds a timer. -/
structure Fresh (nowTime : ℤ) (w : TimerRun) (item : TimerItem ℕ) : Prop where
  callback : item.callback = w.calls
  callbackCount : item.callbackCount = 0
  interval : MIN_INTERVAL ≤ item.intervalMs
  due : item.nextCallTime = nowTime + item.intervalMs
  bound : item.id < MAX_TIMER_COUNT
  free : ∀ t ∈ w.timers, t.id ≠ item.id

theorem addTimer_cases (h : Sound w) :
    addTimer nowTime intervalMs repeatCount callable w =
      { w with clock := nowTime, calls := w.calls + 1 } ∨
    ∃ item, Fresh nowTime w item ∧
      addTimer nowTime intervalMs repeatCount callable w =
        { w with
          timers := insertTimerInternal item w.timers
          clock := nowTime
          calls := w.calls + 1
          added := w.added ++ [item] } := by
  have old : w.timers.filter (·.callback = w.calls) = [] := by
    rw [List.filter_eq_nil_iff]
    intro t ht
    have := h.known t ht
    simp only [decide_eq_true_eq]
    omega
  unfold addTimer
  dsimp only
  rcases @addTimerInternal_cases _ w.timers nowTime intervalMs repeatCount
    (if callable then some w.calls else none) with same | ⟨k, f, hf, -, bound, free, -, inserted⟩
  · left
    rw [same]
    dsimp only
    rw [old, List.append_nil]
  · right
    obtain rfl : f = w.calls := by grind
    rw [inserted]
    dsimp only
    let item : TimerItem ℕ :=
      { id := k, intervalMs := clampInterval intervalMs, callbackCount := 0, repeatCount,
        nextCallTime := nowTime + clampInterval intervalMs, callback := w.calls }
    have new : (insertTimerInternal item w.timers).filter (·.callback = w.calls) = [item] := by
      have perm := (perm_insertTimerInternal item w.timers).filter (·.callback = w.calls)
      rw [List.filter_cons_of_pos (by simp [item]), old] at perm
      exact List.perm_singleton.mp perm
    refine ⟨item, ⟨rfl, rfl, min_le_clampInterval intervalMs, rfl, bound, free⟩, ?_⟩
    rw [new]

theorem sound_addTimer (h : Sound w) (reads : Reads nowTime w) :
    Sound (addTimer nowTime intervalMs repeatCount callable w) := by
  rcases @addTimer_cases w nowTime intervalMs repeatCount callable h with
    same | ⟨item, new, inserted⟩
  · rw [same]
    exact (h.read reads).call
  · rw [inserted]
    have due : 0 ≤ item.nextCallTime := by
      have positive := new.interval
      have now := h.clock.1.trans reads.1
      rw [new.due]
      unfold MIN_INTERVAL at positive
      omega
    have own : ∀ t ∈ w.timers, t.callback ≠ item.callback := by
      intro t ht
      rw [new.callback]
      exact (h.known t ht).ne
    have known : item.callback < w.calls + 1 := by
      rw [new.callback]
      exact Nat.lt_succ_self _
    have inserted := (h.read reads).call.insert new.free new.bound new.interval due known own
    exact
      { inserted with
        addedKnown := by
          intro a ha
          rcases List.mem_append.mp ha with old | ha
          · exact inserted.addedKnown a old
          · rw [List.mem_singleton.mp ha]
            exact known
        intervals := by
          intro a ha
          rcases List.mem_append.mp ha with old | ha
          · exact h.intervals a old
          · rw [List.mem_singleton.mp ha]
            exact new.interval }

theorem runs_eq_zero (h : Sound w) : runs w.calls w = 0 := by
  unfold runs
  rw [List.countP_eq_zero]
  intro f hf
  have := h.firedKnown f hf
  simp only [decide_eq_true_eq]
  omega

theorem tracked_addTimer (h : Sound w) (tracked : Tracked w) :
    Tracked (addTimer nowTime intervalMs repeatCount callable w) := by
  rcases @addTimer_cases w nowTime intervalMs repeatCount callable h with
    same | ⟨item, new, inserted⟩
  · rw [same]
    exact tracked
  · rw [inserted]
    intro a ha rep untouched
    change Progress a (runs a.callback w) (insertTimerInternal item w.timers)
    rcases List.mem_append.mp ha with old | ha
    · refine (tracked a old rep untouched).congr fun t hc => ?_
      have other : t ≠ item := by
        rintro rfl
        exact (h.addedKnown a old).ne (hc.symm.trans new.callback)
      rw [mem_insertTimerInternal, or_iff_right other]
    · obtain rfl := List.mem_singleton.mp ha
      rw [new.callback, runs_eq_zero h]
      left
      refine ⟨a, mem_insertTimerInternal.mpr (.inl rfl), rfl, rfl, rfl, new.callbackCount, rep, ?_⟩
      simp

/-! ### Removing and resetting a timer -/

theorem mem_touch {k : ℕ} :
    k ∈ touch timerId w ↔
      k ∈ w.touched ∨ ∃ t ∈ w.timers, (t.id : ℤ) = timerId ∧ t.callback = k := by
  simp [touch, and_assoc]

/-- Whoever has not been touched, has not been taken out. -/
theorem mem_rest_iff (hp : (timer :: rest).Perm w.timers) (id : (timer.id : ℤ) = timerId)
    (untouched : a.callback ∉ touch timerId w) {t : TimerItem ℕ} (hc : t.callback = a.callback) :
    t ≠ timer ∧ (t ∈ rest ↔ t ∈ w.timers) := by
  have other : t ≠ timer := by
    rintro rfl
    exact untouched (mem_touch.mpr (.inr ⟨t, hp.subset List.mem_cons_self, id, hc⟩))
  rw [← hp.mem_iff, List.mem_cons, or_iff_right other]
  exact ⟨other, .rfl⟩

theorem sound_removeTimer (h : Sound w) : Sound (next (.removeTimer timerId) w) := by
  have removed : Sound { w with timers := (removeTimerInternal timerId w.timers).2 } := by
    rcases @removeTimerInternal_cases _ w.timers timerId with
      ⟨-, same⟩ | ⟨timer, rest, -, -, hs, hr⟩
    · rw [same]
      exact h
    · rw [hr]
      exact h.erase hs
  exact { removed with }

theorem tracked_removeTimer (tracked : Tracked w) : Tracked (next (.removeTimer timerId) w) := by
  intro a ha rep untouched
  have before := tracked a ha rep fun hm => untouched (mem_touch.mpr (.inl hm))
  change Progress a (runs a.callback w) (removeTimerInternal timerId w.timers).2
  rcases @removeTimerInternal_cases _ w.timers timerId with ⟨-, same⟩ | ⟨timer, rest, id, hp, -, hr⟩
  · rw [same]
    exact before
  · rw [hr]
    exact before.congr fun t hc => (mem_rest_iff hp id untouched hc).2

theorem sound_resetTimer (h : Sound w) (reads : Reads nowTime w) :
    Sound (next (.resetTimer nowTime timerId) w) := by
  have reset : Sound { w with timers := (resetTimerInternal nowTime timerId w.timers).2 } := by
    rcases @resetTimerInternal_cases _ w.timers nowTime timerId with
      ⟨-, same⟩ | ⟨timer, rest, -, hp, hs, dropped | again⟩
    · rw [same]
      exact h
    · rw [dropped]
      exact h.erase hs
    · rw [again]
      obtain ⟨free, bound, interval, -, known, own⟩ := h.of_perm hp
      refine (h.erase hs).insert free bound interval ?_ known own
      have now := h.clock.1.trans reads.1
      unfold MIN_INTERVAL at interval
      dsimp only
      omega
  exact { reset.read reads with }

theorem tracked_resetTimer (tracked : Tracked w) :
    Tracked (next (.resetTimer nowTime timerId) w) := by
  intro a ha rep untouched
  have before := tracked a ha rep fun hm => untouched (mem_touch.mpr (.inl hm))
  change Progress a (runs a.callback w) (resetTimerInternal nowTime timerId w.timers).2
  rcases @resetTimerInternal_cases _ w.timers nowTime timerId with
    ⟨-, same⟩ | ⟨timer, rest, id, hp, -, dropped | again⟩
  · rw [same]
    exact before
  · rw [dropped]
    exact before.congr fun t hc => (mem_rest_iff hp id untouched hc).2
  · rw [again]
    refine before.congr fun t hc => ?_
    rw [mem_insertTimerInternal, (mem_rest_iff hp id untouched hc).2, or_iff_right]
    rintro rfl
    exact (mem_rest_iff hp id untouched (t := timer) hc).1 rfl

/-! ### A turn of the processing loop -/

/-- The callback of `timer` runs, and `timers` are left. -/
def fire (presentTime : ℤ) (timer : TimerItem ℕ) (timers : List (TimerItem ℕ)) (w : TimerRun) :
    TimerRun :=
  { w with
    timers
    fired := w.fired ++
      [{ callback := timer.callback, due := timer.nextCallTime, time := presentTime }] }

/-- The head of the list as it is put back after a run. -/
def again (timer : TimerItem ℕ) : TimerItem ℕ :=
  { timer with
    callbackCount := timer.callbackCount + 1
    nextCallTime := timer.nextCallTime + timer.intervalMs }

def LastRun (timer : TimerItem ℕ) : Prop :=
  1 ≤ timer.repeatCount ∧ timer.repeatCount ≤ timer.callbackCount + 1

theorem turn_cases (presentTime : ℤ) (w : TimerRun) :
    ((∀ t rest, w.timers = t :: rest → presentTime < t.nextCallTime) ∧
      turn presentTime w = { w with presentTime := none }) ∨
    ∃ timer rest, w.timers = timer :: rest ∧ timer.nextCallTime ≤ presentTime ∧
      ((addInt64 timer.nextCallTime timer.intervalMs = none ∧ ¬ LastRun timer ∧
          turn presentTime w = { w with timers := rest, presentTime := none }) ∨
        (LastRun timer ∧ turn presentTime w = fire presentTime timer rest w) ∨
        (¬ LastRun timer ∧ turn presentTime w =
          fire presentTime timer (insertTimerInternal (again timer) rest) w)) := by
  unfold turn
  rcases pass_cases presentTime w.timers with ⟨early, stop⟩ | ⟨timer, rest, hw, due, what⟩
  · left
    rw [stop]
    exact ⟨early, rfl⟩
  · right
    refine ⟨timer, rest, hw, due, ?_⟩
    rcases what with ⟨sum, notLast, hp⟩ | ⟨rep, last, hp⟩ | ⟨notLast, hp⟩
    · rw [hp]
      exact .inl ⟨sum, notLast, rfl⟩
    · rw [hp]
      exact .inr (.inl ⟨⟨rep, last⟩, rfl⟩)
    · rw [hp]
      exact .inr (.inr ⟨notLast, rfl⟩)

theorem Sound.fire {presentTime : ℤ} (h : Sound w) (due : timer.nextCallTime ≤ presentTime)
    (known : timer.callback < w.calls) (left : Sound { w with timers := rest }) :
    Sound (fire presentTime timer rest w) :=
  { left with
    firedKnown := by
      intro f hf
      rcases List.mem_append.mp hf with old | hf
      · exact h.firedKnown f old
      · rw [List.mem_singleton.mp hf]
        exact known
    inTime := by
      intro f hf
      rcases List.mem_append.mp hf with old | hf
      · exact h.inTime f old
      · rw [List.mem_singleton.mp hf]
        exact due }

theorem Sound.of_head (h : Sound w) (hw : w.timers = timer :: rest) :
    Sound { w with timers := rest } ∧
      Sound { w with timers := insertTimerInternal (again timer) rest } := by
  have hs : rest.Sublist w.timers := hw ▸ List.sublist_cons_self timer rest
  obtain ⟨free, bound, interval, due, known, own⟩ := h.of_perm (.of_eq hw.symm)
  have left := h.erase hs
  have positive : 0 ≤ (again timer).nextCallTime := by
    unfold MIN_INTERVAL at interval
    unfold again
    dsimp only
    omega
  exact ⟨left, @Sound.insert _ (again timer) left free bound interval positive known own⟩

theorem sound_turn {presentTime : ℤ} (h : Sound w) : Sound (turn presentTime w) := by
  have ended (u : TimerRun) (hu : Sound u) : Sound { u with presentTime := none } :=
    { hu with present := fun p hp => by cases hp }
  rcases turn_cases presentTime w with ⟨-, stop⟩ | ⟨timer, rest, hw, due, what⟩
  · rw [stop]
    exact ended w h
  · have known : timer.callback < w.calls := h.known timer (hw ▸ List.mem_cons_self)
    obtain ⟨erased, inserted⟩ := h.of_head hw
    rcases what with ⟨-, -, dropped⟩ | ⟨-, last⟩ | ⟨-, again⟩
    · rw [dropped]
      exact ended _ erased
    · rw [last]
      exact h.fire due known erased
    · rw [again]
      exact h.fire due known inserted

theorem runs_fire {presentTime : ℤ} (k : ℕ) :
    runs k (TimerRun.fire presentTime timer rest w) =
      runs k w + if timer.callback = k then 1 else 0 := by
  simp [runs, TimerRun.fire, List.countP_append, List.countP_singleton]

/-- The head of the list, if it was added as `a`, is where the runs of `a` put it. -/
theorem Progress.of_head {n : ℕ} (h : Sound w) (hw : w.timers = timer :: rest)
    (progress : Progress a n w.timers) (own : timer.callback = a.callback) :
    timer.intervalMs = a.intervalMs ∧ timer.repeatCount = a.repeatCount ∧
      timer.callbackCount = n ∧ n < a.repeatCount ∧
      timer.nextCallTime = a.nextCallTime + n * a.intervalMs := by
  have head : timer ∈ w.timers := hw ▸ List.mem_cons_self
  rcases progress with ⟨t, ht, hc, state⟩ | ⟨gone, -⟩
  · obtain ⟨-, -, -, -, -, others⟩ := h.of_perm (.of_eq hw.symm)
    rw [hw] at ht
    rcases List.mem_cons.mp ht with rfl | ht
    · exact state
    · exact absurd (hc.trans own.symm) (others t ht)
  · exact absurd own (gone timer head)

/-- A turn that runs or drops another timer leaves `a` alone. -/
theorem Progress.of_other {n : ℕ} (hw : w.timers = timer :: rest)
    (progress : Progress a n w.timers) (other : timer.callback ≠ a.callback) :
    Progress a n rest ∧ Progress a n (insertTimerInternal (again timer) rest) := by
  rw [hw] at progress
  constructor
  · refine progress.congr fun t hc => ?_
    rw [List.mem_cons, or_iff_right]
    rintro rfl
    exact other hc
  · refine progress.congr fun t hc => ?_
    rw [List.mem_cons, mem_insertTimerInternal, or_iff_right, or_iff_right]
    · rintro rfl
      exact other hc
    · rintro rfl
      exact other hc

theorem le_lastDue {n : ℤ} (interval : 0 ≤ a.intervalMs) (h : n < a.repeatCount) :
    a.nextCallTime + n * a.intervalMs ≤ lastDue a := by
  have runs : n * a.intervalMs ≤ (a.repeatCount - 1) * a.intervalMs :=
    mul_le_mul_of_nonneg_right (by omega) interval
  unfold lastDue
  omega

theorem Sound.nonneg (h : Sound w) (ha : a ∈ w.added) : 0 ≤ a.intervalMs := by
  have := h.intervals a ha
  unfold MIN_INTERVAL at this
  omega

theorem tracked_turn {presentTime : ℤ} (h : Sound w) (tracked : Tracked w) :
    Tracked (turn presentTime w) := by
  rcases turn_cases presentTime w with ⟨-, stop⟩ | ⟨timer, rest, hw, -, what⟩
  · rw [stop]
    exact tracked
  · have main (a : TimerItem ℕ) (ha : a ∈ w.added) (rep : 1 ≤ a.repeatCount)
        (untouched : a.callback ∉ w.touched) :
        Progress a (runs a.callback (turn presentTime w)) (turn presentTime w).timers := by
      have before := tracked a ha rep untouched
      have interval := h.nonneg ha
      by_cases own : timer.callback = a.callback
      · obtain ⟨hi, hr, count, more, due⟩ := before.of_head h hw own
        obtain ⟨-, -, -, nonneg, -, others⟩ := h.of_perm (.of_eq hw.symm)
        have gone : ∀ t ∈ rest, t.callback ≠ a.callback := own ▸ others
        rcases what with ⟨sum, notLast, dropped⟩ | ⟨last, fired⟩ | ⟨notLast, fired⟩
        · rw [dropped]
          refine .inr ⟨gone, .inr ?_⟩
          have small : INT64_MIN ≤ timer.nextCallTime := by unfold INT64_MIN; omega
          have big := addInt64_eq_none sum small (hi ▸ interval)
          have next : (runs a.callback w : ℤ) + 1 < a.repeatCount := by
            rw [← count, ← hr]
            by_contra last
            exact notLast ⟨hr ▸ rep, not_lt.mp last⟩
          have later := le_lastDue interval next
          rw [due, hi] at big
          linarith
        · rw [fired, runs_fire, if_pos own]
          refine .inr ⟨gone, .inl ?_⟩
          have := last.2
          push_cast
          omega
        · rw [fired, runs_fire, if_pos own]
          refine .inl ⟨again timer, mem_insertTimerInternal.mpr (.inl rfl), own, hi, hr, ?_, ?_, ?_⟩
          · simp [again, count]
          · push_cast
            by_contra last
            exact notLast ⟨hr ▸ rep, by omega⟩
          · simp only [again, due, hi]
            push_cast
            ring
      · obtain ⟨left, put⟩ := before.of_other hw own
        rcases what with ⟨-, -, dropped⟩ | ⟨-, fired⟩ | ⟨-, fired⟩
        · rw [dropped]
          exact left
        · rw [fired, runs_fire, if_neg own]
          exact left
        · rw [fired, runs_fire, if_neg own]
          exact put
    intro a ha rep untouched
    rcases what with ⟨-, -, e⟩ | ⟨-, e⟩ | ⟨-, e⟩ <;> rw [e] at ha untouched <;>
      exact main a ha rep untouched

theorem sound_next {l : TimerLabel} (h : Sound w) (ok : Allowed l w) : Sound (next l w) := by
  cases l with
  | addTimer nowTime intervalMs repeatCount callable => exact sound_addTimer h ok
  | resetTimer nowTime timerId => exact sound_resetTimer h ok
  | removeTimer timerId => exact sound_removeTimer h
  | processTimers nowTime =>
    have read := h.read ok.1
    exact { read with present := fun p hp => (Option.some.inj hp).ge }
  | pass =>
    unfold next
    cases hp : w.presentTime with
    | none => exact h
    | some presentTime => exact sound_turn h

theorem tracked_next {l : TimerLabel} (h : Sound w) (tracked : Tracked w) :
    Tracked (next l w) := by
  cases l with
  | addTimer nowTime intervalMs repeatCount callable => exact tracked_addTimer h tracked
  | resetTimer nowTime timerId => exact tracked_resetTimer tracked
  | removeTimer timerId => exact tracked_removeTimer tracked
  | processTimers nowTime => exact tracked
  | pass =>
    unfold next
    cases hp : w.presentTime with
    | none => exact tracked
    | some presentTime => exact tracked_turn h tracked

/-! ## A call ends -/

/-- How many turns a timer can still take in a call that has read `p`. -/
def turnsLeft (p : ℤ) (t : TimerItem ℕ) : ℕ := (p - t.nextCallTime + 1).toNat

def backlog (p : ℤ) (timers : List (TimerItem ℕ)) : ℕ := (timers.map (turnsLeft p)).sum

theorem backlog_perm {p : ℤ} {l l' : List (TimerItem ℕ)} (h : l.Perm l') :
    backlog p l = backlog p l' :=
  (h.map _).sum_nat

theorem backlog_insert {p : ℤ} {l : List (TimerItem ℕ)} :
    backlog p (insertTimerInternal timer l) = turnsLeft p timer + backlog p l := by
  rw [backlog_perm (perm_insertTimerInternal timer l)]
  simp [backlog]

/-- What is due after the reading adds nothing. -/
theorem turnsLeft_of_later {p : ℤ} (h : p < timer.nextCallTime) : turnsLeft p timer = 0 := by
  unfold turnsLeft
  omega

/-- Calls between two turns give a call no more to do. -/
theorem backlog_next_le {l : TimerLabel} {p : ℤ} (h : Sound w) (ok : Allowed l w)
    (hp : w.presentTime = some p) (notPass : l ≠ .pass) :
    (next l w).presentTime = some p ∧ backlog p (next l w).timers ≤ backlog p w.timers := by
  have early := h.present p hp
  cases l with
  | addTimer nowTime intervalMs repeatCount callable =>
    change (addTimer nowTime intervalMs repeatCount callable w).presentTime = some p ∧
      backlog p (addTimer nowTime intervalMs repeatCount callable w).timers ≤ _
    rcases @addTimer_cases w nowTime intervalMs repeatCount callable h with
      same | ⟨item, new, inserted⟩
    · rw [same]
      exact ⟨hp, le_rfl⟩
    · rw [inserted]
      have later : p < item.nextCallTime := by
        have positive := new.interval
        have now := ok.1
        rw [new.due]
        unfold MIN_INTERVAL at positive
        omega
      refine ⟨hp, ?_⟩
      rw [backlog_insert, turnsLeft_of_later later, Nat.zero_add]
  | resetTimer nowTime timerId =>
    refine ⟨hp, ?_⟩
    change backlog p (resetTimerInternal nowTime timerId w.timers).2 ≤ backlog p w.timers
    rcases @resetTimerInternal_cases _ w.timers nowTime timerId with
      ⟨-, same⟩ | ⟨timer, rest, -, perm, -, what⟩
    · rw [same]
    · have split : backlog p w.timers = turnsLeft p timer + backlog p rest := by
        rw [← backlog_perm perm]
        simp [backlog]
      rcases what with dropped | again
      · rw [dropped, split]
        exact Nat.le_add_left _ _
      · obtain ⟨-, -, interval, -⟩ := h.of_perm perm
        have now := ok.1
        have later : p < nowTime + timer.intervalMs := by
          unfold MIN_INTERVAL at interval
          omega
        rw [again, backlog_insert, turnsLeft_of_later later, split]
        omega
  | removeTimer timerId =>
    refine ⟨hp, ?_⟩
    change backlog p (removeTimerInternal timerId w.timers).2 ≤ backlog p w.timers
    rcases @removeTimerInternal_cases _ w.timers timerId with
      ⟨-, same⟩ | ⟨timer, rest, -, perm, -, removed⟩
    · rw [same]
    · rw [removed, ← backlog_perm perm]
      simp [backlog]
  | processTimers nowTime => exact absurd (ok.2.symm.trans hp) (by simp)
  | pass => exact absurd rfl notPass

/-- A turn ends the call or leaves it less to do. -/
theorem backlog_turn {p : ℤ} (h : Sound w) (hp : w.presentTime = some p) :
    (turn p w).presentTime = none ∨
      ((turn p w).presentTime = some p ∧ backlog p (turn p w).timers < backlog p w.timers) := by
  rcases turn_cases p w with ⟨-, stop⟩ | ⟨timer, rest, hw, due, what⟩
  · rw [stop]
    exact .inl rfl
  · obtain ⟨-, -, interval, -⟩ := h.of_perm (.of_eq hw.symm)
    have split : backlog p w.timers = turnsLeft p timer + backlog p rest := by
      rw [hw]
      simp [backlog]
    have positive : 0 < turnsLeft p timer := by unfold turnsLeft; omega
    rcases what with ⟨-, -, dropped⟩ | ⟨-, last⟩ | ⟨-, fired⟩
    · rw [dropped]
      exact .inl rfl
    · rw [last]
      refine .inr ⟨hp, ?_⟩
      change backlog p rest < _
      omega
    · rw [fired]
      refine .inr ⟨hp, ?_⟩
      change backlog p (insertTimerInternal (again timer) rest) < _
      have less : turnsLeft p (again timer) < turnsLeft p timer := by
        unfold turnsLeft again MIN_INTERVAL at *
        dsimp only
        omega
      rw [backlog_insert]
      omega

/-- A call that takes more turns than its backlog at the start has ended on the way. -/
theorem call_ends {p : ℤ} {tr : List TimerLabel} (h : Sound w) (hp : w.presentTime = some p)
    (allowed : System.EachStep next Allowed w tr)
    (turns : backlog p w.timers < tr.countP TimerLabel.isPass) :
    ∃ q, q <+: tr ∧ (System.runFrom next w q).presentTime = none := by
  induction tr generalizing w with
  | nil => simp at turns
  | cons l tr ih =>
    have sound := sound_next h allowed.head
    have further (hp : (next l w).presentTime = some p)
        (turns : backlog p (next l w).timers < tr.countP TimerLabel.isPass) :
        ∃ q, q <+: l :: tr ∧ (System.runFrom next w q).presentTime = none := by
      obtain ⟨q, hq, done⟩ := ih sound hp allowed.tail turns
      exact ⟨l :: q, List.cons_prefix_cons.mpr ⟨rfl, hq⟩, done⟩
    by_cases isPass : l = .pass
    · subst isPass
      have hn : next .pass w = turn p w := by simp only [next, hp]
      rcases backlog_turn h hp with done | ⟨still, less⟩
      · refine ⟨[.pass], by simp, ?_⟩
        change (next .pass w).presentTime = none
        rw [hn]
        exact done
      · rw [← hn] at still less
        apply further still
        simp only [List.countP_cons, TimerLabel.isPass] at turns
        simp at turns
        omega
    · obtain ⟨still, less⟩ := backlog_next_le h allowed.head hp isPass
      apply further still
      have same : TimerLabel.isPass l = false := by
        cases l <;> first | rfl | exact absurd rfl isPass
      rw [List.countP_cons_of_neg (by simp [same])] at turns
      omega

/-! ### Calls that are needed -/

/-- The timers that are due by `d`. -/
def pendingBy (d : ℤ) (timers : List (TimerItem ℕ)) : ℕ :=
  timers.countP fun t => t.nextCallTime ≤ d

/-- One, if the step ends a call that has read `d` or later. -/
def endsCall (d : ℤ) (l : TimerLabel) (w : TimerRun) : ℕ :=
  match l, w.presentTime with
  | .pass, some p => if d ≤ p ∧ (turn p w).presentTime = none then 1 else 0
  | _, _ => 0

theorem pendingBy_cons {d : ℤ} :
    pendingBy d (timer :: rest) = pendingBy d rest + if timer.nextCallTime ≤ d then 1 else 0 := by
  simp [pendingBy, List.countP_cons]

theorem pendingBy_perm {d : ℤ} {l l' : List (TimerItem ℕ)} (h : l.Perm l') :
    pendingBy d l = pendingBy d l' :=
  h.countP_eq _

/-- In an ordered list, nothing is due by `d` if the head is not. -/
theorem pendingBy_of_ordered {d : ℤ} (ordered : Ordered (timer :: rest))
    (later : d < timer.nextCallTime) : pendingBy d (timer :: rest) = 0 := by
  unfold pendingBy
  rw [List.countP_eq_zero]
  intro t ht
  have first : timer.nextCallTime ≤ t.nextCallTime := by
    rcases List.mem_cons.mp ht with rfl | ht
    · exact le_rfl
    · exact (List.pairwise_cons.mp ordered).1 t ht
  simp only [decide_eq_true_eq]
  omega

theorem clock_next {l : TimerLabel} (ok : Allowed l w) : w.clock ≤ (next l w).clock := by
  cases l with
  | addTimer | resetTimer => exact ok.1
  | processTimers => exact ok.1.1
  | removeTimer => exact le_rfl
  | pass =>
    unfold next
    cases hp : w.presentTime with
    | none => exact le_rfl
    | some p =>
      change w.clock ≤ (turn p w).clock
      unfold turn
      split <;> exact le_rfl

theorem pendingBy_turn {d p : ℤ} (h : Sound w) (hp : w.presentTime = some p) :
    (if d ≤ p ∧ (turn p w).presentTime = none then 1 else 0) + pendingBy d (turn p w).timers ≤
        pendingBy d w.timers ∨
      pendingBy d (turn p w).timers = 0 := by
  have ordered := h.wellFormed.ordered
  rcases turn_cases p w with ⟨early, stop⟩ | ⟨timer, rest, hw, due, what⟩
  · rw [stop]
    by_cases reached : d ≤ p
    · right
      change pendingBy d w.timers = 0
      cases hw : w.timers with
      | nil => rfl
      | cons timer rest =>
        rw [hw] at ordered
        exact pendingBy_of_ordered ordered (reached.trans_lt (early timer rest hw))
    · left
      rw [if_neg fun both => reached both.1, Nat.zero_add]
  · rw [hw] at ordered ⊢
    rw [pendingBy_cons]
    rcases what with ⟨-, -, dropped⟩ | ⟨-, last⟩ | ⟨-, fired⟩
    · rw [dropped]
      dsimp only
      by_cases head : timer.nextCallTime ≤ d
      · left
        rw [if_pos head]
        split <;> omega
      · right
        have none := pendingBy_of_ordered ordered (not_le.mp head)
        rw [pendingBy_cons] at none
        omega
    · left
      have still : (turn p w).presentTime ≠ none := by simp [last, TimerRun.fire, hp]
      rw [if_neg fun both => still both.2, last]
      change 0 + pendingBy d rest ≤ _
      omega
    · left
      have still : (turn p w).presentTime ≠ none := by simp [fired, TimerRun.fire, hp]
      rw [if_neg fun both => still both.2, fired]
      change 0 + pendingBy d (insertTimerInternal (again timer) rest) ≤ _
      rw [pendingBy_perm (perm_insertTimerInternal _ rest), pendingBy_cons]
      obtain ⟨-, -, interval, -⟩ := h.of_perm (.of_eq hw.symm)
      unfold again MIN_INTERVAL at *
      dsimp only
      split <;> split <;> omega

/-- A step brings up nothing that is due by `d`, and one that ends a call takes something away,
as long as there is anything. -/
theorem pendingBy_next {l : TimerLabel} {d : ℤ} (h : Sound w) (ok : Allowed l w)
    (reached : d ≤ w.clock) :
    endsCall d l w + pendingBy d (next l w).timers ≤ pendingBy d w.timers ∨
      pendingBy d (next l w).timers = 0 := by
  cases l with
  | addTimer nowTime intervalMs repeatCount callable =>
    left
    change 0 + pendingBy d (addTimer nowTime intervalMs repeatCount callable w).timers ≤ _
    rcases @addTimer_cases w nowTime intervalMs repeatCount callable h with
      same | ⟨item, new, inserted⟩
    · rw [same, Nat.zero_add]
    · have later : ¬ item.nextCallTime ≤ d := by
        have positive := new.interval
        have now := ok.1
        rw [new.due]
        unfold MIN_INTERVAL at positive
        omega
      rw [inserted, pendingBy_perm (perm_insertTimerInternal item w.timers), pendingBy_cons,
        if_neg later, Nat.zero_add, Nat.add_zero]
  | resetTimer nowTime timerId =>
    left
    change 0 + pendingBy d (resetTimerInternal nowTime timerId w.timers).2 ≤ pendingBy d w.timers
    rcases @resetTimerInternal_cases _ w.timers nowTime timerId with
      ⟨-, same⟩ | ⟨timer, rest, -, perm, -, what⟩
    · rw [same, Nat.zero_add]
    · rw [← pendingBy_perm perm, pendingBy_cons]
      rcases what with dropped | again
      · rw [dropped]
        dsimp only
        omega
      · obtain ⟨-, -, interval, -⟩ := h.of_perm perm
        have now := ok.1
        have later : ¬ nowTime + timer.intervalMs ≤ d := by
          unfold MIN_INTERVAL at interval
          omega
        rw [again, pendingBy_perm (perm_insertTimerInternal _ rest), pendingBy_cons, if_neg later]
        omega
  | removeTimer timerId =>
    left
    change 0 + pendingBy d (removeTimerInternal timerId w.timers).2 ≤ pendingBy d w.timers
    rcases @removeTimerInternal_cases _ w.timers timerId with
      ⟨-, same⟩ | ⟨timer, rest, -, perm, -, removed⟩
    · rw [same, Nat.zero_add]
    · rw [removed, ← pendingBy_perm perm, pendingBy_cons]
      dsimp only
      omega
  | processTimers nowTime =>
    left
    exact (Nat.zero_add _).le
  | pass =>
    unfold next endsCall
    cases hp : w.presentTime with
    | none => exact .inl (Nat.zero_add _).le
    | some p => exact pendingBy_turn h hp

/-- After as many calls as there are timers, nothing is left that is due by `d`. -/
theorem pendingBy_run {d : ℤ} {tr : List TimerLabel} (h : Sound w)
    (allowed : System.EachStep next Allowed w tr) (reached : d ≤ w.clock) :
    System.total next (endsCall d) w tr + pendingBy d (System.runFrom next w tr).timers ≤
        pendingBy d w.timers ∨
      pendingBy d (System.runFrom next w tr).timers = 0 := by
  induction tr generalizing w with
  | nil => exact .inl (Nat.zero_add _).le
  | cons l tr ih =>
    have sound := sound_next h allowed.head
    have later := ih sound allowed.tail (reached.trans (clock_next allowed.head))
    have step := pendingBy_next h allowed.head reached
    simp only [System.total, System.runFrom, List.foldl_cons] at later step ⊢
    omega

theorem pendingBy_eq_zero {d : ℤ} {tr : List TimerLabel} (h : Sound w)
    (allowed : System.EachStep next Allowed w tr) (reached : d ≤ w.clock)
    (enough : w.timers.length ≤ System.total next (endsCall d) w tr) :
    pendingBy d (System.runFrom next w tr).timers = 0 := by
  have most : pendingBy d w.timers ≤ w.timers.length := List.countP_le_length
  rcases pendingBy_run h allowed reached with fewer | none
  · omega
  · exact none

/-- A timer that is left alone has had all its runs when nothing is due by its last one. -/
theorem Progress.runs_eq {n : ℕ} {l : List (TimerItem ℕ)} (progress : Progress a n l)
    (interval : 0 ≤ a.intervalMs) (small : lastDue a ≤ INT64_MAX)
    (nothing : pendingBy (lastDue a) l = 0) : n = a.repeatCount := by
  rcases progress with ⟨t, ht, -, -, -, -, more, due⟩ | ⟨-, done | overflow⟩
  · have late := List.countP_eq_zero.mp nothing t ht
    have early := le_lastDue interval more
    simp only [decide_eq_true_eq] at late
    omega
  · exact done
  · omega

end Invariant

theorem sound_start : Sound {} where
  wellFormed := ⟨.nil, .nil, by simp, by simp⟩
  clock := by decide
  present p hp := by cases hp
  dues t ht := by cases ht
  callbacks := .nil
  known t ht := by cases ht
  addedKnown a ha := by cases ha
  intervals a ha := by cases ha
  firedKnown f hf := by cases hf
  inTime f hf := by cases hf

/-- The state that a run leads to from an empty list. -/
def after (tr : List TimerLabel) : TimerRun := System.runFrom next {} tr

theorem sound_after {tr : List TimerLabel} (allowed : System.EachStep next Allowed {} tr) :
    Sound (after tr) ∧ Tracked (after tr) := by
  have init : Tracked {} := fun a ha => by cases ha
  refine allowed.invariant (I := fun w => Sound w ∧ Tracked w) ?_ ⟨sound_start, init⟩
  intro l w h ok
  exact ⟨sound_next h.1 ok, tracked_next h.1 h.2⟩

theorem added_next {l : TimerLabel} {w : TimerRun} {a : TimerItem ℕ} (h : a ∈ w.added) :
    a ∈ (next l w).added := by
  cases l with
  | addTimer => exact List.mem_append_left _ h
  | resetTimer | removeTimer | processTimers => exact h
  | pass =>
    unfold next
    cases w.presentTime with
    | none => exact h
    | some p =>
      change a ∈ (turn p w).added
      unfold turn
      split <;> exact h

theorem added_runFrom {tr : List TimerLabel} {w : TimerRun} {a : TimerItem ℕ} (h : a ∈ w.added) :
    a ∈ (System.runFrom next w tr).added := by
  induction tr generalizing w with
  | nil => exact h
  | cons l tr ih => exact ih (added_next h)

/-- The timer queue: in every run the list is ordered with distinct ids in range, no callback
runs early, a timer with a repeat count that is left alone runs that often once as many calls
as there were timers have processed its last due time, and no call takes for ever. -/
theorem timer_queue (tr : List TimerLabel) (allowed : System.EachStep next Allowed {} tr) :
    (Ordered (after tr).timers ∧ ((after tr).timers.map (·.id)).Nodup ∧
      ∀ t ∈ (after tr).timers, t.id < MAX_TIMER_COUNT) ∧
    (∀ f ∈ (after tr).fired, f.due ≤ f.time) ∧
    (∀ p q, p ++ q = tr → ∀ a ∈ (after p).added, 1 ≤ a.repeatCount →
      a.callback ∉ (after tr).touched → lastDue a ≤ (after p).clock →
      (after p).timers.length ≤ System.total next (endsCall (lastDue a)) (after p) q →
      runs a.callback (after tr) = a.repeatCount) ∧
    ∀ presentTime, (after tr).presentTime = some presentTime →
      ∀ q, System.EachStep next Allowed (after tr) q →
        backlog presentTime (after tr).timers < q.countP TimerLabel.isPass →
        ∃ p, p <+: q ∧ (after (tr ++ p)).presentTime = none := by
  obtain ⟨sound, tracked⟩ := sound_after allowed
  refine ⟨⟨sound.wellFormed.ordered, sound.wellFormed.ids, sound.wellFormed.bounded⟩,
    sound.inTime, ?_, ?_⟩
  · rintro p q rfl a ha rep untouched reached enough
    have before := (sound_after (allowed.of_prefix (List.prefix_append p q))).1
    have split : after (p ++ q) = System.runFrom next (after p) q :=
      System.runFrom_append next {} p q
    have rest : System.EachStep next Allowed (after p) q := allowed.of_append
    have nothing : pendingBy (lastDue a) (after (p ++ q)).timers = 0 := by
      rw [split]
      exact pendingBy_eq_zero before rest reached enough
    have still : a ∈ (after (p ++ q)).added := by
      rw [split]
      exact added_runFrom ha
    exact (tracked a still rep untouched).runs_eq (before.nonneg ha)
      (reached.trans before.clock.2) nothing
  · intro presentTime hp q further turns
    obtain ⟨p, hpq, done⟩ := call_ends sound hp further turns
    refine ⟨p, hpq, ?_⟩
    unfold after at done ⊢
    rw [System.runFrom_append]
    exact done

/-- A timer of 100 ms that is to run twice, and the first call that comes after its last due
time. -/
def lateRun : List TimerLabel :=
  [.addTimer 0 100 2 true, .processTimers 250, .pass, .pass, .pass]

theorem timer_queue_late : runs 0 (after lateRun) = 2 := by
  have allowed : System.EachStep next Allowed {} lateRun :=
    .cons ⟨by decide, by decide⟩ <| .cons ⟨⟨by decide, by decide⟩, rfl⟩ <|
      .cons trivial <| .cons trivial <| .cons trivial .nil
  let a : TimerItem ℕ :=
    { id := 0, intervalMs := 100, callbackCount := 0, repeatCount := 2, nextCallTime := 100,
      callback := 0 }
  have runs := (timer_queue lateRun allowed).2.2.1 [.addTimer 0 100 2 true, .processTimers 250]
    [.pass, .pass, .pass] rfl a (by decide) (by decide) (by decide) (by decide) (by decide)
  exact Int.ofNat_inj.mp runs

end TimerRun

end DeviceStatus.Timers
