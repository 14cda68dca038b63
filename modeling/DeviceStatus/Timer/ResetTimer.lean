import DeviceStatus.Library.Transition
import DeviceStatus.Timer.TimerManager

/-!
# Resetting a timer

`ResetTimerInternal` takes the timer off the list before it computes when the timer is due next,
and would lose it if that overflowed. It never does: the clock counts nanoseconds in 64 bits, of
which `GetMillisTime` makes milliseconds, and no interval is longer than ten minutes.

## Main definitions

* `getMillisTime` — the clock.
* `TimerCall`, `reached` — the lists that come of any calls.
* `Atomic` — a reset that fails leaves the list as it was.
-/

namespace DeviceStatus.Timers

open Transition.System

variable {Callback : Type}

/-- The milliseconds of `steady_clock::now`, whose ticks are nanoseconds: `duration_cast` cuts the
rest off. -/
def getMillisTime (steadyClock : Int64) : ℤ := steadyClock.toInt.tdiv 1000000

/-- What is done to the list, and what the clock shows then. -/
inductive TimerCall (Callback : Type) where
  | addTimer (steadyClock : Int64) (intervalMs repeatCount : Int32) (callback : Option Callback)
  | removeTimer (timerId : Int32)
  | resetTimer (steadyClock : Int64) (timerId : Int32)
  /-- a turn of the loop in `ProcessTimersInternal` -/
  | pass (steadyClock : Int64)

def apply : TimerCall Callback → List (TimerItem Callback) → List (TimerItem Callback)
  | .addTimer steadyClock intervalMs repeatCount callback, timers =>
    (addTimerInternal (getMillisTime steadyClock) intervalMs.toInt repeatCount.toInt callback
      timers).2
  | .removeTimer timerId, timers => (removeTimerInternal timerId.toInt timers).2
  | .resetTimer steadyClock timerId, timers =>
    (resetTimerInternal (getMillisTime steadyClock) timerId.toInt timers).2
  | .pass steadyClock, timers => (pass (getMillisTime steadyClock) timers).timers

def reached (calls : List (TimerCall Callback)) : List (TimerItem Callback) :=
  runFrom apply [] calls

/-- `timers` is `others` with the timer in its place. -/
def Queued (timer : TimerItem Callback) (others timers : List (TimerItem Callback)) : Prop :=
  ∃ front back, others = front ++ back ∧ timers = front ++ timer :: back ∧
    (∀ t ∈ front, t.nextCallTime ≤ timer.nextCallTime) ∧
    ∀ t ∈ back, timer.nextCallTime < t.nextCallTime

/-- The timer is queued again, due an interval from now, or nothing has changed. -/
def Atomic (nowTime timerId : ℤ) (timers : List (TimerItem Callback)) : Prop :=
  ((resetTimerInternal nowTime timerId timers).1 = RET_OK ∧
      ∃ before timer after, timers = before ++ timer :: after ∧ (timer.id : ℤ) = timerId ∧
        Queued { timer with callbackCount := 0, nextCallTime := nowTime + timer.intervalMs }
          (before ++ after) (resetTimerInternal nowTime timerId timers).2) ∨
    ((resetTimerInternal nowTime timerId timers).1 = RET_ERR ∧
      (resetTimerInternal nowTime timerId timers).2 = timers)

/-! ## The list -/

section Lists

variable {timer : TimerItem Callback} {timers : List (TimerItem Callback)}

/-- An ordered list takes a timer in its place. -/
theorem queued_insertTimerInternal (timer : TimerItem Callback) (ordered : Ordered timers) :
    Queued timer timers (insertTimerInternal timer timers) := by
  induction timers with
  | nil => exact ⟨[], [], rfl, rfl, by simp, by simp⟩
  | cons item timers ih =>
    obtain ⟨first, rest⟩ := List.pairwise_cons.mp ordered
    unfold insertTimerInternal
    split
    next earlier =>
      refine ⟨[], item :: timers, rfl, rfl, by simp, ?_⟩
      intro t ht
      obtain rfl | ht := List.mem_cons.mp ht
      · exact earlier
      · exact earlier.trans_le (first t ht)
    next later =>
      obtain ⟨front, back, split, inserted, le, lt⟩ := ih rest
      refine ⟨item :: front, back, by rw [split, List.cons_append], by rw [inserted]; rfl, ?_, lt⟩
      intro t ht
      obtain rfl | ht := List.mem_cons.mp ht
      · exact not_lt.mp later
      · exact le t ht

/-- What is found first is what is taken out. -/
theorem eraseP_of_find?_eq_some {α : Type} {p : α → Bool} {l : List α} {a : α}
    (found : l.find? p = some a) :
    ∃ before after, l = before ++ a :: after ∧ l.eraseP p = before ++ after := by
  obtain ⟨holds, before, after, rfl, earlier⟩ := List.find?_eq_some_iff_append.mp found
  refine ⟨before, after, rfl, ?_⟩
  rw [List.eraseP_append_right _ (by simpa using earlier), List.eraseP_cons_of_pos holds]

end Lists

theorem wellFormed_apply (call : TimerCall Callback) (timers : List (TimerItem Callback))
    (h : WellFormed timers) : WellFormed (apply call timers) := by
  cases call with
  | addTimer => exact h.addTimer
  | removeTimer => exact h.removeTimer
  | resetTimer => exact h.resetTimer
  | pass => exact h.pass

/-- No interval is so long that it overflows on its own. -/
def Short (timers : List (TimerItem Callback)) : Prop :=
  ∀ t ∈ timers, t.intervalMs ≤ MAX_INTERVAL_MS

theorem clampInterval_le (intervalMs : ℤ) : clampInterval intervalMs ≤ MAX_INTERVAL_MS := by
  unfold clampInterval MIN_INTERVAL MAX_INTERVAL_MS
  grind

theorem Short.insert {timer : TimerItem Callback} {timers : List (TimerItem Callback)}
    (h : Short timers) (short : timer.intervalMs ≤ MAX_INTERVAL_MS) :
    Short (insertTimerInternal timer timers) := by
  intro t ht
  obtain rfl | ht := mem_insertTimerInternal.mp ht
  · exact short
  · exact h t ht

theorem short_apply (call : TimerCall Callback) (timers : List (TimerItem Callback))
    (h : Short timers) : Short (apply call timers) := by
  have taken {timer : TimerItem Callback} {rest : List (TimerItem Callback)}
      (perm : (timer :: rest).Perm timers) : timer.intervalMs ≤ MAX_INTERVAL_MS ∧ Short rest :=
    ⟨h timer (perm.subset List.mem_cons_self),
      fun t ht => h t (perm.subset (List.mem_cons_of_mem _ ht))⟩
  cases call with
  | addTimer =>
    rw [apply]
    obtain same | ⟨k, f, -, -, -, -, -, added⟩ := addTimerInternal_cases
    · rwa [same]
    · rw [added]
      exact h.insert (clampInterval_le _)
  | removeTimer =>
    rw [apply]
    obtain ⟨-, same⟩ | ⟨timer, rest, -, perm, -, removed⟩ := removeTimerInternal_cases
    · rwa [same]
    · rw [removed]
      exact (taken perm).2
  | resetTimer =>
    rw [apply]
    obtain ⟨-, same⟩ | ⟨timer, rest, -, perm, -, dropped | again⟩ := resetTimerInternal_cases
    · rwa [same]
    · rw [dropped]
      exact (taken perm).2
    · rw [again]
      exact (taken perm).2.insert (taken perm).1
  | pass steadyClock =>
    rw [apply]
    obtain ⟨-, stop⟩ | ⟨timer, rest, rfl, -, turn⟩ := pass_cases (getMillisTime steadyClock) timers
    · rwa [stop]
    · obtain ⟨short, others⟩ := taken (.refl _)
      obtain ⟨-, -, dropped⟩ | ⟨-, -, last⟩ | ⟨-, again⟩ := turn
      · rwa [dropped]
      · rwa [last]
      · rw [again]
        exact others.insert short

theorem short_reached (calls : List (TimerCall Callback)) : Short (reached calls) :=
  runFrom_invariant short_apply (by simp [Short]) calls

theorem wellFormed_reached (calls : List (TimerCall Callback)) : WellFormed (reached calls) :=
  runFrom_invariant wellFormed_apply ⟨.nil, by simp, by simp, by simp⟩ calls

/-! ## The reset -/

section Reset

variable {timers : List (TimerItem Callback)} {timer : TimerItem Callback} {timerId : ℤ}

theorem getMillisTime_bounds (steadyClock : Int64) :
    -9223372036855 ≤ getMillisTime steadyClock ∧ getMillisTime steadyClock ≤ 9223372036855 := by
  have low := Int64.le_toInt steadyClock
  have high := Int64.toInt_lt steadyClock
  have cut := Int.mul_tdiv_add_tmod steadyClock.toInt 1000000
  have rest := Int.tmod_lt_of_pos steadyClock.toInt (show (0 : ℤ) < 1000000 by decide)
  have rest' := Int.lt_tmod_of_pos steadyClock.toInt (show (0 : ℤ) < 1000000 by decide)
  unfold getMillisTime
  omega

/-- What the clock shows leaves room for every interval. -/
theorem addInt64_getMillisTime (steadyClock : Int64) {interval : ℤ} (nonneg : 0 ≤ interval)
    (short : interval ≤ MAX_INTERVAL_MS) : addInt64 (getMillisTime steadyClock) interval =
      some (getMillisTime steadyClock + interval) := by
  have clock := getMillisTime_bounds steadyClock
  unfold MAX_INTERVAL_MS at short
  unfold addInt64 INT64_MIN INT64_MAX
  grind

theorem resetTimerInternal_of_none (nowTime : ℤ)
    (absent : timers.find? (fun timer => timer.id = timerId) = none) :
    resetTimerInternal nowTime timerId timers = (RET_ERR, timers) := by
  rw [resetTimerInternal, absent]

theorem resetTimerInternal_of_sum {nowTime nextCallTime : ℤ}
    (found : timers.find? (fun timer => timer.id = timerId) = some timer)
    (sum : addInt64 nowTime timer.intervalMs = some nextCallTime) :
    resetTimerInternal nowTime timerId timers =
      (RET_OK, insertTimerInternal { timer with callbackCount := 0, nextCallTime }
        (timers.eraseP fun timer => timer.id = timerId)) := by
  rw [resetTimerInternal, found]
  simp only [sum]

theorem atomic_of_sum {nowTime nextCallTime : ℤ} (wellFormed : WellFormed timers)
    (found : timers.find? (fun timer => timer.id = timerId) = some timer)
    (sum : addInt64 nowTime timer.intervalMs = some nextCallTime) :
    Atomic nowTime timerId timers := by
  obtain ⟨before, after, split, erased⟩ := eraseP_of_find?_eq_some found
  obtain rfl := addInt64_eq_some sum
  left
  rw [resetTimerInternal_of_sum found sum]
  refine ⟨rfl, before, timer, after, split, by simpa using List.find?_some found, ?_⟩
  rw [← erased]
  exact queued_insertTimerInternal _ (wellFormed.sublist List.eraseP_sublist).ordered

end Reset

/-- A reset queues the timer again, an interval from now, or changes nothing. -/
theorem resetTimer_atomic (calls : List (TimerCall Callback)) (steadyClock : Int64)
    (timerId : Int32) : Atomic (getMillisTime steadyClock) timerId.toInt (reached calls) := by
  have wellFormed := wellFormed_reached calls
  cases found : (reached calls).find? fun timer => timer.id = timerId.toInt with
  | none =>
    right
    rw [resetTimerInternal_of_none _ found]
    exact ⟨rfl, rfl⟩
  | some timer =>
    have mem := List.mem_of_find?_eq_some found
    have positive : 0 ≤ timer.intervalMs :=
      le_trans (by decide) (wellFormed.intervals timer mem)
    have sum := addInt64_getMillisTime steadyClock positive (short_reached calls timer mem)
    exact atomic_of_sum wellFormed found sum

end DeviceStatus.Timers
