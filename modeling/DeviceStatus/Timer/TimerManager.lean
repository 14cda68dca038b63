import Mathlib.Data.List.Sort
import Mathlib.Tactic.Linarith

/-!
# The timer manager

`timer_manager.cpp`: a list of timers in the order of their due times. The clock is read by the
caller and passed in, and the turns of the loop in `ProcessTimersInternal` are one function,
`pass`, since a callback may change the list between two of them.

## Main definitions

* `TimerItem`, `Ordered` — a timer, and lists of timers by due time.
* `takeNextTimerId`, `addTimerInternal`, `removeTimerInternal`, `resetTimerInternal` — the
  operations on the list.
* `Pass`, `pass` — one turn of the processing loop.
-/

namespace DeviceStatus.Timers

def MIN_DELAY : ℤ := -1
def NONEXISTENT_ID : ℤ := -1
def MIN_INTERVAL : ℤ := 50
def MAX_INTERVAL_MS : ℤ := 600000
def MAX_TIMER_COUNT : ℕ := 64
def INT64_MIN : ℤ := -2 ^ 63
def INT64_MAX : ℤ := 2 ^ 63 - 1
def RET_OK : ℤ := 0
def RET_ERR : ℤ := -1

/-- `AddInt` of `util.h` at `int64_t`. -/
def addInt64 (op1 op2 : ℤ) : Option ℤ :=
  if 0 ≤ op1 then if INT64_MAX - op1 < op2 then none else some (op1 + op2)
  else if op2 < INT64_MIN - op1 then none else some (op1 + op2)

/-- The count of a timer that repeats for ever decides nothing, so it may grow here where an
`int32_t` would overflow. -/
structure TimerItem (Callback : Type) where
  id : ℕ
  intervalMs : ℤ
  callbackCount : ℤ
  repeatCount : ℤ
  nextCallTime : ℤ
  callback : Callback
  deriving DecidableEq

variable {Callback : Type}

/-- The ids in use, one bit each. -/
def timerSlot (timers : List (TimerItem Callback)) : BitVec 64 :=
  timers.foldl (fun s timer => s ||| (1#64 <<< timer.id)) 0#64

def takeNextTimerId (timers : List (TimerItem Callback)) : ℤ :=
  match (List.range MAX_TIMER_COUNT).find? fun tmpCount =>
      timerSlot timers &&& (1#64 <<< tmpCount) = 0#64 with
  | some tmpCount => tmpCount
  | none => NONEXISTENT_ID

/-- Timers that are due at the same time run in the order in which they were inserted. -/
def insertTimerInternal (timer : TimerItem Callback) :
    List (TimerItem Callback) → List (TimerItem Callback)
  | [] => [timer]
  | item :: timers =>
    if timer.nextCallTime < item.nextCallTime then timer :: item :: timers
    else item :: insertTimerInternal timer timers

def clampInterval (intervalMs : ℤ) : ℤ :=
  if intervalMs < MIN_INTERVAL then MIN_INTERVAL
  else if MAX_INTERVAL_MS < intervalMs then MAX_INTERVAL_MS
  else intervalMs

def addTimerInternal (nowTime intervalMs repeatCount : ℤ) (callback : Option Callback)
    (timers : List (TimerItem Callback)) : ℤ × List (TimerItem Callback) :=
  let intervalMs := clampInterval intervalMs
  match callback with
  | none => (NONEXISTENT_ID, timers)
  | some callback =>
    let nextTimerId := takeNextTimerId timers
    if nextTimerId < 0 then (NONEXISTENT_ID, timers)
    else
      match addInt64 nowTime intervalMs with
      | none => (NONEXISTENT_ID, timers)
      | some nextCallTime =>
        (nextTimerId, insertTimerInternal
          { id := nextTimerId.toNat, intervalMs, callbackCount := 0, repeatCount, nextCallTime,
            callback } timers)

def removeTimerInternal (timerId : ℤ) (timers : List (TimerItem Callback)) :
    ℤ × List (TimerItem Callback) :=
  if timers.any fun timer => timer.id = timerId then
    (RET_OK, timers.eraseP fun timer => timer.id = timerId)
  else (RET_ERR, timers)

/-- A timer whose next due time overflows is dropped. -/
def resetTimerInternal (nowTime timerId : ℤ) (timers : List (TimerItem Callback)) :
    ℤ × List (TimerItem Callback) :=
  match timers.find? fun timer => timer.id = timerId with
  | none => (RET_ERR, timers)
  | some timer =>
    let timers := timers.eraseP fun timer => timer.id = timerId
    match addInt64 nowTime timer.intervalMs with
    | none => (RET_ERR, timers)
    | some nextCallTime =>
      (RET_OK, insertTimerInternal { timer with callbackCount := 0, nextCallTime } timers)

/-- How long the timer of the service is armed for. -/
def calcNextDelayInternal (nowTime : ℤ) (timers : List (TimerItem Callback)) : ℤ :=
  match timers with
  | [] => MIN_DELAY
  | timer :: _ => if timer.nextCallTime ≤ nowTime then 0 else timer.nextCallTime - nowTime

/-- What one turn of the loop in `ProcessTimersInternal` comes to: the loop is over, with the
list that is left, or a callback runs before the next turn. -/
inductive Pass (Callback : Type) where
  | stop (timers : List (TimerItem Callback))
  | run (timer : TimerItem Callback) (timers : List (TimerItem Callback))

def Pass.timers : Pass Callback → List (TimerItem Callback)
  | .stop timers | .run _ timers => timers

/-- One turn of the loop in `ProcessTimersInternal`; a timer whose next due time overflows is
dropped, and ends the loop. The timer that runs is given as it was taken from the list. -/
def pass (presentTime : ℤ) (timers : List (TimerItem Callback)) : Pass Callback :=
  match timers with
  | [] => .stop []
  | timer :: rest =>
    if presentTime < timer.nextCallTime then .stop (timer :: rest)
    else
      let callbackCount := timer.callbackCount + 1
      if 1 ≤ timer.repeatCount ∧ timer.repeatCount ≤ callbackCount then .run timer rest
      else
        match addInt64 timer.nextCallTime timer.intervalMs with
        | none => .stop rest
        | some nextCallTime =>
          .run timer (insertTimerInternal { timer with callbackCount, nextCallTime } rest)

/-! ## Ids -/

section Ids

variable {timers : List (TimerItem Callback)} {k : ℕ}

theorem getLsbD_foldl_slot (timers : List (TimerItem Callback)) (s : BitVec 64) (hk : k < 64) :
    (timers.foldl (fun s timer => s ||| (1#64 <<< timer.id)) s).getLsbD k = true ↔
      s.getLsbD k = true ∨ ∃ t ∈ timers, t.id = k := by
  induction timers generalizing s with
  | nil => simp
  | cons timer timers ih =>
    rw [List.foldl_cons, ih]
    have bit : (1#64 <<< timer.id).getLsbD k = true ↔ timer.id = k := by
      simp only [BitVec.getLsbD_shiftLeft, BitVec.getLsbD_one]
      grind
    simp only [BitVec.getLsbD_or, Bool.or_eq_true, bit, List.mem_cons, exists_eq_or_imp, or_assoc]

theorem slot_and_eq_zero_iff (hk : k < 64) :
    timerSlot timers &&& (1#64 <<< k) = 0#64 ↔ ∀ t ∈ timers, t.id ≠ k := by
  have used : (timerSlot timers).getLsbD k = true ↔ ∃ t ∈ timers, t.id = k := by
    unfold timerSlot
    rw [getLsbD_foldl_slot timers 0#64 hk]
    simp
  constructor
  · intro h t ht rfl
    have bit := congrArg (fun v : BitVec 64 => v.getLsbD t.id) h
    simp only [BitVec.getLsbD_and, used.mpr ⟨t, ht, rfl⟩, BitVec.getLsbD_shiftLeft,
      BitVec.getLsbD_one] at bit
    grind
  · intro h
    apply BitVec.eq_of_getLsbD_eq
    intro i hi
    by_cases hik : i = k
    · subst hik
      have clear : (timerSlot timers).getLsbD i = false := by
        rw [Bool.eq_false_iff]
        intro set
        obtain ⟨t, ht, hid⟩ := used.mp set
        exact h t ht hid
      simp [clear]
    · simp only [BitVec.getLsbD_and, BitVec.getLsbD_shiftLeft, BitVec.getLsbD_one]
      grind

/-- The lowest id that no timer has, if there is one below the maximum. -/
theorem takeNextTimerId_spec (timers : List (TimerItem Callback)) :
    (takeNextTimerId timers = NONEXISTENT_ID ∧
      ∀ k < MAX_TIMER_COUNT, ∃ t ∈ timers, t.id = k) ∨
    ∃ k < MAX_TIMER_COUNT, takeNextTimerId timers = k ∧ (∀ t ∈ timers, t.id ≠ k) ∧
      ∀ j < k, ∃ t ∈ timers, t.id = j := by
  have used {k : ℕ} (hk : k < MAX_TIMER_COUNT)
      (h : ¬ timerSlot timers &&& (1#64 <<< k) = 0#64) : ∃ t ∈ timers, t.id = k := by
    by_contra none
    push Not at none
    exact h ((slot_and_eq_zero_iff hk).mpr none)
  unfold takeNextTimerId
  split
  · rename_i k hk
    right
    obtain ⟨free, bound, lower⟩ := List.find?_range_eq_some.mp hk
    have bound : k < MAX_TIMER_COUNT := by simpa using bound
    refine ⟨k, bound, rfl, (slot_and_eq_zero_iff bound).mp (by simpa using free), fun j hj => ?_⟩
    exact used (hj.trans bound) (by simpa using lower j hj)
  · rename_i hk
    left
    refine ⟨rfl, fun k hk' => used hk' ?_⟩
    simpa using List.find?_range_eq_none.mp hk k hk'

end Ids

/-! ## Order -/

/-- The timers stand in the order of their due times. -/
def Ordered (timers : List (TimerItem Callback)) : Prop :=
  timers.Pairwise fun a b => a.nextCallTime ≤ b.nextCallTime

section Order

variable {timer : TimerItem Callback} {timers : List (TimerItem Callback)}

theorem perm_insertTimerInternal (timer : TimerItem Callback) (timers : List (TimerItem Callback)) :
    (insertTimerInternal timer timers).Perm (timer :: timers) := by
  induction timers with
  | nil => exact .refl _
  | cons item timers ih =>
    unfold insertTimerInternal
    split
    · exact .refl _
    · exact (ih.cons item).trans (.swap timer item timers)

@[simp] theorem mem_insertTimerInternal {t : TimerItem Callback} :
    t ∈ insertTimerInternal timer timers ↔ t = timer ∨ t ∈ timers := by
  rw [(perm_insertTimerInternal timer timers).mem_iff, List.mem_cons]

theorem ordered_insertTimerInternal (h : Ordered timers) :
    Ordered (insertTimerInternal timer timers) := by
  induction timers with
  | nil => exact List.pairwise_singleton _ _
  | cons item timers ih =>
    obtain ⟨first, rest⟩ := List.pairwise_cons.mp h
    unfold insertTimerInternal
    split
    · rename_i earlier
      refine List.pairwise_cons.mpr ⟨fun t ht => ?_, h⟩
      rcases List.mem_cons.mp ht with rfl | ht
      · exact earlier.le
      · exact earlier.le.trans (first t ht)
    · rename_i later
      refine List.pairwise_cons.mpr ⟨fun t ht => ?_, ih rest⟩
      rcases mem_insertTimerInternal.mp ht with rfl | ht
      · exact not_lt.mp later
      · exact first t ht

end Order

/-! ## What the operations come to -/

/-- The list of a service that works: ordered, with distinct ids in range, and no interval so
short that a timer could keep the loop busy. -/
structure WellFormed (timers : List (TimerItem Callback)) : Prop where
  ordered : Ordered timers
  ids : (timers.map (·.id)).Nodup
  bounded : ∀ t ∈ timers, t.id < MAX_TIMER_COUNT
  intervals : ∀ t ∈ timers, MIN_INTERVAL ≤ t.intervalMs

section Operations

variable {timers : List (TimerItem Callback)} {nowTime intervalMs repeatCount timerId : ℤ}
  {callback : Option Callback}

theorem addInt64_eq_some {op1 op2 res : ℤ} (h : addInt64 op1 op2 = some res) :
    res = op1 + op2 := by
  unfold addInt64 at h
  grind

theorem addInt64_eq_none {op1 op2 : ℤ} (h : addInt64 op1 op2 = none) (range : INT64_MIN ≤ op1)
    (nonneg : 0 ≤ op2) : INT64_MAX < op1 + op2 := by
  unfold addInt64 at h
  grind

theorem min_le_clampInterval (intervalMs : ℤ) : MIN_INTERVAL ≤ clampInterval intervalMs := by
  unfold clampInterval MIN_INTERVAL MAX_INTERVAL_MS
  grind

/-- A call that fails leaves the list alone; another one inserts a timer under the lowest free
id, due an interval from now. -/
theorem addTimerInternal_cases :
    addTimerInternal nowTime intervalMs repeatCount callback timers = (NONEXISTENT_ID, timers) ∨
    ∃ (k : ℕ) (f : Callback), callback = some f ∧ takeNextTimerId timers = k ∧
      k < MAX_TIMER_COUNT ∧ (∀ t ∈ timers, t.id ≠ k) ∧ (∀ j < k, ∃ t ∈ timers, t.id = j) ∧
      addTimerInternal nowTime intervalMs repeatCount callback timers =
        ((k : ℤ), insertTimerInternal
          { id := k, intervalMs := clampInterval intervalMs, callbackCount := 0, repeatCount,
            nextCallTime := nowTime + clampInterval intervalMs, callback := f } timers) := by
  unfold addTimerInternal
  cases callback with
  | none => exact .inl rfl
  | some f =>
    rcases takeNextTimerId_spec timers with ⟨full, -⟩ | ⟨k, bound, taken, free, lower⟩
    · left
      simp [full, NONEXISTENT_ID]
    · cases sum : addInt64 nowTime (clampInterval intervalMs) with
      | none => left; simp [taken, sum]
      | some nextCallTime =>
        right
        obtain rfl := addInt64_eq_some sum
        exact ⟨k, f, rfl, taken, bound, free, lower, by simp [taken, sum]⟩

/-- Taking the first element that meets a condition out of a list only moves it to the front. -/
theorem perm_cons_eraseP {α : Type} {p : α → Bool} {l : List α} {a : α}
    (h : l.find? p = some a) : (a :: l.eraseP p).Perm l := by
  induction l with
  | nil => cases h
  | cons b l ih =>
    by_cases hb : p b = true
    · rw [List.find?_cons_of_pos hb] at h
      rw [List.eraseP_cons_of_pos hb, Option.some.inj h]
    · rw [List.find?_cons_of_neg hb] at h
      rw [List.eraseP_cons_of_neg hb]
      exact (List.Perm.swap b a _).trans ((ih h).cons b)

theorem removeTimerInternal_cases :
    ((∀ t ∈ timers, (t.id : ℤ) ≠ timerId) ∧
      removeTimerInternal timerId timers = (RET_ERR, timers)) ∨
    ∃ timer rest, (timer.id : ℤ) = timerId ∧ (timer :: rest).Perm timers ∧
      rest.Sublist timers ∧ removeTimerInternal timerId timers = (RET_OK, rest) := by
  unfold removeTimerInternal
  cases found : timers.find? fun timer => timer.id = timerId with
  | none =>
    have absent : ∀ t ∈ timers, (t.id : ℤ) ≠ timerId := by simpa using found
    refine .inl ⟨absent, if_neg ?_⟩
    simpa using absent
  | some timer =>
    right
    have id : (timer.id : ℤ) = timerId := by simpa using List.find?_some found
    have any : (timers.any fun timer => timer.id = timerId) = true :=
      List.any_eq_true.mpr ⟨timer, List.mem_of_find?_eq_some found, by simpa using id⟩
    exact ⟨timer, _, id, perm_cons_eraseP found, List.eraseP_sublist, by rw [if_pos any]⟩

/-- A reset takes the timer out and, unless its due time overflows, puts it back in. -/
theorem resetTimerInternal_cases :
    ((∀ t ∈ timers, (t.id : ℤ) ≠ timerId) ∧
      resetTimerInternal nowTime timerId timers = (RET_ERR, timers)) ∨
    ∃ timer rest, (timer.id : ℤ) = timerId ∧ (timer :: rest).Perm timers ∧
      rest.Sublist timers ∧
      (resetTimerInternal nowTime timerId timers = (RET_ERR, rest) ∨
        resetTimerInternal nowTime timerId timers =
          (RET_OK, insertTimerInternal
            { timer with callbackCount := 0, nextCallTime := nowTime + timer.intervalMs }
            rest)) := by
  unfold resetTimerInternal
  cases found : timers.find? fun timer => timer.id = timerId with
  | none =>
    have absent : ∀ t ∈ timers, (t.id : ℤ) ≠ timerId := by simpa using found
    exact .inl ⟨absent, rfl⟩
  | some timer =>
    right
    have id : (timer.id : ℤ) = timerId := by simpa using List.find?_some found
    refine ⟨timer, _, id, perm_cons_eraseP found, List.eraseP_sublist, ?_⟩
    cases sum : addInt64 nowTime timer.intervalMs with
    | none => exact .inl (by simp [sum])
    | some nextCallTime =>
      right
      obtain rfl := addInt64_eq_some sum
      simp [sum]

/-- The turn of the loop: nothing is due, the head is dropped, it runs for the last time, or it
runs and is due again. -/
theorem pass_cases (presentTime : ℤ) (timers : List (TimerItem Callback)) :
    ((∀ t rest, timers = t :: rest → presentTime < t.nextCallTime) ∧
      pass presentTime timers = .stop timers) ∨
    ∃ timer rest, timers = timer :: rest ∧ timer.nextCallTime ≤ presentTime ∧
      ((addInt64 timer.nextCallTime timer.intervalMs = none ∧
          ¬ (1 ≤ timer.repeatCount ∧ timer.repeatCount ≤ timer.callbackCount + 1) ∧
          pass presentTime timers = .stop rest) ∨
        (1 ≤ timer.repeatCount ∧ timer.repeatCount ≤ timer.callbackCount + 1 ∧
          pass presentTime timers = .run timer rest) ∨
        (¬ (1 ≤ timer.repeatCount ∧ timer.repeatCount ≤ timer.callbackCount + 1) ∧
          pass presentTime timers = .run timer (insertTimerInternal
            { timer with
              callbackCount := timer.callbackCount + 1
              nextCallTime := timer.nextCallTime + timer.intervalMs } rest))) := by
  cases timers with
  | nil => exact .inl ⟨by simp, rfl⟩
  | cons timer rest =>
    unfold pass
    dsimp only
    by_cases later : presentTime < timer.nextCallTime
    · left
      rw [if_pos later]
      refine ⟨?_, rfl⟩
      rintro t rest' h
      cases h
      exact later
    · right
      rw [if_neg later]
      refine ⟨timer, rest, rfl, not_lt.mp later, ?_⟩
      by_cases last : 1 ≤ timer.repeatCount ∧ timer.repeatCount ≤ timer.callbackCount + 1
      · rw [if_pos last]
        exact .inr (.inl ⟨last.1, last.2, rfl⟩)
      · rw [if_neg last]
        cases sum : addInt64 timer.nextCallTime timer.intervalMs with
        | none => exact .inl ⟨rfl, last, rfl⟩
        | some nextCallTime =>
          obtain rfl := addInt64_eq_some sum
          exact .inr (.inr ⟨last, rfl⟩)

theorem WellFormed.sublist {rest : List (TimerItem Callback)} (h : WellFormed timers)
    (hs : rest.Sublist timers) : WellFormed rest where
  ordered := List.Pairwise.sublist hs h.ordered
  ids := h.ids.sublist (hs.map _)
  bounded t ht := h.bounded t (hs.subset ht)
  intervals t ht := h.intervals t (hs.subset ht)

theorem WellFormed.insert {timer : TimerItem Callback} (h : WellFormed timers)
    (free : ∀ t ∈ timers, t.id ≠ timer.id) (bound : timer.id < MAX_TIMER_COUNT)
    (interval : MIN_INTERVAL ≤ timer.intervalMs) :
    WellFormed (insertTimerInternal timer timers) where
  ordered := ordered_insertTimerInternal h.ordered
  ids := by
    rw [((perm_insertTimerInternal timer timers).map _).nodup_iff, List.map_cons, List.nodup_cons]
    refine ⟨fun hm => ?_, h.ids⟩
    obtain ⟨t, ht, id⟩ := List.mem_map.mp hm
    exact free t ht id
  bounded := by
    intro t ht
    rcases mem_insertTimerInternal.mp ht with rfl | ht
    · exact bound
    · exact h.bounded t ht
  intervals := by
    intro t ht
    rcases mem_insertTimerInternal.mp ht with rfl | ht
    · exact interval
    · exact h.intervals t ht

/-- The id of a timer that has been taken out is free. -/
theorem WellFormed.free_of_perm {timer : TimerItem Callback} {rest : List (TimerItem Callback)}
    (h : WellFormed timers) (hp : (timer :: rest).Perm timers) :
    (∀ t ∈ rest, t.id ≠ timer.id) ∧ timer.id < MAX_TIMER_COUNT ∧
      MIN_INTERVAL ≤ timer.intervalMs := by
  have mem : timer ∈ timers := hp.subset List.mem_cons_self
  refine ⟨fun t ht id => ?_, h.bounded timer mem, h.intervals timer mem⟩
  have nodup := (hp.map (·.id)).nodup_iff.mpr h.ids
  exact (List.nodup_cons.mp nodup).1 (List.mem_map.mpr ⟨t, ht, id⟩)

theorem WellFormed.addTimer (h : WellFormed timers) :
    WellFormed (addTimerInternal nowTime intervalMs repeatCount callback timers).2 := by
  rcases addTimerInternal_cases with same | ⟨k, f, -, -, bound, free, -, added⟩
  · rw [same]
    exact h
  · rw [added]
    exact h.insert free bound (min_le_clampInterval intervalMs)

theorem WellFormed.removeTimer (h : WellFormed timers) :
    WellFormed (removeTimerInternal timerId timers).2 := by
  rcases removeTimerInternal_cases with ⟨-, same⟩ | ⟨timer, rest, -, -, hs, removed⟩
  · rw [same]
    exact h
  · rw [removed]
    exact h.sublist hs

theorem WellFormed.resetTimer (h : WellFormed timers) :
    WellFormed (resetTimerInternal nowTime timerId timers).2 := by
  rcases resetTimerInternal_cases with ⟨-, same⟩ | ⟨timer, rest, -, hp, hs, dropped | again⟩
  · rw [same]
    exact h
  · rw [dropped]
    exact h.sublist hs
  · rw [again]
    obtain ⟨free, bound, interval⟩ := h.free_of_perm hp
    exact (h.sublist hs).insert free bound interval

theorem WellFormed.pass {presentTime : ℤ} (h : WellFormed timers) :
    WellFormed (pass presentTime timers).timers := by
  rcases pass_cases presentTime timers with ⟨-, stop⟩ | ⟨timer, rest, rfl, -, turn⟩
  · rw [stop]
    exact h
  · have hs : rest.Sublist (timer :: rest) := List.sublist_cons_self timer rest
    rcases turn with ⟨-, -, dropped⟩ | ⟨-, -, last⟩ | ⟨-, again⟩
    · rw [dropped]
      exact h.sublist hs
    · rw [last]
      exact h.sublist hs
    · rw [again]
      obtain ⟨free, bound, interval⟩ := h.free_of_perm (.refl _)
      exact (h.sublist hs).insert free bound interval

end Operations

end DeviceStatus.Timers
