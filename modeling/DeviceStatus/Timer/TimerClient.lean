import DeviceStatus.Library.Transition
import DeviceStatus.Timer.TimerManager

/-!
# A client among the clients of the timer manager

What a component sees of the timer manager when its own calls run on the worker thread: its own
one-shot timers, under the ids it was returned, among the timers of others. The others know their
timers by the ids they were returned as well, so they leave those of the component alone.

## Main definitions

* `TimerClient`, `TimerClient.addTimer`, `TimerClient.removeTimer` — the component and its calls.
* `ForeignCall`, `TimerClient.foreign` — what others do, and the passing of time.
* `TimerClient.turn` — one turn of the processing loop and the callback of the component that runs.
* `TimerClient.Sound`, `TimerClient.Quiet` — the invariant, and steps that leave the own timers
  alone.
-/

namespace DeviceStatus.Timers

def REPEAT_ONCE : ℤ := 1

/-- Whose timer it is: the component's, with its callback, or that of another client's `n`-th
call. -/
inductive Owner (Own : Type) where
  | own (callback : Own)
  | other (n : ℕ)
  deriving DecidableEq

structure TimerClient (Own : Type) where
  timers : List (TimerItem (Owner Own)) := []
  clock : ℤ := 0
  /-- the `presentTime` of the call of `ProcessTimersInternal` that is under way -/
  presentTime : Option ℤ := none
  /-- the calls of `AddTimer` by others so far -/
  others : ℕ := 0

/-- The others name their timers by the number of the call that added them. -/
inductive ForeignCall where
  | wait (ms : ℕ)
  | addTimer (intervalMs repeatCount : ℤ)
  | removeTimer (n : ℕ)
  | resetTimer (n : ℕ)
  | processTimers
  deriving DecidableEq

variable {Own : Type}

/-- `OnIsExist`. -/
def isExist (timerId : ℤ) (timers : List (TimerItem Own)) : Bool :=
  timers.any fun timer => timer.id = timerId

namespace TimerClient

def addTimer (intervalMs : ℤ) (callback : Own) (w : TimerClient Own) : ℤ × TimerClient Own :=
  let added := addTimerInternal w.clock intervalMs REPEAT_ONCE (some (.own callback)) w.timers
  (added.1, { w with timers := added.2 })

def removeTimer (timerId : ℤ) (w : TimerClient Own) : TimerClient Own :=
  { w with timers := (removeTimerInternal timerId w.timers).2 }

/-- The id under which another client knows its timer, while it is pending. -/
def otherId (n : ℕ) (w : TimerClient Own) : Option ℤ :=
  (w.timers.find? fun timer =>
    match timer.callback with
    | .own _ => false
    | .other k => k = n).map fun timer => timer.id

def foreign (call : ForeignCall) (w : TimerClient Own) : TimerClient Own :=
  match call with
  | .wait ms => { w with clock := w.clock + ms }
  | .addTimer intervalMs repeatCount =>
      { w with
        timers := (addTimerInternal w.clock intervalMs repeatCount (some (.other w.others))
          w.timers).2
        others := w.others + 1 }
  | .removeTimer n =>
      match w.otherId n with
      | none => w
      | some timerId => w.removeTimer timerId
  | .resetTimer n =>
      match w.otherId n with
      | none => w
      | some timerId =>
        { w with timers := (resetTimerInternal w.clock timerId w.timers).2 }
  | .processTimers =>
      match w.presentTime with
      | none => { w with presentTime := some w.clock }
      | some _ => w

/-- One turn of the loop in `ProcessTimersInternal`, as far as the component goes. -/
def turn (w : TimerClient Own) : Option Own × TimerClient Own :=
  match w.presentTime with
  | none => (none, w)
  | some presentTime =>
    match pass presentTime w.timers with
    | .stop timers => (none, { w with timers, presentTime := none })
    | .run timer timers =>
      match timer.callback with
      | .own callback => (some callback, { w with timers })
      | .other _ => (none, { w with timers })

/-- The timers of the component run once. -/
structure Sound (w : TimerClient Own) : Prop where
  wellFormed : WellFormed w.timers
  once : ∀ t ∈ w.timers, ∀ c, t.callback = .own c →
    t.repeatCount = REPEAT_ONCE ∧ t.callbackCount = 0
  present : ∀ p, w.presentTime = some p → p ≤ w.clock

/-- The timers of the component are as before. -/
structure Quiet (w w' : TimerClient Own) : Prop where
  own : ∀ t c, t.callback = .own c → (t ∈ w'.timers ↔ t ∈ w.timers)
  clock : w.clock ≤ w'.clock

end TimerClient

/-! ## What the operations come to -/

section Operations

variable {timers : List (TimerItem Own)} {timer t : TimerItem Own} {timerId : ℤ}

theorem WellFormed.eq_of_id (h : WellFormed timers) (ht : t ∈ timers) (ht' : timer ∈ timers)
    (id : t.id = timer.id) : t = timer :=
  List.inj_on_of_nodup_map h.ids ht ht' id

theorem WellFormed.mem_rest {rest : List (TimerItem Own)} (h : WellFormed timers)
    (hp : (timer :: rest).Perm timers) : t ∈ rest ↔ t ∈ timers ∧ t ≠ timer := by
  have free := (h.free_of_perm hp).1
  rw [← hp.mem_iff, List.mem_cons]
  constructor
  · intro mem
    refine ⟨.inr mem, ?_⟩
    rintro rfl
    exact free t mem rfl
  · rintro ⟨here | mem, other⟩
    · exact absurd here other
    · exact mem

theorem WellFormed.mem_removeTimer (h : WellFormed timers) :
    t ∈ (removeTimerInternal timerId timers).2 ↔ t ∈ timers ∧ (t.id : ℤ) ≠ timerId := by
  rcases @removeTimerInternal_cases _ timers timerId with
    ⟨absent, same⟩ | ⟨timer, rest, id, hp, -, removed⟩
  · rw [same]
    exact ⟨fun mem => ⟨mem, absent t mem⟩, And.left⟩
  · rw [removed, h.mem_rest hp, ← id]
    refine and_congr_right fun mem => not_congr ⟨?_, ?_⟩
    · rintro rfl
      rfl
    · intro same
      exact h.eq_of_id mem (hp.subset List.mem_cons_self) (by exact_mod_cast same)

theorem isExist_iff : isExist timerId timers = true ↔ ∃ t ∈ timers, (t.id : ℤ) = timerId := by
  simp [isExist]

end Operations

namespace TimerClient

variable {w : TimerClient Own} {t : TimerItem (Owner Own)} {timerId intervalMs : ℤ} {c : Own}

theorem sound_start : Sound ({} : TimerClient Own) :=
  ⟨⟨List.Pairwise.nil, List.nodup_nil, nofun, nofun⟩, nofun, nofun⟩

theorem Quiet.refl (w : TimerClient Own) : Quiet w w := ⟨fun _ _ _ => .rfl, le_rfl⟩

/-- A call that adds no timer returns `NONEXISTENT_ID`; another one returns the id of the new
timer, which no other has. -/
theorem addTimer_cases (w : TimerClient Own) (intervalMs : ℤ) (c : Own) :
    w.addTimer intervalMs c = (NONEXISTENT_ID, w) ∨
    ∃ item, item.callback = .own c ∧ (∀ t ∈ w.timers, t.id ≠ item.id) ∧
      item.nextCallTime = w.clock + clampInterval intervalMs ∧
      w.addTimer intervalMs c =
        ((item.id : ℤ), { w with timers := insertTimerInternal item w.timers }) := by
  unfold addTimer
  rcases @addTimerInternal_cases _ w.timers w.clock intervalMs REPEAT_ONCE
    (some (.own c)) with same | ⟨k, f, callback, -, -, free, -, added⟩
  · left
    rw [same]
  · right
    rw [added]
    let item : TimerItem (Owner Own) :=
      { id := k, intervalMs := clampInterval intervalMs, callbackCount := 0,
        repeatCount := REPEAT_ONCE, nextCallTime := w.clock + clampInterval intervalMs,
        callback := f }
    exact ⟨item, (Option.some.inj callback).symm, free, rfl, rfl⟩

theorem Sound.addTimer (h : Sound w) : Sound (w.addTimer intervalMs c).2 := by
  unfold TimerClient.addTimer
  constructor
  · exact h.wellFormed.addTimer
  · rcases @addTimerInternal_cases _ w.timers w.clock intervalMs REPEAT_ONCE
      (some (.own c)) with same | ⟨k, f, callback, -, -, free, -, added⟩
    · rw [same]
      exact h.once
    · rw [added]
      intro t ht
      rcases mem_insertTimerInternal.mp ht with rfl | ht
      · exact fun _ _ => ⟨rfl, rfl⟩
      · exact h.once t ht
  · exact h.present

theorem Sound.mem_removeTimer (h : Sound w) :
    t ∈ (w.removeTimer timerId).timers ↔ t ∈ w.timers ∧ (t.id : ℤ) ≠ timerId :=
  h.wellFormed.mem_removeTimer

theorem Sound.removeTimer (h : Sound w) : Sound (w.removeTimer timerId) where
  wellFormed := h.wellFormed.removeTimer
  once t ht := h.once t (h.mem_removeTimer.mp ht).1
  present := h.present

/-- The id belongs to a timer of another client. -/
theorem otherId_eq_some {n : ℕ} (h : w.otherId n = some timerId) :
    ∃ timer ∈ w.timers, (timer.id : ℤ) = timerId ∧ ∀ c, timer.callback ≠ .own c := by
  obtain ⟨timer, found, id⟩ := Option.map_eq_some_iff.mp h
  refine ⟨timer, List.mem_of_find?_eq_some found, id, fun c own => ?_⟩
  simpa [own] using List.find?_some found

theorem sound_foreign (h : Sound w) (call : ForeignCall) : Sound (w.foreign call) := by
  cases call with
  | wait ms => exact ⟨h.wellFormed, h.once, fun p hp => (h.present p hp).trans (by simp [foreign])⟩
  | addTimer intervalMs repeatCount =>
    refine ⟨h.wellFormed.addTimer, ?_, h.present⟩
    rcases @addTimerInternal_cases _ w.timers w.clock intervalMs repeatCount
      (some (.other w.others)) with same | ⟨k, f, callback, -, -, free, -, added⟩
    · simpa only [foreign, same] using h.once
    · intro t ht
      simp only [foreign, added] at ht
      rcases mem_insertTimerInternal.mp ht with rfl | ht
      · intro c own
        cases callback
        cases own
      · exact h.once t ht
  | removeTimer n =>
    simp only [foreign]
    split
    · exact h
    · exact h.removeTimer
  | resetTimer n =>
    simp only [foreign]
    split
    · exact h
    · next timerId found =>
      obtain ⟨timer, mem, id, other⟩ := otherId_eq_some found
      refine ⟨h.wellFormed.resetTimer, ?_, h.present⟩
      rcases @resetTimerInternal_cases _ w.timers w.clock timerId with
        ⟨-, same⟩ | ⟨item, rest, id', hp, hs, dropped | again⟩
      · rw [same]
        exact h.once
      · rw [dropped]
        exact fun t ht => h.once t (hs.subset ht)
      · rw [again]
        obtain rfl : item = timer := h.wellFormed.eq_of_id (hp.subset List.mem_cons_self) mem
          (by exact_mod_cast id'.trans id.symm)
        intro t ht
        rcases mem_insertTimerInternal.mp ht with rfl | ht
        · exact fun c own => absurd own (other c)
        · exact h.once t (hs.subset ht)
  | processTimers =>
    simp only [foreign]
    split
    · exact ⟨h.wellFormed, h.once, fun p hp => (Option.some.inj hp).ge⟩
    · exact h

/-- The others leave the timers of the component alone. -/
theorem quiet_foreign (h : Sound w) (call : ForeignCall) : Quiet w (w.foreign call) := by
  cases call with
  | wait ms => exact ⟨fun _ _ _ => .rfl, by simp [foreign]⟩
  | addTimer intervalMs repeatCount =>
    refine ⟨fun t c own => ?_, le_rfl⟩
    rcases @addTimerInternal_cases _ w.timers w.clock intervalMs repeatCount
      (some (.other w.others)) with same | ⟨k, f, callback, -, -, free, -, added⟩
    · simp only [foreign, same]
    · simp only [foreign, added, mem_insertTimerInternal]
      refine or_iff_right ?_
      rintro rfl
      cases callback
      cases own
  | removeTimer n =>
    simp only [foreign]
    split
    · exact .refl w
    · next timerId found =>
      obtain ⟨timer, mem, id, other⟩ := otherId_eq_some found
      refine ⟨fun t c own => ?_, le_rfl⟩
      rw [h.mem_removeTimer, and_iff_left_iff_imp]
      intro ht same
      obtain rfl := h.wellFormed.eq_of_id ht mem (by exact_mod_cast same.trans id.symm)
      exact other c own
  | resetTimer n =>
    simp only [foreign]
    split
    · exact .refl w
    · next timerId found =>
      obtain ⟨timer, mem, id, other⟩ := otherId_eq_some found
      refine ⟨fun t c own => ?_, le_rfl⟩
      have ne : t ≠ timer := by
        rintro rfl
        exact other c own
      rcases @resetTimerInternal_cases _ w.timers w.clock timerId with
        ⟨-, same⟩ | ⟨item, rest, id', hp, hs, reset⟩
      · rw [same]
      · obtain rfl : item = timer :=
          h.wellFormed.eq_of_id (hp.subset List.mem_cons_self) mem
            (by exact_mod_cast id'.trans id.symm)
        have rest : t ∈ rest ↔ t ∈ w.timers := by simp [h.wellFormed.mem_rest hp, ne]
        rcases reset with dropped | again
        · simpa only [dropped] using rest
        · rw [again, mem_insertTimerInternal, or_iff_right, rest]
          rintro rfl
          exact other c own
  | processTimers =>
    simp only [foreign]
    split
    · exact ⟨fun _ _ _ => .rfl, le_rfl⟩
    · exact .refl w

/-- A turn runs the callback of a timer of the component that is due, and takes it out, or leaves
the timers of the component alone. -/
theorem turn_cases (h : Sound w) :
    (∃ t c p, t.callback = .own c ∧ t ∈ w.timers ∧ w.presentTime = some p ∧ t.nextCallTime ≤ p ∧
      (∀ t' ∈ w.timers, t.nextCallTime ≤ t'.nextCallTime) ∧ w.turn.1 = some c ∧
      w.turn.2.clock = w.clock ∧ ∀ t', t' ∈ w.turn.2.timers ↔ t' ∈ w.timers ∧ t' ≠ t) ∨
    w.turn.1 = none ∧ Quiet w w.turn.2 := by
  unfold turn
  split
  · exact .inr ⟨rfl, .refl w⟩
  · next p present =>
    rcases pass_cases p w.timers with ⟨-, stop⟩ | ⟨timer, rest, list, due, result⟩
    · rw [stop]
      exact .inr ⟨rfl, fun _ _ _ => .rfl, le_rfl⟩
    · have mem : timer ∈ w.timers := list ▸ List.mem_cons_self
      have first : ∀ t ∈ w.timers, timer.nextCallTime ≤ t.nextCallTime := by
        have ordered := h.wellFormed.ordered
        rw [list] at ordered ⊢
        intro t ht
        rcases List.mem_cons.mp ht with rfl | ht
        · exact le_rfl
        · exact (List.pairwise_cons.mp ordered).1 t ht
      have others (t : TimerItem (Owner Own)) : t ∈ rest ↔ t ∈ w.timers ∧ t ≠ timer :=
        h.wellFormed.mem_rest (list ▸ .refl _)
      cases whose : timer.callback with
      | own c =>
        -- it runs once, so it is neither dropped nor due again
        obtain ⟨once, count⟩ := h.once timer mem c whose
        have last : 1 ≤ timer.repeatCount ∧ timer.repeatCount ≤ timer.callbackCount + 1 := by
          simp [once, count, REPEAT_ONCE]
        rcases result with ⟨-, dropped, -⟩ | ⟨-, -, run⟩ | ⟨again, -⟩
        · exact absurd last dropped
        · left
          rw [run]
          simp only [whose]
          exact ⟨timer, c, p, whose, mem, present, due, first, rfl, trivial, others⟩
        · exact absurd last again
      | other n =>
        right
        have quiet (t : TimerItem (Owner Own)) (c : Own) (own : t.callback = .own c) :
            t ∈ rest ↔ t ∈ w.timers := by
          rw [others, and_iff_left]
          rintro rfl
          cases whose.symm.trans own
        rcases result with ⟨-, -, dropped⟩ | ⟨-, -, run⟩ | ⟨-, again⟩
        · rw [dropped]
          exact ⟨rfl, quiet, le_rfl⟩
        · rw [run]
          simp only [whose]
          exact ⟨trivial, quiet, le_rfl⟩
        · rw [again]
          simp only [whose]
          refine ⟨trivial, fun t c own => ?_, le_rfl⟩
          rw [mem_insertTimerInternal, or_iff_right, quiet t c own]
          intro same
          subst same
          cases own

theorem Sound.turn (h : Sound w) : Sound w.turn.2 := by
  constructor
  · unfold TimerClient.turn
    split
    · exact h.wellFormed
    · next p _ =>
      have kept : WellFormed (pass p w.timers).timers := h.wellFormed.pass
      cases result : pass p w.timers with
      | stop timers => simpa only [result, Pass.timers] using kept
      | run timer timers =>
        rw [result] at kept
        dsimp only
        split <;> exact kept
  · intro t ht c own
    rcases turn_cases h with ⟨_, _, _, -, -, -, -, -, -, -, left⟩ | ⟨-, quiet⟩
    · exact h.once t ((left t).mp ht).1 c own
    · exact h.once t ((quiet.own t c own).mp ht) c own
  · intro p
    unfold TimerClient.turn
    split
    · exact h.present p
    · next p _ =>
      split
      · nofun
      · split <;> exact h.present _

end TimerClient

end DeviceStatus.Timers
