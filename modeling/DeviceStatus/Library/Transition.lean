import Mathlib.Data.List.Induction

/-!
# Runs of labelled transition systems

A system starts in one of its initial states and takes labelled steps. `Run S tr s` says
that the labels `tr`, oldest first, lead to `s`. What holds along every run is shown once
at the start and once for a step.

## Main definitions

* `System`, `System.Run` — a system and its finite runs.
* `System.restrict` — the same system with steps that meet a condition only.
* `System.collect` — what the steps of a run yield.
* `System.observe` — what a run shows of another system, of which its steps take at most one
  step each.
* `Simulation` — a map of states that takes steps to steps, under an invariant.
-/

namespace Transition

variable {State Label A B : Type*}

structure System (State Label : Type*) where
  init : State → Prop
  step : State → Label → State → Prop

namespace System

/-- The labels of a run are listed in the order in which the steps were taken. -/
inductive Run (S : System State Label) : List Label → State → Prop
  | start {s : State} (h : S.init s) : Run S [] s
  | next {tr : List Label} {s s' : State} {l : Label} (run : Run S tr s)
      (h : S.step s l s') : Run S (tr ++ [l]) s'

variable {S : System State Label}

/-- The invariant rule. -/
theorem Run.invariant {I : State → Prop} (init : ∀ s, S.init s → I s)
    (step : ∀ s l s', I s → S.step s l s' → I s') {tr : List Label} {s : State}
    (run : S.Run tr s) : I s := by
  induction run with
  | start h => exact init _ h
  | next _ h ih => exact step _ _ _ ih h

/-- The system whose steps also meet `ok`. -/
def restrict (S : System State Label) (ok : State → Label → State → Prop) :
    System State Label where
  init := S.init
  step s l s' := S.step s l s' ∧ ok s l s'

theorem Run.of_restrict {ok : State → Label → State → Prop} {tr : List Label} {s : State}
    (run : (S.restrict ok).Run tr s) : S.Run tr s := by
  induction run with
  | start h => exact .start h
  | next _ h ih => exact .next ih h.1

/-- The system of a function: one initial state, one step for each label. -/
def ofFun (init : State → Prop) (next : Label → State → State) : System State Label where
  init := init
  step s l s' := s' = next l s

/-- The state that a list of labels leads to. -/
def runFrom (next : Label → State → State) (s : State) (tr : List Label) : State :=
  tr.foldl (fun s l => next l s) s

/-- `ok` holds of every step of the run that the labels make from `s`. -/
def EachStep (next : Label → State → State) (ok : Label → State → Prop) (s : State)
    (tr : List Label) : Prop :=
  ∀ p l, p ++ [l] <+: tr → ok l (runFrom next s p)

/-- The sum of a quantity over the steps of a run. -/
def total (next : Label → State → State) (f : Label → State → ℕ) (s : State) :
    List Label → ℕ
  | [] => 0
  | l :: tr => f l s + total next f (next l s) tr

section Steps

variable {next : Label → State → State} {ok : Label → State → Prop} {s : State}
  {l : Label} {tr tr' : List Label}

theorem EachStep.nil : EachStep next ok s [] := by
  intro p l hp
  simp at hp

theorem EachStep.cons (head : ok l s) (tail : EachStep next ok (next l s) tr) :
    EachStep next ok s (l :: tr) := by
  intro p l' hp
  cases p with
  | nil =>
    obtain rfl : l' = l := by simpa using hp
    exact head
  | cons a p =>
    obtain ⟨rfl, ht⟩ : a = l ∧ p ++ [l'] <+: tr := by simpa using hp
    exact tail p l' ht

theorem EachStep.head (h : EachStep next ok s (l :: tr)) : ok l s :=
  h [] l (by simp)

theorem EachStep.tail (h : EachStep next ok s (l :: tr)) : EachStep next ok (next l s) tr := by
  intro p l' hp
  exact h (l :: p) l' (by simpa using hp)

theorem EachStep.forall_mem {P : Label → Prop} (h : EachStep next (fun l _ => P l) s tr) :
    ∀ l ∈ tr, P l := by
  intro l hl
  obtain ⟨p, q, rfl⟩ := List.append_of_mem hl
  exact h p l ⟨q, by simp⟩

theorem EachStep.of_prefix (h : EachStep next ok s tr) (hp : tr' <+: tr) :
    EachStep next ok s tr' :=
  fun p l hl => h p l (hl.trans hp)

theorem runFrom_append (next : Label → State → State) (s : State) (p q : List Label) :
    runFrom next s (p ++ q) = runFrom next (runFrom next s p) q :=
  List.foldl_append

theorem EachStep.of_append {p q : List Label} (h : EachStep next ok s (p ++ q)) :
    EachStep next ok (runFrom next s p) q := by
  intro r l hr
  rw [← runFrom_append]
  apply h
  rw [List.append_assoc]
  exact (List.prefix_append_right_inj p).mpr hr

/-- The invariant rule for systems in which every step keeps it. -/
theorem runFrom_invariant {I : State → Prop} (keep : ∀ l s, I s → I (next l s)) (init : I s)
    (tr : List Label) : I (runFrom next s tr) := by
  induction tr generalizing s with
  | nil => exact init
  | cons l tr ih => exact ih (keep l s init)

/-- Such an invariant gives what it gives for one step in every step. -/
theorem EachStep.of_runFrom {good : Label → State → Prop} {I : State → Prop}
    (keep : ∀ l s, I s → I (next l s)) (gives : ∀ l s, I s → good l s) (init : I s) :
    EachStep next good s tr :=
  fun p l _ => gives l _ (runFrom_invariant keep init p)

/-- The invariant rule for runs whose steps meet `ok`. -/
theorem EachStep.invariant {I : State → Prop} (keep : ∀ l s, I s → ok l s → I (next l s))
    (init : I s) (run : EachStep next ok s tr) : I (runFrom next s tr) := by
  induction tr generalizing s with
  | nil => exact init
  | cons l tr ih => exact ih (keep l s init run.head) run.tail

/-- The invariant rule for steps: an invariant that steps meeting `ok` keep gives what it gives
for one step in every step. -/
theorem EachStep.of_invariant {good : Label → State → Prop} {I : State → Prop}
    (keep : ∀ l s, I s → ok l s → I (next l s)) (gives : ∀ l s, I s → ok l s → good l s)
    (init : I s) (run : EachStep next ok s tr) : EachStep next good s tr := by
  induction tr generalizing s with
  | nil => exact .nil
  | cons l tr ih =>
    apply EachStep.cons
    · exact gives l s init run.head
    · exact ih (keep l s init run.head) run.tail

/-- Two conditions on steps that agree as long as an invariant holds, which one of them keeps, are
met by the same runs of labels that meet a side condition. -/
theorem EachStep.iff_of_invariant_of {good : Label → State → Prop} {I : State → Prop}
    {P : Label → Prop} (sides : ∀ l ∈ tr, P l)
    (keep : ∀ l s, P l → I s → ok l s → I (next l s))
    (agree : ∀ l s, P l → I s → (good l s ↔ ok l s)) (init : I s) :
    EachStep next good s tr ↔ EachStep next ok s tr := by
  induction tr generalizing s with
  | nil => exact iff_of_true .nil .nil
  | cons l tr ih =>
    obtain ⟨here, later⟩ := List.forall_mem_cons.mp sides
    have head := agree l s here init
    constructor
    · intro run
      have ok := head.mp run.head
      exact .cons ok ((ih later (keep l s here init ok)).mp run.tail)
    · intro run
      exact .cons (head.mpr run.head) ((ih later (keep l s here init run.head)).mpr run.tail)

/-- Two conditions on steps that agree as long as an invariant holds, which one of them keeps, are
met by the same runs. -/
theorem EachStep.iff_of_invariant {good : Label → State → Prop} {I : State → Prop}
    (keep : ∀ l s, I s → ok l s → I (next l s)) (agree : ∀ l s, I s → (good l s ↔ ok l s))
    (init : I s) : EachStep next good s tr ↔ EachStep next ok s tr :=
  EachStep.iff_of_invariant_of (P := fun _ => True) (fun _ _ => trivial)
    (fun l s _ => keep l s) (fun l s _ => agree l s) init

/-- Conservation: when every step pays what it owes or leaves it due, so does the run. -/
theorem total_add_due {paid owed : Label → State → ℕ} (due : State → ℕ) {I : State → Prop}
    (keep : ∀ l s, I s → I (next l s))
    (step : ∀ l s, I s → ok l s → paid l s + due (next l s) = owed l s + due s)
    (init : I s) (run : EachStep next ok s tr) :
    total next paid s tr + due (runFrom next s tr) = total next owed s tr + due s := by
  induction tr generalizing s with
  | nil => rfl
  | cons l tr ih =>
    have hl := step l s init run.head
    have hr := ih (keep l s init) run.tail
    simp only [total, runFrom, List.foldl_cons] at hr ⊢
    omega

/-- What the steps of a run yield, in order. -/
def collect {α : Type*} (next : Label → State → State) (f : Label → State → List α) (s : State) :
    List Label → List α
  | [] => []
  | l :: tr => f l s ++ collect next f (next l s) tr

theorem collect_append {α : Type*} (f : Label → State → List α) (s : State) (p q : List Label) :
    collect next f s (p ++ q) = collect next f s p ++ collect next f (runFrom next s p) q := by
  induction p generalizing s with
  | nil => rfl
  | cons l p ih => simp only [List.cons_append, collect, ih, List.append_assoc]; rfl

theorem map_collect {α β : Type*} (g : α → β) (f : Label → State → List α) (s : State)
    (tr : List Label) :
    (collect next f s tr).map g = collect next (fun l s => (f l s).map g) s tr := by
  induction tr generalizing s with
  | nil => rfl
  | cons l tr ih => simp only [collect, List.map_append, ih]

theorem collect_labels {α : Type*} (g : Label → α) (s : State) (tr : List Label) :
    collect next (fun l _ => [g l]) s tr = tr.map g := by
  induction tr generalizing s with
  | nil => rfl
  | cons l tr ih => simp [collect, ih]

/-- Conservation in order: when every step hands out the head of a queue and puts what it takes in
at its end, so does the run. -/
theorem collect_append_queue {α : Type*} {out inn : Label → State → List α}
    (queue : State → List α) (step : ∀ l s, out l s ++ queue (next l s) = queue s ++ inn l s)
    (s : State) (tr : List Label) :
    collect next out s tr ++ queue (runFrom next s tr) = queue s ++ collect next inn s tr := by
  induction tr generalizing s with
  | nil => simp [collect, runFrom]
  | cons l tr ih =>
    have later := ih (next l s)
    calc collect next out s (l :: tr) ++ queue (runFrom next s (l :: tr))
        = out l s ++ (collect next out (next l s) tr ++ queue (runFrom next (next l s) tr)) := by
          rw [collect, List.append_assoc]; rfl
      _ = (out l s ++ queue (next l s)) ++ collect next inn (next l s) tr := by
          rw [later, List.append_assoc]
      _ = queue s ++ collect next inn s (l :: tr) := by
          rw [step, List.append_assoc, collect]

/-- Labels that meet a condition one after the other make a run of the restricted system. -/
theorem run_restrict {init : State → Prop} {ok : State → Label → State → Prop} (h : init s)
    (each : EachStep next (fun l s => ok s l (next l s)) s tr) :
    ((ofFun init next).restrict ok).Run tr (runFrom next s tr) := by
  induction tr using List.reverseRecOn with
  | nil => exact .start h
  | append_singleton tr l ih =>
    have hl := each tr l List.prefix_rfl
    have run := Run.next (ih (each.of_prefix (List.prefix_append tr [l]))) ⟨rfl, hl⟩
    simpa [runFrom] using run

theorem run_restrict_restrict {init : State → Prop} {ok ok' : State → Label → State → Prop}
    (h : init s) (each : EachStep next (fun l s => ok s l (next l s) ∧ ok' s l (next l s)) s tr) :
    (((ofFun init next).restrict ok).restrict ok').Run tr (runFrom next s tr) := by
  induction tr using List.reverseRecOn with
  | nil => exact .start h
  | append_singleton tr l ih =>
    obtain ⟨first, second⟩ := each tr l List.prefix_rfl
    have run := Run.next (ih (each.of_prefix (List.prefix_append tr [l]))) ⟨⟨rfl, first⟩, second⟩
    simpa [runFrom] using run

end Steps

/-! ### Runs seen as runs of another system -/

section Observe

variable {State' Label' : Type*} {next : Label → State → State}
  {next' : Label' → State' → State'} {view : Label → State → Option Label'}

/-- The labels that the steps of a run show. -/
def observe (next : Label → State → State) (view : Label → State → Option Label') :
    State → List Label → List Label'
  | _, [] => []
  | s, l :: tr => (view l s).toList ++ observe next view (next l s) tr

/-- The simulation rule: the run and what it shows of it stay related. -/
theorem runFrom_observe {R : State → State' → Prop}
    (step : ∀ l s t, R s t → R (next l s) (runFrom next' t (view l s).toList))
    {s : State} {t : State'} (h : R s t) (tr : List Label) :
    R (runFrom next s tr) (runFrom next' t (observe next view s tr)) := by
  induction tr generalizing s t with
  | nil => exact h
  | cons l tr ih =>
    rw [observe, runFrom_append]
    exact ih (step l s t h)

/-- The simulation rule for runs whose steps meet a condition: each of them is one step of the
other system, under a condition there, or none. -/
theorem EachStep.exists_run {R : State → State' → Prop} {ok : Label → State → Prop}
    {ok' : Label' → State' → Prop}
    (step : ∀ l s t, R s t → ok l s →
      R (next l s) t ∨ ∃ l', ok' l' t ∧ R (next l s) (next' l' t))
    {s : State} {t : State'} (h : R s t) {tr : List Label} (run : EachStep next ok s tr) :
    ∃ tr', EachStep next' ok' t tr' ∧ R (runFrom next s tr) (runFrom next' t tr') := by
  induction tr generalizing s t with
  | nil => exact ⟨[], .nil, h⟩
  | cons l tr ih =>
    rcases step l s t h run.head with related | ⟨l', head, related⟩
    · exact ih related run.tail
    · obtain ⟨tr', tail, last⟩ := ih related run.tail
      exact ⟨l' :: tr', .cons head tail, last⟩

/-- Conservation in order, with a queue that only the other system has. -/
theorem EachStep.collect_append_queue {α : Type*} {R : State → State' → Prop}
    {ok : Label → State → Prop} {out inn : Label → State → List α} (queue : State' → List α)
    (step : ∀ l s t, R s t → ok l s →
      ∃ t', R (next l s) t' ∧ out l s ++ queue t' = queue t ++ inn l s)
    {s : State} {t : State'} (h : R s t) {tr : List Label} (run : EachStep next ok s tr) :
    ∃ t', R (runFrom next s tr) t' ∧
      collect next out s tr ++ queue t' = queue t ++ collect next inn s tr := by
  induction tr generalizing s t with
  | nil => exact ⟨t, h, (List.append_nil _).symm⟩
  | cons l tr ih =>
    obtain ⟨t₁, related, one⟩ := step l s t h run.head
    obtain ⟨t', last, later⟩ := ih related run.tail
    refine ⟨t', last, ?_⟩
    rw [collect, collect, List.append_assoc, later, ← List.append_assoc, one, List.append_assoc]

/-- The simulation rule step by step: the two runs show the same. -/
theorem EachStep.exists_run_alike {α : Type*} {R : State → State' → Prop}
    {ok : Label → State → Prop} {ok' : Label' → State' → Prop}
    {shows : Label → State → List α} {shows' : Label' → State' → List α}
    (step : ∀ l s t, R s t → ok l s →
      ∃ l', ok' l' t ∧ shows' l' t = shows l s ∧ R (next l s) (next' l' t))
    {s : State} {t : State'} (h : R s t) {tr : List Label} (run : EachStep next ok s tr) :
    ∃ tr', EachStep next' ok' t tr' ∧ collect next' shows' t tr' = collect next shows s tr ∧
      R (runFrom next s tr) (runFrom next' t tr') := by
  induction tr generalizing s t with
  | nil => exact ⟨[], .nil, rfl, h⟩
  | cons l tr ih =>
    obtain ⟨l', head, same, related⟩ := step l s t h run.head
    obtain ⟨tr', tail, same', last⟩ := ih related run.tail
    exact ⟨l' :: tr', .cons head tail, by rw [collect, collect, same, same'], last⟩

theorem observe_append (s : State) (p q : List Label) :
    observe next view s (p ++ q) =
      observe next view s p ++ observe next view (runFrom next s p) q := by
  induction p generalizing s with
  | nil => rfl
  | cons l p ih => simp only [List.cons_append, observe, ih, List.append_assoc]; rfl

theorem observe_mono {s : State} {p tr : List Label} (h : p <+: tr) :
    observe next view s p <+: observe next view s tr := by
  obtain ⟨q, rfl⟩ := h
  rw [observe_append]
  exact List.prefix_append _ _

theorem EachStep.observe_cons {ok' : Label' → State' → Prop} {s : State} {t : State'}
    {l : Label} {tr : List Label} (head : ∀ l' ∈ view l s, ok' l' t)
    (tail : EachStep next' ok' (runFrom next' t (view l s).toList)
      (observe next view (next l s) tr)) :
    EachStep next' ok' t (observe next view s (l :: tr)) := by
  cases shows : view l s with
  | none =>
    rw [shows] at tail
    rw [observe, shows]
    exact tail
  | some l' =>
    rw [shows] at tail
    rw [observe, shows]
    exact .cons (head l' shows) tail

/-- The simulation rule for runs whose steps meet a condition: what such a run shows is a run of the
other system whose steps meet a condition there. -/
theorem EachStep.observe {R : State → State' → Prop} {ok : Label → State → Prop}
    {ok' : Label' → State' → Prop}
    (step : ∀ l s t, R s t → ok l s → (∀ l' ∈ view l s, ok' l' t) ∧
      R (next l s) (runFrom next' t (view l s).toList))
    {s : State} {t : State'} (h : R s t) {tr : List Label} (run : EachStep next ok s tr) :
    EachStep next' ok' t (observe next view s tr) ∧
      R (runFrom next s tr) (runFrom next' t (observe next view s tr)) := by
  induction tr generalizing s t with
  | nil => exact ⟨.nil, h⟩
  | cons l tr ih =>
    obtain ⟨head, related⟩ := step l s t h run.head
    obtain ⟨tail, last⟩ := ih related run.tail
    refine ⟨.observe_cons head tail, ?_⟩
    rw [System.observe, runFrom_append]
    exact last

theorem countP_observe_le {p : Label → Bool} {p' : Label' → Bool}
    (shown : ∀ l s, ∀ l' ∈ view l s, p' l' = true → p l = true) (s : State) (tr : List Label) :
    (observe next view s tr).countP p' ≤ tr.countP p := by
  induction tr generalizing s with
  | nil => exact Nat.le_refl 0
  | cons l tr ih =>
    have later := ih (next l s)
    rw [System.observe, List.countP_append, List.countP_cons]
    cases shows : view l s with
    | none => simpa using Nat.le_trans later (Nat.le_add_right _ _)
    | some l' =>
      have one := shown l s l' shows
      simp only [Option.toList_some, List.countP_singleton]
      grind

/-- Whatever has been seen of what a run shows, was seen at some point of the run. -/
theorem exists_prefix_observe {s : State} {tr : List Label} {q : List Label'}
    (h : q <+: observe next view s tr) : ∃ p, p <+: tr ∧ observe next view s p = q := by
  induction tr generalizing s q with
  | nil => exact ⟨[], List.nil_prefix, (List.prefix_nil.mp h).symm⟩
  | cons l tr ih =>
    cases shows : view l s with
    | none =>
      rw [observe, shows] at h
      obtain ⟨p, hp, same⟩ := ih h
      exact ⟨l :: p, List.prefix_cons_inj l |>.mpr hp, by rw [observe, shows, same]; rfl⟩
    | some l' =>
      rw [observe, shows] at h
      cases q with
      | nil => exact ⟨[], List.nil_prefix, rfl⟩
      | cons m q =>
        obtain ⟨rfl, later⟩ : m = l' ∧ q <+: observe next view (next l s) tr :=
          List.cons_prefix_cons.mp h
        obtain ⟨p, hp, same⟩ := ih later
        exact ⟨l :: p, List.prefix_cons_inj l |>.mpr hp, by rw [observe, shows, same]; rfl⟩

end Observe

end System

/-- A map of states under which every step of `S` is a step of `T` with the same label, as long
as `inv` holds, which every step keeps. -/
structure Simulation (S : System A Label) (T : System B Label) (inv : A → Prop) where
  abs : A → B
  init : ∀ a, S.init a → inv a ∧ T.init (abs a)
  step : ∀ a l a', inv a → S.step a l a' → inv a' ∧ T.step (abs a) l (abs a')

theorem Simulation.run {S : System A Label} {T : System B Label} {inv : A → Prop}
    (sim : Simulation S T inv) {tr : List Label} {a : A} (run : S.Run tr a) :
    inv a ∧ T.Run tr (sim.abs a) := by
  induction run with
  | start h =>
    obtain ⟨ha, ht⟩ := sim.init _ h
    exact ⟨ha, .start ht⟩
  | next _ h ih =>
    obtain ⟨ha, ht⟩ := sim.step _ _ _ ih.1 h
    exact ⟨ha, .next ih.2 ht⟩

end Transition
