import DeviceStatus.Library.Transition
import Mathlib.Algebra.Order.Ring.Int
import Mathlib.Data.Finset.Max

/-!
# Ids

`IdFactory` gives out the smallest id that has been recovered, or else the next one of a counter,
up to the limit of the type. What is recovered need not have been given out: the factory refuses
what is above the counter, and takes the counter itself and 0.

## Main definitions

* `IntegerType`, `IntegerType.Value` — the integer types of fixed width.
* `IdFactory.generateId`, `IdFactory.recoveryId` — the factory.
* `IdUse`, `IdUse.next` — the factory with the ids that are outstanding.
* `IdUse.Fresh` — an id that is given out is not outstanding, and 0 means that all ids are.
* `IdUse.Allowed` — neither 0 nor the counter is recovered.
-/

namespace DeviceStatus.Utils

open Transition.System

/-- A signed or unsigned type. -/
structure IntegerType where
  signed : Bool
  width : ℕ
  byte : 8 ≤ width

namespace IntegerType

/-- `int32_t`. -/
def int32 : IntegerType := ⟨true, 32, by decide⟩

variable (T : IntegerType)

def max : ℤ := if T.signed then 2 ^ (T.width - 1) - 1 else 2 ^ T.width - 1
def min : ℤ := if T.signed then -2 ^ (T.width - 1) else 0

abbrev Value := { n : ℤ // T.min ≤ n ∧ n ≤ T.max }

theorem max_ge : 127 ≤ T.max := by
  have wide := T.byte
  have signed : (2 : ℤ) ^ 7 ≤ 2 ^ (T.width - 1) :=
    pow_le_pow_right₀ (by decide) (by omega)
  have unsigned : (2 : ℤ) ^ 8 ≤ 2 ^ T.width := pow_le_pow_right₀ (by decide) wide
  rw [max]
  split <;> omega

theorem min_nonpos : T.min ≤ 0 := by
  have positive : (0 : ℤ) < 2 ^ (T.width - 1) := Int.pow_pos (by decide)
  rw [min]
  split <;> omega

/-- The order of the numbers. -/
instance linearOrder : LinearOrder T.Value := @Subtype.instLinearOrder ℤ Int.instLinearOrder _

instance decidableLt : DecidableLT T.Value := fun a b => Int.decLt a.1 b.1

instance zero : Zero T.Value := ⟨0, T.min_nonpos, by have := T.max_ge; omega⟩
instance one : One T.Value := ⟨1, by have := T.min_nonpos; omega, by have := T.max_ge; omega⟩

/-- `std::numeric_limits<T>::max()`. -/
def maxLimit : T.Value := ⟨T.max, by have := T.min_nonpos; have := T.max_ge; omega, Int.le_refl _⟩

variable {T}

theorem le_maxLimit (id : T.Value) : id ≤ T.maxLimit := id.2.2

/-- The last id that the counter gives out. -/
def lastId (T : IntegerType) : T.Value :=
  ⟨T.max - 1, by have := T.min_nonpos; have := T.max_ge; omega, by omega⟩

theorem lastId_pos : 0 < T.lastId := by
  have large := T.max_ge
  change (0 : ℤ) < T.max - 1
  omega

theorem lastId_lt : T.lastId < T.maxLimit := by
  change T.max - 1 < T.max
  omega

theorem le_lastId {id : T.Value} (h : id ≠ T.maxLimit) : id ≤ T.lastId := by
  have below := lt_of_le_of_ne (le_maxLimit id) h
  change id.1 ≤ T.max - 1
  change id.1 < T.max at below
  omega

theorem maxLimit_ne_zero : T.maxLimit ≠ 0 := (lastId_pos.trans lastId_lt).ne'

/-- `++`, below the limit. -/
def Value.succ (id : T.Value) (h : id ≠ T.maxLimit) : T.Value :=
  ⟨id.1 + 1, by have := id.2; omega, by
    have below : id.1 < T.max := Std.lt_of_le_of_ne id.2.2 fun same => h (Subtype.ext same)
    omega⟩

theorem Value.lt_succ_iff {id other : T.Value} (h : id ≠ T.maxLimit) :
    other < id.succ h ↔ other ≤ id := by
  rw [← Subtype.coe_lt_coe, ← Subtype.coe_le_coe]
  exact Int.lt_add_one_iff

end IntegerType

structure IdFactory (T : IntegerType) where
  seed : T.Value := 1
  ids : Finset T.Value := ∅

namespace IdFactory

variable {T : IntegerType}

def generateId (f : IdFactory T) : T.Value × IdFactory T :=
  if found : f.ids.Nonempty then
    (f.ids.min' found, { f with ids := f.ids.erase (f.ids.min' found) })
  else if limit : f.seed = T.maxLimit then (0, f)
  else (f.seed, { f with seed := f.seed.succ limit })

def recoveryId (id : T.Value) (f : IdFactory T) : IdFactory T :=
  if id > f.seed then f else { f with ids := insert id f.ids }

end IdFactory

inductive IdCall (T : IntegerType) where
  | generateId
  | recoveryId (id : T.Value)

/-- The factory, and the ids that it has given out and not got back. -/
structure IdUse (T : IntegerType) where
  factory : IdFactory T
  outstanding : Finset T.Value := ∅

namespace IdUse

variable {T : IntegerType} {s : IdUse T} {start : T.Value}

def next (call : IdCall T) (s : IdUse T) : IdUse T :=
  match call with
  | .generateId =>
    let (id, factory) := s.factory.generateId
    { factory, outstanding := if id = 0 then s.outstanding else insert id s.outstanding }
  | .recoveryId id =>
    { factory := s.factory.recoveryId id, outstanding := s.outstanding.erase id }

/-- A new factory. -/
def new (seed : T.Value) : IdUse T := { factory := { seed } }

/-- An id that is given out is not outstanding; 0 is given out if all ids from the first one to the
limit are. -/
def Fresh (start : T.Value) (call : IdCall T) (s : IdUse T) : Prop :=
  call = .generateId →
    (s.factory.generateId.1 ≠ 0 → s.factory.generateId.1 ∉ s.outstanding) ∧
    (s.factory.generateId.1 = 0 →
      ∀ id, start ≤ id → id < T.maxLimit → id ≠ 0 → id ∈ s.outstanding)

/-- What is recovered is neither 0 nor the counter, unless it is above the counter and refused or
the counter has come to its limit. The counter itself is not 0 when it is its turn. -/
def Allowed (call : IdCall T) (s : IdUse T) : Prop :=
  match call with
  | .generateId => s.factory.ids = ∅ → s.factory.seed ≠ 0
  | .recoveryId id =>
    id ≤ s.factory.seed → id ≠ 0 ∧ (id = s.factory.seed → id = T.maxLimit)

/-- Ids are in one place each, and the counter is ahead of them. -/
structure Sound (start : T.Value) (s : IdUse T) : Prop where
  started : start ≤ s.factory.seed
  nonzero : 0 ∉ s.factory.ids
  apart : ∀ id ∈ s.factory.ids, id ∉ s.outstanding
  below : ∀ id, id ∈ s.factory.ids ∨ id ∈ s.outstanding →
    id < s.factory.seed ∨ s.factory.seed = T.maxLimit
  covered : ∀ id, start ≤ id → id < s.factory.seed → id ≠ 0 →
    id ∈ s.factory.ids ∨ id ∈ s.outstanding

theorem sound_new (start : T.Value) : Sound start (new start) where
  started := le_rfl
  nonzero := Finset.notMem_empty _
  apart id mem := absurd mem (Finset.notMem_empty _)
  below id mem := by simp [new] at mem
  covered id low high := absurd high (not_lt.mpr low)

/-- Where the id comes from. -/
theorem generateId_cases (f : IdFactory T) :
    (∃ id ∈ f.ids, (∀ other ∈ f.ids, id ≤ other) ∧
        f.generateId = (id, { f with ids := f.ids.erase id })) ∨
      (f.ids = ∅ ∧ f.seed = T.maxLimit ∧ f.generateId = (0, f)) ∨
      f.ids = ∅ ∧ ∃ limit : f.seed ≠ T.maxLimit,
        f.generateId = (f.seed, { f with seed := f.seed.succ limit }) := by
  by_cases found : f.ids.Nonempty
  · refine .inl ⟨f.ids.min' found, f.ids.min'_mem found, fun other => f.ids.min'_le other, ?_⟩
    rw [IdFactory.generateId, dif_pos found]
  · have empty := Finset.not_nonempty_iff_eq_empty.mp found
    by_cases limit : f.seed = T.maxLimit
    · refine .inr (.inl ⟨empty, limit, ?_⟩)
      rw [IdFactory.generateId, dif_neg found, dif_pos limit]
    · refine .inr (.inr ⟨empty, limit, ?_⟩)
      rw [IdFactory.generateId, dif_neg found, dif_neg limit]

/-! ### What keeps ids apart -/

theorem Sound.fresh (h : Sound start s) {call : IdCall T} (allowed : Allowed call s) :
    Fresh start call s := by
  rintro rfl
  obtain ⟨id, mem, -, eq⟩ | ⟨empty, limit, eq⟩ | ⟨empty, limit, eq⟩ := generateId_cases s.factory
  · rw [eq]
    refine ⟨fun _ => h.apart id mem, fun zero => absurd mem ?_⟩
    rw [show id = 0 from zero]
    exact h.nonzero
  · rw [eq]
    refine ⟨fun ne => absurd rfl ne, fun _ other low high ne => ?_⟩
    have placed := h.covered other low (limit ▸ high) ne
    simpa [empty] using placed
  · rw [eq]
    refine ⟨fun _ out => ?_, fun zero => absurd zero (allowed empty)⟩
    exact (h.below _ (.inr out)).elim (lt_irrefl _) limit

theorem Sound.generateId (h : Sound start s) (allowed : Allowed .generateId s) :
    Sound start (s.next .generateId) := by
  obtain ⟨id, mem, -, eq⟩ | ⟨empty, limit, eq⟩ | ⟨empty, limit, eq⟩ := generateId_cases s.factory
  · have ne : id ≠ 0 := fun zero => h.nonzero (zero ▸ mem)
    simp only [next, eq, if_neg ne]
    constructor
    · exact h.started
    · exact fun mem => h.nonzero (Finset.mem_of_mem_erase mem)
    · grind [h.apart]
    · grind [h.below]
    · grind [h.covered]
  · simp only [next, eq, if_pos]
    exact h
  · have ne : s.factory.seed ≠ 0 := allowed empty
    have ahead {id : T.Value} : id < s.factory.seed.succ limit ↔ id ≤ s.factory.seed :=
      IntegerType.Value.lt_succ_iff limit
    simp only [next, eq, if_neg ne]
    constructor
    · exact h.started.trans (ahead.mpr le_rfl).le
    · exact h.nonzero
    · simp [empty]
    · intro id mem
      left
      rw [ahead]
      simp only [empty, Finset.notMem_empty, false_or, Finset.mem_insert] at mem
      obtain rfl | out := mem
      · exact le_rfl
      · exact ((h.below id (.inr out)).resolve_right limit).le
    · intro id low high nonzero
      rw [ahead] at high
      obtain rfl | lt := high.eq_or_lt
      · exact .inr (Finset.mem_insert_self _ _)
      · exact (h.covered id low lt nonzero).imp_right Finset.mem_insert_of_mem

theorem Sound.recoveryId (h : Sound start s) {id : T.Value} (allowed : Allowed (.recoveryId id) s) :
    Sound start (s.next (.recoveryId id)) := by
  by_cases above : id > s.factory.seed
  · have notOut : id ∉ s.outstanding := by
      intro out
      obtain lt | limit := h.below id (.inr out)
      · exact lt_asymm lt above
      · exact not_lt.mpr (IntegerType.le_maxLimit id) (limit ▸ above)
    have same : s.next (.recoveryId id) = s := by
      simp [next, IdFactory.recoveryId, above, Finset.erase_eq_of_notMem notOut]
    rw [same]
    exact h
  · obtain ⟨ne, limit⟩ := allowed (not_lt.mp above)
    simp only [next, IdFactory.recoveryId, if_neg above]
    constructor
    · exact h.started
    · simp [h.nonzero, ne.symm]
    · grind [h.apart]
    · intro other mem
      simp only [Finset.mem_insert, Finset.mem_erase] at mem
      obtain (rfl | free) | ⟨-, out⟩ := mem
      · obtain same | lt := (not_lt.mp above).eq_or_lt
        · exact .inr (same ▸ limit same)
        · exact .inl lt
      · exact h.below other (.inl free)
      · exact h.below other (.inr out)
    · grind [h.covered]

theorem Sound.next (h : Sound start s) {call : IdCall T} (allowed : Allowed call s) :
    Sound start (s.next call) := by
  cases call with
  | generateId => exact h.generateId allowed
  | recoveryId id => exact h.recoveryId allowed

/-! ### What brings them together -/

/-- `GenerateId`, so many times. -/
def draw (n : ℕ) : List (IdCall T) := List.replicate n .generateId

/-- Induction on the ids that are left to be given out again. -/
theorem draw_induction {P : IdUse T → Prop}
    (step : ∀ s, ((s.next .generateId).factory.ids.card < s.factory.ids.card →
      P (s.next .generateId)) → P s) (s : IdUse T) : P s := by
  induction count : s.factory.ids.card using Nat.strong_induction_on generalizing s with
  | _ n ih =>
    apply step
    intro fewer
    exact ih _ (count ▸ fewer) _ rfl

theorem card_next {id : T.Value} (mem : id ∈ s.factory.ids)
    (eq : s.factory.generateId = (id, { s.factory with ids := s.factory.ids.erase id })) :
    (s.next .generateId).factory.ids.card < s.factory.ids.card := by
  simp only [next, eq]
  exact Finset.card_erase_lt_of_mem mem

/-- What goes wrong with one draw more goes wrong. -/
theorem draw_of_next (nonempty : s.factory.ids ≠ ∅)
    (later : ∃ n, EachStep next Allowed (s.next .generateId) (draw n) ∧
      ¬ EachStep next (Fresh start) (s.next .generateId) (draw n)) :
    ∃ n, EachStep next Allowed s (draw n) ∧ ¬ EachStep next (Fresh start) s (draw n) := by
  obtain ⟨n, allowed, stale⟩ := later
  refine ⟨n + 1, ?_, fun fresh => stale fresh.tail⟩
  exact .cons (fun none => absurd none nonempty) allowed

/-- A counter that has been recovered is given out twice in the end. -/
theorem exists_draw_of_counter (start : T.Value) :
    s.factory.seed ≠ 0 → s.factory.seed ≠ T.maxLimit →
    s.factory.seed ∈ s.factory.ids ∨ s.factory.seed ∈ s.outstanding →
    ∃ n, EachStep next Allowed s (draw n) ∧ ¬ EachStep next (Fresh start) s (draw n) := by
  induction s using draw_induction with
  | step s ih =>
    intro ne limit taken
    obtain ⟨id, mem, -, eq⟩ | ⟨-, last, -⟩ | ⟨empty, _, eq⟩ := generateId_cases s.factory
    · apply draw_of_next (Finset.ne_empty_of_mem mem)
      apply ih (card_next mem eq)
      · simpa [next, eq] using ne
      · simpa [next, eq] using limit
      · simp only [next, eq]
        split <;> grind
    · exact absurd last limit
    · refine ⟨1, .cons (fun _ => ne) .nil, fun fresh => ?_⟩
      obtain ⟨unused, -⟩ := fresh.head rfl
      rw [eq] at unused
      exact unused ne (by simpa [empty] using taken)

/-- A zero that has been recovered is given out in the end, though an id above it is free. -/
theorem exists_draw_of_zero {id : T.Value} (pos : 0 < id) (low : start ≤ id)
    (high : id < T.maxLimit) : 0 ∈ s.factory.ids → id ∉ s.outstanding →
    ∃ n, EachStep next Allowed s (draw n) ∧ ¬ EachStep next (Fresh start) s (draw n) := by
  induction s using draw_induction with
  | step s ih =>
    intro zero free
    have nonempty : s.factory.ids ≠ ∅ := Finset.ne_empty_of_mem zero
    obtain ⟨least, mem, le, eq⟩ | ⟨empty, -⟩ | ⟨empty, -⟩ := generateId_cases s.factory
    · by_cases same : least = 0
      · refine ⟨1, .cons (fun none => absurd none nonempty) .nil, fun fresh => ?_⟩
        obtain ⟨-, all⟩ := fresh.head rfl
        rw [eq] at all
        exact free (all same id low high pos.ne')
      · have other : id ≠ least := (pos.trans_le' (le 0 zero)).ne'
        apply draw_of_next nonempty
        apply ih (card_next mem eq)
        · simp [next, eq, zero, Ne.symm same]
        · simp [next, eq, same, free, other]
    · exact absurd empty nonempty
    · exact absurd empty nonempty

theorem not_allowed_recoveryId {id : T.Value} (h : ¬ Allowed (.recoveryId id) s) :
    id ≤ s.factory.seed ∧ (id = 0 ∨ id = s.factory.seed ∧ id ≠ 0 ∧ id ≠ T.maxLimit) := by
  simp only [Allowed] at h
  tauto

@[simp] theorem seed_recoveryId (id : T.Value) :
    (s.next (.recoveryId id)).factory.seed = s.factory.seed := by
  rw [next, IdFactory.recoveryId]
  split <;> rfl

@[simp] theorem outstanding_recoveryId (id : T.Value) :
    (s.next (.recoveryId id)).outstanding = s.outstanding.erase id := rfl

theorem mem_ids_recoveryId {id other : T.Value} :
    other ∈ (s.next (.recoveryId id)).factory.ids ↔
      other ∈ s.factory.ids ∨ other = id ∧ id ≤ s.factory.seed := by
  rw [next, IdFactory.recoveryId]
  split <;> grind

/-- After a zero, an id that is outstanding is recovered if need be. -/
theorem exists_stale_of_zero (h : Sound start s) (first : start ≠ T.maxLimit)
    (le : 0 ≤ s.factory.seed) :
    ∃ more, EachStep next Allowed (s.next (.recoveryId 0)) more ∧
      ¬ EachStep next (Fresh start) (s.next (.recoveryId 0)) more := by
  have low := IntegerType.le_lastId first
  have zero : 0 ∈ (s.next (.recoveryId 0)).factory.ids := mem_ids_recoveryId.mpr (.inr ⟨rfl, le⟩)
  by_cases out : T.lastId ∈ s.outstanding
  · obtain ⟨n, allowed, stale⟩ := exists_draw_of_zero
      (s := (s.next (.recoveryId 0)).next (.recoveryId T.lastId))
      IntegerType.lastId_pos low IntegerType.lastId_lt (mem_ids_recoveryId.mpr (.inl zero))
      (Finset.notMem_erase _ _)
    refine ⟨.recoveryId T.lastId :: draw n, .cons (fun _ => ?_) allowed,
      fun fresh => stale fresh.tail⟩
    refine ⟨IntegerType.lastId_pos.ne', fun same => ?_⟩
    rw [seed_recoveryId] at same
    obtain lt | limit := h.below T.lastId (.inr out)
    · exact absurd same lt.ne
    · exact same.trans limit
  · obtain ⟨n, allowed, stale⟩ := exists_draw_of_zero (s := s.next (.recoveryId 0))
      IntegerType.lastId_pos low IntegerType.lastId_lt zero
      (fun mem => out (Finset.mem_of_mem_erase mem))
    exact ⟨draw n, allowed, stale⟩

/-- A call that is not allowed can be followed by allowed ones of which one goes wrong. -/
theorem exists_stale (h : Sound start s) (first : start ≠ T.maxLimit) {call : IdCall T}
    (forbidden : ¬ Allowed call s) :
    ∃ more, EachStep next Allowed (s.next call) more ∧
      ¬ EachStep next (Fresh start) s (call :: more) := by
  cases call with
  | generateId =>
    obtain ⟨empty, zero⟩ : s.factory.ids = ∅ ∧ s.factory.seed = 0 := by
      simpa [Allowed] using forbidden
    refine ⟨[], .nil, fun fresh => ?_⟩
    obtain ⟨-, all⟩ := fresh.head rfl
    have limit : s.factory.seed ≠ T.maxLimit := zero ▸ IntegerType.maxLimit_ne_zero.symm
    have out : T.lastId ∈ s.outstanding := by
      obtain ⟨id, mem, -⟩ | ⟨-, last, -⟩ | ⟨-, _, eq⟩ := generateId_cases s.factory
      · simp [empty] at mem
      · exact absurd last limit
      · rw [eq] at all
        exact all zero T.lastId (IntegerType.le_lastId first) IntegerType.lastId_lt
          IntegerType.lastId_pos.ne'
    obtain lt | last := h.below T.lastId (.inr out)
    · exact lt_asymm IntegerType.lastId_pos (zero ▸ lt)
    · exact limit last
  | recoveryId id =>
    obtain ⟨le, rfl | ⟨rfl, ne, limit⟩⟩ := not_allowed_recoveryId forbidden
    · obtain ⟨more, allowed, stale⟩ := exists_stale_of_zero h first le
      exact ⟨more, allowed, fun fresh => stale fresh.tail⟩
    · obtain ⟨n, allowed, stale⟩ := exists_draw_of_counter start
        (s := s.next (.recoveryId s.factory.seed)) (by rwa [seed_recoveryId])
        (by rwa [seed_recoveryId]) (.inl (mem_ids_recoveryId.mpr (.inr ⟨seed_recoveryId _, le⟩)))
      exact ⟨draw n, allowed, fun fresh => stale fresh.tail⟩

/-- In a run of allowed calls ids are fresh; any other call can be followed by allowed ones of
which one goes wrong. -/
theorem generated_ids_fresh (start : T.Value) (calls : List (IdCall T)) :
    (EachStep next Allowed (new start) calls → EachStep next (Fresh start) (new start) calls) ∧
      (start ≠ T.maxLimit → EachStep next Allowed (new start) calls →
        ∀ call, ¬ Allowed call (runFrom next (new start) calls) →
          ∃ more, EachStep next Allowed (runFrom next (new start) (calls ++ [call])) more ∧
            ¬ EachStep next (Fresh start) (new start) (calls ++ call :: more)) := by
  constructor
  · exact EachStep.of_invariant (fun _ _ sound => sound.next) (fun _ _ sound => sound.fresh)
      (sound_new start)
  · intro first run call forbidden
    have sound := EachStep.invariant (I := Sound start) (fun _ _ sound => sound.next)
      (sound_new start) run
    obtain ⟨more, allowed, stale⟩ := exists_stale sound first forbidden
    refine ⟨more, ?_, fun fresh => stale fresh.of_append⟩
    rw [runFrom_append]
    exact allowed

/-- The counter of a new factory is recovered and given out twice; a zero is given out though all
ids are left. -/
theorem recovered_counter_twice :
    ¬ EachStep next (Fresh 1) (new (1 : IntegerType.int32.Value))
        [.recoveryId 1, .generateId, .generateId] ∧
      ¬ EachStep next (Fresh 1) (new (1 : IntegerType.int32.Value))
        [.recoveryId 0, .generateId] := by
  constructor
  · intro fresh
    exact absurd (fresh.tail.tail.head rfl).1 (by decide)
  · intro fresh
    exact absurd ((fresh.tail.head rfl).2 (by decide) 1 (by decide) (by decide) (by decide))
      (by decide)

end IdUse

end DeviceStatus.Utils
