import DeviceStatus.InputEvent.InputEventBuilder
import DeviceStatus.InputEvent.RoundTrip
import DeviceStatus.Library.Transition
import DeviceStatus.Library.Truncate
import Mathlib.Algebra.Order.Field.Rat
import Mathlib.Data.NNRat.Defs
import Mathlib.Data.Rat.Floor

/-!
# Damped motion

`DampPointerMotion` scales the displacements of a mouse and cuts off what is not a whole number.
On the horizontal axis what was cut off is carried to the next event that moves the same way, on
the vertical axis it is lost. Here the arithmetic is exact.

## Main definitions

* `damp` — what `DampPointerMotion` does with an item, over any arithmetic.
* `Damping`, `Damping.Tracked` — the events that were damped, and that no direction has lost a
  whole unit.
* `Damping.Harmless` — an event that loses nothing but what its direction can do without.
-/

namespace DeviceStatus.InputEvents

open Transition.System Truncate

/-! ## The arithmetic apart -/

/-- The operations that are used to damp. -/
structure DampArithmetic (D : Type*) where
  ofInt32 : Int32 → D
  toInt32 : D → Int32
  add : D → D → D
  sub : D → D → D
  mul : D → D → D

structure Remainders (D : Type*) where
  rawDxRightRemainder : D
  rawDxLeftRemainder : D

variable {mmi : MmiConstants} {D : Type*}

/-- `DampPointerMotion` between the item that it gets and the one that it updates. -/
def damp (arithmetic : DampArithmetic D) (coefficients : DamplingDirection → D)
    (item : PointerItem) (r : Remainders D) : PointerItem × Remainders D :=
  let scaled (raw : Int32) (direction : DamplingDirection) :=
    arithmetic.mul (arithmetic.ofInt32 raw) (coefficients direction)
  let (item, r) :=
    if 0 < item.rawDx then
      let rawDxRight := arithmetic.add r.rawDxRightRemainder (scaled item.rawDx .right)
      let rawDxInteger := arithmetic.toInt32 rawDxRight
      ({ item with rawDx := rawDxInteger },
        { r with
          rawDxRightRemainder := arithmetic.sub rawDxRight (arithmetic.ofInt32 rawDxInteger) })
    else if item.rawDx < 0 then
      let rawDxLeft := arithmetic.add r.rawDxLeftRemainder (scaled item.rawDx .left)
      let rawDxInteger := arithmetic.toInt32 rawDxLeft
      ({ item with rawDx := rawDxInteger },
        { r with
          rawDxLeftRemainder := arithmetic.sub rawDxLeft (arithmetic.ofInt32 rawDxInteger) })
    else (item, r)
  let direction := if 0 ≤ item.rawDy then DamplingDirection.down else .up
  ({ item with rawDy := arithmetic.toInt32 (scaled item.rawDy direction) }, r)

/-- The arithmetic of `double` as far as it is used to damp. -/
def DoubleArithmetic.damping (arithmetic : DoubleArithmetic) : DampArithmetic Double where
  ofInt32 := arithmetic.ofInt32
  toInt32 := arithmetic.toInt32
  add := arithmetic.add
  sub := arithmetic.sub
  mul := arithmetic.mul

/-- The builder damps with the arithmetic of `double`. -/
theorem dampPointerMotion_eq (arithmetic : DoubleArithmetic) (b : InputEventBuilder mmi) :
    b.dampPointerMotion arithmetic =
      match b.pointerEvent.getPointerItem b.pointerEvent.pointerId with
      | none => (false, b)
      | some item =>
        let (item, r) := damp arithmetic.damping b.damplingCoefficients item
          ⟨b.rawDxRightRemainder, b.rawDxLeftRemainder⟩
        (true, { b with
          rawDxRightRemainder := r.rawDxRightRemainder
          rawDxLeftRemainder := r.rawDxLeftRemainder
          pointerEvent := b.pointerEvent.addPointerItem item }) := by
  unfold InputEventBuilder.dampPointerMotion damp
  cases b.pointerEvent.getPointerItem b.pointerEvent.pointerId with
  | none => rfl
  | some item =>
    simp only
    by_cases right : 0 < item.rawDx
    · rw [if_pos right, if_pos right]
      rfl
    · rw [if_neg right, if_neg right]
      by_cases left : item.rawDx < 0
      · rw [if_pos left, if_pos left]
        rfl
      · rw [if_neg left, if_neg left]
        rfl

/-! ## Exact arithmetic -/

/-- `static_cast<int32_t>`. What a number gives that does not fit is not defined. -/
structure Int32Cast where
  cast : ℚ → Int32
  toInt_cast : ∀ a, -2 ^ 31 ≤ truncate a ∧ truncate a ≤ 2 ^ 31 - 1 →
    (cast a).toInt = truncate a

def Int32Cast.exact (cast : Int32Cast) : DampArithmetic ℚ where
  ofInt32 raw := raw.toInt
  toInt32 := cast.cast
  add := (· + ·)
  sub := (· - ·)
  mul := (· * ·)

namespace DamplingDirection

def displacement : DamplingDirection → PointerItem → Int32
  | up, item | down, item => item.rawDy
  | left, item | right, item => item.rawDx

/-- Whether an event moves in the direction. -/
def Moves : DamplingDirection → PointerItem → Prop
  | up, item => item.rawDy < 0
  | down, item => 0 ≤ item.rawDy
  | left, item => item.rawDx < 0
  | right, item => 0 < item.rawDx

instance : (direction : DamplingDirection) → (item : PointerItem) →
    Decidable (direction.Moves item)
  | up, item => inferInstanceAs (Decidable (item.rawDy < 0))
  | down, item => inferInstanceAs (Decidable (0 ≤ item.rawDy))
  | left, item => inferInstanceAs (Decidable (item.rawDx < 0))
  | right, item => inferInstanceAs (Decidable (0 < item.rawDx))

def Vertical (direction : DamplingDirection) : Prop := direction = up ∨ direction = down

/-- What is added to the displacement of an event. -/
def carried (r : Remainders ℚ) : DamplingDirection → ℚ
  | up | down => 0
  | left => r.rawDxLeftRemainder
  | right => r.rawDxRightRemainder

end DamplingDirection

open DamplingDirection

/-- The remainders, with the items that were damped and what they became. -/
structure Damping where
  remainders : Remainders ℚ := ⟨0, 0⟩
  items : List (PointerItem × PointerItem) := []

namespace Damping

variable (cast : Int32Cast) (coefficients : DamplingDirection → ℚ≥0)

def next (event : PointerEvent mmi) (m : Damping) : Damping :=
  match event.getPointerItem event.pointerId with
  | none => m
  | some item =>
    let (damped, remainders) :=
      damp cast.exact (fun direction => coefficients direction) item m.remainders
    { remainders, items := m.items ++ [(item, damped)] }

/-- A sum over the events that move in the direction. -/
def sumOf (direction : DamplingDirection) (f : PointerItem × PointerItem → ℚ)
    (items : List (PointerItem × PointerItem)) : ℚ :=
  ((items.filter fun p => direction.Moves p.1).map f).sum

/-- The displacements that were received. -/
def received (direction : DamplingDirection) (m : Damping) : ℚ :=
  sumOf direction (fun p => (direction.displacement p.1).toInt) m.items

/-- The displacements that were written. -/
def written (direction : DamplingDirection) (m : Damping) : ℚ :=
  sumOf direction (fun p => (direction.displacement p.2).toInt) m.items

/-- The fractions of the displacements that were received, once they are scaled. -/
def fractions (direction : DamplingDirection) (m : Damping) : ℚ :=
  sumOf direction
    (fun p => fraction ((direction.displacement p.1).toInt * (coefficients direction : ℚ))) m.items

/-- In no direction has a whole unit been lost. -/
def Tracked (m : Damping) : Prop :=
  ∀ direction, |m.written direction - coefficients direction * m.received direction| < 1

/-- What an event makes of the displacement, before it is cast. -/
def scaled (item : PointerItem) (m : Damping) (direction : DamplingDirection) : ℚ :=
  direction.carried m.remainders +
    (direction.displacement item).toInt * (coefficients direction : ℚ)

/-- What is cast is an `int32_t`, and the fractions that are cut off on the vertical axis come to
less than one unit. -/
def Harmless (event : PointerEvent mmi) (m : Damping) : Prop :=
  ∀ item, event.getPointerItem event.pointerId = some item → ∀ direction : DamplingDirection,
    direction.Moves item →
      (-2 ^ 31 ≤ truncate (m.scaled coefficients item direction) ∧
        truncate (m.scaled coefficients item direction) ≤ 2 ^ 31 - 1) ∧
      (direction.Vertical → |m.fractions coefficients direction +
        fraction ((direction.displacement item).toInt * (coefficients direction : ℚ))| < 1)

/-! ## One event -/

section Damp

variable {cast : Int32Cast} {coefficients : DamplingDirection → ℚ} {item : PointerItem}
  {r : Remainders ℚ} {direction : DamplingDirection}

/-- What is written is the displacement with what was carried, cast. -/
theorem displacement_damp (moves : direction.Moves item) :
    direction.displacement (damp cast.exact coefficients item r).1 =
      cast.cast (direction.carried r +
        (direction.displacement item).toInt * coefficients direction) := by
  cases direction with
  | up =>
    have up : ¬ 0 ≤ item.rawDy := Int32.not_le.mpr moves
    unfold damp
    split_ifs <;> simp [displacement, carried, Int32Cast.exact, up]
  | down =>
    have down : 0 ≤ item.rawDy := moves
    unfold damp
    split_ifs <;> simp [displacement, carried, Int32Cast.exact, down]
  | left =>
    have left : item.rawDx < 0 := moves
    have right : ¬ 0 < item.rawDx := Int32.not_lt.mpr (Int32.le_of_lt left)
    simp [damp, displacement, carried, Int32Cast.exact, left, right]
  | right =>
    have right : 0 < item.rawDx := moves
    simp [damp, displacement, carried, Int32Cast.exact, right]

/-- What is cut off on the horizontal axis is carried. -/
theorem carried_damp_of_moves (horizontal : ¬ direction.Vertical)
    (moves : direction.Moves item) :
    direction.carried (damp cast.exact coefficients item r).2 =
      direction.carried r + (direction.displacement item).toInt * coefficients direction -
        (direction.displacement (damp cast.exact coefficients item r).1).toInt := by
  rw [displacement_damp moves]
  cases direction with
  | up => exact absurd (.inl rfl) horizontal
  | down => exact absurd (.inr rfl) horizontal
  | left =>
    have left : item.rawDx < 0 := moves
    have right : ¬ 0 < item.rawDx := Int32.not_lt.mpr (Int32.le_of_lt left)
    simp [damp, displacement, carried, Int32Cast.exact, left, right]
  | right =>
    have right : 0 < item.rawDx := moves
    simp [damp, displacement, carried, Int32Cast.exact, right]

/-- Events of other directions leave what is carried alone. -/
theorem carried_damp_of_not_moves (still : ¬ direction.Moves item) :
    direction.carried (damp cast.exact coefficients item r).2 = direction.carried r := by
  cases direction with
  | up | down => rfl
  | left =>
    have left : ¬ item.rawDx < 0 := still
    unfold damp
    split_ifs <;> rfl
  | right =>
    have right : ¬ 0 < item.rawDx := still
    simp only [damp, if_neg right]
    split_ifs <;> rfl

end Damp

section Sum

variable {direction : DamplingDirection} {f : PointerItem × PointerItem → ℚ}
  {items : List (PointerItem × PointerItem)}

theorem sumOf_append_of_moves {p : PointerItem × PointerItem} (moves : direction.Moves p.1) :
    sumOf direction f (items ++ [p]) = sumOf direction f items + f p := by
  simp [sumOf, moves]

theorem sumOf_append_of_not_moves {p : PointerItem × PointerItem}
    (still : ¬ direction.Moves p.1) :
    sumOf direction f (items ++ [p]) = sumOf direction f items := by
  simp [sumOf, still]

/-- A sum of terms that satisfy what sums keep. -/
theorem sumOf_induction {P : ℚ → Prop} (zero : P 0) (add : ∀ a b, P a → P b → P (a + b))
    (each : ∀ p, direction.Moves p.1 → P (f p)) : P (sumOf direction f items) := by
  induction items using List.reverseRecOn with
  | nil => exact zero
  | append_singleton items p ih =>
    by_cases moves : direction.Moves p.1
    · rw [sumOf_append_of_moves moves]
      exact add _ _ ih (each p moves)
    · rwa [sumOf_append_of_not_moves moves]

end Sum

/-! ## Runs -/

variable {cast : Int32Cast} {coefficients : DamplingDirection → ℚ≥0} {m : Damping}
  {event : PointerEvent mmi} {item : PointerItem} {direction : DamplingDirection}

/-- What has not been written of the scaled displacements. -/
def owed (coefficients : DamplingDirection → ℚ≥0) (direction : DamplingDirection)
    (m : Damping) : ℚ :=
  coefficients direction * m.received direction - m.written direction

theorem tracked_iff : m.Tracked coefficients ↔ ∀ direction, |m.owed coefficients direction| < 1 :=
  forall_congr' fun direction => by rw [owed, abs_sub_comm]

/-- The remainders are what is owed on the horizontal axis, and nothing else than fractions is
owed on the vertical axis. -/
structure Settled (coefficients : DamplingDirection → ℚ≥0) (m : Damping) : Prop where
  tracked : m.Tracked coefficients
  carries : ∀ direction : DamplingDirection, ¬ direction.Vertical →
    direction.carried m.remainders = m.owed coefficients direction
  loses : ∀ direction : DamplingDirection, direction.Vertical →
    m.fractions coefficients direction = m.owed coefficients direction

theorem settled_start (coefficients : DamplingDirection → ℚ≥0) : Settled coefficients {} where
  tracked := by
    intro direction
    simp [written, received, sumOf]
  carries := by
    intro direction _
    cases direction <;> simp [carried, owed, written, received, sumOf]
  loses := by
    intro direction _
    simp [fractions, owed, written, received, sumOf]

theorem scaled_nonneg (coefficients : DamplingDirection → ℚ≥0) (m : Damping)
    (moves : Moves .down item) : 0 ≤ m.scaled coefficients item .down := by
  have down : 0 ≤ item.rawDy.toInt := Int32.le_iff_toInt_le.mp moves
  have : (0 : ℚ) ≤ item.rawDy.toInt := by exact_mod_cast down
  simp only [scaled, carried, displacement, zero_add]
  exact mul_nonneg this (coefficients .down).2

theorem scaled_nonpos (coefficients : DamplingDirection → ℚ≥0) (m : Damping)
    (moves : Moves .up item) : m.scaled coefficients item .up ≤ 0 := by
  have up : item.rawDy.toInt < 0 := Int32.lt_iff_toInt_lt.mp moves
  have : (item.rawDy.toInt : ℚ) ≤ 0 := by exact_mod_cast up.le
  simp only [scaled, carried, displacement, zero_add]
  exact mul_nonpos_of_nonpos_of_nonneg this (coefficients .up).2

/-- On the vertical axis nothing is carried. -/
theorem scaled_of_vertical (vertical : direction.Vertical) :
    m.scaled coefficients item direction =
      (direction.displacement item).toInt * (coefficients direction : ℚ) := by
  obtain rfl | rfl := vertical <;> simp [scaled, carried]

theorem fractions_down_nonneg : 0 ≤ m.fractions coefficients .down := by
  refine sumOf_induction le_rfl (fun a b => add_nonneg) ?_
  intro p moves
  have := scaled_nonneg coefficients m moves
  rw [scaled_of_vertical (.inr rfl)] at this
  exact fraction_nonneg this

theorem fractions_up_nonpos : m.fractions coefficients .up ≤ 0 := by
  refine sumOf_induction (P := fun a => a ≤ 0) le_rfl (fun a b => add_nonpos) ?_
  intro p moves
  have := scaled_nonpos coefficients m moves
  rw [scaled_of_vertical (.inl rfl)] at this
  exact fraction_nonpos this

theorem next_of_some (found : event.getPointerItem event.pointerId = some item) :
    next cast coefficients event m =
      { remainders :=
          (damp cast.exact (fun direction => coefficients direction) item m.remainders).2
        items := m.items ++ [(item,
          (damp cast.exact (fun direction => coefficients direction) item m.remainders).1)] } := by
  rw [next, found]

/-- An event in the direction adds to what is owed, and what is written is taken off. -/
theorem owed_next_of_moves (found : event.getPointerItem event.pointerId = some item)
    (moves : direction.Moves item) :
    (next cast coefficients event m).owed coefficients direction =
      m.owed coefficients direction +
        (direction.displacement item).toInt * (coefficients direction : ℚ) -
        (cast.cast (m.scaled coefficients item direction)).toInt := by
  rw [next_of_some found]
  simp only [owed, received, written, sumOf_append_of_moves (p := (item, _)) moves,
    displacement_damp moves, scaled]
  ring

theorem owed_next_of_not_moves (found : event.getPointerItem event.pointerId = some item)
    (still : ¬ direction.Moves item) :
    (next cast coefficients event m).owed coefficients direction =
      m.owed coefficients direction := by
  rw [next_of_some found]
  simp only [owed, received, written, sumOf_append_of_not_moves (p := (item, _)) still]

theorem one_le_abs_of_large (settled : m.Settled coefficients)
    (found : event.getPointerItem event.pointerId = some item) (moves : direction.Moves item)
    (large : ¬ (-2 ^ 31 ≤ truncate (m.scaled coefficients item direction) ∧
      truncate (m.scaled coefficients item direction) ≤ 2 ^ 31 - 1)) :
    1 ≤ |(next cast coefficients event m).owed coefficients direction| := by
  rw [owed_next_of_moves found moves]
  set n := (cast.cast (m.scaled coefficients item direction)).toInt with n_def
  have bounds : -2 ^ 31 ≤ n ∧ n ≤ 2 ^ 31 - 1 := by
    have := Int32.le_toInt (cast.cast (m.scaled coefficients item direction))
    have := Int32.toInt_lt (cast.cast (m.scaled coefficients item direction))
    omega
  by_cases vertical : direction.Vertical
  · rw [← settled.loses direction vertical, ← scaled_of_vertical (m := m) vertical]
    obtain rfl | rfl := vertical
    · have past : m.fractions coefficients .up ≤ 0 := fractions_up_nonpos
      have now := sub_le_neg_one_of_nonpos (scaled_nonpos coefficients m moves) (by omega) large
        bounds.1
      exact le_abs.mpr (.inr (by linarith))
    · have past : 0 ≤ m.fractions coefficients .down := fractions_down_nonneg
      have now := one_le_sub_of_nonneg (scaled_nonneg coefficients m moves) (by omega) large
        bounds.2
      exact le_abs.mpr (.inl (by linarith))
  · rw [← settled.carries direction vertical]
    exact one_le_abs_sub (by omega) (by omega) large bounds

theorem abs_owed_next_lt_one_iff (settled : m.Settled coefficients)
    (found : event.getPointerItem event.pointerId = some item) (moves : direction.Moves item) :
    |(next cast coefficients event m).owed coefficients direction| < 1 ↔
      (-2 ^ 31 ≤ truncate (m.scaled coefficients item direction) ∧
        truncate (m.scaled coefficients item direction) ≤ 2 ^ 31 - 1) ∧
      (direction.Vertical → |m.fractions coefficients direction +
        fraction ((direction.displacement item).toInt * (coefficients direction : ℚ))| < 1) := by
  by_cases fits : -2 ^ 31 ≤ truncate (m.scaled coefficients item direction) ∧
      truncate (m.scaled coefficients item direction) ≤ 2 ^ 31 - 1
  · simp only [fits, and_self, true_and]
    rw [owed_next_of_moves found moves, cast.toInt_cast _ fits]
    by_cases vertical : direction.Vertical
    · rw [← settled.loses direction vertical, scaled_of_vertical vertical, add_sub_assoc]
      simp only [vertical, true_imp_iff, fraction]
    · rw [← settled.carries direction vertical]
      exact iff_of_true (abs_fraction_lt_one (m.scaled coefficients item direction))
        fun h => absurd h vertical
  · exact iff_of_false (one_le_abs_of_large settled found moves fits).not_gt fun h => fits h.1

/-- After an event every direction is tracked if and only if the event is harmless. -/
theorem tracked_next_iff (settled : m.Settled coefficients) (event : PointerEvent mmi) :
    (next cast coefficients event m).Tracked coefficients ↔
      m.Harmless coefficients event := by
  cases found : event.getPointerItem event.pointerId with
  | none =>
    refine iff_of_true ?_ fun item some => by simp [found] at some
    rw [next, found]
    exact settled.tracked
  | some item =>
    rw [tracked_iff]
    simp only [Harmless, found, Option.some.injEq, forall_eq']
    refine forall_congr' fun direction => ?_
    by_cases moves : direction.Moves item
    · rw [abs_owed_next_lt_one_iff settled found moves]
      exact ⟨fun h _ => h, fun h => h moves⟩
    · rw [owed_next_of_not_moves found moves]
      exact iff_of_true (tracked_iff.mp settled.tracked direction) fun h => absurd h moves

theorem Settled.next (settled : m.Settled coefficients) (event : PointerEvent mmi)
    (harmless : m.Harmless coefficients event) :
    (next cast coefficients event m).Settled coefficients := by
  refine ⟨(tracked_next_iff settled event).mpr harmless, ?_, ?_⟩
  · intro direction horizontal
    have before := settled.carries direction horizontal
    cases found : event.getPointerItem event.pointerId with
    | none => rwa [Damping.next, found]
    | some item =>
      by_cases moves : direction.Moves item
      · rw [owed_next_of_moves found moves, next_of_some found, ← before]
        rw [carried_damp_of_moves horizontal moves, displacement_damp moves]
        rfl
      · rw [owed_next_of_not_moves found moves, next_of_some found, ← before]
        simp only [carried_damp_of_not_moves moves]
  · intro direction vertical
    have before := settled.loses direction vertical
    cases found : event.getPointerItem event.pointerId with
    | none => rwa [Damping.next, found]
    | some item =>
      by_cases moves : direction.Moves item
      · have fits := (harmless item found direction moves).1
        rw [owed_next_of_moves found moves, cast.toInt_cast _ fits, ← before,
          scaled_of_vertical vertical, add_sub_assoc, next_of_some found]
        exact sumOf_append_of_moves moves
      · rw [owed_next_of_not_moves found moves, ← before, next_of_some found]
        exact sumOf_append_of_not_moves moves

/-- Every direction is tracked after every event, in exactly the runs whose events are harmless:
what the horizontal axis cuts off is never lost, what the vertical axis cuts off always is. -/
theorem eachStep_tracked_iff_harmless (cast : Int32Cast) (coefficients : DamplingDirection → ℚ≥0)
    (events : List (PointerEvent mmi)) :
    EachStep (next cast coefficients)
        (fun event m => (next cast coefficients event m).Tracked coefficients) {} events ↔
      EachStep (next cast coefficients) (fun event m => m.Harmless coefficients event) {} events :=
  EachStep.iff_of_invariant (fun event _ settled => settled.next event)
    (fun event _ settled => tracked_next_iff settled event) (settled_start coefficients)

/-- A cast that gives the nearest `int32_t` to what does not fit. -/
def saturating : Int32Cast where
  cast a := .ofInt (max (-2 ^ 31) (min (2 ^ 31 - 1) (truncate a)))
  toInt_cast a fits := by
    rw [min_eq_right fits.2, max_eq_right fits.1]
    exact Int32.toInt_ofInt_of_le fits.1 (by omega)

/-- A mouse moves down by one. -/
def moveDown : PointerEvent .sample := { pointers := [{ rawDy := 1 }] }

/-- With a coefficient of one half, a mouse that is moved down twice by one stays where it is. -/
theorem moveDown_not_tracked :
    ¬ (runFrom (next saturating fun _ => 1 / 2) {} [moveDown, moveDown]).Tracked
      fun _ => 1 / 2 := by
  intro tracked
  have down := tracked .down
  revert down
  decide +kernel

end Damping

end DeviceStatus.InputEvents
