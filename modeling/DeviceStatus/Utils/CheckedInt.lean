import DeviceStatus.Library.SignedWord
import DeviceStatus.Timer.TimerManager

/-!
# Addition and multiplication that notice an overflow

The templates `AddInt` and `MultiplyInt` of `util.h` and their overloads. A result is `none` where
C++ leaves an expression undefined.

## Main definitions

* `addInt`, `multiplyInt` — the templates, for any width.
* `IsExact` — what an overflow-checked operation gives.
-/

namespace DeviceStatus.Utils

open SignedWord

variable {w : ℕ}

/-- The returned value, and what is in `res` then. -/
abbrev Checked (w : ℕ) := Option (Bool × BitVec w)

def addInt (op1 op2 minValue maxValue res : BitVec w) : Checked w := do
  if BitVec.sle 0 op1 then
    if (← sub maxValue op1).slt op2 then
      return (false, res)
  else
    if op2.slt (← sub minValue op1) then
      return (false, res)
  return (true, ← add op1 op2)

def multiplyInt (op1 op2 minVal maxVal res : BitVec w) : Checked w := do
  if BitVec.slt 0 op1 then
    if BitVec.slt 0 op2 then
      if (← div maxVal op2).slt op1 then
        return (false, res)
    else
      if op2.slt (← div minVal op1) then
        return (false, res)
  else
    if BitVec.slt 0 op2 then
      if op1.slt (← div minVal op2) then
        return (false, res)
    else
      if op1 ≠ 0 then
        if op2.slt (← div maxVal op1) then
          return (false, res)
  return (true, ← mul op1 op2)

def addInt32 (op1 op2 res : BitVec 32) : Checked 32 :=
  addInt op1 op2 (.intMin 32) (.intMax 32) res

def addInt64 (op1 op2 res : BitVec 64) : Checked 64 :=
  addInt op1 op2 (.intMin 64) (.intMax 64) res

def multiplyInt32 (op1 op2 res : BitVec 32) : Checked 32 :=
  multiplyInt op1 op2 (.intMin 32) (.intMax 32) res

def multiplyInt64 (op1 op2 res : BitVec 64) : Checked 64 :=
  multiplyInt op1 op2 (.intMin 64) (.intMax 64) res

/-- The number itself if it has a word, and otherwise the refusal, which leaves `res`. -/
inductive IsExact (n : ℤ) (res : BitVec w) : Checked w → Prop
  | exact {value : BitVec w} (h : value.toInt = n) : IsExact n res (some (true, value))
  | refused (h : ∀ value : BitVec w, value.toInt ≠ n) : IsExact n res (some (false, res))

/-- `res` takes the result, if the check lets it. -/
def store (check : Prop) [Decidable check] (res : BitVec w) (result : Option (BitVec w)) :
    Checked w :=
  if check then some (false, res) else result.map fun value => (true, value)

/-- A check that refuses exactly what has no word, before an operation that is exact. -/
theorem store_isExact (pos : 0 < w) {n : ℤ} {res value : BitVec w} {result : Option (BitVec w)}
    {check : Prop} [Decidable check] (refuses : check ↔ ¬ Representable w n)
    (finish : Representable w n → result = some value ∧ value.toInt = n) :
    IsExact n res (store check res result) := by
  by_cases fits : Representable w n
  · obtain ⟨same, exact⟩ := finish fits
    rw [store, if_neg (by simpa [refuses] using fits), same]
    exact .exact exact
  · rw [store, if_pos (refuses.mpr fits)]
    refine .refused fun value same => fits ?_
    exact (exists_toInt_eq_iff pos).mp ⟨value, same⟩

variable (op1 op2 res minValue maxValue : BitVec w) {bound : BitVec w}

/-! ## Sums -/

theorem addInt_of_nonneg (nonneg : 0 ≤ op1.toInt) (h : sub maxValue op1 = some bound) :
    addInt op1 op2 minValue maxValue res =
      store (bound.toInt < op2.toInt) res (add op1 op2) := by
  rw [addInt, if_pos (by simpa [BitVec.sle_eq_decide] using nonneg), h]
  simp [store, BitVec.slt_eq_decide, Option.map_eq_bind]

theorem addInt_of_neg (neg : op1.toInt < 0) (h : sub minValue op1 = some bound) :
    addInt op1 op2 minValue maxValue res =
      store (op2.toInt < bound.toInt) res (add op1 op2) := by
  rw [addInt, if_neg (by simpa [BitVec.sle_eq_decide] using neg), h]
  simp [store, BitVec.slt_eq_decide, Option.map_eq_bind]

theorem addInt_isExact (pos : 0 < w) :
    IsExact (op1.toInt + op2.toInt) res (addInt op1 op2 (.intMin w) (.intMax w) res) := by
  obtain ⟨low, high⟩ := toInt_limits pos
  obtain ⟨low1, high1⟩ := representable_toInt op1
  obtain ⟨low2, high2⟩ := representable_toInt op2
  by_cases nonneg : 0 ≤ op1.toInt
  · obtain ⟨bound, exact⟩ := sub_of_representable (x := .intMax w) (y := op1)
      ⟨by omega, by omega⟩
    rw [addInt_of_nonneg op1 op2 res _ _ nonneg bound]
    refine store_isExact pos ?_ add_of_representable
    rw [exact, high, Representable]
    omega
  · obtain ⟨bound, exact⟩ := sub_of_representable (x := .intMin w) (y := op1)
      ⟨by omega, by omega⟩
    rw [addInt_of_neg op1 op2 res _ _ (by omega) bound]
    refine store_isExact pos ?_ add_of_representable
    rw [exact, low, Representable]
    omega

/-! ## Products -/

theorem multiplyInt_of_pos_pos (pos1 : 0 < op1.toInt) (pos2 : 0 < op2.toInt)
    (h : div maxValue op2 = some bound) :
    multiplyInt op1 op2 minValue maxValue res =
      store (bound.toInt < op1.toInt) res (mul op1 op2) := by
  rw [multiplyInt, if_pos (by simpa [BitVec.slt_eq_decide] using pos1),
    if_pos (by simpa [BitVec.slt_eq_decide] using pos2), h]
  simp [store, BitVec.slt_eq_decide, Option.map_eq_bind]

theorem multiplyInt_of_pos_nonpos (pos1 : 0 < op1.toInt) (nonpos2 : op2.toInt ≤ 0)
    (h : div minValue op1 = some bound) :
    multiplyInt op1 op2 minValue maxValue res =
      store (op2.toInt < bound.toInt) res (mul op1 op2) := by
  rw [multiplyInt, if_pos (by simpa [BitVec.slt_eq_decide] using pos1),
    if_neg (by simpa [BitVec.slt_eq_decide] using nonpos2), h]
  simp [store, BitVec.slt_eq_decide, Option.map_eq_bind]

theorem multiplyInt_of_nonpos_pos (nonpos1 : op1.toInt ≤ 0) (pos2 : 0 < op2.toInt)
    (h : div minValue op2 = some bound) :
    multiplyInt op1 op2 minValue maxValue res =
      store (op1.toInt < bound.toInt) res (mul op1 op2) := by
  rw [multiplyInt, if_neg (by simpa [BitVec.slt_eq_decide] using nonpos1),
    if_pos (by simpa [BitVec.slt_eq_decide] using pos2), h]
  simp [store, BitVec.slt_eq_decide, Option.map_eq_bind]

theorem multiplyInt_of_neg_nonpos (neg1 : op1.toInt < 0) (nonpos2 : op2.toInt ≤ 0)
    (h : div maxValue op1 = some bound) :
    multiplyInt op1 op2 minValue maxValue res =
      store (op2.toInt < bound.toInt) res (mul op1 op2) := by
  have nonzero : op1 ≠ 0 := by
    rintro rfl
    simp at neg1
  rw [multiplyInt, if_neg (by simpa [BitVec.slt_eq_decide] using neg1.le),
    if_neg (by simpa [BitVec.slt_eq_decide] using nonpos2), if_pos nonzero, h]
  simp [store, BitVec.slt_eq_decide, Option.map_eq_bind]

theorem multiplyInt_of_zero (nonpos2 : op2.toInt ≤ 0) :
    multiplyInt 0 op2 minValue maxValue res = store False res (mul 0 op2) := by
  rw [multiplyInt, if_neg (by simp [BitVec.slt_eq_decide]),
    if_neg (by simpa [BitVec.slt_eq_decide] using nonpos2), if_neg (by simp)]
  simp [store, Option.map_eq_bind]

theorem multiplyInt_isExact (pos : 0 < w) :
    IsExact (op1.toInt * op2.toInt) res (multiplyInt op1 op2 (.intMin w) (.intMax w) res) := by
  obtain ⟨low, high⟩ := toInt_limits pos
  have limit : (0 : ℤ) < 2 ^ (w - 1) := by positivity
  have nonzero {op : BitVec w} (h : op.toInt ≠ 0) : op ≠ 0 := by
    rintro rfl
    simp at h
  have notMinusOne {op : BitVec w} (h : 0 < op.toInt) : op ≠ -1#w := by
    rintro rfl
    rw [BitVec.neg_one_eq_allOnes, BitVec.toInt_allOnes, if_pos pos] at h
    omega
  have maxNotMin : BitVec.intMax w ≠ BitVec.intMin w := by
    intro same
    rw [same, low] at high
    omega
  by_cases pos1 : 0 < op1.toInt
  · by_cases pos2 : 0 < op2.toInt
    · obtain ⟨bound, exact⟩ := div_of_ne (nonzero pos2.ne') (.inl maxNotMin)
      rw [multiplyInt_of_pos_pos op1 op2 res _ _ pos1 pos2 bound]
      refine store_isExact pos ?_ mul_of_representable
      have product := Int.mul_pos pos1 pos2
      rw [exact, high, tdiv_lt_iff (by omega) pos2, Representable]
      omega
    · obtain ⟨bound, exact⟩ :=
        div_of_ne (x := .intMin w) (nonzero pos1.ne') (.inr (notMinusOne pos1))
      rw [multiplyInt_of_pos_nonpos op1 op2 res _ _ pos1 (by omega) bound]
      refine store_isExact pos ?_ mul_of_representable
      have product := Int.mul_nonpos_of_nonneg_of_nonpos pos1.le (not_lt.mp pos2)
      rw [exact, low, lt_neg_tdiv_iff limit.le pos1, Representable]
      omega
  · by_cases pos2 : 0 < op2.toInt
    · obtain ⟨bound, exact⟩ :=
        div_of_ne (x := .intMin w) (nonzero pos2.ne') (.inr (notMinusOne pos2))
      rw [multiplyInt_of_nonpos_pos op1 op2 res _ _ (by omega) pos2 bound]
      refine store_isExact pos ?_ mul_of_representable
      have product := Int.mul_nonpos_of_nonpos_of_nonneg (not_lt.mp pos1) pos2.le
      rw [exact, low, lt_neg_tdiv_iff limit.le pos2, Int.mul_comm, Representable]
      omega
    · by_cases zero : op1.toInt = 0
      · obtain rfl : op1 = 0 := BitVec.toInt_inj.mp (by simpa using zero)
        rw [multiplyInt_of_zero op2 res _ _ (by omega)]
        refine store_isExact pos ?_ mul_of_representable
        rw [zero, Int.zero_mul, false_iff, not_not, Representable]
        omega
      · obtain ⟨bound, exact⟩ := div_of_ne (nonzero zero) (.inl maxNotMin)
        rw [multiplyInt_of_neg_nonpos op1 op2 res _ _ (by omega) (by omega) bound]
        refine store_isExact pos ?_ mul_of_representable
        have product := Int.mul_nonneg_of_nonpos_of_nonpos (not_lt.mp pos1) (not_lt.mp pos2)
        rw [exact, high, lt_tdiv_iff_of_neg (by omega) (by omega), Representable]
        omega

/-- The timer queue adds exact integers where the code adds words. -/
theorem timers_addInt64_eq (op1 op2 res : BitVec 64) :
    Timers.addInt64 op1.toInt op2.toInt =
      (addInt64 op1 op2 res).bind fun outcome =>
        if outcome.1 then some outcome.2.toInt else none := by
  obtain ⟨low1, high1⟩ := representable_toInt op1
  obtain ⟨low2, high2⟩ := representable_toInt op2
  have exact := addInt_isExact op1 op2 res (by decide)
  rw [addInt64]
  generalize addInt op1 op2 (.intMin 64) (.intMax 64) res = outcome at exact
  cases exact with
  | @exact value same =>
    obtain ⟨low, high⟩ := representable_toInt value
    have unchecked : ¬ Timers.INT64_MAX - op1.toInt < op2.toInt ∧
        ¬ op2.toInt < Timers.INT64_MIN - op1.toInt := by
      rw [Timers.INT64_MAX, Timers.INT64_MIN]
      omega
    simp [Timers.addInt64, unchecked, same]
  | refused out =>
    have unfit : ¬ Representable 64 (op1.toInt + op2.toInt) := by
      intro h
      obtain ⟨value, same⟩ := (exists_toInt_eq_iff (by decide)).mpr h
      exact out value same
    rw [Representable] at unfit
    change Timers.addInt64 op1.toInt op2.toInt = none
    rw [Timers.addInt64, Timers.INT64_MAX, Timers.INT64_MIN]
    split_ifs
    · rfl
    · omega
    · rfl
    · omega

/-- The overflow-checked sums and products of both widths are exact. -/
theorem checked_int_isExact :
    (∀ op1 op2 res, IsExact (op1.toInt + op2.toInt) res (addInt32 op1 op2 res)) ∧
      (∀ op1 op2 res, IsExact (op1.toInt + op2.toInt) res (addInt64 op1 op2 res)) ∧
      (∀ op1 op2 res, IsExact (op1.toInt * op2.toInt) res (multiplyInt32 op1 op2 res)) ∧
      ∀ op1 op2 res, IsExact (op1.toInt * op2.toInt) res (multiplyInt64 op1 op2 res) := by
  refine ⟨?_, ?_, ?_, ?_⟩ <;> intro op1 op2 res
  · exact addInt_isExact op1 op2 res (by decide)
  · exact addInt_isExact op1 op2 res (by decide)
  · exact multiplyInt_isExact op1 op2 res (by decide)
  · exact multiplyInt_isExact op1 op2 res (by decide)

end DeviceStatus.Utils
