import Mathlib.Data.Int.Order.Lemmas
import Mathlib.Data.BitVec

/-!
# Checked arithmetic on signed words

The operations of a language in which signed overflow and division by zero are undefined: each
gives `none` there, and otherwise the word of the exact result.
-/

namespace SignedWord

variable {w : ℕ} {x y : BitVec w} {n : ℤ}

def add (x y : BitVec w) : Option (BitVec w) := if x.saddOverflow y then none else some (x + y)

def sub (x y : BitVec w) : Option (BitVec w) := if x.ssubOverflow y then none else some (x - y)

def mul (x y : BitVec w) : Option (BitVec w) := if x.smulOverflow y then none else some (x * y)

/-- Division truncates toward zero. -/
def div (x y : BitVec w) : Option (BitVec w) :=
  if y = 0 ∨ x.sdivOverflow y then none else some (x.sdiv y)

/-- The numbers that have a word. -/
def Representable (w : ℕ) (n : ℤ) : Prop := -2 ^ (w - 1) ≤ n ∧ n < 2 ^ (w - 1)

instance : Decidable (Representable w n) := inferInstanceAs (Decidable (_ ∧ _))

theorem representable_toInt (x : BitVec w) : Representable w x.toInt :=
  ⟨x.le_toInt, BitVec.toInt_lt⟩

theorem add_of_representable (h : Representable w (x.toInt + y.toInt)) :
    add x y = some (x + y) ∧ (x + y).toInt = x.toInt + y.toInt := by
  have none : ¬ x.saddOverflow y = true := by
    simp only [BitVec.saddOverflow, Bool.or_eq_true, decide_eq_true_eq]
    exact not_or.mpr ⟨h.2.not_ge, h.1.not_gt⟩
  exact ⟨if_neg none, BitVec.toInt_add_of_not_saddOverflow none⟩

theorem sub_of_representable (h : Representable w (x.toInt - y.toInt)) :
    sub x y = some (x - y) ∧ (x - y).toInt = x.toInt - y.toInt := by
  have none : ¬ x.ssubOverflow y = true := by
    simp only [BitVec.ssubOverflow, Bool.or_eq_true, decide_eq_true_eq]
    exact not_or.mpr ⟨h.2.not_ge, h.1.not_gt⟩
  exact ⟨if_neg none, BitVec.toInt_sub_of_not_ssubOverflow none⟩

theorem mul_of_representable (h : Representable w (x.toInt * y.toInt)) :
    mul x y = some (x * y) ∧ (x * y).toInt = x.toInt * y.toInt := by
  have none : ¬ x.smulOverflow y = true := by
    simp only [BitVec.smulOverflow, Bool.or_eq_true, decide_eq_true_eq]
    exact not_or.mpr ⟨h.2.not_ge, h.1.not_gt⟩
  exact ⟨if_neg none, BitVec.toInt_mul_of_not_smulOverflow none⟩

/-- Only the least number has a quotient without a word, by minus one. -/
theorem div_of_ne (nonzero : y ≠ 0) (h : x ≠ BitVec.intMin w ∨ y ≠ -1#w) :
    div x y = some (x.sdiv y) ∧ (x.sdiv y).toInt = x.toInt.tdiv y.toInt := by
  have none : ¬ x.sdivOverflow y = true := by
    rw [BitVec.sdivOverflow_eq, ← BitVec.neg_one_eq_allOnes]
    rcases h with h | h <;> simp [h]
  exact ⟨if_neg (not_or.mpr ⟨nonzero, none⟩), BitVec.toInt_sdiv_of_ne_or_ne x y h⟩

theorem exists_toInt_eq_iff (pos : 0 < w) : (∃ x : BitVec w, x.toInt = n) ↔ Representable w n := by
  constructor
  · rintro ⟨x, rfl⟩
    exact representable_toInt x
  · intro h
    refine ⟨BitVec.ofInt w n, ?_⟩
    rw [BitVec.toInt_ofInt_eq_self pos h.1 h.2]

theorem toInt_limits (pos : 0 < w) :
    (BitVec.intMin w).toInt = -2 ^ (w - 1) ∧ (BitVec.intMax w).toInt = 2 ^ (w - 1) - 1 :=
  ⟨BitVec.toInt_intMin_of_pos pos, BitVec.toInt_intMax⟩

/-! ## Quotients of a limit

How the truncated quotient of a limit compares tells on which side of it the product is. -/

theorem tdiv_lt_iff {limit a b : ℤ} (nonneg : 0 ≤ limit) (pos : 0 < b) :
    limit.tdiv b < a ↔ limit < a * b := by
  rw [Int.tdiv_eq_ediv_of_nonneg nonneg, Int.ediv_lt_iff_lt_mul pos]

theorem lt_neg_tdiv_iff {limit a b : ℤ} (nonneg : 0 ≤ limit) (pos : 0 < a) :
    b < (-limit).tdiv a ↔ a * b < -limit := by
  rw [Int.neg_tdiv, lt_neg, tdiv_lt_iff nonneg pos, lt_neg, Int.neg_mul, Int.mul_comm]

theorem lt_tdiv_iff_of_neg {limit a b : ℤ} (nonneg : 0 ≤ limit) (neg : a < 0) :
    b < limit.tdiv a ↔ limit < a * b := by
  have flip : limit.tdiv a = -limit.tdiv (-a) := by rw [Int.tdiv_neg, Int.neg_neg]
  rw [flip, lt_neg, tdiv_lt_iff nonneg (by omega), Int.neg_mul_neg, Int.mul_comm]

end SignedWord
