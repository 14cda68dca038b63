import Mathlib.Computability.RegularExpressions

/-!
# Patterns

Regular expressions as programs use them, with classes of characters and with a group whose text is
handed out, and the decimal numerals.

## Main definitions

* `oneOf`, `literal`, `optional`, `atLeastOne` — expressions.
* `Pattern`, `Pattern.regexMatch` — an expression with a group, and what it captures.
* `numeral` — the decimal numerals without superfluous zeros.
-/

namespace Patterns

open RegularExpression

variable {α : Type*} {as v w : List α} {P : RegularExpression α}

/-! ### Expressions -/

/-- A class of characters. -/
def oneOf : List α → RegularExpression α
  | [] => 0
  | a :: as => char a + oneOf as

def literal : List α → RegularExpression α
  | [] => 1
  | a :: as => char a * literal as

def optional (P : RegularExpression α) : RegularExpression α := 1 + P

def atLeastOne (P : RegularExpression α) : RegularExpression α := P * P.star

@[simp] theorem mem_oneOf : w ∈ (oneOf as).matches' ↔ ∃ a ∈ as, w = [a] := by
  induction as with
  | nil => simp [oneOf]
  | cons a as ih =>
    rw [oneOf, matches'_add, Language.mem_add, ih, matches'_char, List.exists_mem_cons_iff]
    exact Iff.rfl

@[simp] theorem mem_literal : w ∈ (literal v).matches' ↔ w = v := by
  induction v generalizing w with
  | nil => simp [literal]
  | cons a v ih =>
    rw [literal, matches'_mul, Language.mem_mul, matches'_char]
    constructor
    · rintro ⟨u, rfl, x, mem, rfl⟩
      rw [ih.mp mem]
      rfl
    · rintro rfl
      exact ⟨[a], rfl, v, ih.mpr rfl, rfl⟩

@[simp] theorem mem_optional : w ∈ (optional P).matches' ↔ w = [] ∨ w ∈ P.matches' := by
  rw [optional, matches'_add, Language.mem_add]
  exact Iff.rfl

@[simp] theorem mem_star_oneOf : w ∈ (oneOf as).star.matches' ↔ ∀ a ∈ w, a ∈ as := by
  rw [matches'_star, Language.mem_kstar]
  constructor
  · rintro ⟨L, rfl, all⟩ a mem
    obtain ⟨x, here, mem⟩ := List.mem_flatten.mp mem
    obtain ⟨b, listed, rfl⟩ := mem_oneOf.mp (all x here)
    obtain rfl := List.mem_singleton.mp mem
    exact listed
  · intro all
    refine ⟨w.map fun a => [a], ?_, ?_⟩
    · exact (List.flatMap_singleton' w).symm.trans List.flatMap_def
    · intro x mem
      obtain ⟨a, here, rfl⟩ := List.mem_map.mp mem
      exact mem_oneOf.mpr ⟨a, all a here, rfl⟩

@[simp] theorem mem_atLeastOne_oneOf :
    w ∈ (atLeastOne (oneOf as)).matches' ↔ w ≠ [] ∧ ∀ a ∈ w, a ∈ as := by
  rw [atLeastOne, matches'_mul, Language.mem_mul]
  constructor
  · rintro ⟨u, first, x, rest, rfl⟩
    obtain ⟨a, listed, rfl⟩ := mem_oneOf.mp first
    refine ⟨by simp, ?_⟩
    exact List.forall_mem_cons.mpr ⟨listed, mem_star_oneOf.mp rest⟩
  · rintro ⟨nonempty, all⟩
    cases w with
    | nil => exact absurd rfl nonempty
    | cons a w =>
      obtain ⟨listed, all⟩ := List.forall_mem_cons.mp all
      exact ⟨[a], mem_oneOf.mpr ⟨a, listed, rfl⟩, w, mem_star_oneOf.mpr all, rfl⟩

/-! ### Groups -/

/-- An expression with one group. -/
structure Pattern (α : Type*) where
  before : RegularExpression α
  group : RegularExpression α
  after : RegularExpression α

/-- The ways to cut a list in two. -/
def cuts (w : List α) : List (List α × List α) :=
  (List.range (w.length + 1)).map fun n => (w.take n, w.drop n)

theorem mem_cuts {u v : List α} : (u, v) ∈ cuts w ↔ u ++ v = w := by
  rw [cuts, List.mem_map]
  constructor
  · rintro ⟨n, -, same⟩
    obtain ⟨rfl, rfl⟩ := Prod.mk.inj same
    exact List.take_append_drop n w
  · rintro rfl
    refine ⟨u.length, ?_, by simp⟩
    rw [List.mem_range, List.length_append]
    omega

namespace Pattern

variable {p : Pattern α}

/-- The list fits the pattern with this text for the group. -/
def Captures (p : Pattern α) (w v : List α) : Prop :=
  ∃ u x, u ++ (v ++ x) = w ∧ u ∈ p.before.matches' ∧ v ∈ p.group.matches' ∧ x ∈ p.after.matches'

variable [DecidableEq α]

/-- The texts that the group can have. -/
def captures (p : Pattern α) (w : List α) : List (List α) :=
  (cuts w).flatMap fun (u, rest) =>
    if p.before.rmatch u then
      (cuts rest).filterMap fun (v, x) =>
        if p.group.rmatch v ∧ p.after.rmatch x then some v else none
    else []

/-- The whole list and the text of the group, if the list fits the pattern. -/
def regexMatch (p : Pattern α) (w : List α) : Option (List (List α)) :=
  (p.captures w).head?.map fun v => [w, v]

theorem mem_captures : v ∈ p.captures w ↔ p.Captures w v := by
  simp only [captures, List.mem_flatMap, Prod.exists, mem_cuts]
  constructor
  · rintro ⟨u, rest, rfl, mem⟩
    split at mem
    · rename_i before
      obtain ⟨⟨v', x⟩, cut, found⟩ := List.mem_filterMap.mp mem
      obtain ⟨⟨group, after⟩, same⟩ := Option.ite_none_right_eq_some.mp found
      obtain rfl := Option.some.inj same
      rw [rmatch_iff_matches'] at before group after
      obtain rfl := mem_cuts.mp cut
      exact ⟨u, x, rfl, before, group, after⟩
    · simp at mem
  · rintro ⟨u, x, rfl, before, group, after⟩
    rw [← rmatch_iff_matches'] at before group after
    refine ⟨u, v ++ x, rfl, ?_⟩
    rw [if_pos before, List.mem_filterMap]
    exact ⟨(v, x), mem_cuts.mpr rfl, if_pos ⟨group, after⟩⟩

/-- Which of several texts is taken plays no part where there is only one. -/
theorem regexMatch_eq_some (h : p.Captures w v) (unique : ∀ v', p.Captures w v' → v' = v) :
    p.regexMatch w = some [w, v] := by
  have mem := mem_captures.mpr h
  cases found : p.captures w with
  | nil => simp [found] at mem
  | cons v' vs =>
    have here : v' ∈ p.captures w := by
      rw [found]
      exact List.mem_cons_self
    rw [regexMatch, found, List.head?_cons, Option.map_some, unique v' (mem_captures.mp here)]

theorem regexMatch_eq_none (h : ∀ v, ¬ p.Captures w v) : p.regexMatch w = none := by
  rw [regexMatch, Option.map_eq_none_iff, List.head?_eq_none_iff, List.eq_nil_iff_forall_not_mem]
  intro v mem
  exact h v (mem_captures.mp mem)

end Pattern

/-! ### Numerals -/

def digits : List Char := ['0', '1', '2', '3', '4', '5', '6', '7', '8', '9']

theorem digits_eq : digits = (List.range 10).map Nat.digitChar := rfl

theorem digitChar_toNat {c : Char} (h : c.isDigit) :
    Nat.digitChar (c.toNat - '0'.toNat) = c ∧ c.toNat - '0'.toNat < 10 := by
  rw [Char.isDigit_iff_toNat] at h
  change 48 ≤ c.toNat ∧ c.toNat ≤ 57 at h
  change Nat.digitChar (c.toNat - 48) = c ∧ c.toNat - 48 < 10
  have few : c.toNat - 48 < 10 := by omega
  refine ⟨Char.toNat_inj.mp ?_, few⟩
  rw [Nat.toNat_digitChar_of_lt_ten few]
  omega

theorem mem_digits {c : Char} : c ∈ digits ↔ c.isDigit := by
  rw [digits_eq, List.mem_map]
  constructor
  · rintro ⟨d, few, rfl⟩
    rw [Nat.isDigit_digitChar]
    exact decide_eq_true (List.mem_range.mp few)
  · intro digit
    obtain ⟨same, few⟩ := digitChar_toNat digit
    exact ⟨_, List.mem_range.mpr few, same⟩

/-- The numerals without superfluous zeros. -/
def numeral : RegularExpression Char :=
  char '0' + oneOf ['1', '2', '3', '4', '5', '6', '7', '8', '9'] * (oneOf digits).star

theorem isDigit_toDigits (n : ℕ) : ∀ c ∈ Nat.toDigits 10 n, c.isDigit := by
  intro c mem
  exact Nat.isDigit_of_mem_toDigits (by decide) (by decide) mem

/-- Digits go on behind the numeral of a positive number. -/
theorem toDigits_append {n : ℕ} (pos : 0 < n) {ds : List Char} (h : ∀ c ∈ ds, c.isDigit) :
    Nat.toDigits 10 n ++ ds = Nat.toDigits 10 (Nat.ofDigitChars 10 ds n) := by
  induction ds generalizing n with
  | nil => rw [List.append_nil, Nat.ofDigitChars_nil]
  | cons c ds ih =>
    obtain ⟨digit, later⟩ := List.forall_mem_cons.mp h
    obtain ⟨same, few⟩ := digitChar_toNat digit
    have first : Nat.toDigits 10 (c.toNat - '0'.toNat) = [c] := by
      rw [Nat.toDigits_of_lt_base few, same]
    calc Nat.toDigits 10 n ++ c :: ds
        = (Nat.toDigits 10 n ++ Nat.toDigits 10 (c.toNat - '0'.toNat)) ++ ds := by
          rw [first, List.append_assoc, List.singleton_append]
      _ = Nat.toDigits 10 (10 * n + (c.toNat - '0'.toNat)) ++ ds := by
          rw [Nat.toDigits_append_toDigits (by decide) pos few]
      _ = Nat.toDigits 10 (Nat.ofDigitChars 10 (c :: ds) n) := by
          rw [ih (by omega) later, Nat.ofDigitChars_cons]

theorem mem_nonzero {c : Char} :
    c ∈ ['1', '2', '3', '4', '5', '6', '7', '8', '9'] ↔ c.isDigit ∧ c ≠ '0' := by
  rw [← mem_digits, digits, List.mem_cons (b := '0')]
  constructor
  · intro mem
    refine ⟨.inr mem, ?_⟩
    rintro rfl
    simp at mem
  · rintro ⟨zero | mem, ne⟩
    · exact absurd zero ne
    · exact mem

/-- Numerals of positive numbers do not begin with a zero. -/
theorem exists_toDigits_eq_cons {n : ℕ} (pos : 0 < n) :
    ∃ c ds, Nat.toDigits 10 n = c :: ds ∧ c ≠ '0' := by
  induction n using Nat.base_induction 10 (by decide) with
  | single m few =>
    refine ⟨m.digitChar, [], Nat.toDigits_of_lt_base few, ?_⟩
    rw [ne_eq, Nat.digitChar_eq_zero]
    exact pos.ne'
  | digit m k few more ih =>
    obtain ⟨c, ds, same, ne⟩ := ih more
    refine ⟨c, ds ++ Nat.toDigits 10 k, ?_, ne⟩
    rw [← Nat.toDigits_append_toDigits (by decide) more few, same, List.cons_append]

/-- Digits that do not begin with a zero are a numeral. -/
theorem exists_toDigits {c : Char} {ds : List Char} (ne : c ≠ '0')
    (all : ∀ d ∈ c :: ds, d.isDigit) : ∃ n, c :: ds = Nat.toDigits 10 n := by
  obtain ⟨digit, later⟩ := List.forall_mem_cons.mp all
  obtain ⟨same, few⟩ := digitChar_toNat digit
  have pos : 0 < c.toNat - '0'.toNat := by
    rw [Nat.pos_iff_ne_zero]
    intro zero
    rw [zero] at same
    exact ne same.symm
  refine ⟨Nat.ofDigitChars 10 ds (c.toNat - '0'.toNat), ?_⟩
  rw [← toDigits_append pos later, Nat.toDigits_of_lt_base few, same, List.singleton_append]

theorem mem_numeral {w : List Char} : w ∈ numeral.matches' ↔ ∃ n, w = Nat.toDigits 10 n := by
  rw [numeral, matches'_add, Language.mem_add, matches'_mul, Language.mem_mul, matches'_char]
  constructor
  · rintro (zero | ⟨u, first, ds, rest, rfl⟩)
    · exact ⟨0, zero⟩
    · obtain ⟨c, mem, rfl⟩ := mem_oneOf.mp first
      obtain ⟨digit, ne⟩ := mem_nonzero.mp mem
      apply exists_toDigits ne
      exact List.forall_mem_cons.mpr
        ⟨digit, fun d here => mem_digits.mp (mem_star_oneOf.mp rest d here)⟩
  · rintro ⟨n, rfl⟩
    cases Nat.eq_zero_or_pos n with
    | inl zero =>
      left
      rw [zero, Nat.toDigits_zero]
      rfl
    | inr pos =>
      right
      obtain ⟨c, ds, same, ne⟩ := exists_toDigits_eq_cons pos
      have all := isDigit_toDigits n
      rw [same] at all ⊢
      obtain ⟨digit, later⟩ := List.forall_mem_cons.mp all
      refine ⟨[c], mem_oneOf.mpr ⟨c, mem_nonzero.mpr ⟨digit, ne⟩, rfl⟩, ds, ?_, rfl⟩
      exact mem_star_oneOf.mpr fun c mem => mem_digits.mpr (later c mem)

end Patterns
