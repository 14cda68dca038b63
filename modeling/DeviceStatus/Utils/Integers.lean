import DeviceStatus.Library.Patterns
import Mathlib.Data.List.TakeWhile

/-!
# Integers in strings

`Utility::IsInteger` looks whether a string is an integer, of any length, and `std::stoi` makes an
`int` of it, if it can.

## Main definitions

* `isInteger`, `stoi` — the test and the conversion.
-/

namespace DeviceStatus.Utils

open Patterns RegularExpression

/-- The characters of `\s` and of `isspace`. -/
def spaces : List Char := [' ', '\t', '\n', Char.ofNat 11, Char.ofNat 12, '\r']

/-- `Utility::IsInteger`. -/
def isInteger (target : List Char) : Bool :=
  ((oneOf spaces).star * optional (char '-') * numeral * (oneOf spaces).star).rmatch target

/-- What a function of the standard library throws. -/
inductive StdException where
  | invalidArgument
  | outOfRange
  deriving DecidableEq

/-- Whether there is a minus sign, and what comes behind the sign. -/
def takeSign : List Char → Bool × List Char
  | '-' :: str => (true, str)
  | '+' :: str => (false, str)
  | str => (false, str)

/-- `std::stoi`: spaces, a sign, and as many digits as there are. -/
def stoi (str : List Char) : Except StdException Int32 :=
  let (negative, str) := takeSign (str.dropWhile fun c => spaces.contains c)
  let digits := str.takeWhile Char.isDigit
  if digits = [] then .error .invalidArgument
  else
    let magnitude : ℤ := Nat.ofDigitChars 10 digits 0
    let value := if negative then -magnitude else magnitude
    if value < Int32.minValue.toInt ∨ Int32.maxValue.toInt < value then .error .outOfRange
    else .ok (Int32.ofInt value)

theorem isInteger_iff {target : List Char} :
    isInteger target ↔ ∃ before sign n after,
      target = before ++ (sign ++ (Nat.toDigits 10 n ++ after)) ∧
        (∀ c ∈ before, c ∈ spaces) ∧ (sign = [] ∨ sign = ['-']) ∧ ∀ c ∈ after, c ∈ spaces := by
  have minus {sign : List Char} : sign ∈ (char '-').matches' ↔ sign = ['-'] := Iff.rfl
  rw [isInteger, rmatch_iff_matches']
  simp only [matches'_mul, Language.mem_mul, mem_star_oneOf, mem_optional, mem_numeral, minus]
  constructor
  · rintro ⟨_, ⟨_, ⟨before, spaces, sign, signed, rfl⟩, _, ⟨n, rfl⟩, rfl⟩, after, spaces', rfl⟩
    exact ⟨before, sign, n, after, by simp only [List.append_assoc], spaces, signed, spaces'⟩
  · rintro ⟨before, sign, n, after, rfl, spaces, signed, spaces'⟩
    exact ⟨_, ⟨_, ⟨before, spaces, sign, signed, rfl⟩, _, ⟨n, rfl⟩, rfl⟩, after, spaces',
      by simp only [List.append_assoc]⟩

theorem not_isDigit_of_mem_spaces {c : Char} (h : c ∈ spaces) : c.isDigit = false := by
  have all : spaces.all fun c => !c.isDigit := by decide
  simpa using List.all_eq_true.mp all c h

/-- Digits are an integer exactly if they are the digits of a number. -/
theorem isInteger_digits {digits : List Char} (all : ∀ c ∈ digits, c.isDigit) :
    isInteger digits ↔ ∃ n, digits = Nat.toDigits 10 n := by
  rw [isInteger_iff]
  constructor
  · rintro ⟨before, sign, n, after, rfl, spaces, signed, spaces'⟩
    simp only [List.mem_append] at all
    have none {l : List Char} (white : ∀ c ∈ l, c ∈ Utils.spaces) (digit : ∀ c ∈ l, c.isDigit) :
        l = [] := by
      refine List.eq_nil_iff_forall_not_mem.mpr fun c mem => ?_
      simpa [not_isDigit_of_mem_spaces (white c mem)] using digit c mem
    obtain rfl := none spaces fun c mem => all c (.inl mem)
    obtain rfl := none spaces' fun c mem => all c (.inr (.inr (.inr mem)))
    obtain rfl | rfl := signed
    · exact ⟨n, by simp⟩
    · have minus := all '-' (by simp)
      simp at minus
  · rintro ⟨n, rfl⟩
    exact ⟨[], [], n, [], by simp, by simp, .inl rfl, by simp⟩

theorem takeSign_digit {c : Char} (digit : c.isDigit) (ds : List Char) :
    takeSign (c :: ds) = (false, c :: ds) := by
  unfold takeSign
  split
  · simp_all
  · simp_all
  · rfl

theorem stoi_digits {c : Char} {ds : List Char} (all : ∀ d ∈ c :: ds, d.isDigit) :
    stoi (c :: ds) =
      if Nat.ofDigitChars 10 (c :: ds) 0 < 2 ^ 31 then
        .ok (Int32.ofNat (Nat.ofDigitChars 10 (c :: ds) 0))
      else .error .outOfRange := by
  have digit : c.isDigit := all c List.mem_cons_self
  have noSpace : (c :: ds).dropWhile (fun c => spaces.contains c) = c :: ds := by
    refine List.dropWhile_cons_of_neg fun white => ?_
    rw [List.contains_iff_mem] at white
    simp [not_isDigit_of_mem_spaces white] at digit
  have whole : (c :: ds).takeWhile Char.isDigit = c :: ds := List.takeWhile_eq_self_iff.mpr all
  have min : Int32.minValue.toInt = -2 ^ 31 := rfl
  have max : Int32.maxValue.toInt = 2 ^ 31 - 1 := rfl
  simp only [stoi, noSpace, takeSign_digit digit, whole, Bool.false_eq_true, if_false, reduceCtorEq]
  by_cases fits : Nat.ofDigitChars 10 (c :: ds) 0 < 2 ^ 31
  · rw [if_neg (by omega), if_pos fits]
    rfl
  · rw [if_pos (by omega), if_neg fits]

/-- The digits of a number give this number, if it is in range. -/
theorem stoi_toDigits (n : ℕ) :
    stoi (Nat.toDigits 10 n) =
      if n < 2 ^ 31 then .ok (Int32.ofNat n) else .error .outOfRange := by
  have all := isDigit_toDigits n
  cases same : Nat.toDigits 10 n with
  | nil => exact absurd same Nat.toDigits_ne_nil
  | cons c ds =>
    rw [same] at all
    rw [stoi_digits all, ← same, Nat.ofDigitChars_ten_toDigits]

end DeviceStatus.Utils
