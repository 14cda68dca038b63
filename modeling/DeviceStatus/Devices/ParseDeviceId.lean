import DeviceStatus.Utils.Integers

/-!
# The number in the name of a node

`ParseDeviceId` takes the digits behind `event` for the number of the device. It looks whether they
are an integer before it converts them, and `std::stoi` throws when the integer is too large.

## Main definitions

* `DeviceManager.parseDeviceId` — the function, with what it throws.
* `DeviceManager.Parses` — it throws nothing and finds the numbers of the nodes.
-/

namespace DeviceStatus.Devices

open Patterns RegularExpression
open Utils (StdException)

/-- The name of a file in the directory. -/
abbrev DevNode := List Char

namespace DeviceManager

def RET_ERR : Int32 := -1
def EXPECTED_N_SUBMATCHES : ℕ := 2
def EXPECTED_SUBMATCH : ℕ := 1

/-- `^event(\d+)$`. -/
def pattern : Pattern Char where
  before := literal ['e', 'v', 'e', 'n', 't']
  group := atLeastOne (oneOf digits)
  after := 1

def parseDeviceId (devNode : DevNode) : Except StdException Int32 :=
  match pattern.regexMatch devNode with
  | none => .ok RET_ERR
  | some mr =>
    if mr.length = EXPECTED_N_SUBMATCHES then
      let value := mr.getD EXPECTED_SUBMATCH []
      if value ≠ [] ∧ Utils.isInteger value then Utils.stoi value else .ok RET_ERR
    else .ok RET_ERR

/-- The name of the node with this number. -/
def nodeName (n : ℕ) : DevNode := ['e', 'v', 'e', 'n', 't'] ++ Nat.toDigits 10 n

/-- The name has a number that is too large for `int32_t`. -/
def TooLarge (devNode : DevNode) : Prop := ∃ n, 2 ^ 31 ≤ n ∧ devNode = nodeName n

/-- The name has a device number or the failure value for it, and the number exactly if it is that
of the node and in the range of `int32_t`. -/
structure Parses (devNode : DevNode) : Prop where
  returns : ∃ ret, parseDeviceId devNode = .ok ret ∧ (0 ≤ ret ∨ ret = RET_ERR)
  exact : ∀ n : ℕ, (∃ ret, parseDeviceId devNode = .ok ret ∧ ret.toInt = n) ↔
    devNode = nodeName n ∧ n ≤ Int32.maxValue.toInt

theorem captures_iff {devNode : DevNode} {v : List Char} :
    pattern.Captures devNode v ↔
      devNode = ['e', 'v', 'e', 'n', 't'] ++ v ∧ v ≠ [] ∧ ∀ c ∈ v, c.isDigit := by
  have empty {x : List Char} : x ∈ (1 : RegularExpression Char).matches' ↔ x = [] := Iff.rfl
  simp only [Pattern.Captures, pattern, mem_literal, mem_atLeastOne_oneOf, mem_digits, empty]
  constructor
  · rintro ⟨u, x, rfl, rfl, ⟨nonempty, all⟩, rfl⟩
    exact ⟨by rw [List.append_nil], nonempty, all⟩
  · rintro ⟨rfl, nonempty, all⟩
    exact ⟨_, [], by rw [List.append_nil], rfl, ⟨nonempty, all⟩, rfl⟩

theorem parseDeviceId_digits {ds : List Char} (nonempty : ds ≠ []) (all : ∀ c ∈ ds, c.isDigit) :
    parseDeviceId (['e', 'v', 'e', 'n', 't'] ++ ds) =
      if Utils.isInteger ds then Utils.stoi ds else .ok RET_ERR := by
  have match' : pattern.regexMatch (['e', 'v', 'e', 'n', 't'] ++ ds) = some [_, ds] :=
    Pattern.regexMatch_eq_some (captures_iff.mpr ⟨rfl, nonempty, all⟩) fun v' h =>
      (List.append_cancel_left (captures_iff.mp h).1).symm
  rw [parseDeviceId, match']
  simp [EXPECTED_N_SUBMATCHES, EXPECTED_SUBMATCH, nonempty]

theorem parseDeviceId_other {devNode : DevNode}
    (h : ∀ ds, devNode = ['e', 'v', 'e', 'n', 't'] ++ ds → ds = [] ∨ ¬ ∀ c ∈ ds, c.isDigit) :
    parseDeviceId devNode = .ok RET_ERR := by
  have none : pattern.regexMatch devNode = none := by
    refine Pattern.regexMatch_eq_none fun v captures => ?_
    obtain ⟨same, nonempty, all⟩ := captures_iff.mp captures
    exact (h v same).elim nonempty fun other => other all
  rw [parseDeviceId, none]

theorem parseDeviceId_nodeName (n : ℕ) :
    parseDeviceId (nodeName n) =
      if n < 2 ^ 31 then .ok (Int32.ofNat n) else .error .outOfRange := by
  have all := isDigit_toDigits n
  rw [nodeName, parseDeviceId_digits Nat.toDigits_ne_nil all,
    if_pos ((Utils.isInteger_digits all).mpr ⟨n, rfl⟩), Utils.stoi_toDigits]

/-- Names that are none of a node have the failure value, also with zeros before the number. -/
theorem parseDeviceId_of_ne {devNode : DevNode} (h : ∀ n, devNode ≠ nodeName n) :
    parseDeviceId devNode = .ok RET_ERR := by
  by_cases digits : ∃ ds, devNode = ['e', 'v', 'e', 'n', 't'] ++ ds ∧ ds ≠ [] ∧ ∀ c ∈ ds, c.isDigit
  · obtain ⟨ds, rfl, nonempty, all⟩ := digits
    rw [parseDeviceId_digits nonempty all, if_neg]
    rw [Utils.isInteger_digits all]
    rintro ⟨n, rfl⟩
    exact h n rfl
  · apply parseDeviceId_other
    intro ds same
    by_contra both
    push Not at both
    exact digits ⟨ds, same, both⟩

theorem nodeName_inj {n m : ℕ} (h : nodeName n = nodeName m) : n = m := by
  have value := congrArg (Nat.ofDigitChars 10 · 0) (List.append_cancel_left h)
  simpa using value

theorem toInt_ofNat {n : ℕ} (h : n < 2 ^ 31) : (Int32.ofNat n).toInt = n :=
  Int32.toInt_ofNat_of_lt h

theorem maxValue_eq : Int32.maxValue.toInt = 2147483647 := rfl

theorem parses_nodeName {n : ℕ} (fits : n < 2 ^ 31) : Parses (nodeName n) := by
  have parsed := parseDeviceId_nodeName n
  rw [if_pos fits] at parsed
  have value := toInt_ofNat fits
  constructor
  · refine ⟨_, parsed, .inl ?_⟩
    rw [Int32.le_iff_toInt_le, value]
    exact Int.natCast_nonneg n
  · intro m
    rw [parsed, maxValue_eq]
    constructor
    · rintro ⟨ret, same, number⟩
      obtain rfl := Except.ok.inj same
      obtain rfl : n = m := by omega
      exact ⟨rfl, by omega⟩
    · rintro ⟨same, -⟩
      obtain rfl := nodeName_inj same
      exact ⟨_, rfl, value⟩

theorem parses_of_ne {devNode : DevNode} (h : ∀ n, devNode ≠ nodeName n) : Parses devNode := by
  have parsed := parseDeviceId_of_ne h
  constructor
  · exact ⟨_, parsed, .inr rfl⟩
  · intro m
    rw [parsed]
    constructor
    · rintro ⟨ret, same, number⟩
      obtain rfl := Except.ok.inj same
      have negative : RET_ERR.toInt = -1 := rfl
      omega
    · rintro ⟨same, -⟩
      exact absurd same (h m)

/-- There is no result for a number that is too large. -/
theorem not_parses_nodeName {n : ℕ} (large : 2 ^ 31 ≤ n) : ¬ Parses (nodeName n) := by
  rintro ⟨⟨ret, returns, -⟩, -⟩
  rw [parseDeviceId_nodeName, if_neg (by omega)] at returns
  cases returns

theorem parses_of_small {devNode : DevNode} (small : ¬ TooLarge devNode) : Parses devNode := by
  by_cases node : ∃ n, devNode = nodeName n
  · obtain ⟨n, rfl⟩ := node
    apply parses_nodeName
    by_contra large
    exact small ⟨n, by omega, rfl⟩
  · push Not at node
    exact parses_of_ne node

/-- A name is parsed exactly unless it has a number that is too large for `int32_t`. -/
theorem parse_device_id_iff (devNode : DevNode) :
    Parses devNode ↔ ¬ ∃ n, 2 ^ 31 ≤ n ∧ devNode = nodeName n := by
  constructor
  · rintro parses ⟨n, large, rfl⟩
    exact not_parses_nodeName large parses
  · exact parses_of_small

/-- The number after the last one in range is thrown at the caller. -/
theorem event2147483648_throws :
    parseDeviceId "event2147483648".toList = .error .outOfRange ∧
      ¬ Parses "event2147483648".toList := by
  have name : "event2147483648".toList = nodeName 2147483648 := by decide
  rw [name]
  refine ⟨?_, not_parses_nodeName (by decide)⟩
  rw [parseDeviceId_nodeName]
  rfl

/-! ### The numbers of devices -/

/-- Only the name of a node has a number. -/
theorem nodeName_of_parseDeviceId {devNode : DevNode} {id : Int32}
    (parsed : parseDeviceId devNode = .ok id) (number : ¬ id < 0) :
    ∃ n < 2 ^ 31, devNode = nodeName n ∧ id = Int32.ofNat n := by
  by_cases node : ∃ n, devNode = nodeName n
  · obtain ⟨n, rfl⟩ := node
    rw [parseDeviceId_nodeName] at parsed
    split at parsed
    next fits => exact ⟨n, fits, rfl, (Except.ok.inj parsed).symm⟩
    next => cases parsed
  · push Not at node
    rw [parseDeviceId_of_ne node] at parsed
    obtain rfl := Except.ok.inj parsed
    exact absurd (by decide) number

/-- No two names have the same number. -/
theorem parseDeviceId_inj {n m : DevNode} {id : Int32} (hn : parseDeviceId n = .ok id)
    (hm : parseDeviceId m = .ok id) (number : ¬ id < 0) : n = m := by
  obtain ⟨a, aFits, rfl, rfl⟩ := nodeName_of_parseDeviceId hn number
  obtain ⟨b, bFits, rfl, same⟩ := nodeName_of_parseDeviceId hm number
  have value := congrArg Int32.toInt same
  rw [toInt_ofNat aFits, toInt_ofNat bFits] at value
  rw [Int.natCast_inj.mp value]

/-- The conversion throws only for a number that is too large. -/
theorem parseDeviceId_eq_ok {devNode : DevNode} (small : ¬ TooLarge devNode) :
    ∃ id, parseDeviceId devNode = .ok id := by
  obtain ⟨id, parsed, -⟩ := (parses_of_small small).returns
  exact ⟨id, parsed⟩

end DeviceManager

end DeviceStatus.Devices
