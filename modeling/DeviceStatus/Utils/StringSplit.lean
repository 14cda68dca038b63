import DeviceStatus.Library.Pieces

/-!
# The string splitters

`util.cpp` has two functions `StringSplit`. One takes tokens off a string as long as `StringToken`
finds some, for a set of separators; the other goes from one delimiter to the next. Its body is
left out of the build for ArkUI-X (`OHOS_BUILD_ENABLE_ARKUI_X`), where it finds nothing. `npos`
is `none` here.

## Main definitions

* `stringToken`, `stringSplit` — the splitter by tokens.
* `stringSplitAt` — the splitter at a character.
-/

namespace DeviceStatus.Utils

open Pieces

variable {α : Type} [DecidableEq α]

/-- `std::string::find`. -/
def find (str : List α) (c : α) (pos : ℕ) : Option ℕ :=
  ((str.drop pos).findIdx? (· = c)).map (pos + ·)

/-! ## By tokens -/

/-- One turn of the loop of `StringToken`. -/
def nearer (strs : List α) (seat : Option ℕ) (item : α) : Option ℕ :=
  match find strs item 0 with
  | none => seat
  | some temp => some (seat.elim temp fun seat => min seat temp)

def firstSeat (strs sep : List α) : Option ℕ := sep.foldl (nearer strs) none

/-- The size that is returned, `strs` and the token. -/
def stringToken (sep : List α) (strs : List α) : Option ℕ × List α × List α :=
  if strs = [] then (none, [], [])
  else
    match firstSeat strs sep with
    | some seat =>
      let token := strs.take seat
      let strs := strs.drop (seat + 1)
      if seat = 0 then stringToken sep strs
      else (some token.length, strs, token)
    | none => (some strs.length, [], strs)
termination_by strs.length
decreasing_by
  have := List.length_pos_iff.mpr ‹¬ _›
  simp only [List.length_drop]
  omega

/-- The loop finds the first character that is one of the separators. -/
theorem firstSeat_eq (strs sep : List α) : firstSeat strs sep = strs.findIdx? (· ∈ sep) := by
  have loop (seen : List α) : sep.foldl (nearer strs) (strs.findIdx? (· ∈ seen)) =
      strs.findIdx? (· ∈ seen ++ sep) := by
    induction sep generalizing seen with
    | nil => simp
    | cons item sep ih =>
      have step : nearer strs (strs.findIdx? (· ∈ seen)) item =
          strs.findIdx? (· ∈ seen ++ [item]) := by
        have either := findIdx?_or (· ∈ seen) (· = item) strs
        simp only [← Bool.decide_or] at either
        simp only [List.mem_append, List.mem_singleton, either, nearer, find, List.drop_zero,
          Nat.zero_add, Option.map_id']
        cases strs.findIdx? (· = item) <;> rfl
      rw [List.foldl_cons, step, ih, List.append_assoc, List.singleton_append]
  have none : strs.findIdx? (· ∈ ([] : List α)) = none := by simp
  have all := loop []
  rwa [none] at all

/-- No token is found when there is no piece; otherwise it is the first one. -/
theorem stringToken_spec (sep strs : List α) :
    (stringToken sep strs = (none, [], []) ∧ pieces (· ∈ sep) strs = []) ∨
      ∃ token rest, stringToken sep strs = (some token.length, rest, token) ∧
        pieces (· ∈ sep) strs = token :: pieces (· ∈ sep) rest ∧
        rest.length < strs.length := by
  fun_induction stringToken sep strs with
  | case1 => exact .inl ⟨rfl, rfl⟩
  | case2 strs nonempty found rest ih =>
    rw [firstSeat_eq] at found
    obtain ⟨a, c, rest', rfl, free, hc, zero⟩ := exists_eq_append_of_findIdx? found
    obtain rfl : a = [] := List.length_eq_zero_iff.mp zero.symm
    rw [pieces_append_cons free hc]
    refine ih.imp id fun ⟨token, rest, taken, parts, lt⟩ => ?_
    exact ⟨token, rest, taken, parts, Nat.lt_succ_of_lt lt⟩
  | case3 strs nonempty seat found token rest notFirst =>
    rw [firstSeat_eq] at found
    obtain ⟨a, c, rest', rfl, free, hc, rfl⟩ := exists_eq_append_of_findIdx? found
    have some : a ≠ [] := by simpa using notFirst
    refine .inr ⟨token, rest, rfl, ?_, ?_⟩
    · rw [pieces_append_cons free hc, if_neg some]
      simp [token, rest]
    · simp only [rest, List.length_drop, List.length_append, List.length_cons]
      omega
  | case4 strs nonempty found =>
    rw [firstSeat_eq, List.findIdx?_eq_none_iff] at found
    refine .inr ⟨strs, [], rfl, ?_, List.length_pos_iff.mpr nonempty⟩
    rw [pieces_of_free found, if_neg nonempty]
    rfl

theorem stringToken_lt {sep strs rest token : List α} {size : ℕ}
    (h : stringToken sep strs = (some size, rest, token)) : rest.length < strs.length := by
  rcases stringToken_spec sep strs with ⟨none, -⟩ | ⟨token, rest', taken, -, lt⟩
  · simp [none] at h
  · rw [taken] at h
    cases h
    exact lt

/-- The loop of `StringSplit`. -/
def splitLoop (sep strs : List α) (vecList : List (List α)) : List (List α) :=
  match _h : stringToken sep strs with
  | (none, _, _) => vecList
  | (some _, rest, token) => splitLoop sep rest (vecList ++ [token])
termination_by strs.length
decreasing_by exact stringToken_lt _h

/-- The size that is returned, and `vecList`. -/
def stringSplit (str sep : List α) (vecList : List (List α)) : ℕ × List (List α) :=
  let vecList := splitLoop sep str vecList
  (vecList.length, vecList)

theorem splitLoop_eq (sep strs : List α) (vecList : List (List α)) :
    splitLoop sep strs vecList = vecList ++ pieces (· ∈ sep) strs := by
  fun_induction splitLoop sep strs vecList with
  | case1 strs vecList _ _ none =>
    rcases stringToken_spec sep strs with ⟨-, empty⟩ | ⟨token, rest, taken, -⟩
    · rw [empty, List.append_nil]
    · simp [none] at taken
  | case2 strs vecList _ rest token taken ih =>
    rcases stringToken_spec sep strs with ⟨none, -⟩ | ⟨token', rest', taken', parts, -⟩
    · simp [none] at taken
    · rw [taken] at taken'
      cases taken'
      rw [ih, parts, List.append_assoc, List.singleton_append]

/-! ## At a character -/

theorem exists_eq_append_of_find {str : List α} {c : α} {pos current : ℕ}
    (h : find str c pos = some current) : ∃ a rest, str.drop pos = a ++ c :: rest ∧
      (∀ x ∈ a, decide (x = c) = false) ∧ current = pos + a.length := by
  obtain ⟨seat, found, rfl⟩ := Option.map_eq_some_iff.mp h
  obtain ⟨a, c', rest, parts, free, hc, rfl⟩ := exists_eq_append_of_findIdx? found
  obtain rfl : c' = c := of_decide_eq_true hc
  exact ⟨a, rest, parts, free, rfl⟩

theorem find_lt {str : List α} {c : α} {pos current : ℕ} (h : find str c pos = some current) :
    pos ≤ current ∧ current < str.length := by
  obtain ⟨a, rest, parts, -, rfl⟩ := exists_eq_append_of_find h
  have := congrArg List.length parts
  rw [List.length_drop, length_append_cons] at this
  omega

/-- The body of the loop: nothing is between two delimiters in a row. -/
def pushBetween (str : List α) (previous current : ℕ) (elems : List (List α)) : List (List α) :=
  if previous < current then elems ++ [(str.drop previous).take (current - previous)] else elems

/-- The loop goes on from `previous`; it gives the last `previous` and what has been found. -/
def splitAtLoop (str : List α) (delim : α) (previous : ℕ) (elems : List (List α)) :
    ℕ × List (List α) :=
  match _h : find str delim previous with
  | none => (previous, elems)
  | some current =>
    splitAtLoop str delim (current + 1) (pushBetween str previous current elems)
termination_by str.length - previous
decreasing_by
  have := find_lt _h
  omega

/-- What is behind the last delimiter. -/
def pushRest (str : List α) (previous : ℕ) (elems : List (List α)) : List (List α) :=
  if previous ≠ str.length then elems ++ [str.drop previous] else elems

/-- The loop, and what it leaves. -/
def splitAt (str : List α) (delim : α) : List (List α) :=
  let (previous, elems) := splitAtLoop str delim 0 []
  pushRest str previous elems

/-- `arkuiX` says that `OHOS_BUILD_ENABLE_ARKUI_X` is defined. -/
def stringSplitAt (arkuiX : Bool) (str : List α) (delim : α) : List (List α) :=
  if arkuiX then [] else splitAt str delim

/-- The pieces from `previous` on are those that the loop finds and what it leaves. -/
theorem splitAtLoop_eq {str : List α} {delim : α} {previous : ℕ} (elems : List (List α))
    (le : previous ≤ str.length) :
    pushRest str (splitAtLoop str delim previous elems).1
        (splitAtLoop str delim previous elems).2 =
      elems ++ pieces (· = delim) (str.drop previous) := by
  fun_induction splitAtLoop str delim previous elems with
  | case1 previous elems none =>
    have free : ∀ x ∈ str.drop previous, decide (x = delim) = false := by
      simpa [find] using none
    have atEnd : previous = str.length ↔ str.drop previous = [] := by
      rw [List.drop_eq_nil_iff]
      omega
    rw [pieces_of_free free, pushRest]
    simp only [ne_eq, atEnd]
    split_ifs <;> simp_all
  | case2 previous elems current found ih =>
    obtain ⟨a, rest, parts, free, rfl⟩ := exists_eq_append_of_find found
    have behind : str.drop (previous + a.length + 1) = rest := by
      rw [Nat.add_assoc, ← List.drop_drop, parts, List.drop_append]
      simp
    have between : pushBetween str previous (previous + a.length) elems =
        elems ++ if a = [] then [] else [a] := by
      cases a <;> simp [pushBetween, parts]
    rw [ih (find_lt found).2, behind, between, parts, pieces_append_cons free (by simp),
      List.append_assoc]

theorem splitAt_eq (str : List α) (delim : α) : splitAt str delim = pieces (· = delim) str :=
  splitAtLoop_eq [] (Nat.zero_le str.length)

theorem stringSplit_eq (str : List α) (delim : α) :
    (stringSplit str [delim] []).2 = pieces (· = delim) str := by
  have same : (fun x => decide (x ∈ [delim])) = fun x => decide (x = delim) := by simp
  rw [stringSplit, splitLoop_eq, List.nil_append, same]

/-- The splitter by tokens gives the pieces of the string in every build. The other one gives them
where it has a body. -/
theorem string_splitters_agree (arkuiX : Bool) (s : List α) (d : α) :
    ArePieces (· = d) s (stringSplit s [d] []).2 ∧
      stringSplitAt arkuiX s d = if arkuiX then [] else (stringSplit s [d] []).2 := by
  rw [stringSplit_eq]
  refine ⟨arePieces_pieces _ s, ?_⟩
  rw [stringSplitAt, splitAt_eq]

/-- In the build for ArkUI-X the splitters differ. -/
theorem string_splitters_differ :
    ¬ ∀ (arkuiX : Bool) (s : List Char) (d : Char),
      (stringSplit s [d] []).2 = stringSplitAt arkuiX s d ∧
        ArePieces (· = d) s (stringSplitAt arkuiX s d) := by
  intro agree
  have same := (agree true ['a', ',', 'b'] ',').1
  rw [stringSplit_eq] at same
  exact absurd same (by decide)

end DeviceStatus.Utils
