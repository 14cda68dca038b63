import Mathlib.Data.List.Basic

/-!
# Debounced readings

A reading is inside of a range or not. Readings that stay inside long enough enter a level, and a
single reading outside leaves it.

## Main definitions

* `held` — how many readings at the end are inside.
* `level` — whether the readings have entered or left the level, if either.
* `changes` — the values that a quantity of a growing list changes to.
-/

namespace Debounce

/-- How many readings in a row are inside at the end, with `k` of them before the first one. -/
def held (k : ℕ) (l : List Bool) : ℕ :=
  l.foldl (fun k inside => if inside then k + 1 else 0) k

/-- The level is entered after `n` readings inside, and left after any outside. -/
def level (n k : ℕ) (l : List Bool) : Option Bool :=
  if n ≤ held k l then some true else if false ∈ l then some false else none

/-- The values that `f` changes to while the list grows from its start. -/
def changes {α β : Type*} [DecidableEq β] (f : List α → Option β) (l : List α) : List β :=
  (List.range l.length).filterMap fun i =>
    if f (l.take i) = f (l.take (i + 1)) then none else f (l.take (i + 1))

variable {n k : ℕ} {l : List Bool} {inside : Bool}

@[simp]
theorem held_nil (k : ℕ) : held k [] = k := rfl

theorem held_concat (k : ℕ) (l : List Bool) (inside : Bool) :
    held k (l ++ [inside]) = if inside then held k l + 1 else 0 := by
  simp [held]

theorem level_nil (h : k < n) : level n k [] = none := by
  simp [level, h]

theorem level_concat_outside (pos : 0 < n) (l : List Bool) :
    level n k (l ++ [false]) = some false := by
  have outside : ¬ n ≤ 0 := by omega
  simp [level, held_concat, outside]

/-- One more reading inside, with the level entered already. -/
theorem level_concat_of_entered (entered : n ≤ held k l) :
    level n k (l ++ [true]) = some true := by
  have still : n ≤ held k l + 1 := by omega
  simp [level, held_concat, still]

theorem level_concat_of_last (last : held k l + 1 = n) : level n k (l ++ [true]) = some true := by
  simp [level, held_concat, last]

/-- Too few readings inside change nothing. -/
theorem level_concat_of_few (few : held k l + 1 < n) :
    level n k (l ++ [true]) = level n k l := by
  have not_yet : ¬ n ≤ held k l + 1 := by omega
  have not_before : ¬ n ≤ held k l := by omega
  simp [level, held_concat, not_yet, not_before]

theorem level_eq_entered_iff : level n k l = some true ↔ n ≤ held k l := by
  unfold level
  split
  · simp [*]
  · split <;> simp [*]

section Changes

variable {α β : Type*} [DecidableEq β] {f : List α → Option β} {xs : List α}

@[simp]
theorem changes_nil (f : List α → Option β) : changes f [] = [] := rfl

theorem changes_concat (f : List α → Option β) (xs : List α) (x : α) :
    changes f (xs ++ [x]) =
      changes f xs ++ if f xs = f (xs ++ [x]) then [] else (f (xs ++ [x])).toList := by
  have before : ∀ i ∈ List.range xs.length,
      (if f ((xs ++ [x]).take i) = f ((xs ++ [x]).take (i + 1)) then none
        else f ((xs ++ [x]).take (i + 1))) =
      if f (xs.take i) = f (xs.take (i + 1)) then none else f (xs.take (i + 1)) := by
    intro i mem
    have lt := List.mem_range.mp mem
    rw [List.take_append_of_le_length (by omega), List.take_append_of_le_length (by omega)]
  have last : (xs ++ [x]).take (xs.length + 1) = xs ++ [x] := List.take_of_length_le (by simp)
  rw [changes, List.length_append, List.length_singleton, List.range_succ, List.filterMap_append,
    List.filterMap_congr before, changes]
  congr 1
  rw [List.filterMap_cons, List.take_left, last]
  by_cases same : f xs = f (xs ++ [x])
  · simp [same]
  · cases now : f (xs ++ [x]) <;> simp_all

end Changes

end Debounce
