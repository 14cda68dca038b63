import Std.Data.ExtTreeMap
import Mathlib.Data.List.Pairwise
import Mathlib.Data.List.Perm.Subperm
import Mathlib.Tactic.SplitIfs

/-!
# Maps from their entries

A map is made of its entries by inserting one after the other, also when the values are maps whose
entries are inserted one by one.

## Main definitions

* `insertAll` — inserts entries.
* `insertAt` — inserts an entry of an inner map.
-/

namespace Entries

open Std (ExtTreeMap TransOrd LawfulEqOrd)

variable {K L V : Type*} [Ord K] [TransOrd K] [LawfulEqOrd K] [Ord L] [TransOrd L]

/-- The map with the entries, of which the later ones win. -/
def insertAll (entries : List (K × V)) (map : ExtTreeMap K V) : ExtTreeMap K V :=
  entries.foldl (fun map entry => map.insert entry.1 entry.2) map

/-- The entries of a map make the map. -/
theorem insertAll_toList [DecidableEq K] (map : ExtTreeMap K V) : insertAll map.toList ∅ = map := by
  rw [insertAll, ← ExtTreeMap.ofList_eq_foldl]
  refine ExtTreeMap.ext_getElem? fun key => ?_
  cases found : map[key]? with
  | some value =>
    have mem : (key, value) ∈ map.toList := ExtTreeMap.mem_toList_iff_getElem?_eq_some.mpr found
    exact ExtTreeMap.getElem?_ofList_of_mem (by simp) ExtTreeMap.distinct_keys_toList mem
  | none =>
    have absent : key ∉ map.toList.map Prod.fst := by
      rw [ExtTreeMap.map_fst_toList_eq_keys, ExtTreeMap.mem_keys]
      simpa using found
    exact ExtTreeMap.getElem?_ofList_of_contains_eq_false (by simpa using absent)

omit [LawfulEqOrd K] in
theorem size_insertAll_le (entries : List (K × V)) :
    (insertAll entries ∅).size ≤ entries.length := by
  rw [insertAll, ← ExtTreeMap.ofList_eq_foldl]
  exact ExtTreeMap.size_ofList_le

/-- Entries that are as many as those of the map they make are entries of it. -/
theorem getElem?_insertAll [DecidableEq K] {entries : List (K × V)} {map : ExtTreeMap K V}
    (made : insertAll entries ∅ = map) (length : entries.length ≤ map.size) :
    ∀ entry ∈ entries, map[entry.1]? = some entry.2 := by
  rw [insertAll, ← ExtTreeMap.ofList_eq_foldl] at made
  have subset : map.keys ⊆ entries.map Prod.fst := by
    intro key mem
    rw [ExtTreeMap.mem_keys, ← made, ExtTreeMap.mem_ofList] at mem
    simpa using mem
  have perm : (map.keys).Perm (entries.map Prod.fst) := by
    refine (List.subperm_of_subset ExtTreeMap.nodup_keys subset).perm_of_length_le ?_
    rwa [List.length_map, ExtTreeMap.length_keys]
  have distinct := perm.nodup_iff.mp ExtTreeMap.nodup_keys
  rintro ⟨key, value⟩ mem
  rw [← made]
  refine ExtTreeMap.getElem?_ofList_of_mem (by simp) ?_ mem
  rw [List.Nodup, List.pairwise_map] at distinct
  exact distinct.imp fun apart => by simpa using apart

/-- A step that inserts an entry with a new key makes the map, if the keys are different. -/
theorem foldl_eq_insertAll {f : ExtTreeMap K V → K × V → ExtTreeMap K V} {entries : List (K × V)}
    (step : ∀ map, ∀ entry ∈ entries, entry.1 ∉ map → f map entry = map.insert entry.1 entry.2)
    (distinct : (entries.map Prod.fst).Nodup) {map : ExtTreeMap K V}
    (new : ∀ entry ∈ entries, entry.1 ∉ map) : entries.foldl f map = insertAll entries map := by
  induction entries generalizing map with
  | nil => rfl
  | cons entry entries ih =>
    obtain ⟨here, later⟩ := List.forall_mem_cons.mp new
    obtain ⟨apart, distinct⟩ := List.nodup_cons.mp distinct
    rw [List.foldl_cons, step map entry List.mem_cons_self here]
    refine ih (fun map other mem => step map other (List.mem_cons_of_mem entry mem)) distinct ?_
    intro other mem
    rw [ExtTreeMap.mem_insert, not_or]
    refine ⟨fun same => apart ?_, later other mem⟩
    rw [Std.LawfulEqCmp.compare_eq_iff_eq.mp same]
    exact List.mem_map_of_mem mem

/-- `map[key][innerKey] = value`. -/
def insertAt (key : K) (map : ExtTreeMap K (ExtTreeMap L V)) (entry : L × V) :
    ExtTreeMap K (ExtTreeMap L V) :=
  map.insert key ((map.getD key ∅).insert entry.1 entry.2)

theorem foldl_insertAt (key : K) (entries : List (L × V)) {map : ExtTreeMap K (ExtTreeMap L V)}
    (some : entries ≠ []) :
    entries.foldl (insertAt key) map = map.insert key (insertAll entries (map.getD key ∅)) := by
  induction entries generalizing map with
  | nil => exact absurd rfl some
  | cons entry entries ih =>
    cases entries with
    | nil => rfl
    | cons other entries =>
      rw [List.foldl_cons, ih (List.cons_ne_nil _ _)]
      have inner : (insertAt key map entry).getD key ∅ =
          (map.getD key ∅).insert entry.1 entry.2 := ExtTreeMap.getD_insert_self
      rw [inner]
      refine ExtTreeMap.ext_getElem? fun k => ?_
      simp only [insertAt, ExtTreeMap.getElem?_insert]
      split_ifs <;> rfl

/-- A map of maps none of which is empty is made by inserting the entries of the inner maps. -/
theorem foldl_insertAt_toList [LawfulEqOrd L] [DecidableEq K] [DecidableEq L]
    {map : ExtTreeMap K (ExtTreeMap L V)}
    (some : ∀ entry ∈ map.toList, entry.2 ≠ ∅) :
    map.toList.foldl (fun acc entry => entry.2.toList.foldl (insertAt entry.1) acc) ∅ = map := by
  have distinct : (map.toList.map Prod.fst).Nodup := by
    rw [ExtTreeMap.map_fst_toList_eq_keys]
    exact ExtTreeMap.nodup_keys
  refine (foldl_eq_insertAll (fun acc entry mem new => ?_) distinct (by simp)).trans
    (insertAll_toList map)
  have nonempty : entry.2.toList ≠ [] := by simpa using some entry mem
  rw [foldl_insertAt _ _ nonempty, ExtTreeMap.getD_eq_fallback new, insertAll_toList]

end Entries
