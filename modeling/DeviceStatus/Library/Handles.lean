import Mathlib.Data.List.Nodup
import Mathlib.Logic.Function.Basic

/-!
# Handles and their owners

A handle is a number that is handed out again once it has been closed. `owner` says whose it is,
`closes` lists the closes that have been issued, each with the owner that the handle had then.

## Main definitions

* `Handles` — the handles that are open.
* `Handles.give`, `Handles.close`, `Handles.closeAll` — handing one out and closing some.
-/

variable {Handle Owner : Type*}

structure Handles (Handle Owner : Type*) where
  owner : Handle → Option Owner := fun _ => none
  closes : List (Handle × Option Owner) := []

namespace Handles

variable [DecidableEq Handle]

/-- The handle belongs to someone from now on. -/
def give (handle : Handle) (owner : Owner) (t : Handles Handle Owner) : Handles Handle Owner :=
  { t with owner := Function.update t.owner handle (some owner) }

/-- The close of a handle, whoever it belongs to. -/
def close (handle : Handle) (t : Handles Handle Owner) : Handles Handle Owner where
  owner := Function.update t.owner handle none
  closes := t.closes ++ [(handle, t.owner handle)]

/-- One close after the other. -/
def closeAll (handles : List Handle) (t : Handles Handle Owner) : Handles Handle Owner :=
  handles.foldl (fun t handle => t.close handle) t

variable {t : Handles Handle Owner} {handle : Handle} {handles : List Handle}

@[simp] theorem owner_give (owner : Owner) (h : Handle) :
    (t.give handle owner).owner h = if h = handle then some owner else t.owner h :=
  Function.update_apply ..

@[simp] theorem closes_give (owner : Owner) : (t.give handle owner).closes = t.closes := rfl

@[simp] theorem owner_close (h : Handle) :
    (t.close handle).owner h = if h = handle then none else t.owner h :=
  Function.update_apply ..

@[simp] theorem closes_close : (t.close handle).closes = t.closes ++ [(handle, t.owner handle)] :=
  rfl

@[simp] theorem closeAll_nil : t.closeAll [] = t := rfl

@[simp] theorem closeAll_cons :
    t.closeAll (handle :: handles) = (t.close handle).closeAll handles := rfl

theorem owner_closeAll (h : Handle) :
    (t.closeAll handles).owner h = if h ∈ handles then none else t.owner h := by
  induction handles generalizing t with
  | nil => simp
  | cons handle handles ih =>
    rw [closeAll_cons, ih, owner_close]
    by_cases here : h = handle <;> simp [here]

/-- Different handles are closed while they belong to whom they belonged to before. -/
theorem closes_closeAll (distinct : handles.Nodup) :
    (t.closeAll handles).closes = t.closes ++ handles.map fun h => (h, t.owner h) := by
  induction handles generalizing t with
  | nil => simp
  | cons handle handles ih =>
    obtain ⟨fresh, distinct⟩ := List.nodup_cons.mp distinct
    have same : handles.map (fun h => (h, (t.close handle).owner h)) =
        handles.map fun h => (h, t.owner h) := by
      apply List.map_congr_left
      intro h mem
      rw [owner_close, if_neg (ne_of_mem_of_not_mem mem fresh)]
    rw [closeAll_cons, ih distinct, closes_close, same]
    simp

end Handles
