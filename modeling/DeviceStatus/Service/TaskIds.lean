import DeviceStatus.Service.DelegateTasks
import Mathlib.Data.Int.Interval

/-!
# The ids of delegated tasks

The delegated tasks take their ids from a factory of `int32_t`. They recover what they were given
and nothing else, and there are never so many of them that the ids run out.

## Main definitions

* `Numbered` — the ids that are outstanding are those of some tasks.
* `DelegateTasks.HasIds` — they are those of the tasks in the queue.
-/

namespace DeviceStatus.Service

open Transition.System
open Utils (IdUse)
open Utils.IntegerType (int32)

variable {u : IdUse int32} {pending : List TaskId}

/-- The ids that are outstanding are these, and the counter has not gone farther than the queue
allows. -/
structure Numbered (u : IdUse int32) (pending : List TaskId) : Prop where
  sound : u.Sound 1
  outstanding : ∀ id, id ∈ u.outstanding ↔ id ∈ pending
  distinct : pending.Nodup
  nonzero : 0 ∉ pending
  few : u.factory.seed.1 ≤ DelegateTasks.maxTasksLimit + 2

namespace Numbered

theorem new : Numbered (.new 1) [] where
  sound := IdUse.sound_new 1
  outstanding := by simp [IdUse.new]
  distinct := List.nodup_nil
  nonzero := List.not_mem_nil
  few := by decide

theorem not_limit (h : Numbered u pending) : u.factory.seed ≠ int32.maxLimit := by
  intro limit
  have few := h.few
  rw [limit] at few
  exact absurd few (by decide)

theorem seed_ne_zero (h : Numbered u pending) : u.factory.seed ≠ 0 := by
  intro zero
  have started : (1 : ℤ) ≤ u.factory.seed.1 := h.sound.started
  rw [zero] at started
  exact absurd started (by decide)

/-- Once no recovered id is left, the counter is as far as there are ids outstanding. -/
theorem seed_le (h : Numbered u pending) (empty : u.factory.ids = ∅) :
    u.factory.seed.1 ≤ pending.length + 1 := by
  have given : Finset.Ico 1 u.factory.seed.1 ⊆ pending.toFinset.image Subtype.val := by
    intro n mem
    obtain ⟨low, high⟩ := Finset.mem_Ico.mp mem
    let id : TaskId :=
      ⟨n, by have := int32.min_nonpos; omega, high.le.trans u.factory.seed.2.2⟩
    have ne : id ≠ 0 := fun zero => by
      have value : n = 0 := congrArg Subtype.val zero
      omega
    have placed := h.sound.covered id low high ne
    rw [empty, h.outstanding] at placed
    simp only [Finset.notMem_empty, false_or] at placed
    exact Finset.mem_image.mpr ⟨id, List.mem_toFinset.mpr placed, rfl⟩
  have card := (Finset.card_le_card given).trans Finset.card_image_le
  rw [Int.card_Ico] at card
  have length := pending.toFinset_card_le
  omega

theorem allowed_generateId (h : Numbered u pending) :
    IdUse.Allowed .generateId u := fun _ => h.seed_ne_zero

theorem generateId_ne_zero (h : Numbered u pending) : u.factory.generateId.1 ≠ 0 := by
  obtain ⟨id, mem, -, eq⟩ | ⟨-, limit, -⟩ | ⟨-, _, eq⟩ := IdUse.generateId_cases u.factory
  · rw [eq]
    intro zero
    exact h.sound.nonzero ((show id = 0 from zero) ▸ mem)
  · exact absurd limit h.not_limit
  · rw [eq]
    exact h.seed_ne_zero

theorem generateId (h : Numbered u pending) (room : pending.length ≤ DelegateTasks.maxTasksLimit) :
    Numbered (u.next .generateId) (u.factory.generateId.1 :: pending) := by
  have ne := h.generateId_ne_zero
  have fresh := (h.sound.fresh h.allowed_generateId rfl).1 ne
  refine ⟨h.sound.generateId h.allowed_generateId, ?_, ?_, ?_, ?_⟩
  · intro id
    simp only [IdUse.next, if_neg ne, Finset.mem_insert, List.mem_cons, h.outstanding]
  · exact List.nodup_cons.mpr ⟨fun mem => fresh ((h.outstanding _).mpr mem), h.distinct⟩
  · simp only [List.mem_cons, h.nonzero, or_false]
    exact ne.symm
  · obtain ⟨id, -, -, eq⟩ | ⟨-, limit, -⟩ | ⟨empty, _, eq⟩ := IdUse.generateId_cases u.factory
    · simp only [IdUse.next, eq]
      exact h.few
    · exact absurd limit h.not_limit
    · have low := h.seed_le empty
      simp only [IdUse.next, eq]
      change u.factory.seed.1 + 1 ≤ _
      omega

theorem allowed_recoveryId (h : Numbered u pending) {id : TaskId} (mem : id ∈ pending) :
    IdUse.Allowed (.recoveryId id) u := by
  intro _
  refine ⟨fun zero => h.nonzero (zero ▸ mem), fun counter => ?_⟩
  obtain lt | limit := h.sound.below id (.inr ((h.outstanding id).mpr mem))
  · exact absurd counter lt.ne
  · exact absurd limit h.not_limit

theorem recoveryId {id : TaskId} (h : Numbered u (id :: pending)) :
    Numbered (u.next (.recoveryId id)) pending := by
  obtain ⟨notMem, distinct⟩ := List.nodup_cons.mp h.distinct
  refine ⟨h.sound.recoveryId (h.allowed_recoveryId List.mem_cons_self), ?_, distinct,
    fun zero => h.nonzero (List.mem_cons_of_mem _ zero), ?_⟩
  · intro other
    rw [IdUse.outstanding_recoveryId, Finset.mem_erase, h.outstanding, List.mem_cons]
    grind
  · rw [IdUse.seed_recoveryId]
    exact h.few

/-- One after the other. -/
theorem recover {done rest : List TaskId} (h : Numbered u (done ++ rest)) :
    ∃ u' : IdUse int32,
      u'.factory = done.foldl (fun f id => f.recoveryId id) u.factory ∧ Numbered u' rest := by
  induction done generalizing u with
  | nil => exact ⟨u, rfl, h⟩
  | cons id done ih => exact ih h.recoveryId

theorem perm {ids : List TaskId} (h : Numbered u pending) (perm : pending.Perm ids) :
    Numbered u ids where
  sound := h.sound
  outstanding id := (h.outstanding id).trans perm.mem_iff
  distinct := perm.nodup h.distinct
  nonzero mem := h.nonzero (perm.mem_iff.mpr mem)
  few := h.few

end Numbered

namespace DelegateTasks

variable {s : DelegateTasks}

/-- The ids of the tasks that are in the queue or about to be. -/
def pendingIds (s : DelegateTasks) : List TaskId := (s.tasks ++ s.posting.toList).map Task.id

/-- The ids of these tasks are outstanding. -/
def HasIds (s : DelegateTasks) : Prop :=
  ∃ u : IdUse int32, u.factory = s.factory ∧ Numbered u s.pendingIds

theorem hasIds_start : HasIds {} := ⟨.new 1, rfl, .new⟩

theorem HasIds.of_same (h : s.HasIds) {t : DelegateTasks} (factory : t.factory = s.factory)
    (pending : t.pendingIds = s.pendingIds) : t.HasIds := by
  rw [HasIds, factory, pending]
  exact h

theorem HasIds.postTask (h : s.HasIds) (sync written : Bool) :
    (s.postTask sync written).HasIds := by
  cases posting : s.posting with
  | some task => simpa [DelegateTasks.postTask, posting] using h
  | none =>
    by_cases many : s.tasks.length > maxTasksLimit
    · refine h.of_same ?_ ?_ <;>
        simp [DelegateTasks.postTask, posting, many, refuse, pendingIds]
    · obtain ⟨u, factory, numbered⟩ := h
      have length : s.pendingIds.length = s.tasks.length := by simp [pendingIds, posting]
      have given := numbered.generateId (by omega)
      cases written with
      | true =>
        refine ⟨u.next .generateId, ?_, ?_⟩
        · simp [DelegateTasks.postTask, posting, many, IdUse.next, factory]
        · have queued : (s.postTask sync true).pendingIds =
              s.pendingIds ++ [u.factory.generateId.1] := by
            simp [DelegateTasks.postTask, posting, many, pendingIds, factory]
          rw [queued]
          exact given.perm (List.perm_append_singleton _ _).symm
      | false =>
        refine ⟨(u.next .generateId).next (.recoveryId u.factory.generateId.1), ?_, ?_⟩
        · simp [DelegateTasks.postTask, posting, many, refuse, IdUse.next, factory]
        · have queued : (s.postTask sync false).pendingIds = s.pendingIds := by
            simp [DelegateTasks.postTask, posting, many, refuse, pendingIds]
          rw [queued]
          exact given.recoveryId

theorem HasIds.push (h : s.HasIds) : s.push.HasIds := by
  rw [DelegateTasks.push]
  split
  · exact h
  · rename_i task posting
    refine h.of_same rfl ?_
    simp [pendingIds, posting]

theorem HasIds.popPendingTaskList (h : s.HasIds) : s.popPendingTaskList.HasIds := by
  rw [DelegateTasks.popPendingTaskList]
  split
  · rename_i called
    obtain ⟨u, factory, numbered⟩ := h
    have queued : s.pendingIds = (s.tasks.take onceProcessTaskLimit).map Task.id ++
        (s.tasks.drop onceProcessTaskLimit).map Task.id := by
      rw [pendingIds, called.2, ← List.map_append, List.take_append_drop, Option.toList_none,
        List.append_nil]
    rw [queued] at numbered
    obtain ⟨u', recovered, left⟩ := numbered.recover
    refine ⟨u', ?_, ?_⟩
    · rw [recovered, List.foldl_map, factory]
    · simpa [pendingIds, called.2] using left
  · exact h

theorem HasIds.next (h : s.HasIds) (l : Label) : (next l s).HasIds := by
  cases l with
  | postTask sync written => exact h.postTask sync written
  | push => exact h.push
  | popPendingTaskList => exact h.popPendingTaskList
  | timeout call =>
    simp only [DelegateTasks.next, DelegateTasks.timeout]
    split <;> exact h.of_same rfl rfl
  | ready call =>
    simp only [DelegateTasks.next, DelegateTasks.ready]
    split <;> exact h.of_same rfl rfl
  | setWaited call =>
    simp only [DelegateTasks.next, DelegateTasks.setWaited]
    split <;> exact h.of_same rfl rfl
  | onDelegateTask ok =>
    simp only [DelegateTasks.next, DelegateTasks.onDelegateTask]
    split <;> exact h.of_same rfl rfl
  | processTask =>
    simp only [DelegateTasks.next, DelegateTasks.processTask]
    split
    · exact h.of_same rfl rfl
    · split <;> exact h.of_same rfl rfl
    · exact h
  | funReturns ret =>
    simp only [DelegateTasks.next, DelegateTasks.funReturns]
    split <;> exact h.of_same rfl rfl

/-- In every run the tasks that are in the queue have different ids, none of which is 0. -/
theorem pendingIds_nodup (tr : List Label) :
    let s := runFrom next {} tr
    s.pendingIds.Nodup ∧ 0 ∉ s.pendingIds := by
  intro s
  obtain ⟨u, -, numbered⟩ : s.HasIds := runFrom_invariant (fun l s h => h.next l) hasIds_start tr
  exact ⟨numbered.distinct, numbered.nonzero⟩

end DelegateTasks

end DeviceStatus.Service
