import DeviceStatus.Library.Transition
import Mathlib.Data.Finset.Insert

/-!
# What is held down at the end of a stream of reports

A sender reports what its user presses and releases, each report with the set of all that is
held down. A receiver passes the reports on, as far as it can read them, and keeps the set of
the last one as its record. The record is good as long as it has everything that is still down
among what was passed on.

## Main definitions

* `Stroke`, `Down` — presses and releases, and what they leave down.
* `Report`, `Receiver` — a report as it was read, and the receiver.
* `Truthful` — complete reports of one sender, one after the other, agree.
* `Carries`, `Meets` — the reports that leave a good record.
-/

namespace Presses

open Transition Transition.System

variable {α : Type*}

/-- What an event does to a button or a key. -/
inductive Stroke (α : Type*) where
  | press (code : α)
  | release (code : α)
  deriving DecidableEq

def Stroke.code : Stroke α → α
  | .press code => code
  | .release code => code

section Down

variable [DecidableEq α] {log : List (Stroke α)} {a : α}

/-- The last stroke of `a` was a press. -/
def Down (log : List (Stroke α)) (a : α) : Prop :=
  (log.filter fun s => s.code = a).getLast? = some (.press a)

instance : Decidable (Down log a) := inferInstanceAs (Decidable (_ = _))

@[simp] theorem not_down_nil : ¬ Down [] a := by
  simp [Down]

@[simp] theorem down_append_press (b : α) :
    Down (log ++ [.press b]) a ↔ b = a ∨ Down log a := by
  by_cases h : b = a <;> simp [Down, Stroke.code, h]

@[simp] theorem down_append_release (b : α) :
    Down (log ++ [.release b]) a ↔ b ≠ a ∧ Down log a := by
  by_cases h : b = a <;> simp [Down, Stroke.code, h]

theorem down_append_releases (codes : List α) :
    Down (log ++ codes.map .release) a ↔ a ∉ codes ∧ Down log a := by
  induction codes using List.reverseRecOn with
  | nil => simp
  | append_singleton codes b ih =>
    rw [List.map_append, List.map_singleton, ← List.append_assoc, down_append_release, ih]
    grind

end Down

/-- A report as it was read: the set read of it, what it does, and whether it is passed on,
which needs all of it. -/
structure Report (α : Type*) where
  complete : Bool
  pressed : Finset α
  stroke : Option (Stroke α)
  shown : Bool
  complete_of_shown : shown = true → complete = true

/-- What was passed on, the set of the last report, and whether the next one continues it. -/
structure Receiver (α : Type*) where
  log : List (Stroke α) := []
  record : Finset α := ∅
  continued : Bool := false

inductive Label (α : Type*) where
  | report (r : Report α)
  /-- from here on another sender's reports are read -/
  | newSender

namespace Receiver

def next : Label α → Receiver α → Receiver α
  | .report r, t =>
    { log := t.log ++ if r.shown then r.stroke.toList else []
      record := r.pressed
      continued := r.complete }
  | .newSender, t => { t with continued := false }

variable [DecidableEq α]

/-- Everything that is down is in the record. -/
def Recorded (t : Receiver α) : Prop := ∀ a, Down t.log a → a ∈ t.record

/-- A complete report has what it presses in its set. After a report that it continues, only
what it releases has left the set. -/
def Truthful : Label α → Receiver α → Prop
  | .report r, t => r.complete = true →
      (∀ a, r.stroke = some (.press a) → a ∈ r.pressed) ∧
      (t.continued = true → ∀ a ∈ t.record, a ∈ r.pressed ∨ r.stroke = some (.release a))
  | .newSender, _ => True

/-- What is down is in the set of the report, or the report is passed on and releases it. -/
def Carries (t : Receiver α) (r : Report α) : Prop :=
  ∀ a, Down t.log a → a ∈ r.pressed ∨ r.shown = true ∧ r.stroke = some (.release a)

/-- A complete report that continues the one before it, and that is passed on if it releases
anything. -/
def Continues (t : Receiver α) (r : Report α) : Prop :=
  t.continued = true ∧ r.complete = true ∧
    (r.shown = true ∨ ∀ a, r.stroke ≠ some (.release a))

/-- A report that does not continue the one before it carries what is down. -/
def Meets : Label α → Receiver α → Prop
  | .report r, t => Continues t r ∨ Carries t r
  | .newSender, _ => True

theorem carries_of_continues {t : Receiver α} {r : Report α} (recorded : t.Recorded)
    (truthful : Truthful (.report r) t) (h : Continues t r) : Carries t r := by
  intro a down
  obtain ⟨continued, complete, shown⟩ := h
  have kept := (truthful complete).2 continued a (recorded a down)
  grind

theorem recorded_report_iff {t : Receiver α} {r : Report α} (truthful : Truthful (.report r) t) :
    (next (.report r) t).Recorded ↔ Carries t r := by
  cases shown : r.shown with
  | false => simp [Recorded, Carries, next, shown]
  | true =>
    have pressed := (truthful (r.complete_of_shown shown)).1
    cases stroke : r.stroke with
    | none => simp [Recorded, Carries, next, shown, stroke]
    | some stroke' =>
      cases stroke' with
      | press b =>
        have mem := pressed b stroke
        simp only [Recorded, Carries, next, shown, stroke]
        grind [down_append_press]
      | release b =>
        simp only [Recorded, Carries, next, shown, stroke]
        grind [down_append_release]

/-- One step: a good record stays good exactly under the reports that meet the condition. -/
theorem recorded_next_iff {t : Receiver α} {l : Label α} (recorded : t.Recorded)
    (truthful : Truthful l t) : (next l t).Recorded ↔ Meets l t := by
  cases l with
  | newSender => exact iff_of_true recorded trivial
  | report r =>
    rw [recorded_report_iff truthful]
    exact ⟨.inr, fun h => h.elim (carries_of_continues recorded truthful) id⟩

/-- A run: the record is good all along exactly when each report meets the condition. -/
theorem recorded_run_iff {t : Receiver α} {labels : List (Label α)} (recorded : t.Recorded)
    (truthful : EachStep next Truthful t labels) :
    (∀ p, p <+: labels → (runFrom next t p).Recorded) ↔ EachStep next Meets t labels := by
  constructor
  · intro good p l hp
    have before := good p ((List.prefix_append p [l]).trans hp)
    rw [← recorded_next_iff before (truthful p l hp)]
    have after := good (p ++ [l]) hp
    rwa [runFrom_append] at after
  · intro meets p hp
    have each : EachStep next (fun l t => Truthful l t ∧ Meets l t) t p := fun q l hq =>
      ⟨truthful q l (hq.trans hp), meets q l (hq.trans hp)⟩
    exact each.invariant (fun l t good ok => (recorded_next_iff good ok.1).mpr ok.2) recorded

end Receiver

end Presses
