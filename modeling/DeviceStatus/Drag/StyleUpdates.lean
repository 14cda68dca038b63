import DeviceStatus.Drag.DragStyle

/-!
# Updates of the drag style

`UpdateDragStyle` with all its exits. It stores the event id and the target as soon as the id is
not outdated, and the style before it looks whether a drag is running and whether the style is one
that can be drawn. The number `-1` stands for a call without event id. This is the build without
`OHOS_BUILD_ENABLE_ARKUI_X`.

## Main definitions

* `StyleUpdate`, `StoredStyle` — a call with what it meets, and what is stored.
* `StoredStyle.updateDragStyle` — the call.
* `StyleRun.Right` — a call is fresh and, if it fails, leaves everything as it was.
* `StyleRun.InOrder` — a call that does not fail late and is not let in by a call without id.
-/

namespace DeviceStatus.Drag

open Transition.System
open Cooperation (DragState)

/-- The number of a style in `enum class DragCursorStyle`. -/
def DragCursorStyle.code : DragCursorStyle → ℤ
  | .default => 0
  | .forbidden => 1
  | .copy => 2
  | .move => 3

/-- A call of `UpdateDragStyle`. The style is any number that a process sends. -/
structure StyleUpdate where
  style : ℤ
  targetPid : ℤ := -1
  targetTid : ℤ := -1
  eventId : ℤ := -1
  /-- the state of the drag at the call -/
  dragState : DragState := .start
  /-- `isFoldPC_ && inHoveringState_` -/
  hovering : Bool := false
  /-- whether `DragDrawing` can draw the style -/
  draws : Bool := true
  deriving DecidableEq

structure StoredStyle where
  dragStyle : ℤ
  targetPid : ℤ := -1
  targetTid : ℤ := -1
  lastEventId : ℤ := -1
  deriving DecidableEq

namespace StoredStyle

variable (origin : DragOrigin)

/-- `ProcessExceptionDragStyle`, for any number. -/
def processExceptionDragStyle (style : ℤ) : ℤ :=
  if style = DragCursorStyle.copy.code ∧
      (origin.isCrossDragging || origin.isCollaborationService) ∧ origin.summaryTag = NEED_FETCH
  then DragCursorStyle.move.code
  else style

/-- Whether the call returns `RET_OK`, and what is stored then. -/
def updateDragStyle (call : StyleUpdate) (s : StoredStyle) : Bool × StoredStyle :=
  if call.eventId ≠ -1 ∧ call.eventId < s.lastEventId then (false, s)
  else
    let style := processExceptionDragStyle origin call.style
    let s := { s with
      lastEventId := call.eventId, targetPid := call.targetPid, targetTid := call.targetTid }
    if style = s.dragStyle then (true, s)
    else
      let s := { s with dragStyle := style }
      if call.dragState ≠ .start then (false, s)
      else if style < DragCursorStyle.default.code ∨ DragCursorStyle.move.code < style then
        (false, s)
      else if call.hovering then (true, s)
      else if call.draws = false then (false, s)
      else (true, s)

/-- The event id is outdated. -/
def Outdated (call : StyleUpdate) (s : StoredStyle) : Prop :=
  call.eventId ≠ -1 ∧ call.eventId < s.lastEventId

/-- The style is stored already, or it can be drawn: a drag is running and the number is that of
a style. -/
def Takes (call : StyleUpdate) (s : StoredStyle) : Prop :=
  processExceptionDragStyle origin call.style = s.dragStyle ∨
    call.dragState = .start ∧
      (DragCursorStyle.default.code ≤ processExceptionDragStyle origin call.style ∧
        processExceptionDragStyle origin call.style ≤ DragCursorStyle.move.code) ∧
      (call.hovering = true ∨ call.draws = true)

instance (call : StyleUpdate) (s : StoredStyle) : Decidable (s.Outdated call) :=
  inferInstanceAs (Decidable (_ ∧ _))

instance (call : StyleUpdate) (s : StoredStyle) : Decidable (s.Takes origin call) :=
  inferInstanceAs (Decidable (_ ∨ _))

/-- What a call that is not outdated leaves. -/
def stored (call : StyleUpdate) : StoredStyle where
  dragStyle := processExceptionDragStyle origin call.style
  targetPid := call.targetPid
  targetTid := call.targetTid
  lastEventId := call.eventId

variable {origin} {call : StyleUpdate} {s : StoredStyle}

theorem updateDragStyle_of_outdated (h : s.Outdated call) :
    s.updateDragStyle origin call = (false, s) :=
  if_pos h

theorem late_checks {running outOfRange hovering fails : Prop} [Decidable running]
    [Decidable outOfRange] [Decidable hovering] [Decidable fails] (s : StoredStyle) :
    (if ¬ running then (false, s)
      else if outOfRange then (false, s)
      else if hovering then (true, s)
      else if fails then (false, s)
      else (true, s)) =
    (decide (running ∧ ¬ outOfRange ∧ (hovering ∨ ¬ fails)), s) := by
  split_ifs <;> simp_all

/-- Whatever comes of it, a call that is not outdated is stored. -/
theorem updateDragStyle_of_not_outdated (h : ¬ s.Outdated call) :
    s.updateDragStyle origin call = (decide (s.Takes origin call), stored origin call) := by
  refine (if_neg h).trans ?_
  by_cases same : processExceptionDragStyle origin call.style = s.dragStyle
  · have takes : s.Takes origin call := .inl same
    rw [decide_eq_true takes, stored, same]
    exact if_pos rfl
  · refine (if_neg same).trans ((late_checks _).trans ?_)
    have takes : s.Takes origin call ↔ _ := or_iff_right same
    simp only [takes, not_or, not_lt, Bool.not_eq_false, stored]

/-- A call that fails late has stored another style. -/
theorem stored_ne (h : ¬ s.Takes origin call) : stored origin call ≠ s := by
  intro same
  exact h (.inl (congrArg dragStyle same))

/-! ### The styles that are drawn -/

/-- What is stored while the style is one of the four and can be drawn. -/
def ofDragStyle (targetTid : ℤ) (s : DragStyle) : StoredStyle where
  dragStyle := s.dragStyle.code
  targetPid := s.targetPid
  targetTid := targetTid
  lastEventId := s.lastEventId

theorem processExceptionDragStyle_code (style : DragCursorStyle) :
    processExceptionDragStyle origin style.code =
      (DragStyle.processExceptionDragStyle origin style).code := by
  cases style <;>
    simp [processExceptionDragStyle, DragStyle.processExceptionDragStyle, DragCursorStyle.code]
  split_ifs <;> rfl

/-- In a drag whose styles are drawn, the call stores what `DragStyle` stores. -/
theorem updateDragStyle_ofDragStyle (s : DragStyle) (style : DragCursorStyle)
    (tid targetPid targetTid eventId : ℤ) :
    ∃ tid', ((ofDragStyle tid s).updateDragStyle origin
        { style := style.code, targetPid, targetTid, eventId }).2 =
      ofDragStyle tid' (s.updateDragStyle origin style targetPid eventId) := by
  let call : StyleUpdate := { style := style.code, targetPid, targetTid, eventId }
  by_cases outdated : (ofDragStyle tid s).Outdated call
  · have early : s.updateDragStyle origin style targetPid eventId = s := if_pos outdated
    exact ⟨tid, by rw [updateDragStyle_of_outdated outdated, early]⟩
  · have late : s.updateDragStyle origin style targetPid eventId = _ := if_neg outdated
    refine ⟨targetTid, ?_⟩
    have style' : processExceptionDragStyle origin call.style = _ :=
      processExceptionDragStyle_code style
    rw [updateDragStyle_of_not_outdated outdated, late]
    simp only [stored, style', ofDragStyle]
    split_ifs with same <;> simp [same, call, DragStyle.onUpdateDragStyle]

end StoredStyle

/-- What is stored, and the event ids of the calls that have been accepted. -/
structure StyleRun extends StoredStyle where
  accepted : List ℤ := []
  deriving DecidableEq

namespace StyleRun

open StoredStyle

variable (origin : DragOrigin)

def next (call : StyleUpdate) (r : StyleRun) : StyleRun :=
  let outcome := r.updateDragStyle origin call
  { toStoredStyle := outcome.2
    accepted := if outcome.1 ∧ call.eventId ≠ -1 then call.eventId :: r.accepted else r.accepted }

/-- No earlier call was accepted with a greater id; and a call that fails changes nothing, and
fails again. -/
structure Right (call : StyleUpdate) (r : StyleRun) : Prop where
  fresh : (r.updateDragStyle origin call).1 = true → call.eventId ≠ -1 →
    ∀ e ∈ r.accepted, e ≤ call.eventId
  atomic : (r.updateDragStyle origin call).1 = false →
    (r.updateDragStyle origin call).2 = r.toStoredStyle ∧
      ((r.updateDragStyle origin call).2.updateDragStyle origin call).1 = false

/-- An id that is not outdated comes with a style that is taken; and after a call without id it is
not smaller than an id that was accepted before. -/
def InOrder (call : StyleUpdate) (r : StyleRun) : Prop :=
  r.Outdated call ∨
    r.Takes origin call ∧
      (r.lastEventId = -1 → call.eventId ≠ -1 → ∀ e ∈ r.accepted, e ≤ call.eventId)

/-- The id that is stored bounds those that were accepted, unless it is none. -/
def Bounded (r : StyleRun) : Prop := r.lastEventId ≠ -1 → ∀ e ∈ r.accepted, e ≤ r.lastEventId

variable {origin} {call : StyleUpdate} {r : StyleRun}

theorem Bounded.right_iff (h : r.Bounded) : Right origin call r ↔ InOrder origin call r := by
  by_cases outdated : r.Outdated call
  · have refused : r.updateDragStyle origin call = _ := updateDragStyle_of_outdated outdated
    refine iff_of_true ⟨?_, ?_⟩ (.inl outdated)
    · simp [refused]
    · simp [refused]
  have outcome : r.updateDragStyle origin call = _ := updateDragStyle_of_not_outdated outdated
  have current : call.eventId ≠ -1 → r.lastEventId ≤ call.eventId := fun some =>
    not_lt.mp fun lt => outdated ⟨some, lt⟩
  by_cases takes : r.Takes origin call
  · rw [decide_eq_true takes] at outcome
    constructor
    · intro right
      exact .inr ⟨takes, fun _ some => right.fresh (by rw [outcome]) some⟩
    · intro inOrder
      obtain ⟨-, afterNone⟩ := inOrder.resolve_left outdated
      refine ⟨fun _ some e mem => ?_, fun failed => ?_⟩
      · by_cases none : r.lastEventId = -1
        · exact afterNone none some e mem
        · exact (h none e mem).trans (current some)
      · rw [outcome] at failed
        cases failed
  · rw [decide_eq_false takes] at outcome
    refine iff_of_false (fun right => ?_) fun inOrder => ?_
    · have same := (right.atomic (by rw [outcome])).1
      rw [outcome] at same
      exact stored_ne takes same
    · exact takes (inOrder.resolve_left outdated).1

theorem Bounded.next (h : r.Bounded) (inOrder : InOrder origin call r) :
    (next origin call r).Bounded := by
  by_cases outdated : r.Outdated call
  · have refused : r.updateDragStyle origin call = _ := updateDragStyle_of_outdated outdated
    simpa [StyleRun.next, refused, Bounded] using h
  · obtain ⟨takes, afterNone⟩ := inOrder.resolve_left outdated
    have outcome : r.updateDragStyle origin call = _ := updateDragStyle_of_not_outdated outdated
    have fresh := (h.right_iff.mpr inOrder).fresh
    rw [outcome, decide_eq_true takes] at fresh
    intro some
    simp only [StyleRun.next, outcome, StoredStyle.stored] at some ⊢
    intro e mem
    simp only [takes, some, decide_true, ne_eq, not_false_eq_true, and_self, if_true,
      List.mem_cons] at mem
    rcases mem with rfl | mem
    · exact le_rfl
    · exact fresh rfl some e mem

/-- A drag starts with what is stored: a call before it has left its style, target and event id. -/
def start (s : StoredStyle) : StyleRun := { toStoredStyle := s }

theorem bounded_start (s : StoredStyle) : (start s).Bounded :=
  fun _ _ none => absurd none List.not_mem_nil

/-- The calls of a drag are fresh and atomic exactly in the runs in which they come in order. -/
theorem style_updates_right_iff (s : StoredStyle) (calls : List StyleUpdate) :
    EachStep (next origin) (Right origin) (start s) calls ↔
      EachStep (next origin) (InOrder origin) (start s) calls :=
  EachStep.iff_of_invariant (I := Bounded) (fun _ _ h inOrder => h.next inOrder)
    (fun _ _ h => h.right_iff) (bounded_start s)

/-- A call without id lets an older one in: ids 5, none and 3 are accepted one after the other. -/
theorem style_updates_outdated :
    ¬ ∀ (origin : DragOrigin) (s : StoredStyle) (calls : List StyleUpdate),
      EachStep (next origin) (Right origin) (start s) calls := by
  intro h
  let before : List StyleUpdate := [{ style := 3, eventId := 5 }, { style := 3 }]
  let last : StyleUpdate := { style := 3, eventId := 3 }
  have right := h {} { dragStyle := 0 } (before ++ [last]) before last List.prefix_rfl
  exact absurd (right.fresh (by decide) (by decide) 5 (by decide)) (by decide)

end StyleRun

end DeviceStatus.Drag
