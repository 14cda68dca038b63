import DeviceStatus.Drag.DragManager
import DeviceStatus.InputEvent.KeyEvents
import DeviceStatus.Library.Transition

/-!
# The style of a drag

The target of a drag sets its style, and the control key makes a move a copy. The effective style
follows from both; `UpdateDragStyle` draws it at once and tells the listeners, the monitor of key
events posts tasks that do so with the style that it saw. This is the build without
`OHOS_BUILD_ENABLE_ARKUI_X`.

## Main definitions

* `DragStyle`, `DragStyle.step` — the styles that are stored, drawn and told, and the tasks.
* `DragStyle.Effective` — the style that is drawn and told is the effective one.
* `DragStyle.drained` — the state after the tasks that are pending.
* `DragStyle.InTurn` — the calls that no pending task belies.
-/

namespace DeviceStatus.Drag

open Transition.System
open InputEvents (KeyEvent KeyItem)

inductive DragCursorStyle where
  | default | forbidden | copy | move
  deriving DecidableEq

inductive DragAction where
  | move | copy
  deriving DecidableEq

/-- The codes of `MMI::KeyEvent`. -/
structure DragKeyCodes where
  KEYCODE_ESCAPE : Int32 := 2070
  KEYCODE_CTRL_LEFT : Int32 := 2072
  KEYCODE_CTRL_RIGHT : Int32 := 2073

/-- What `ProcessExceptionDragStyle` looks at; it does not change during a drag. -/
structure DragOrigin where
  isCrossDragging : Bool := false
  isCollaborationService : Bool := false
  summaryTag : StdString := []

/-- A task of the key monitor, with the style that it saw. -/
inductive StyleTask where
  | styleChangedNotify (style : DragCursorStyle)
  | updateDragStyle (style : DragCursorStyle)
  deriving DecidableEq

/-- Which of its two tasks a key event can post. -/
structure Posts where
  notify : Bool := true
  draw : Bool := true
  deriving DecidableEq

structure DragStyle where
  /-- the style of the data manager -/
  dragStyle : DragCursorStyle
  dragAction : DragAction := .move
  lastEventId : ℤ := -1
  targetPid : ℤ := -1
  /-- the style last handed to `dragDrawing_.UpdateDragStyle` -/
  drawn : DragCursorStyle
  /-- the style last handed to `StyleChangedNotify` -/
  notified : DragCursorStyle
  tasks : List StyleTask := []
  deriving DecidableEq

/-- A call by the target of the drag, a key event, or the next task of the delegate thread. -/
inductive StyleCall where
  | updateDragStyle (style : DragCursorStyle) (targetPid eventId : ℤ)
  | keyEvent (keyEvent : KeyEvent) (posts : Posts)
  | runTask

namespace StyleTask

def notifies : StyleTask → Option DragCursorStyle
  | styleChangedNotify style => some style
  | updateDragStyle _ => none

def draws : StyleTask → Option DragCursorStyle
  | styleChangedNotify _ => none
  | updateDragStyle style => some style

end StyleTask

namespace DragStyle

variable (codes : DragKeyCodes) (origin : DragOrigin)

/-- `GetRealDragStyle`. -/
def getRealDragStyle (dragAction : DragAction) (style : DragCursorStyle) : DragCursorStyle :=
  if dragAction = .copy ∧ style = .move then .copy else style

/-- The effective style. -/
def real (s : DragStyle) : DragCursorStyle := getRealDragStyle s.dragAction s.dragStyle

def processExceptionDragStyle (style : DragCursorStyle) : DragCursorStyle :=
  if style = .copy ∧ (origin.isCrossDragging || origin.isCollaborationService) ∧
      origin.summaryTag = NEED_FETCH then .move
  else style

def onUpdateDragStyle (style : DragCursorStyle) (s : DragStyle) : DragStyle :=
  let updateStyle := getRealDragStyle s.dragAction style
  { s with notified := updateStyle, drawn := updateStyle }

/-- `SetDragState` to `START`, with the style, the action, the event id and the target that it
finds. -/
def setDragStateStart (style : DragCursorStyle) (action : DragAction) (lastEventId targetPid : ℤ) :
    DragStyle :=
  onUpdateDragStyle style
    { dragStyle := style, dragAction := action, lastEventId, targetPid, drawn := style
      notified := style }

/-- `UpdateDragStyle` during a drag. -/
def updateDragStyle (style : DragCursorStyle) (targetPid eventId : ℤ) (s : DragStyle) :
    DragStyle :=
  if eventId ≠ -1 ∧ eventId < s.lastEventId then s
  else
    let style := processExceptionDragStyle origin style
    let targeted := { s with lastEventId := eventId, targetPid }
    if style = s.dragStyle then
      if targetPid ≠ s.targetPid then
        { targeted with notified := getRealDragStyle s.dragAction style }
      else targeted
    else { targeted with dragStyle := style }.onUpdateDragStyle style

def ctrlKeyStyleChangedNotify (posts : Posts) (style : DragCursorStyle) (action : DragAction)
    (s : DragStyle) : DragStyle :=
  if action = s.dragAction ∨ posts.notify = false then s
  else { s with tasks := s.tasks ++ [.styleChangedNotify style] }

def handleCtrlKeyEvent (posts : Posts) (style : DragCursorStyle) (action : DragAction)
    (s : DragStyle) : DragStyle :=
  if action = s.dragAction ∨ posts.draw = false then s
  else { s with tasks := s.tasks ++ [.updateDragStyle style] }

/-- The item of a control key that `DragKeyEventCallback` finds first. -/
def ctrlItem (keyEvent : KeyEvent) : Option KeyItem :=
  keyEvent.keyItems.find? fun item =>
    item.keyCode = codes.KEYCODE_CTRL_LEFT ∨ item.keyCode = codes.KEYCODE_CTRL_RIGHT

def dragKeyEventCallback (posts : Posts) (keyEvent : KeyEvent) (s : DragStyle) : DragStyle :=
  if keyEvent.keyCode = codes.KEYCODE_ESCAPE then s
  else
    match ctrlItem codes keyEvent with
    | none => { s with dragAction := .move }
    | some item =>
      if s.dragStyle = .default ∨ s.dragStyle = .forbidden then { s with dragAction := .move }
      else if !item.pressed then
        { (s.ctrlKeyStyleChangedNotify posts s.dragStyle .move).handleCtrlKeyEvent posts
            s.dragStyle .move with dragAction := .move }
      else if s.dragStyle = .copy then s
      else
        { (s.ctrlKeyStyleChangedNotify posts .copy .copy).handleCtrlKeyEvent posts .copy .copy with
          dragAction := .copy }

def runTask (s : DragStyle) : DragStyle :=
  match s.tasks with
  | [] => s
  | .styleChangedNotify style :: tasks => { s with notified := style, tasks }
  | .updateDragStyle style :: tasks => { s with drawn := style, tasks }

def step (call : StyleCall) (s : DragStyle) : DragStyle :=
  match call with
  | .updateDragStyle style targetPid eventId => s.updateDragStyle origin style targetPid eventId
  | .keyEvent keyEvent posts => s.dragKeyEventCallback codes posts keyEvent
  | .runTask => s.runTask

/-- With no task pending, what is drawn and told is the effective style. -/
def Effective (s : DragStyle) : Prop :=
  s.tasks = [] → s.drawn = s.real ∧ s.notified = s.real

/-- The state after the tasks that are pending have run, one after the other. -/
def drained (s : DragStyle) : DragStyle :=
  runFrom (step codes origin) s (List.replicate s.tasks.length .runTask)

/-- A new style comes when no task is pending, unless it makes no difference to the effective
style. -/
def UpdateInTurn (style : DragCursorStyle) (eventId : ℤ) (s : DragStyle) : Prop :=
  (eventId ≠ -1 ∧ eventId < s.lastEventId) ∨ s.tasks = [] ∨
    getRealDragStyle s.dragAction (processExceptionDragStyle origin style) = s.real

/-- While the style is a move, a key event without the control key comes when it does not make a
copy of it, and one that changes that has both its tasks posted. -/
def KeyInTurn (keyEvent : KeyEvent) (posts : Posts) (s : DragStyle) : Prop :=
  keyEvent.keyCode ≠ codes.KEYCODE_ESCAPE → s.dragStyle = .move →
    match ctrlItem codes keyEvent with
    | none => s.dragAction = .move
    | some item =>
        (item.pressed = true ↔ s.dragAction = .copy) ∨ posts = { notify := true, draw := true }

/-- The calls that no pending task belies. -/
def InTurn (call : StyleCall) (s : DragStyle) : Prop :=
  match call with
  | .updateDragStyle style _ eventId => s.UpdateInTurn origin style eventId
  | .keyEvent keyEvent posts => s.KeyInTurn codes keyEvent posts
  | .runTask => True

/-! ### What the pending tasks come to -/

/-- The style that is drawn when the tasks have run. -/
def eventuallyDrawn (s : DragStyle) : DragCursorStyle :=
  (s.tasks.filterMap StyleTask.draws).getLastD s.drawn

/-- The style that the listeners have been told when the tasks have run. -/
def eventuallyNotified (s : DragStyle) : DragCursorStyle :=
  (s.tasks.filterMap StyleTask.notifies).getLastD s.notified

/-- The effective style is what the pending tasks come to. -/
structure Settles (s : DragStyle) : Prop where
  drawn : s.eventuallyDrawn = s.real
  notified : s.eventuallyNotified = s.real

theorem getLastD_cases (styles : List DragCursorStyle) :
    styles = [] ∨ ∃ last, ∀ style, styles.getLastD style = last := by
  cases styles with
  | nil => exact .inl rfl
  | cons style styles => exact .inr ⟨_, fun _ => rfl⟩

/-- A task that is pending draws or tells its style in the end, whatever came before. -/
theorem pending_cases {tasks : List StyleTask} (pending : tasks ≠ []) :
    tasks.filterMap StyleTask.draws ≠ [] ∨ tasks.filterMap StyleTask.notifies ≠ [] := by
  cases tasks with
  | nil => exact absurd rfl pending
  | cons task tasks =>
    cases task with
    | styleChangedNotify style => exact .inr (by simp [StyleTask.notifies])
    | updateDragStyle style => exact .inl (by simp [StyleTask.draws])

variable {s : DragStyle}

@[simp] theorem eventuallyDrawn_runTask (s : DragStyle) :
    s.runTask.eventuallyDrawn = s.eventuallyDrawn := by
  rcases s with ⟨_, _, _, _, _, _, _ | ⟨_ | _, _⟩⟩
  · rfl
  · rfl
  · exact (List.getLastD_cons ..).symm

@[simp] theorem eventuallyNotified_runTask (s : DragStyle) :
    s.runTask.eventuallyNotified = s.eventuallyNotified := by
  rcases s with ⟨_, _, _, _, _, _, _ | ⟨_ | _, _⟩⟩
  · rfl
  · exact (List.getLastD_cons ..).symm
  · rfl

@[simp] theorem real_runTask (s : DragStyle) : s.runTask.real = s.real := by
  rcases s with ⟨_, _, _, _, _, _, _ | ⟨_ | _, _⟩⟩ <;> rfl

theorem tasks_runTask (s : DragStyle) : s.runTask.tasks = s.tasks.tail := by
  rcases s with ⟨_, _, _, _, _, _, _ | ⟨_ | _, _⟩⟩ <;> rfl

theorem Settles.runTask (h : Settles s) : Settles s.runTask := by
  constructor
  · rw [eventuallyDrawn_runTask, real_runTask]
    exact h.drawn
  · rw [eventuallyNotified_runTask, real_runTask]
    exact h.notified

/-- Running the pending tasks leaves what they come to, and the effective style. -/
theorem runTasks (n : ℕ) (s : DragStyle) :
    let s' := runFrom (step codes origin) s (List.replicate n .runTask)
    s'.tasks = s.tasks.drop n ∧ s'.real = s.real ∧ s'.eventuallyDrawn = s.eventuallyDrawn ∧
      s'.eventuallyNotified = s.eventuallyNotified := by
  induction n generalizing s with
  | zero => exact ⟨rfl, rfl, rfl, rfl⟩
  | succ n ih =>
    obtain ⟨tasks, same, drawn, notified⟩ := ih s.runTask
    rw [tasks_runTask] at tasks
    rw [real_runTask] at same
    rw [eventuallyDrawn_runTask] at drawn
    rw [eventuallyNotified_runTask] at notified
    exact ⟨tasks.trans List.drop_tail, same, drawn, notified⟩

theorem effective_drained_iff (s : DragStyle) :
    (s.drained codes origin).Effective ↔ s.Settles := by
  obtain ⟨tasks, same, drawn, notified⟩ := runTasks codes origin s.tasks.length s
  have none : (s.drained codes origin).tasks = [] := tasks.trans List.drop_length
  have drawn' : (s.drained codes origin).drawn = s.eventuallyDrawn := by
    rw [← drawn, eventuallyDrawn, show (runFrom _ s _).tasks = [] from none]
    rfl
  have notified' : (s.drained codes origin).notified = s.eventuallyNotified := by
    rw [← notified, eventuallyNotified, show (runFrom _ s _).tasks = [] from none]
    rfl
  have real' : (s.drained codes origin).real = s.real := same
  constructor
  · intro effective
    obtain ⟨drawn, notified⟩ := effective none
    rw [drawn', real'] at drawn
    rw [notified', real'] at notified
    exact ⟨drawn, notified⟩
  · rintro settles -
    rw [drawn', notified', real']
    exact ⟨settles.drawn, settles.notified⟩

theorem Settles.effective (h : Settles s) : s.Effective := by
  intro none
  have drawn := h.drawn
  have notified := h.notified
  rw [eventuallyDrawn, none] at drawn
  rw [eventuallyNotified, none] at notified
  exact ⟨drawn, notified⟩

/-! ### Tasks that are posted -/

/-- One task more. -/
def post (task : StyleTask) (s : DragStyle) : DragStyle := { s with tasks := s.tasks ++ [task] }

theorem eventuallyDrawn_post (task : StyleTask) (s : DragStyle) :
    (s.post task).eventuallyDrawn = task.draws.getD s.eventuallyDrawn := by
  cases task with
  | styleChangedNotify style =>
    simp only [eventuallyDrawn, post, List.filterMap_append, StyleTask.draws, List.filterMap_cons,
      List.filterMap_nil, List.append_nil, Option.getD_none]
  | updateDragStyle style =>
    simp only [eventuallyDrawn, post, List.filterMap_append, StyleTask.draws, List.filterMap_cons,
      List.filterMap_nil, List.getLastD_concat, Option.getD_some]

theorem eventuallyNotified_post (task : StyleTask) (s : DragStyle) :
    (s.post task).eventuallyNotified = task.notifies.getD s.eventuallyNotified := by
  cases task with
  | styleChangedNotify style =>
    simp only [eventuallyNotified, post, List.filterMap_append, StyleTask.notifies,
      List.filterMap_cons, List.filterMap_nil, List.getLastD_concat, Option.getD_some]
  | updateDragStyle style =>
    simp only [eventuallyNotified, post, List.filterMap_append, StyleTask.notifies,
      List.filterMap_cons, List.filterMap_nil, List.append_nil, Option.getD_none]

/-- What the tasks of a key event come to, behind those that are pending. -/
theorem post_eventually (s : DragStyle) (posts : Posts) (style : DragCursorStyle)
    {action : DragAction} (other : action ≠ s.dragAction) :
    let s' := (s.ctrlKeyStyleChangedNotify posts style action).handleCtrlKeyEvent posts style action
    s'.dragStyle = s.dragStyle ∧
      s'.eventuallyDrawn = (if posts.draw then style else s.eventuallyDrawn) ∧
      s'.eventuallyNotified = (if posts.notify then style else s.eventuallyNotified) := by
  have notify : s.ctrlKeyStyleChangedNotify posts style action =
      if posts.notify then s.post (.styleChangedNotify style) else s := by
    cases on : posts.notify <;> simp [ctrlKeyStyleChangedNotify, other, on, post]
  have draw (s' : DragStyle) (same : s'.dragAction = s.dragAction) :
      s'.handleCtrlKeyEvent posts style action =
        if posts.draw then s'.post (.updateDragStyle style) else s' := by
    cases on : posts.draw <;> simp [handleCtrlKeyEvent, other, on, post, same]
  rw [notify, draw _ (by split_ifs <;> rfl)]
  refine ⟨by split_ifs <;> rfl, ?_, ?_⟩
  · split_ifs <;> simp only [eventuallyDrawn_post] <;> rfl
  · split_ifs <;> simp only [eventuallyNotified_post] <;> rfl

/-! ### What a call leaves behind -/

/-- A style that is drawn and told at once is overtaken by the tasks that are pending. -/
theorem settles_onUpdate_iff (h : Settles s) {s' : DragStyle} (tasks : s'.tasks = s.tasks)
    (drawn : s'.drawn = s'.real) (notified : s'.notified = s'.real) :
    s'.Settles ↔ s.tasks = [] ∨ s'.real = s.real := by
  have drawn' : s'.eventuallyDrawn = (s.tasks.filterMap StyleTask.draws).getLastD s'.real := by
    rw [eventuallyDrawn, tasks, drawn]
  have notified' :
      s'.eventuallyNotified = (s.tasks.filterMap StyleTask.notifies).getLastD s'.real := by
    rw [eventuallyNotified, tasks, notified]
  constructor
  · intro settles
    by_cases none : s.tasks = []
    · exact .inl none
    · right
      rcases pending_cases none with draws | notifies
      · obtain ⟨last, same⟩ := (getLastD_cases _).resolve_left draws
        calc s'.real = s'.eventuallyDrawn := settles.drawn.symm
          _ = last := drawn'.trans (same _)
          _ = s.eventuallyDrawn := (same _).symm
          _ = s.real := h.drawn
      · obtain ⟨last, same⟩ := (getLastD_cases _).resolve_left notifies
        calc s'.real = s'.eventuallyNotified := settles.notified.symm
          _ = last := notified'.trans (same _)
          _ = s.eventuallyNotified := (same _).symm
          _ = s.real := h.notified
  · rintro (none | same)
    · constructor
      · rw [drawn', none]
        rfl
      · rw [notified', none]
        rfl
    · constructor
      · rw [drawn']
        rcases getLastD_cases (s.tasks.filterMap StyleTask.draws) with none | ⟨last, const⟩
        · rw [none]
          rfl
        · rw [const, ← const s.drawn, same]
          exact h.drawn
      · rw [notified']
        rcases getLastD_cases (s.tasks.filterMap StyleTask.notifies) with none | ⟨last, const⟩
        · rw [none]
          rfl
        · rw [const, ← const s.notified, same]
          exact h.notified

/-- Telling the same style once more changes nothing. -/
theorem Settles.renotify (h : Settles s) {s' : DragStyle} (tasks : s'.tasks = s.tasks)
    (drawn : s'.drawn = s.drawn) (same : s'.real = s.real)
    (notified : s'.notified = s.notified ∨ s'.notified = s.real) : Settles s' := by
  constructor
  · rw [eventuallyDrawn, tasks, drawn, same]
    exact h.drawn
  · rw [eventuallyNotified, tasks, same]
    rcases notified with notified | notified
    · rw [notified]
      exact h.notified
    · rw [notified]
      rcases getLastD_cases (s.tasks.filterMap StyleTask.notifies) with none | ⟨last, const⟩
      · rw [none]
        rfl
      · rw [const, ← const s.notified]
        exact h.notified

theorem Settles.updateDragStyle_iff (h : Settles s) (style : DragCursorStyle)
    (targetPid eventId : ℤ) :
    (s.updateDragStyle origin style targetPid eventId).Settles ↔
      s.UpdateInTurn origin style eventId := by
  unfold updateDragStyle UpdateInTurn
  by_cases early : eventId ≠ -1 ∧ eventId < s.lastEventId
  · rw [if_pos early]
    exact iff_of_true h (.inl early)
  rw [if_neg early, or_iff_right early]
  by_cases same : processExceptionDragStyle origin style = s.dragStyle
  · have real' :
        getRealDragStyle s.dragAction (processExceptionDragStyle origin style) = s.real := by
      rw [same, real]
    rw [if_pos same]
    refine iff_of_true ?_ (.inr real')
    split_ifs
    · exact h.renotify rfl rfl rfl (.inr real')
    · exact h.renotify rfl rfl rfl (.inl rfl)
  · rw [if_neg same]
    exact settles_onUpdate_iff h rfl rfl rfl

theorem settles_iff (s : DragStyle) :
    s.Settles ↔ s.eventuallyDrawn = s.real ∧ s.eventuallyNotified = s.real :=
  ⟨fun h => ⟨h.drawn, h.notified⟩, fun h => ⟨h.1, h.2⟩⟩

/-- Another action changes the effective style of a move. -/
theorem Settles.setAction_iff (h : Settles s) (action : DragAction) :
    ({ s with dragAction := action } : DragStyle).Settles ↔
      (s.dragStyle = .move → action = s.dragAction) := by
  have drawn : ({ s with dragAction := action } : DragStyle).eventuallyDrawn = s.real := h.drawn
  have notified : ({ s with dragAction := action } : DragStyle).eventuallyNotified = s.real :=
    h.notified
  rw [settles_iff, drawn, notified, and_self, real, real]
  rcases s with ⟨_ | _ | _ | _, _ | _, _, _, _, _, _⟩ <;> cases action <;>
    simp [getRealDragStyle]

/-- Tasks that make the new action effective settle it if both are posted, unless it makes no
difference. -/
theorem Settles.post_iff (h : Settles s) (posts : Posts) {style : DragCursorStyle}
    {action : DragAction} (new : getRealDragStyle action s.dragStyle = style) :
    ({ (s.ctrlKeyStyleChangedNotify posts style action).handleCtrlKeyEvent posts style action with
        dragAction := action } : DragStyle).Settles ↔
      action = s.dragAction ∨ style = s.real ∨ posts = { notify := true, draw := true } := by
  by_cases same : action = s.dragAction
  · have kept : (s.ctrlKeyStyleChangedNotify posts style action).handleCtrlKeyEvent posts style
        action = s := by
      simp [ctrlKeyStyleChangedNotify, handleCtrlKeyEvent, same]
    rw [kept, same]
    exact iff_of_true h (.inl rfl)
  · obtain ⟨stored, drawn, notified⟩ := post_eventually s posts style same
    generalize (s.ctrlKeyStyleChangedNotify posts style action).handleCtrlKeyEvent posts style
      action = s' at *
    have drawn' : ({ s' with dragAction := action } : DragStyle).eventuallyDrawn =
        if posts.draw then style else s.real := by rw [← h.drawn, ← drawn]; rfl
    have notified' : ({ s' with dragAction := action } : DragStyle).eventuallyNotified =
        if posts.notify then style else s.real := by rw [← h.notified, ← notified]; rfl
    have real' : ({ s' with dragAction := action } : DragStyle).real = style := by
      rw [real, ← new, stored]
    rw [settles_iff, drawn', notified', real']
    rcases posts with ⟨_ | _, _ | _⟩ <;> simp [same, eq_comm]

theorem Settles.dragKeyEventCallback_iff (h : Settles s) (posts : Posts) (keyEvent : KeyEvent) :
    (s.dragKeyEventCallback codes posts keyEvent).Settles ↔ s.KeyInTurn codes keyEvent posts := by
  unfold dragKeyEventCallback KeyInTurn
  by_cases escape : keyEvent.keyCode = codes.KEYCODE_ESCAPE
  · rw [if_pos escape]
    exact iff_of_true h fun other => absurd escape other
  have other : (keyEvent.keyCode ≠ codes.KEYCODE_ESCAPE → s.dragStyle = .move →
      match ctrlItem codes keyEvent with
      | none => s.dragAction = .move
      | some item => (item.pressed = true ↔ s.dragAction = .copy) ∨ posts = {}) ↔ _ :=
    forall_prop_of_true escape
  rw [if_neg escape, other]
  cases found : ctrlItem codes keyEvent with
  | none =>
    exact (h.setAction_iff .move).trans (by simp only [eq_comm])
  | some item =>
    dsimp only
    by_cases bare : s.dragStyle = .default ∨ s.dragStyle = .forbidden
    · rw [if_pos bare]
      refine iff_of_true ((h.setAction_iff .move).mpr fun move => ?_) fun move => ?_
      · simp [move] at bare
      · simp [move] at bare
    rw [if_neg bare]
    have move : s.dragStyle ≠ .copy → s.dragStyle = .move := by
      cases style : s.dragStyle <;> simp_all
    cases pressed : item.pressed with
    | false =>
      refine (h.post_iff posts (by simp [getRealDragStyle])).trans ?_
      by_cases copy : s.dragStyle = .copy
      · simp [copy, real, getRealDragStyle]
      · cases action : s.dragAction <;> simp [move copy, action, real, getRealDragStyle]
    | true =>
      by_cases copy : s.dragStyle = .copy
      · rw [if_neg (by simp), if_pos copy]
        exact iff_of_true h fun move => by simp [move] at copy
      · rw [if_neg (by simp), if_neg copy]
        refine (h.post_iff posts (by simp [getRealDragStyle, move copy])).trans ?_
        cases action : s.dragAction <;> simp [move copy, action, real, getRealDragStyle]

theorem Settles.step_iff (h : Settles s) (call : StyleCall) :
    (s.step codes origin call).Settles ↔ InTurn codes origin call s := by
  cases call with
  | updateDragStyle style targetPid eventId =>
    exact h.updateDragStyle_iff origin style targetPid eventId
  | keyEvent keyEvent posts => exact h.dragKeyEventCallback_iff codes posts keyEvent
  | runTask => exact iff_of_true h.runTask trivial

/-- The style that is drawn and told is the effective one whenever no task is pending, also when the
pending tasks have run, exactly in the runs whose calls come in turn. -/
theorem drag_style_effective_iff (style : DragCursorStyle) (action : DragAction)
    (lastEventId targetPid : ℤ) (calls : List StyleCall) :
    EachStep (step codes origin)
        (fun call s => (s.step codes origin call).Effective ∧
          ((s.step codes origin call).drained codes origin).Effective)
        (setDragStateStart style action lastEventId targetPid) calls ↔
      EachStep (step codes origin) (InTurn codes origin)
        (setDragStateStart style action lastEventId targetPid) calls := by
  refine EachStep.iff_of_invariant (I := Settles) ?_ ?_ ⟨rfl, rfl⟩
  · intro call s h inTurn
    exact (h.step_iff codes origin call).mpr inTurn
  · intro call s h
    rw [effective_drained_iff, ← h.step_iff codes origin call]
    exact ⟨And.right, fun settles => ⟨settles.effective, settles⟩⟩

/-- Control is pressed while the style is a move; before the tasks run the target forbids the
drop. -/
theorem drag_style_overtaken :
    ¬ ∀ (codes : DragKeyCodes) (origin : DragOrigin) (style : DragCursorStyle)
      (action : DragAction) (lastEventId targetPid : ℤ) (calls : List StyleCall),
      EachStep (step codes origin) (fun call s => (s.step codes origin call).Effective)
        (setDragStateStart style action lastEventId targetPid) calls := by
  intro h
  let before : List StyleCall :=
    [.keyEvent { keyCode := 2072, keyItems := [{ keyCode := 2072, pressed := true }] } {},
      .updateDragStyle .forbidden 100 1, .runTask]
  have effective :=
    h {} {} .move .move (-1) (-1) (before ++ [.runTask]) before .runTask List.prefix_rfl
  exact absurd (effective (by decide)).1 (by decide)

end DragStyle

end DeviceStatus.Drag
