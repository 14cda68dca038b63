import DeviceStatus.Drag.StyleUpdates

/-!
# The behaviour of a drop

A drop that succeeds and names no behaviour copies or moves what is dragged: it copies when the
style is a copy or the control key made the action one, and else whatever is dropped in another
window than it comes from. `StopDrag` resets the action before it asks for the behaviour. This is
the build without `OHOS_BUILD_ENABLE_ARKUI_X`.

## Main definitions

* `DropResult`, `DragNotifyMsg` — what `StopDrag` is given, and what it tells the process.
* `Drop`, `Drop.next` — the style and the action of one drag after the other.
* `Drop.Honours` — the behaviour that is told is the one that the user chose.
* `Drop.Unaffected` — the action makes no difference to the behaviour of the drop.
-/

namespace DeviceStatus.Drag

open Transition.System
open Cooperation (DragState)
open InputEvents (KeyEvent KeyItem)

/-- `enum class DragBehavior`. -/
inductive DragBehavior where
  | unknown | copy | move
  deriving DecidableEq

/-- The result of a drop, with what `GetDragBehavior` reads of it. -/
structure DropResult extends DragDropResult where
  mainWindow : ℤ := -1
  dragBehavior : DragBehavior := .unknown
  deriving DecidableEq

/-- What `StopDrag` reads of the drag data. -/
structure DropData where
  displayX : ℤ := -1
  displayY : ℤ := -1
  mainWindow : ℤ := -1
  deriving DecidableEq

/-- The packet of `NotifyDragResult`. -/
structure DragNotifyMsg where
  displayX : ℤ := -1
  displayY : ℤ := -1
  result : DragResult := .dragFail
  targetPid : ℤ := -1
  dragBehavior : DragBehavior := .unknown
  dragAnimationType : ℤ := 0
  deriving DecidableEq

/-- A call of `StartDrag`, with what it meets. -/
structure DropStart where
  dragData : DropData := {}
  origin : DragOrigin := {}
  dragAnimationType : ℤ := -1
  /-- whether the process that starts the drag has a session -/
  dragOutSession : Bool := true
  isDrawing : Bool := false
  /-- whether `OnStartDrag` succeeds -/
  prepares : Bool := true
  deliversNonce : Bool := true

inductive DropCall where
  | startDrag (start : DropStart)
  | updateDragStyle (call : StyleUpdate)
  | keyEvent (keyEvent : KeyEvent)
  | setDragState (state : DragState)
  | stopDrag (dropResult : DropResult)

structure Drop extends StoredStyle where
  dragStyle := DragCursorStyle.default.code
  dragAction : DragAction := .move
  dragState : DragState := .stop
  origin : DragOrigin := {}
  dragData : DropData := {}
  dragAnimationType : ℤ := 0
  dragOutSession : Bool := false

namespace Drop

variable (codes : DragKeyCodes)

def setDragState (state : DragState) (s : Drop) : Drop :=
  if s.dragState = .stop ∧ state = .motionDragging then s else { s with dragState := state }

/-- The style is left as an earlier call has stored it. -/
def startDrag (start : DropStart) (s : Drop) : Drop :=
  if s.dragState = .start ∨ s.dragState = .motionDragging ∨ start.isDrawing = true then s
  else
    let begun := { s with
      origin := start.origin, dragData := start.dragData, targetPid := -1, targetTid := -1
      dragOutSession := start.dragOutSession }
    if start.prepares = false then begun
    else
      let prepared := { begun with dragAction := .move }
      if start.deliversNonce = false then prepared
      else { prepared with dragAnimationType := start.dragAnimationType }.setDragState .start

def updateDragStyle (call : StyleUpdate) (s : Drop) : Drop :=
  { s with
    toStoredStyle :=
      (s.toStoredStyle.updateDragStyle s.origin { call with dragState := s.dragState }).2 }

/-- `DragKeyEventCallback`, for any number of a style. -/
def dragKeyEventCallback (keyEvent : KeyEvent) (s : Drop) : Drop :=
  if keyEvent.keyCode = codes.KEYCODE_ESCAPE then s
  else
    match DragStyle.ctrlItem codes keyEvent with
    | none => { s with dragAction := .move }
    | some item =>
      if s.dragStyle = DragCursorStyle.default.code ∨
          s.dragStyle = DragCursorStyle.forbidden.code then { s with dragAction := .move }
      else if !item.pressed then { s with dragAction := .move }
      else if s.dragStyle = DragCursorStyle.copy.code then s
      else { s with dragAction := .copy }

/-- `OnStopDrag`, once the monitors are removed. -/
def onStopDrag (s : Drop) : Drop := { s with dragAction := .move }

def getDragBehavior (dropResult : DropResult) (s : Drop) : DragBehavior :=
  if dropResult.result ≠ .dragSuccess then .unknown
  else if dropResult.dragBehavior = .unknown then
    if s.dragStyle = DragCursorStyle.copy.code then .copy
    else if s.dragAction = .copy then .copy
    else if dropResult.mainWindow = s.dragData.mainWindow then .move
    else .copy
  else dropResult.dragBehavior

/-- The message that the session is sent, if there is one. -/
def notifyDragResult (result : DragResult) (dragBehavior : DragBehavior) (s : Drop) :
    Option DragNotifyMsg :=
  let pkt : DragNotifyMsg :=
    { displayX := s.dragData.displayX, displayY := s.dragData.displayY, result
      targetPid := s.targetPid, dragBehavior, dragAnimationType := s.dragAnimationType }
  if s.dragOutSession then some pkt else none

/-- What is left of a drag. -/
def resetDragData (s : Drop) : Drop :=
  { s with
    dragData := {}, dragStyle := DragCursorStyle.default.code, targetPid := -1, targetTid := -1
    origin := { s.origin with summaryTag := [] } }

/-- What the process is told, and the state afterwards. -/
def stopDrag (dropResult : DropResult) (s : Drop) : Option DragNotifyMsg × Drop :=
  let s := { s with
    origin := { s.origin with isCrossDragging := false, isCollaborationService := false } }
  if s.dragState = .stop then (none, s)
  else
    let stopped := s.onStopDrag
    let dragBehavior := stopped.getDragBehavior dropResult
    (stopped.notifyDragResult dropResult.result dragBehavior,
      { { stopped with lastEventId := -1 }.resetDragData.setDragState .stop with
        dragOutSession := false })

def next (call : DropCall) (s : Drop) : Drop :=
  match call with
  | .startDrag start => s.startDrag start
  | .updateDragStyle call => s.updateDragStyle call
  | .keyEvent keyEvent => s.dragKeyEventCallback codes keyEvent
  | .setDragState state => s.setDragState state
  | .stopDrag dropResult => (s.stopDrag dropResult).2

/-- The behaviour of a drop in a window. -/
def chosenBehavior (mainWindow : ℤ) (s : Drop) : DragBehavior :=
  if s.dragStyle = DragCursorStyle.copy.code ∨ s.dragAction = .copy then .copy
  else if mainWindow = s.dragData.mainWindow then .move
  else .copy

/-- The drag is running, its process has a session, and the drop succeeds and names no behaviour. -/
structure Asks (dropResult : DropResult) (s : Drop) : Prop where
  running : s.dragState ≠ .stop
  dragOutSession : s.dragOutSession = true
  result : dropResult.result = .dragSuccess
  dragBehavior : dropResult.dragBehavior = .unknown

/-- A drop that succeeds and names no behaviour has the one that the user chose. -/
def Honours (call : DropCall) (s : Drop) : Prop :=
  ∀ dropResult, call = .stopDrag dropResult → dropResult.result = .dragSuccess →
    dropResult.dragBehavior = .unknown → ∀ msg ∈ (s.stopDrag dropResult).1,
      msg.dragBehavior = s.chosenBehavior dropResult.mainWindow

/-- The action is a move when the process is told of a drop in the window in which the drag
started, unless the style is a copy. -/
def Unaffected (call : DropCall) (s : Drop) : Prop :=
  ∀ dropResult, call = .stopDrag dropResult → s.Asks dropResult →
    s.dragStyle = DragCursorStyle.copy.code ∨ s.dragAction = .move ∨
      dropResult.mainWindow ≠ s.dragData.mainWindow

variable {codes} {s : Drop} {dropResult : DropResult}

/-! ### The key events of a drag -/

/-- The drag of a style that is one of the four. -/
def ofDragStyle (targetTid : ℤ) (s : DragStyle) : Drop :=
  { StoredStyle.ofDragStyle targetTid s with dragAction := s.dragAction, dragState := .start }

/-- The key monitor leaves the action that it leaves in `DragStyle`, whichever tasks it posts. -/
theorem dragKeyEventCallback_ofDragStyle (s : DragStyle) (tid : ℤ) (posts : Posts)
    (keyEvent : KeyEvent) :
    ((ofDragStyle tid s).dragKeyEventCallback codes keyEvent).dragAction =
      (s.dragKeyEventCallback codes posts keyEvent).dragAction := by
  unfold dragKeyEventCallback DragStyle.dragKeyEventCallback
  by_cases escape : keyEvent.keyCode = codes.KEYCODE_ESCAPE
  · rw [if_pos escape, if_pos escape]
    rfl
  rw [if_neg escape, if_neg escape]
  cases DragStyle.ctrlItem codes keyEvent with
  | none => rfl
  | some item =>
    cases pressed : item.pressed <;> cases style : s.dragStyle <;>
      simp [ofDragStyle, StoredStyle.ofDragStyle, style, pressed, DragCursorStyle.code]

/-! ### What a drop comes to -/

/-- The process is told a behaviour when it is asked for one. -/
theorem asks_of_told {msg : DragNotifyMsg} (success : dropResult.result = .dragSuccess)
    (unknown : dropResult.dragBehavior = .unknown) (told : msg ∈ (s.stopDrag dropResult).1) :
    s.Asks dropResult := by
  by_cases stopped : s.dragState = .stop
  · simp [stopDrag, stopped] at told
  cases session : s.dragOutSession with
  | false => simp [stopDrag, stopped, onStopDrag, notifyDragResult, session] at told
  | true => exact ⟨stopped, session, success, unknown⟩

/-- What is told once the action has been reset. -/
theorem Asks.told (h : s.Asks dropResult) :
    ∃ msg, (s.stopDrag dropResult).1 = some msg ∧
      msg.dragBehavior = s.onStopDrag.chosenBehavior dropResult.mainWindow := by
  refine ⟨_, (congrArg Prod.fst (if_neg h.running)).trans (if_pos h.dragOutSession), ?_⟩
  have asked : s.onStopDrag.getDragBehavior dropResult = _ :=
    (if_neg (not_not.mpr h.result)).trans (if_pos h.dragBehavior)
  refine asked.trans ?_
  simp [chosenBehavior, onStopDrag]

/-- Resetting the action changes the behaviour of a drop in the window of the drag. -/
theorem chosenBehavior_onStopDrag_iff (mainWindow : ℤ) :
    s.onStopDrag.chosenBehavior mainWindow = s.chosenBehavior mainWindow ↔
      s.dragStyle = DragCursorStyle.copy.code ∨ s.dragAction = .move ∨
        mainWindow ≠ s.dragData.mainWindow := by
  by_cases copy : s.dragStyle = DragCursorStyle.copy.code
  · simp [chosenBehavior, onStopDrag, copy]
  by_cases window : mainWindow = s.dragData.mainWindow
  · cases action : s.dragAction <;> simp [chosenBehavior, onStopDrag, copy, action, window]
  · cases action : s.dragAction <;> simp [chosenBehavior, onStopDrag, copy, action, window]

theorem honours_iff (call : DropCall) (s : Drop) : s.Honours call ↔ s.Unaffected call := by
  constructor
  · intro honours dropResult isDrop asks
    obtain ⟨msg, sent, told⟩ := asks.told
    rw [← chosenBehavior_onStopDrag_iff, ← told]
    exact honours dropResult isDrop asks.result asks.dragBehavior msg sent
  · intro unaffected dropResult isDrop success unknown msg sent
    have asks := asks_of_told success unknown sent
    obtain ⟨msg', sent', told⟩ := asks.told
    obtain rfl : msg' = msg := Option.some.inj (sent'.symm.trans sent)
    exact told.trans ((chosenBehavior_onStopDrag_iff _).mpr (unaffected dropResult isDrop asks))

/-- Every drop has the behaviour that the user chose exactly in the runs in which the action makes
no difference to it. -/
theorem drop_honours_iff (start : Drop) (calls : List DropCall) :
    EachStep (next codes) Honours start calls ↔ EachStep (next codes) Unaffected start calls :=
  EachStep.iff_of_invariant (I := fun _ => True) (fun _ _ _ _ => trivial)
    (fun call s _ => honours_iff call s) trivial

/-- Control is held while a move is dropped in the window that it comes from. -/
theorem drop_ignores_control :
    ¬ ∀ (codes : DragKeyCodes) (calls : List DropCall),
      EachStep (next codes) Honours {} calls := by
  intro h
  let before : List DropCall :=
    [.startDrag { dragData := { mainWindow := 7 } },
      .updateDragStyle { style := DragCursorStyle.move.code, targetPid := 100, eventId := 1 },
      .keyEvent { keyCode := 2072, keyItems := [{ keyCode := 2072, pressed := true }] }]
  let drop : DropResult := { result := .dragSuccess, mainWindow := 7 }
  let told : DragNotifyMsg :=
    { result := .dragSuccess, targetPid := 100, dragBehavior := .move, dragAnimationType := -1 }
  have honours := h {} (before ++ [.stopDrag drop]) before (.stopDrag drop) List.prefix_rfl
  exact absurd (honours drop rfl rfl rfl told (by decide)) (by decide)

end Drop

end DeviceStatus.Drag
