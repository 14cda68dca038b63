import DeviceStatus.Cooperate.Context
import DeviceStatus.Drag.DragSecurity
import DeviceStatus.Timer.TimerClient
import Mathlib.Data.Finset.Basic

/-!
# The drag manager

`DragManager` runs one drag at a time. A drag needs a window that `DragDrawing` draws, two
monitors at the input service, which a process may also have had registered ahead of a drag with
the mouse, a timer that ends it when nobody stops it after the release, and a nonce by which a
process proves that the release was its own. This is the build without
`OHOS_BUILD_ENABLE_ARKUI_X`.

## Main definitions

* `InputService`, `StartEnv`, `StopEnv` — what the calls to other components bring.
* `DragMonitors` — the two monitors and their ids.
* `DragManager` — the state.
* `DragManager.startDrag`, `DragManager.stopDrag`, `DragManager.onDragUp`,
  `DragManager.setMouseDragMonitorState` — the life of a drag.
* `DragManager.addPrivilege`, `DragManager.getUdKey` — the process that may have the data.
* `DragCall`, `DragManager.next` — the calls, the timers and what they return.
-/

namespace DeviceStatus.Drag

open Cooperation (DragState)
open Timers (TimerClient ForeignCall)

def TIMEOUT_MS : ℤ := 3000
def NEED_FETCH : StdString := "NEED_FETCH".toUTF8.toList

/-- `enum class DragResult`. -/
inductive DragResult where
  | dragSuccess | dragFail | dragCancel | dragException
  deriving DecidableEq

inductive DragAnimationType where
  | default | followHandMorph
  deriving DecidableEq

structure DragDropResult where
  result : DragResult := .dragFail
  hasCustomAnimation : Bool := false
  deriving DecidableEq

/-- The drag data that a process hands over, with what `DragManager` reads of it besides. -/
structure StartDragData (PixelMap : Type) extends DragData PixelMap where
  summaryTag : StdString := []
  /-- `none` for a number that names no animation -/
  dragAnimationType : Option DragAnimationType := none

/-- The names that the manager compares with, and the code behind the signatures. -/
structure DragContext (Double : Type) where
  SOURCE_TYPE_MOUSE : Int32 := 1
  SOURCE_TYPE_TOUCHSCREEN : Int32 := 2
  /-- the bundle name that the configuration has for `DEVICE_COLLABORATION` -/
  deviceCollaboration : String
  crypto : Crypto Double

/-- `InputManager::AddMonitor`, by the monitors that are registered: the id of the new monitor,
which no other has, or an error, which is no positive number. -/
structure InputService where
  addMonitor : Finset ℤ → ℤ
  fresh : ∀ registered, 0 < addMonitor registered → addMonitor registered ∉ registered

/-- A timer of the manager; one that is armed at a release is told by the drag. -/
inductive DragTimer where
  | mouseDragMonitor
  | dragUp (drag : ℕ)
  deriving DecidableEq

/-! ## The window -/

/-- `g_drawingInfo`: whether something is drawn and whether there is a window. -/
structure DragDrawing where
  isRunning : Bool := false
  surfaceNode : Bool := false
  deriving DecidableEq

/-- Whether the render service makes a window, and whether all that is drawn in it is in place. -/
structure RenderService where
  createWindow : Bool := true
  initNodes : Bool := true

inductive InitResult where
  | initSuccess | initFail | initCancel
  deriving DecidableEq

namespace DragDrawing

variable {Double PixelMap : Type} (ctx : DragContext Double)

/-- `DestroyDragWindow` and `UpdateDrawingState`. -/
def destroyDragWindow (_ : DragDrawing) : DragDrawing :=
  { isRunning := false, surfaceNode := false }

def checkDragData (dragData : StartDragData PixelMap) (d : DragDrawing) : InitResult :=
  if d.isRunning then .initCancel
  else if dragData.shadowInfos = [] then .initFail
  else if dragData.shadowInfos.any fun shadowInfo => shadowInfo.pixelMap.isNone then .initFail
  else if dragData.sourceType ≠ ctx.SOURCE_TYPE_MOUSE ∧
      dragData.sourceType ≠ ctx.SOURCE_TYPE_TOUCHSCREEN then .initFail
  else if dragData.dragNum < 0 then .initFail
  else .initSuccess

/-- `Init`. -/
def initDrawing (render : RenderService) (dragData : StartDragData PixelMap) (d : DragDrawing) :
    InitResult × DragDrawing :=
  match checkDragData ctx dragData d with
  | .initSuccess =>
      let drawn : DragDrawing := { isRunning := true, surfaceNode := render.createWindow }
      if !render.createWindow then (.initFail, drawn)
      else if !render.initNodes then (.initFail, drawn)
      else (.initSuccess, drawn)
  | result => (result, d)

end DragDrawing

/-! ## The monitors -/

/-- The monitors by the ids that the manager has of them, and those that the input service has. -/
structure DragMonitors where
  keyEventMonitorId : ℤ := -1
  pointerEventMonitorId : ℤ := -1
  registered : Finset ℤ := ∅

namespace DragMonitors

def addKeyEventMonitor (input : InputService) (w : DragMonitors) : Bool × DragMonitors :=
  if w.keyEventMonitorId ≤ 0 then
    let id := input.addMonitor w.registered
    if id ≤ 0 then (false, { w with keyEventMonitorId := id })
    else (true, { w with keyEventMonitorId := id, registered := insert id w.registered })
  else (false, w)

def addPointerEventHandler (input : InputService) (w : DragMonitors) : Bool × DragMonitors :=
  if w.pointerEventMonitorId ≤ 0 then
    let id := input.addMonitor w.registered
    if id ≤ 0 then (false, { w with pointerEventMonitorId := id })
    else (true, { w with pointerEventMonitorId := id, registered := insert id w.registered })
  else (false, w)

def addDragEventHandler (keyEvents pointerEvents : InputService) (w : DragMonitors) :
    Bool × DragMonitors :=
  let key := w.addKeyEventMonitor keyEvents
  if key.1 then key.2.addPointerEventHandler pointerEvents else (false, key.2)

def removeKeyEventMonitor (w : DragMonitors) : Bool × DragMonitors :=
  if w.keyEventMonitorId ≤ 0 then (false, w)
  else
    (true, { w with
      keyEventMonitorId := -1, registered := w.registered.erase w.keyEventMonitorId })

def removePointerEventHandler (w : DragMonitors) : Bool × DragMonitors :=
  if w.pointerEventMonitorId ≤ 0 then (false, w)
  else
    (true, { w with
      pointerEventMonitorId := -1, registered := w.registered.erase w.pointerEventMonitorId })

def removeDragEventHandler (w : DragMonitors) : DragMonitors :=
  let key := w.removeKeyEventMonitor
  if key.1 then key.2.removePointerEventHandler.2 else key.2

/-- What `OnStopDrag` does: the key monitor stays when there is no pointer monitor. -/
def removeOnStopDrag (w : DragMonitors) : DragMonitors :=
  let pointer := w.removePointerEventHandler
  if pointer.1 then pointer.2.removeKeyEventMonitor.2 else pointer.2

end DragMonitors

/-! ## The state -/

structure DragManager (PixelMap : Type) where
  dragState : DragState := .stop
  dragData : StartDragData PixelMap := {}
  drawing : DragDrawing := {}
  isLongPressDrag : Bool := false
  isCrossDragging : Bool := false
  isCollaborationService : Bool := false
  dragAnimationType : Option DragAnimationType := some .default
  monitors : DragMonitors := {}
  mouseDragMonitorState : Bool := false
  mouseDragMonitorTimerId : ℤ := -1
  timerId : ℤ := -1
  security : DragSecurityManager := {}
  timers : TimerClient DragTimer := {}
  /-- the drags started so far -/
  drags : ℕ := 0
  /-- when the pointer was released in the drag that was started last -/
  releases : List ℤ := []

/-- What `StartDrag` meets: the answers of the other components, `none` where the process has no
session. -/
structure StartEnv where
  programName : Option String := none
  render : RenderService := {}
  appendExtraData : Bool := true
  keyEvents : InputService
  pointerEvents : InputService
  randBytes : RandBytes
  deliverNonce : StdString → Bool := fun _ => true

/-- Whether the drawing goes on with an animation that has yet to end. -/
structure StopEnv where
  animates : Bool := false

namespace DragManager

variable {Double PixelMap : Type} (ctx : DragContext Double)

/-- `START` or `MOTION_DRAGGING`. -/
def Running (m : DragManager PixelMap) : Prop :=
  m.dragState = .start ∨ m.dragState = .motionDragging

instance (m : DragManager PixelMap) : Decidable m.Running :=
  inferInstanceAs (Decidable (_ ∨ _))

/-! ### The mouse monitor -/

/-- Takes the timer of the mouse monitor out, if there is an id to take it out by. -/
def removeMouseDragMonitorTimer (m : DragManager PixelMap) : DragManager PixelMap :=
  if 0 ≤ m.mouseDragMonitorTimerId then
    { m with
      timers := m.timers.removeTimer m.mouseDragMonitorTimerId
      mouseDragMonitorTimerId := -1 }
  else m

def resetMouseDragMonitorTimerId (dragData : StartDragData PixelMap) (m : DragManager PixelMap) :
    DragManager PixelMap :=
  if dragData.sourceType = ctx.SOURCE_TYPE_MOUSE then m.removeMouseDragMonitorTimer else m

def resetMouseDragMonitorInfo (m : DragManager PixelMap) : DragManager PixelMap :=
  { m with
    monitors := m.monitors.removeDragEventHandler
    mouseDragMonitorState := false }.removeMouseDragMonitorTimer

def setMouseDragMonitorState (keyEvents pointerEvents : InputService) (state : Bool)
    (m : DragManager PixelMap) : Bool × DragManager PixelMap :=
  if state then
    let added := m.monitors.addDragEventHandler keyEvents pointerEvents
    if !added.1 then (false, { m with monitors := added.2 })
    else
      let timer := m.timers.addTimer TIMEOUT_MS .mouseDragMonitor
      (true, { m with
        monitors := added.2
        mouseDragMonitorTimerId := timer.1
        timers := timer.2
        mouseDragMonitorState := state })
  else (true, { m.resetMouseDragMonitorInfo with mouseDragMonitorState := state })

/-! ### Starting -/

def getPackageName (env : StartEnv) (pid : ℤ) (isLongPressDrag : Bool) : String :=
  if pid = -1 then if isLongPressDrag then "Long-press drag" else "Cross-device drag"
  else env.programName.getD ""

/-- `SetCrossDragging`. -/
def isCrossDrag (pid : ℤ) (isLongPressDrag : Bool) : Bool := pid = -1 && !isLongPressDrag

/-- The flags that `StartDrag` sets before it does anything that may fail. -/
def beginDrag (env : StartEnv) (pid : ℤ) (isLongPressDrag : Bool) (m : DragManager PixelMap) :
    DragManager PixelMap :=
  { m with
    isLongPressDrag
    isCrossDragging := isCrossDrag pid isLongPressDrag
    isCollaborationService := m.isCollaborationService ||
      getPackageName env pid isLongPressDrag = ctx.deviceCollaboration }

/-- `InitDataManager`, which does not fail. -/
def initDataManager (dragData : StartDragData PixelMap) (m : DragManager PixelMap) :
    DragManager PixelMap :=
  { m with dragData := { dragData with displayId := max dragData.displayId 0 } }

/-- Whether the events of the drag are seen; the window goes when they are not. -/
def addDragEvent (env : StartEnv) (m : DragManager PixelMap) : Bool × DragManager PixelMap :=
  if !env.appendExtraData then (false, { m with drawing := m.drawing.destroyDragWindow })
  else if m.monitors.pointerEventMonitorId ≤ 0 then
    let added := m.monitors.addDragEventHandler env.keyEvents env.pointerEvents
    if !added.1 then
      (false, { m with monitors := added.2, drawing := m.drawing.destroyDragWindow })
    else (true, { m with monitors := added.2 })
  else (true, m)

def onStartDrag (env : StartEnv) (m : DragManager PixelMap) : Bool × DragManager PixelMap :=
  let drawn := m.drawing.initDrawing ctx env.render m.dragData
  match drawn.1 with
  | .initFail => (false, { m with drawing := drawn.2.destroyDragWindow })
  | .initCancel => (false, { m with drawing := drawn.2 })
  | .initSuccess => { m with drawing := drawn.2 }.addDragEvent env

/-- `SetDragState`. -/
def setDragState (state : DragState) (m : DragManager PixelMap) : DragManager PixelMap :=
  if m.dragState = .stop ∧ state = .motionDragging then m else { m with dragState := state }

/-- Whether the call is refused because a drag is running or something is still drawn. -/
def Busy (m : DragManager PixelMap) : Prop := m.Running ∨ m.drawing.isRunning = true

instance (m : DragManager PixelMap) : Decidable m.Busy :=
  inferInstanceAs (Decidable (_ ∨ _))

/-- `StartDrag` from where it asks the other components; the last of them is told the nonce. -/
def proceedDrag (env : StartEnv) (dragData : StartDragData PixelMap) (m : DragManager PixelMap) :
    Bool × DragManager PixelMap :=
  let started := m.onStartDrag ctx env
  if !started.1 then (false, started.2.resetMouseDragMonitorInfo)
  else
    let nonce := started.2.security.deliverNonceToInput ctx.crypto env.randBytes env.deliverNonce
    let delivered := { started.2 with security := nonce.2 }
    if !nonce.1 then (false, delivered)
    else
      let running := { delivered with dragAnimationType := dragData.dragAnimationType }
      (true, { running.setDragState .start with drags := running.drags + 1, releases := [] })

/-- The state in which the other components are asked. -/
def begun (env : StartEnv) (dragData : StartDragData PixelMap) (pid : ℤ) (isLongPressDrag : Bool)
    (m : DragManager PixelMap) : DragManager PixelMap :=
  ((m.resetMouseDragMonitorTimerId ctx dragData).beginDrag ctx env pid isLongPressDrag)
    |>.initDataManager dragData

def startDrag (env : StartEnv) (dragData : StartDragData PixelMap) (pid : ℤ)
    (isLongPressDrag : Bool) (m : DragManager PixelMap) : Bool × DragManager PixelMap :=
  if (m.resetMouseDragMonitorTimerId ctx dragData).Busy then
    (false, m.resetMouseDragMonitorTimerId ctx dragData)
  else (m.begun ctx env dragData pid isLongPressDrag).proceedDrag ctx env dragData

/-! ### Stopping -/

/-- `HandleDragResult`: what is left of the drawing. -/
def handleDragResult (env : StopEnv) (dropResult : DragDropResult) (m : DragManager PixelMap) :
    DragDrawing :=
  let animation := if env.animates then m.drawing else m.drawing.destroyDragWindow
  if m.dragAnimationType = some .followHandMorph then animation
  else
    match dropResult.result with
    | .dragSuccess | .dragFail | .dragCancel =>
        if dropResult.hasCustomAnimation then m.drawing.destroyDragWindow else animation
    | .dragException => m.drawing.destroyDragWindow

def onStopDrag (env : StopEnv) (dropResult : DragDropResult) (m : DragManager PixelMap) :
    DragManager PixelMap :=
  { m with
    monitors := m.monitors.removeOnStopDrag
    drawing := m.handleDragResult env dropResult }

/-- Takes the timer out that ends the drag, unless it is that timer which stops the drag. -/
def removeDragUpTimer (dropResult : DragDropResult) (m : DragManager PixelMap) :
    DragManager PixelMap :=
  if dropResult.result ≠ .dragException ∧ 0 ≤ m.timerId then
    { m with timers := m.timers.removeTimer m.timerId, timerId := -1 }
  else m

def stopDrag (env : StopEnv) (dropResult : DragDropResult) (m : DragManager PixelMap) :
    Bool × DragManager PixelMap :=
  let m := { m with isCrossDragging := false, isCollaborationService := false }
  if m.dragState = .stop then (false, m)
  else
    let stopped := (m.removeDragUpTimer dropResult).onStopDrag env dropResult
    let reset := { stopped with
      mouseDragMonitorState := false, isLongPressDrag := false, dragData := {} }
    let ended := reset.setDragState .stop
    (true, { ended with security := ended.security.resetSecurityPid })

def onDragUp (m : DragManager PixelMap) : Bool × DragManager PixelMap :=
  if m.dragState ≠ .start then (false, m)
  else
    let timer := m.timers.addTimer TIMEOUT_MS (.dragUp m.drags)
    (true, { m with
      timerId := timer.1, timers := timer.2, releases := m.timers.clock :: m.releases })

/-- What `OnDragUp` leaves to its timer. -/
def automaticResult : DragDropResult := { result := .dragException, hasCustomAnimation := false }

/-- The callback of a timer. -/
def onTimer (env : StopEnv) (timer : DragTimer) (m : DragManager PixelMap) :
    DragManager PixelMap :=
  match timer with
  | .mouseDragMonitor => m.resetMouseDragMonitorInfo
  | .dragUp _ => (m.stopDrag env automaticResult).2

def turn (env : StopEnv) (m : DragManager PixelMap) : DragManager PixelMap :=
  let turned := m.timers.turn
  match turned.1 with
  | none => { m with timers := turned.2 }
  | some timer => { m with timers := turned.2 }.onTimer env timer

/-! ### The data -/

/-- Whether the call gets past the verification, after which the process is granted the data. -/
def addPrivilege (currentTime : ℕ) (pid : ℤ) (signature : StdString)
    (dragEventData : DragEventData Double) (m : DragManager PixelMap) :
    Bool × DragManager PixelMap :=
  if ¬ m.Running then (false, m)
  else
    let verified := m.security.verifyAndResetNonce ctx.crypto currentTime dragEventData signature
    if !verified.1 then (false, { m with security := verified.2 })
    else (true, { m with security := verified.2.storeSecurityPid pid })

def getUdKey (pid : ℤ) (isSystemService : Bool) (m : DragManager PixelMap) : Option StdString :=
  if !isSystemService && !m.security.verifySecurityPid pid then none
  else if (m.isCrossDragging || m.isCollaborationService) ∧
      m.dragData.summaryTag = NEED_FETCH then some []
  else if m.dragData.udKey = [] then none
  else some m.dragData.udKey

end DragManager

/-! ## Calls -/

/-- A call, by a process or by another component, or a turn of the timers. -/
inductive DragCall (Double PixelMap : Type) where
  | startDrag (env : StartEnv) (dragData : StartDragData PixelMap) (pid : ℤ)
      (isLongPressDrag : Bool)
  | stopDrag (env : StopEnv) (dropResult : DragDropResult)
  | setMouseDragMonitorState (keyEvents pointerEvents : InputService) (state : Bool)
  | onDragUp
  | addPrivilege (currentTime pid : ℕ) (signature : StdString)
      (dragEventData : DragEventData Double)
  | getUdKey (pid : ℕ) (isSystemService : Bool)
  | foreign (call : ForeignCall)
  | turn (env : StopEnv)
  | animationEnd

namespace DragManager

variable {Double PixelMap : Type} (ctx : DragContext Double)

/-- The state after a call; `getUdKey` changes nothing. -/
def next (call : DragCall Double PixelMap) (m : DragManager PixelMap) : DragManager PixelMap :=
  match call with
  | .startDrag env dragData pid isLongPressDrag =>
      (m.startDrag ctx env dragData pid isLongPressDrag).2
  | .stopDrag env dropResult => (m.stopDrag env dropResult).2
  | .setMouseDragMonitorState keyEvents pointerEvents state =>
      (m.setMouseDragMonitorState keyEvents pointerEvents state).2
  | .onDragUp => m.onDragUp.2
  | .addPrivilege currentTime pid signature dragEventData =>
      (m.addPrivilege ctx currentTime pid signature dragEventData).2
  | .getUdKey _ _ => m
  | .foreign call => { m with timers := m.timers.foreign call }
  | .turn env => m.turn env
  | .animationEnd => { m with drawing := m.drawing.destroyDragWindow }

end DragManager

end DeviceStatus.Drag
