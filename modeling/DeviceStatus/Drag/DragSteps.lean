import DeviceStatus.Drag.DragManager

/-!
# What the calls of the drag manager come to

For the monitors: the ids that the manager has are those that the input service has, whatever
fails. For `StartDrag`: how far it gets, by what it is given and by what the other components
answer, and what each of its exits leaves behind. The build is the one without
`OHOS_BUILD_ENABLE_ARKUI_X`.

## Main definitions

* `DragMonitors.Kept` — no monitor is forgotten.
* `Drawable`, `DragMonitors.Accepted`, `StartEnv.deliversNonce` — the fallible steps of a start.
* `DragManager.StartDragExit` — the exits of `StartDrag`.
-/

namespace DeviceStatus.Drag

namespace DragMonitors

/-- The input service has the monitors whose ids the manager has, and no others. -/
structure Kept (w : DragMonitors) : Prop where
  registered : ∀ id, id ∈ w.registered ↔
    0 < id ∧ (id = w.keyEventMonitorId ∨ id = w.pointerEventMonitorId)
  apart : 0 < w.keyEventMonitorId → w.keyEventMonitorId ≠ w.pointerEventMonitorId

/-- Both monitors are registered. -/
structure Watching (w : DragMonitors) : Prop where
  key : 0 < w.keyEventMonitorId
  pointer : 0 < w.pointerEventMonitorId

/-- Neither monitor is registered. -/
structure Deaf (w : DragMonitors) : Prop where
  key : w.keyEventMonitorId ≤ 0
  pointer : w.pointerEventMonitorId ≤ 0

variable {w : DragMonitors} {keyEvents pointerEvents input : InputService}

theorem kept_start : Kept {} := by
  constructor
  · intro id
    simp
    omega
  · simp

theorem Kept.addKeyEventMonitor (h : Kept w) : Kept (w.addKeyEventMonitor input).2 := by
  have registered := h.registered
  have fresh := input.fresh w.registered
  unfold DragMonitors.addKeyEventMonitor
  split_ifs with absent
  · dsimp only
    split_ifs with refused
    · exact ⟨by grind, by grind⟩
    · exact ⟨by grind, by grind⟩
  · exact h

theorem Kept.addPointerEventHandler (h : Kept w) : Kept (w.addPointerEventHandler input).2 := by
  have registered := h.registered
  have apart := h.apart
  have fresh := input.fresh w.registered
  unfold DragMonitors.addPointerEventHandler
  split_ifs with absent
  · dsimp only
    split_ifs with refused
    · exact ⟨by grind, by grind⟩
    · exact ⟨by grind, by grind⟩
  · exact h

theorem Kept.addDragEventHandler (h : Kept w) :
    Kept (w.addDragEventHandler keyEvents pointerEvents).2 := by
  unfold DragMonitors.addDragEventHandler
  dsimp only
  split_ifs
  · exact h.addKeyEventMonitor.addPointerEventHandler
  · exact h.addKeyEventMonitor

theorem Kept.removeKeyEventMonitor (h : Kept w) : Kept w.removeKeyEventMonitor.2 := by
  have registered := h.registered
  have apart := h.apart
  unfold DragMonitors.removeKeyEventMonitor
  split_ifs
  · exact h
  · exact ⟨by grind, by grind⟩

theorem Kept.removePointerEventHandler (h : Kept w) : Kept w.removePointerEventHandler.2 := by
  have registered := h.registered
  have apart := h.apart
  unfold DragMonitors.removePointerEventHandler
  split_ifs
  · exact h
  · exact ⟨by grind, by grind⟩

theorem Kept.removeDragEventHandler (h : Kept w) : Kept w.removeDragEventHandler := by
  unfold DragMonitors.removeDragEventHandler
  dsimp only
  split_ifs
  · exact h.removeKeyEventMonitor.removePointerEventHandler
  · exact h.removeKeyEventMonitor

theorem Kept.removeOnStopDrag (h : Kept w) : Kept w.removeOnStopDrag := by
  unfold DragMonitors.removeOnStopDrag
  dsimp only
  split_ifs
  · exact h.removePointerEventHandler.removeKeyEventMonitor
  · exact h.removePointerEventHandler

theorem Kept.registered_eq_empty (h : Kept w) : w.registered = ∅ ↔ Deaf w := by
  rw [Finset.eq_empty_iff_forall_notMem]
  constructor
  · intro none
    constructor
    · by_contra key
      exact none _ ((h.registered _).mpr ⟨by omega, .inl rfl⟩)
    · by_contra pointer
      exact none _ ((h.registered _).mpr ⟨by omega, .inr rfl⟩)
  · rintro ⟨key, pointer⟩ id mem
    have := (h.registered id).mp mem
    omega

/-! ### The handlers together -/

/-- The input service registers both monitors. -/
def Accepted (keyEvents pointerEvents : InputService) (w : DragMonitors) : Prop :=
  w.keyEventMonitorId ≤ 0 ∧ w.pointerEventMonitorId ≤ 0 ∧
    0 < keyEvents.addMonitor w.registered ∧
    0 < pointerEvents.addMonitor (insert (keyEvents.addMonitor w.registered) w.registered)

/-- The input service registers the key monitor, and then it does not register the pointer
monitor. -/
def HalfAccepted (keyEvents pointerEvents : InputService) (w : DragMonitors) : Prop :=
  w.keyEventMonitorId ≤ 0 ∧ w.pointerEventMonitorId ≤ 0 ∧
    0 < keyEvents.addMonitor w.registered ∧
    pointerEvents.addMonitor (insert (keyEvents.addMonitor w.registered) w.registered) ≤ 0

instance : Decidable (Accepted keyEvents pointerEvents w) :=
  inferInstanceAs (Decidable (_ ∧ _))

instance : Decidable (HalfAccepted keyEvents pointerEvents w) :=
  inferInstanceAs (Decidable (_ ∧ _))

theorem addDragEventHandler_fst (w : DragMonitors) :
    (w.addDragEventHandler keyEvents pointerEvents).1 = true ↔
      Accepted keyEvents pointerEvents w := by
  unfold addDragEventHandler addKeyEventMonitor addPointerEventHandler Accepted
  grind

theorem Accepted.watching (h : Accepted keyEvents pointerEvents w) :
    Watching (w.addDragEventHandler keyEvents pointerEvents).2 := by
  obtain ⟨key, pointer, added, added'⟩ := h
  constructor
  all_goals
    unfold addDragEventHandler addKeyEventMonitor addPointerEventHandler
    grind

theorem HalfAccepted.not_deaf (h : HalfAccepted keyEvents pointerEvents w) :
    0 < (w.addDragEventHandler keyEvents pointerEvents).2.keyEventMonitorId ∧
      (w.addDragEventHandler keyEvents pointerEvents).2.pointerEventMonitorId ≤ 0 := by
  obtain ⟨key, pointer, added, refused⟩ := h
  unfold addDragEventHandler addKeyEventMonitor addPointerEventHandler
  grind

theorem Deaf.addDragEventHandler (h : Deaf w)
    (refused : ¬ Accepted keyEvents pointerEvents w)
    (whole : ¬ HalfAccepted keyEvents pointerEvents w) :
    Deaf (w.addDragEventHandler keyEvents pointerEvents).2 := by
  obtain ⟨key, pointer⟩ := h
  unfold Accepted HalfAccepted at *
  constructor
  all_goals
    unfold DragMonitors.addDragEventHandler addKeyEventMonitor addPointerEventHandler
    grind

theorem Watching.addDragEventHandler (h : Watching w) :
    w.addDragEventHandler keyEvents pointerEvents = (false, w) := by
  simp [DragMonitors.addDragEventHandler, addKeyEventMonitor, h.key.not_ge]

theorem Watching.removeOnStopDrag (h : Watching w) : Deaf w.removeOnStopDrag := by
  obtain ⟨key, pointer⟩ := h
  constructor
  all_goals
    unfold DragMonitors.removeOnStopDrag removeKeyEventMonitor removePointerEventHandler
    grind

/-- The removal stops at a key monitor that is not there. -/
theorem removeDragEventHandler_deaf_iff (w : DragMonitors) :
    Deaf w.removeDragEventHandler ↔ (0 < w.pointerEventMonitorId → 0 < w.keyEventMonitorId) := by
  constructor
  · rintro ⟨key, pointer⟩
    unfold removeDragEventHandler removeKeyEventMonitor removePointerEventHandler at *
    grind
  · intro h
    constructor
    all_goals
      unfold removeDragEventHandler removeKeyEventMonitor removePointerEventHandler
      grind

/-- The pointer monitor is there after the key monitor only. -/
theorem addDragEventHandler_pointer (absent : w.pointerEventMonitorId ≤ 0)
    (refused : ¬ Accepted keyEvents pointerEvents w) :
    (w.addDragEventHandler keyEvents pointerEvents).2.pointerEventMonitorId ≤ 0 := by
  unfold Accepted at refused
  unfold addDragEventHandler addKeyEventMonitor addPointerEventHandler
  grind

end DragMonitors

/-! ## Starting -/

section Starting

variable {Double PixelMap : Type} (ctx : DragContext Double)

/-- The data can be drawn and the render service draws it. -/
structure Drawable (render : RenderService) (dragData : StartDragData PixelMap) : Prop where
  shadowInfos : dragData.shadowInfos ≠ []
  pixelMaps : ∀ shadowInfo ∈ dragData.shadowInfos, shadowInfo.pixelMap.isSome = true
  sourceType : dragData.sourceType = ctx.SOURCE_TYPE_MOUSE ∨
    dragData.sourceType = ctx.SOURCE_TYPE_TOUCHSCREEN
  dragNum : 0 ≤ dragData.dragNum
  createWindow : render.createWindow = true
  initNodes : render.initNodes = true

/-- The input service takes the extra data and registers what is not registered. -/
structure StartEnv.Seen (env : StartEnv) (w : DragMonitors) : Prop where
  appendExtraData : env.appendExtraData = true
  monitors : 0 < w.pointerEventMonitorId ∨ w.Accepted env.keyEvents env.pointerEvents

/-- Everything that comes before the nonce succeeds. -/
structure StartEnv.Ready (env : StartEnv) (dragData : StartDragData PixelMap)
    (w : DragMonitors) : Prop where
  drawable : Drawable ctx env.render dragData
  seen : env.Seen w

/-- A nonce is drawn and the input service takes it. -/
def StartEnv.deliversNonce (env : StartEnv) : Bool :=
  match env.randBytes with
  | none => false
  | some bytes =>
    let nonceB64 := DragAuth.base64Encode ctx.crypto bytes.toList
    nonceB64 ≠ [] && env.deliverNonce nonceB64

theorem deliverNonceToInput_fst (env : StartEnv) (security : DragSecurityManager) :
    (security.deliverNonceToInput ctx.crypto env.randBytes env.deliverNonce).1 =
      env.deliversNonce ctx := by
  unfold DragSecurityManager.deliverNonceToInput DragAuth.generateNonce StartEnv.deliversNonce
  cases env.randBytes <;> simp

namespace DragDrawing

variable {d : DragDrawing} {render : RenderService} {dragData : StartDragData PixelMap}

theorem checkDragData_eq_initSuccess :
    d.checkDragData ctx dragData = .initSuccess ↔
      d.isRunning = false ∧ dragData.shadowInfos ≠ [] ∧
        (∀ shadowInfo ∈ dragData.shadowInfos, shadowInfo.pixelMap.isSome = true) ∧
        (dragData.sourceType = ctx.SOURCE_TYPE_MOUSE ∨
          dragData.sourceType = ctx.SOURCE_TYPE_TOUCHSCREEN) ∧
        0 ≤ dragData.dragNum := by
  unfold checkDragData
  split_ifs <;> grind [Option.isNone_iff_eq_none, Option.isSome_iff_ne_none]

theorem checkDragData_eq_initCancel :
    d.checkDragData ctx dragData = .initCancel ↔ d.isRunning = true := by
  unfold checkDragData
  split_ifs <;> simp_all

/-- With nothing drawn, `Init` draws what can be drawn and fails on anything else. -/
theorem initDrawing_cases (idle : d.isRunning = false) :
    (Drawable ctx render dragData ∧ d.initDrawing ctx render dragData =
      (.initSuccess, { isRunning := true, surfaceNode := true })) ∨
    (¬ Drawable ctx render dragData ∧ (d.initDrawing ctx render dragData).1 = .initFail) := by
  have checks := @checkDragData_eq_initSuccess _ _ ctx d dragData
  have cancels := @checkDragData_eq_initCancel _ _ ctx d dragData
  unfold initDrawing
  cases result : d.checkDragData ctx dragData with
  | initCancel => simp [result, idle] at cancels
  | initFail =>
    right
    refine ⟨fun drawable => ?_, rfl⟩
    rw [result] at checks
    exact absurd (checks.mpr ⟨idle, drawable.shadowInfos, drawable.pixelMaps, drawable.sourceType,
      drawable.dragNum⟩) (by simp)
  | initSuccess =>
    obtain ⟨-, shadowInfos, pixelMaps, sourceType, dragNum⟩ := checks.mp result
    cases window : render.createWindow with
    | false =>
      right
      refine ⟨fun drawable => ?_, rfl⟩
      simp [drawable.createWindow] at window
    | true =>
      cases nodes : render.initNodes with
      | false =>
        right
        refine ⟨fun drawable => ?_, rfl⟩
        simp [drawable.initNodes] at nodes
      | true =>
        exact .inl ⟨⟨shadowInfos, pixelMaps, sourceType, dragNum, window, nodes⟩, rfl⟩

end DragDrawing

namespace DragManager

variable {m : DragManager PixelMap} {env : StartEnv} {dragData : StartDragData PixelMap} {pid : ℤ}
  {isLongPressDrag : Bool}

/-- The monitors of a drag that is not seen. -/
inductive Unseen (env : StartEnv) (w : DragMonitors) : DragMonitors → Prop
  | untouched : Unseen env w w
  | refused (absent : w.pointerEventMonitorId ≤ 0)
      (refused : ¬ w.Accepted env.keyEvents env.pointerEvents) :
      Unseen env w (w.addDragEventHandler env.keyEvents env.pointerEvents).2

/-- The monitors of a drag that is seen. -/
inductive SeenBy (env : StartEnv) (w : DragMonitors) : DragMonitors → Prop
  | before (present : 0 < w.pointerEventMonitorId) : SeenBy env w w
  | added (accepted : w.Accepted env.keyEvents env.pointerEvents) :
      SeenBy env w (w.addDragEventHandler env.keyEvents env.pointerEvents).2

theorem addDragEvent_cases (m : DragManager PixelMap) (env : StartEnv) :
    (¬ env.Seen m.monitors ∧ ∃ w, Unseen env m.monitors w ∧
      m.addDragEvent env = (false, { m with monitors := w, drawing := {} })) ∨
    (env.Seen m.monitors ∧ ∃ w, SeenBy env m.monitors w ∧
      m.addDragEvent env = (true, { m with monitors := w })) := by
  have accepts := @DragMonitors.addDragEventHandler_fst env.keyEvents env.pointerEvents m.monitors
  unfold addDragEvent
  cases appended : env.appendExtraData with
  | false =>
    left
    refine ⟨fun seen => ?_, m.monitors, .untouched, rfl⟩
    simp [seen.appendExtraData] at appended
  | true =>
    by_cases absent : m.monitors.pointerEventMonitorId ≤ 0
    · cases added : (m.monitors.addDragEventHandler env.keyEvents env.pointerEvents).1 with
      | false =>
        left
        have refused := mt accepts.mpr (by simp [added])
        refine ⟨fun seen => ?_, _, .refused absent refused, by simp [absent, added,
          DragDrawing.destroyDragWindow]⟩
        rcases seen.monitors with present | accepted
        · omega
        · exact refused accepted
      | true =>
        right
        have accepted := accepts.mp added
        exact ⟨⟨appended, .inr accepted⟩, _, .added accepted, by simp [absent, added]⟩
    · right
      have present := not_le.mp absent
      exact ⟨⟨appended, .inl present⟩, _, .before present, by simp [absent]⟩

theorem onStartDrag_cases (idle : m.drawing.isRunning = false) :
    (¬ env.Ready ctx m.dragData m.monitors ∧ ∃ w, Unseen env m.monitors w ∧
      m.onStartDrag ctx env = (false, { m with drawing := {}, monitors := w })) ∨
    (env.Ready ctx m.dragData m.monitors ∧ ∃ w, SeenBy env m.monitors w ∧
      m.onStartDrag ctx env =
        (true, { m with
          drawing := { isRunning := true, surfaceNode := true }, monitors := w })) := by
  unfold onStartDrag
  rcases @DragDrawing.initDrawing_cases _ _ ctx m.drawing env.render m.dragData idle with
    ⟨drawable, drawn⟩ | ⟨bare, failed⟩
  · rw [drawn]
    rcases addDragEvent_cases { m with drawing := { isRunning := true, surfaceNode := true } } env
      with ⟨unseen, w, monitors, added⟩ | ⟨seen, w, monitors, added⟩
    · exact .inl ⟨fun ready => unseen ready.seen, w, monitors, added⟩
    · exact .inr ⟨⟨drawable, seen⟩, w, monitors, added⟩
  · left
    refine ⟨fun ready => bare ready.drawable, m.monitors, .untouched, ?_⟩
    simp [failed, DragDrawing.destroyDragWindow]

variable (env dragData pid isLongPressDrag m) in
/-- The exits of `StartDrag`. -/
inductive StartDragExit : Bool × DragManager PixelMap → Prop
  | refused (busy : m.Busy) : StartDragExit (false, m.resetMouseDragMonitorTimerId ctx dragData)
  | failed (free : ¬ m.Busy) (unready : ¬ env.Ready ctx dragData m.monitors)
      (w : DragMonitors) (monitors : Unseen env m.monitors w) :
      StartDragExit (false, { m.begun ctx env dragData pid isLongPressDrag with
        drawing := {}, monitors := w }.resetMouseDragMonitorInfo)
  | undelivered (free : ¬ m.Busy) (ready : env.Ready ctx dragData m.monitors)
      (lost : env.deliversNonce ctx = false) (w : DragMonitors)
      (monitors : SeenBy env m.monitors w) :
      StartDragExit (false, { m.begun ctx env dragData pid isLongPressDrag with
        drawing := { isRunning := true, surfaceNode := true }
        monitors := w
        security := (m.security.deliverNonceToInput ctx.crypto env.randBytes env.deliverNonce).2 })
  | started (free : ¬ m.Busy) (ready : env.Ready ctx dragData m.monitors)
      (delivered : env.deliversNonce ctx = true) (w : DragMonitors)
      (monitors : SeenBy env m.monitors w) :
      StartDragExit (true, { m.begun ctx env dragData pid isLongPressDrag with
        dragState := .start
        drawing := { isRunning := true, surfaceNode := true }
        monitors := w
        security := (m.security.deliverNonceToInput ctx.crypto env.randBytes env.deliverNonce).2
        dragAnimationType := dragData.dragAnimationType
        drags := m.drags + 1
        releases := [] })

/-- Without the timer of the mouse monitor, if it went, the state is the same. -/
theorem removeMouseDragMonitorTimer_cases (m : DragManager PixelMap) :
    m.removeMouseDragMonitorTimer = m ∨
    m.removeMouseDragMonitorTimer = { m with
      timers := m.timers.removeTimer m.mouseDragMonitorTimerId
      mouseDragMonitorTimerId := -1 } := by
  unfold removeMouseDragMonitorTimer
  split_ifs
  · exact .inr rfl
  · exact .inl rfl

/-- The mouse monitor is reset, whatever becomes of its timer. -/
theorem resetMouseDragMonitorInfo_eq (m : DragManager PixelMap) :
    ∃ timers id, (timers = m.timers ∨
        timers = m.timers.removeTimer m.mouseDragMonitorTimerId) ∧
      m.resetMouseDragMonitorInfo = { m with
        monitors := m.monitors.removeDragEventHandler
        mouseDragMonitorState := false
        timers
        mouseDragMonitorTimerId := id } := by
  unfold resetMouseDragMonitorInfo
  rcases removeMouseDragMonitorTimer_cases { m with
    monitors := m.monitors.removeDragEventHandler, mouseDragMonitorState := false }
    with same | removed
  · exact ⟨_, _, .inl rfl, same⟩
  · exact ⟨_, _, .inr rfl, removed⟩

theorem resetMouseDragMonitorTimerId_eq (m : DragManager PixelMap)
    (dragData : StartDragData PixelMap) :
    ∃ timers id, (timers = m.timers ∨
        timers = m.timers.removeTimer m.mouseDragMonitorTimerId) ∧
      m.resetMouseDragMonitorTimerId ctx dragData =
        { m with timers, mouseDragMonitorTimerId := id } := by
  unfold resetMouseDragMonitorTimerId
  split_ifs
  · rcases m.removeMouseDragMonitorTimer_cases with same | removed
    · exact ⟨_, _, .inl rfl, same⟩
    · exact ⟨_, _, .inr rfl, removed⟩
  · exact ⟨_, _, .inl rfl, rfl⟩

/-- What `StartDrag` has not touched when it asks the other components. -/
theorem begun_eq (m : DragManager PixelMap) (env : StartEnv) (dragData : StartDragData PixelMap)
    (pid : ℤ) (isLongPressDrag : Bool) :
    ∃ timers id, (timers = m.timers ∨
        timers = m.timers.removeTimer m.mouseDragMonitorTimerId) ∧
      m.begun ctx env dragData pid isLongPressDrag = { m with
        timers
        mouseDragMonitorTimerId := id
        isLongPressDrag
        isCrossDragging := isCrossDrag pid isLongPressDrag
        isCollaborationService := m.isCollaborationService ||
          getPackageName env pid isLongPressDrag = ctx.deviceCollaboration
        dragData := { dragData with displayId := max dragData.displayId 0 } } := by
  obtain ⟨timers, id, cut, reset⟩ := m.resetMouseDragMonitorTimerId_eq ctx dragData
  refine ⟨timers, id, cut, ?_⟩
  rw [begun, reset]
  rfl

theorem resetMouseDragMonitorTimerId_busy (m : DragManager PixelMap)
    (dragData : StartDragData PixelMap) :
    (m.resetMouseDragMonitorTimerId ctx dragData).Busy ↔ m.Busy := by
  obtain ⟨timers, id, -, reset⟩ := m.resetMouseDragMonitorTimerId_eq ctx dragData
  rw [reset]
  rfl

/-- The fallible steps do not depend on the display that the data were corrected to. -/
theorem ready_begun (w : DragMonitors) :
    env.Ready ctx (m.begun ctx env dragData pid isLongPressDrag).dragData w ↔
      env.Ready ctx dragData w := by
  constructor
  · rintro ⟨⟨shadowInfos, pixelMaps, sourceType, dragNum, window, nodes⟩, seen⟩
    exact ⟨⟨shadowInfos, pixelMaps, sourceType, dragNum, window, nodes⟩, seen⟩
  · rintro ⟨⟨shadowInfos, pixelMaps, sourceType, dragNum, window, nodes⟩, seen⟩
    exact ⟨⟨shadowInfos, pixelMaps, sourceType, dragNum, window, nodes⟩, seen⟩

theorem startDrag_exit (m : DragManager PixelMap) (env : StartEnv)
    (dragData : StartDragData PixelMap) (pid : ℤ) (isLongPressDrag : Bool) :
    StartDragExit ctx m env dragData pid isLongPressDrag
      (m.startDrag ctx env dragData pid isLongPressDrag) := by
  unfold startDrag
  by_cases busy : m.Busy
  · rw [if_pos ((resetMouseDragMonitorTimerId_busy ctx m dragData).mpr busy)]
    exact .refused busy
  rw [if_neg (mt (resetMouseDragMonitorTimerId_busy ctx m dragData).mp busy)]
  have ready := @ready_begun _ _ ctx m env dragData pid isLongPressDrag m.monitors
  obtain ⟨timers, id, -, eq⟩ := begun_eq ctx m env dragData pid isLongPressDrag
  generalize start : m.begun ctx env dragData pid isLongPressDrag = b at *
  have idle : b.drawing.isRunning = false := by
    rw [eq]
    simpa using (not_or.mp busy).2
  have monitors : b.monitors = m.monitors := by rw [eq]
  have security : b.security = m.security := by rw [eq]
  have drags : b.drags = m.drags := by rw [eq]
  unfold proceedDrag
  rcases @onStartDrag_cases _ _ ctx b env idle with
    ⟨unready, w, monitors', failed⟩ | ⟨here, w, monitors', started⟩
  · rw [monitors] at unready monitors'
    rw [failed, ← start]
    exact .failed busy (mt ready.mpr unready) w monitors'
  · rw [monitors] at here monitors'
    simp only [started, security, deliverNonceToInput_fst]
    cases delivered : env.deliversNonce ctx with
    | false =>
      subst start
      exact .undelivered busy (ready.mp here) delivered w monitors'
    | true =>
      have exit := @StartDragExit.started _ _ ctx m env dragData pid isLongPressDrag busy
        (ready.mp here) delivered w monitors'
      simp only [start, ← drags] at exit
      simpa [setDragState] using exit

end DragManager

end Starting

/-! ## Stopping -/

namespace DragManager

variable {PixelMap : Type}

theorem stopDrag_cases (m : DragManager PixelMap) (env : StopEnv) (dropResult : DragDropResult) :
    (m.dragState = .stop ∧ m.stopDrag env dropResult =
      (false, { m with isCrossDragging := false, isCollaborationService := false })) ∨
    (m.dragState ≠ .stop ∧ m.stopDrag env dropResult =
      (true, { m with
        dragState := .stop
        dragData := {}
        drawing := m.handleDragResult env dropResult
        isLongPressDrag := false
        isCrossDragging := false
        isCollaborationService := false
        monitors := m.monitors.removeOnStopDrag
        mouseDragMonitorState := false
        timerId := (m.removeDragUpTimer dropResult).timerId
        security := m.security.resetSecurityPid
        timers := (m.removeDragUpTimer dropResult).timers })) := by
  by_cases stopped : m.dragState = .stop
  · exact .inl ⟨stopped, by simp [stopDrag, stopped]⟩
  · right
    refine ⟨stopped, ?_⟩
    unfold stopDrag
    rw [if_neg stopped]
    simp only [removeDragUpTimer, onStopDrag, setDragState, reduceCtorEq, and_false, if_false]
    split_ifs <;> rfl

/-! ## The other calls -/

variable {Double : Type} (ctx : DragContext Double)

theorem setMouseDragMonitorState_cases (m : DragManager PixelMap)
    (keyEvents pointerEvents : InputService) :
    (¬ m.monitors.Accepted keyEvents pointerEvents ∧
      m.setMouseDragMonitorState keyEvents pointerEvents true =
        (false, { m with
          monitors := (m.monitors.addDragEventHandler keyEvents pointerEvents).2 })) ∨
    (m.monitors.Accepted keyEvents pointerEvents ∧
      m.setMouseDragMonitorState keyEvents pointerEvents true =
        (true, { m with
          monitors := (m.monitors.addDragEventHandler keyEvents pointerEvents).2
          mouseDragMonitorState := true
          mouseDragMonitorTimerId := (m.timers.addTimer TIMEOUT_MS .mouseDragMonitor).1
          timers := (m.timers.addTimer TIMEOUT_MS .mouseDragMonitor).2 })) := by
  rw [← DragMonitors.addDragEventHandler_fst]
  cases added : (m.monitors.addDragEventHandler keyEvents pointerEvents).1 with
  | false => exact .inl ⟨by simp, by simp [setMouseDragMonitorState, added]⟩
  | true => exact .inr ⟨rfl, by simp [setMouseDragMonitorState, added]⟩

theorem onDragUp_cases (m : DragManager PixelMap) :
    m.onDragUp = (false, m) ∨
    (m.dragState = .start ∧ m.onDragUp = (true, { m with
      timerId := (m.timers.addTimer TIMEOUT_MS (.dragUp m.drags)).1
      timers := (m.timers.addTimer TIMEOUT_MS (.dragUp m.drags)).2
      releases := m.timers.clock :: m.releases })) := by
  unfold onDragUp
  split_ifs with stopped
  · exact .inl rfl
  · exact .inr ⟨not_not.mp stopped, rfl⟩

/-- A call that does not get past the verification changes nothing. -/
theorem addPrivilege_cases (m : DragManager PixelMap) (currentTime : ℕ) (pid : ℤ)
    (signature : StdString) (dragEventData : DragEventData Double) :
    m.addPrivilege ctx currentTime pid signature dragEventData = (false, m) ∨
    (m.Running ∧ m.security.auth.nonceBin ≠ [] ∧
      m.addPrivilege ctx currentTime pid signature dragEventData =
        (true, { m with security := { auth := {}, securityPid := pid } })) := by
  unfold addPrivilege
  split_ifs with running
  · rcases @DragSecurityManager.verifyAndResetNonce_cases _ ctx.crypto currentTime dragEventData
      signature m.security with ⟨nonce, verified⟩ | refused
    · right
      simp only [verified]
      exact ⟨running, nonce, rfl⟩
    · left
      simp only [refused]
      rfl
  · exact .inl rfl

theorem turn_eq_of_none {m : DragManager PixelMap} (env : StopEnv)
    (none : m.timers.turn.1 = none) : m.turn env = { m with timers := m.timers.turn.2 } := by
  simp only [turn, none]

theorem turn_eq_of_some {m : DragManager PixelMap} {timer : DragTimer} (env : StopEnv)
    (some : m.timers.turn.1 = some timer) :
    m.turn env = { m with timers := m.timers.turn.2 }.onTimer env timer := by
  simp only [turn, some]

/-- A turn keeps what the timers and their callbacks keep. -/
theorem turn_keeps {I : DragManager PixelMap → Prop} {m : DragManager PixelMap} (env : StopEnv)
    (turned : I { m with timers := m.timers.turn.2 })
    (reset : ∀ m, I m → I m.resetMouseDragMonitorInfo)
    (stop : ∀ m, I m → I (m.stopDrag env automaticResult).2) : I (m.turn env) := by
  cases fired : m.timers.turn.1 with
  | none =>
    rw [turn_eq_of_none env fired]
    exact turned
  | some timer =>
    rw [turn_eq_of_some env fired]
    cases timer with
    | mouseDragMonitor => exact reset _ turned
    | dragUp drag => exact stop _ turned

end DragManager

end DeviceStatus.Drag
