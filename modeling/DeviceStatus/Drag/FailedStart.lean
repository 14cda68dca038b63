import DeviceStatus.Drag.Monitors

/-!
# A start that fails

`StartDrag` sets flags before the first step that may fail, its callees clean up the window and
`StartDrag` itself the monitors, except where the nonce is not delivered: there everything that has
been set up stays, while the drag state says that there is no drag to stop. The drag manager is that
of the build without `OHOS_BUILD_ENABLE_ARKUI_X`.

## Main definitions

* `DragManager.LeavesNoDrag` — what is left when a start has been rolled back.
* `DragManager.RollsBack` — the starts that succeed or are rolled back.
-/

namespace DeviceStatus.Drag

namespace DragManager

variable {Double PixelMap : Type} (ctx : DragContext Double)

/-- Nothing of a drag is there, the flags are those from before, and a drag may be started. -/
structure LeavesNoDrag (before after : DragManager PixelMap) : Prop where
  dragState : after.dragState = .stop
  deaf : after.monitors.Deaf
  registered : before.monitors.Kept → after.monitors.registered = ∅
  drawing : after.drawing = { isRunning := false, surfaceNode := false }
  isCrossDragging : after.isCrossDragging = before.isCrossDragging
  isCollaborationService : after.isCollaborationService = before.isCollaborationService
  isLongPressDrag : after.isLongPressDrag = before.isLongPressDrag
  free : ¬ after.Busy

/-- The flags are already what the call sets them to. -/
structure FlagsKept (env : StartEnv) (pid : ℤ) (isLongPressDrag : Bool)
    (m : DragManager PixelMap) : Prop where
  longPress : m.isLongPressDrag = isLongPressDrag
  cross : m.isCrossDragging = isCrossDrag pid isLongPressDrag
  collaboration : m.isCollaborationService = true ∨
    getPackageName env pid isLongPressDrag ≠ ctx.deviceCollaboration

/-- Nothing fails; or something does before the nonce is drawn, the flags are what they were, and
there is no pointer monitor without a key monitor. -/
def RollsBack (env : StartEnv) (dragData : StartDragData PixelMap) (pid : ℤ)
    (isLongPressDrag : Bool) (m : DragManager PixelMap) : Prop :=
  (env.Ready ctx dragData m.monitors ∧ env.deliversNonce ctx = true) ∨
  (¬ env.Ready ctx dragData m.monitors ∧ FlagsKept ctx env pid isLongPressDrag m ∧
    (0 < m.monitors.pointerEventMonitorId → 0 < m.monitors.keyEventMonitorId))

variable {m : DragManager PixelMap} {env : StartEnv} {dragData : StartDragData PixelMap} {pid : ℤ}
  {isLongPressDrag : Bool}

theorem flagsKept_iff :
    FlagsKept ctx env pid isLongPressDrag m ↔
      isLongPressDrag = m.isLongPressDrag ∧
        isCrossDrag pid isLongPressDrag = m.isCrossDragging ∧
        (m.isCollaborationService ||
          getPackageName env pid isLongPressDrag = ctx.deviceCollaboration) =
            m.isCollaborationService := by
  constructor
  · rintro ⟨longPress, cross, collaboration⟩
    refine ⟨longPress.symm, cross.symm, ?_⟩
    rcases collaboration with on | other
    · simp [on]
    · simp [other]
  · rintro ⟨longPress, cross, collaboration⟩
    refine ⟨longPress.symm, cross.symm, ?_⟩
    cases on : m.isCollaborationService with
    | true => exact .inl rfl
    | false =>
      right
      simpa [on] using collaboration

/-- A start in which something fails leaves no drag exactly if it fails before the nonce, with the
flags as they were and no pointer monitor by itself. -/
theorem failed_start_leaves_no_drag_iff (m : DragManager PixelMap) (stopped : m.dragState = .stop)
    (idle : m.drawing.isRunning = false) (env : StartEnv) (dragData : StartDragData PixelMap)
    (pid : ℤ) (isLongPressDrag : Bool) :
    ((m.startDrag ctx env dragData pid isLongPressDrag).1 = false →
      m.LeavesNoDrag (m.startDrag ctx env dragData pid isLongPressDrag).2) ↔
      m.RollsBack ctx env dragData pid isLongPressDrag := by
  have exit := m.startDrag_exit ctx env dragData pid isLongPressDrag
  obtain ⟨timers, id, -, begun⟩ := m.begun_eq ctx env dragData pid isLongPressDrag
  generalize m.startDrag ctx env dragData pid isLongPressDrag = result at exit ⊢
  cases exit with
  | refused busy => simp [Busy, Running, stopped, idle] at busy
  | failed free unready w monitors =>
    obtain ⟨timers, id, -, reset⟩ := resetMouseDragMonitorInfo_eq
      { m.begun ctx env dragData pid isLongPressDrag with drawing := {}, monitors := w }
    rw [reset, begun]
    constructor
    · intro clean
      have clean := clean rfl
      refine .inr ⟨unready, (flagsKept_iff ctx).mpr ?_, (unseen_deaf_iff monitors).mp clean.deaf⟩
      exact ⟨clean.isLongPressDrag, clean.isCrossDragging, clean.isCollaborationService⟩
    · rintro (⟨ready, -⟩ | ⟨-, flags, pair⟩) -
      · exact absurd ready unready
      · obtain ⟨longPress, cross, collaboration⟩ := (flagsKept_iff ctx).mp flags
        have deaf := (unseen_deaf_iff monitors).mpr pair
        refine ⟨stopped, deaf, fun kept => ?_, rfl, cross, collaboration, longPress, ?_⟩
        · exact (unseen_kept kept monitors).removeDragEventHandler.registered_eq_empty.mpr deaf
        · simp [Busy, Running, stopped]
  | undelivered free ready lost w monitors =>
    -- what has been drawn stays, and keeps every later start out
    refine iff_of_false (fun clean => (clean rfl).free (.inr rfl)) ?_
    rintro (⟨-, delivered⟩ | ⟨unready, -⟩)
    · exact absurd (delivered.symm.trans lost) (by simp)
    · exact unready ready
  | started free ready delivered w monitors =>
    exact iff_of_true (by simp) (.inl ⟨ready, delivered⟩)

/-- With no shadow to draw, a drag of the collaboration process is rolled back where the same
process had the flag set before. -/
theorem failed_start_leaves_no_drag_again :
    ({ isCollaborationService := true } : DragManager Unit).LeavesNoDrag
      (({ isCollaborationService := true } : DragManager Unit).startDrag someContext
        { goodStart with programName := some "collaboration" } {} 100 false).2 :=
  (failed_start_leaves_no_drag_iff someContext { isCollaborationService := true } rfl rfl
    { goodStart with programName := some "collaboration" } {} 100 false).mpr
    (.inr ⟨fun ready => ready.drawable.shadowInfos rfl, ⟨rfl, rfl, .inl rfl⟩, by decide⟩)
    (by decide)

/-- No randomness for the nonce: the drag is drawn and watched, and no later one is let in. -/
theorem undelivered_nonce_blocks_starts :
    ¬ ∀ (ctx : DragContext Unit) (m : DragManager Unit), m.dragState = .stop →
      m.drawing.isRunning = false → ∀ env dragData pid isLongPressDrag,
        (m.startDrag ctx env dragData pid isLongPressDrag).1 = false →
          m.LeavesNoDrag (m.startDrag ctx env dragData pid isLongPressDrag).2 := by
  intro h
  have clean := h someContext {} rfl rfl { goodStart with randBytes := none } touchDrag 100 false
    (by decide)
  exact clean.free (by decide)

end DragManager

end DeviceStatus.Drag
