import DeviceStatus.Drag.DragSteps
import DeviceStatus.Library.Transition

/-!
# The monitors follow the drag state

The key monitor and the pointer monitor serve a drag, and they serve a process that has them
registered ahead of a drag with the mouse, for as long as its timer lets it. Neither feature asks
whether the other still needs them. The build is the one without `OHOS_BUILD_ENABLE_ARKUI_X`.

## Main definitions

* `DragManager.MonitorsFollow` — the monitors that the drag state calls for.
* `DragManager.SharesMonitors` — calls by which the features leave each other's monitors alone.
-/

namespace DeviceStatus.Drag

open Transition.System
open Cooperation (DragState)
open Timers (TimerClient ForeignCall)

namespace DragManager

variable {Double PixelMap : Type} (ctx : DragContext Double)

/-- In a drag both monitors are registered, with no drag and no mouse monitoring neither is, and
the manager has the id of each that is. -/
structure MonitorsFollow (m : DragManager PixelMap) : Prop where
  running : m.Running → m.monitors.keyEventMonitorId ∈ m.monitors.registered ∧
    m.monitors.pointerEventMonitorId ∈ m.monitors.registered
  stopped : m.dragState = .stop → m.mouseDragMonitorState = false → m.monitors.registered = ∅
  remembered : ∀ id ∈ m.monitors.registered,
    id = m.monitors.keyEventMonitorId ∨ id = m.monitors.pointerEventMonitorId

/-- The mouse monitoring does not end during a drag, of itself or by its timer, does not begin with
one monitor of two, and is on when a start fails for its nonce alone. -/
def SharesMonitors (call : DragCall Double PixelMap) (m : DragManager PixelMap) : Prop :=
  match call with
  | .startDrag env dragData _ _ =>
      m.Busy ∨ m.mouseDragMonitorState = true ∨ ¬ env.Ready ctx dragData m.monitors ∨
        env.deliversNonce ctx = true
  | .setMouseDragMonitorState keyEvents pointerEvents true =>
      ¬ m.monitors.HalfAccepted keyEvents pointerEvents
  | .setMouseDragMonitorState _ _ false => m.dragState = .stop
  | .turn _ => m.timers.turn.1 = some .mouseDragMonitor → m.dragState = .stop
  | _ => True

/-! ### Whatever fails -/

/-- What holds in every reachable state: no monitor is forgotten, and while mouse monitoring is on
both are there. -/
structure Tracked (m : DragManager PixelMap) : Prop where
  kept : m.monitors.Kept
  ahead : m.mouseDragMonitorState = true → m.monitors.Watching
  state : m.dragState = .stop ∨ m.Running

variable {m : DragManager PixelMap}

theorem tracked_start : Tracked ({} : DragManager PixelMap) :=
  ⟨DragMonitors.kept_start, by simp, .inl rfl⟩

theorem Tracked.resetMouseDragMonitorInfo (h : Tracked m) :
    Tracked m.resetMouseDragMonitorInfo := by
  obtain ⟨timers, id, -, reset⟩ := m.resetMouseDragMonitorInfo_eq
  rw [reset]
  exact ⟨h.kept.removeDragEventHandler, by simp, h.state⟩

theorem Tracked.stopDrag (h : Tracked m) (env : StopEnv) (dropResult : DragDropResult) :
    Tracked (m.stopDrag env dropResult).2 := by
  rcases m.stopDrag_cases env dropResult with ⟨-, refused⟩ | ⟨-, stopped⟩
  · rw [refused]
    exact ⟨h.kept, h.ahead, h.state⟩
  · rw [stopped]
    exact ⟨h.kept.removeOnStopDrag, by simp, .inl rfl⟩

theorem unseen_kept {env : StartEnv} {w w' : DragMonitors} (h : w.Kept) (u : Unseen env w w') :
    w'.Kept := by
  cases u with
  | untouched => exact h
  | refused => exact h.addDragEventHandler

theorem seenBy_kept {env : StartEnv} {w w' : DragMonitors} (h : w.Kept) (u : SeenBy env w w') :
    w'.Kept := by
  cases u with
  | before => exact h
  | added => exact h.addDragEventHandler

theorem seenBy_watching {env : StartEnv} {w w' : DragMonitors} (h : w.Watching)
    (u : SeenBy env w w') : w'.Watching := by
  cases u with
  | before => exact h
  | added accepted => exact accepted.watching

/-- The removal after a failure reaches every monitor unless it stops at the key monitor. -/
theorem unseen_deaf_iff {env : StartEnv} {w w' : DragMonitors}
    (u : Unseen env w w') :
    w'.removeDragEventHandler.Deaf ↔
      (0 < w.pointerEventMonitorId → 0 < w.keyEventMonitorId) := by
  rw [DragMonitors.removeDragEventHandler_deaf_iff]
  cases u with
  | untouched => exact .rfl
  | refused absent refused =>
    have absent' := DragMonitors.addDragEventHandler_pointer absent refused
    constructor
    · intro _ present
      omega
    · intro _ present
      omega

theorem Tracked.startDrag (h : Tracked m) (env : StartEnv) (dragData : StartDragData PixelMap)
    (pid : ℤ) (isLongPressDrag : Bool) :
    Tracked (m.startDrag ctx env dragData pid isLongPressDrag).2 := by
  have exit := m.startDrag_exit ctx env dragData pid isLongPressDrag
  obtain ⟨timers, id, -, begun⟩ := m.begun_eq ctx env dragData pid isLongPressDrag
  generalize m.startDrag ctx env dragData pid isLongPressDrag = result at exit ⊢
  cases exit with
  | refused =>
    obtain ⟨timers, id, -, reset⟩ := m.resetMouseDragMonitorTimerId_eq ctx dragData
    rw [reset]
    exact ⟨h.kept, h.ahead, h.state⟩
  | failed free unready w monitors =>
    obtain ⟨timers, id, -, reset⟩ := resetMouseDragMonitorInfo_eq
      { m.begun ctx env dragData pid isLongPressDrag with drawing := {}, monitors := w }
    rw [reset, begun]
    exact ⟨(unseen_kept h.kept monitors).removeDragEventHandler, by simp, h.state⟩
  | undelivered free ready lost w monitors =>
    rw [begun]
    exact ⟨seenBy_kept h.kept monitors, fun on => seenBy_watching (h.ahead on) monitors, h.state⟩
  | started free ready delivered w monitors =>
    rw [begun]
    exact ⟨seenBy_kept h.kept monitors, fun on => seenBy_watching (h.ahead on) monitors,
      .inr (.inl rfl)⟩

theorem Tracked.next (h : Tracked m) (call : DragCall Double PixelMap) :
    Tracked (m.next ctx call) := by
  cases call with
  | startDrag env dragData pid isLongPressDrag =>
    exact h.startDrag ctx env dragData pid isLongPressDrag
  | stopDrag env dropResult => exact h.stopDrag env dropResult
  | setMouseDragMonitorState keyEvents pointerEvents state =>
    cases state with
    | false =>
      have reset := h.resetMouseDragMonitorInfo
      exact ⟨reset.kept, by simp [DragManager.next, setMouseDragMonitorState], reset.state⟩
    | true =>
      change Tracked (m.setMouseDragMonitorState keyEvents pointerEvents true).2
      rcases m.setMouseDragMonitorState_cases keyEvents pointerEvents with
        ⟨-, refused⟩ | ⟨accepted, added⟩
      · rw [refused]
        refine ⟨h.kept.addDragEventHandler, fun on => ?_, h.state⟩
        simpa only [(h.ahead on).addDragEventHandler] using h.ahead on
      · rw [added]
        exact ⟨h.kept.addDragEventHandler, fun _ => accepted.watching, h.state⟩
  | onDragUp =>
    change Tracked m.onDragUp.2
    rcases m.onDragUp_cases with refused | ⟨-, accepted⟩
    · rw [refused]
      exact h
    · rw [accepted]
      exact ⟨h.kept, h.ahead, h.state⟩
  | addPrivilege currentTime pid signature dragEventData =>
    change Tracked (m.addPrivilege ctx currentTime pid signature dragEventData).2
    rcases m.addPrivilege_cases ctx currentTime pid signature dragEventData with
      refused | ⟨-, -, passed⟩
    · rw [refused]
      exact h
    · rw [passed]
      exact ⟨h.kept, h.ahead, h.state⟩
  | getUdKey => exact h
  | foreign call => exact ⟨h.kept, h.ahead, h.state⟩
  | turn env =>
    have turned : Tracked { m with timers := m.timers.turn.2 } := ⟨h.kept, h.ahead, h.state⟩
    exact turn_keeps env turned (fun _ h => h.resetMouseDragMonitorInfo)
      (fun _ h => h.stopDrag env automaticResult)
  | animationEnd => exact ⟨h.kept, h.ahead, h.state⟩

/-- No monitor is ever forgotten. -/
theorem tracked_runFrom (h : Tracked m) (calls : List (DragCall Double PixelMap)) :
    Tracked (runFrom (DragManager.next ctx) m calls) :=
  runFrom_invariant (I := Tracked) (fun call _ h => h.next ctx call) h calls

/-! ### While the features leave each other alone -/

/-- Both monitors or neither, by what calls for them. -/
inductive Settled (m : DragManager PixelMap) : Prop
  | dragging (running : m.Running) (watching : m.monitors.Watching)
  | ahead (stopped : m.dragState = .stop) (on : m.mouseDragMonitorState = true)
      (watching : m.monitors.Watching)
  | idle (stopped : m.dragState = .stop) (off : m.mouseDragMonitorState = false)
      (deaf : m.monitors.Deaf)

theorem Tracked.monitorsFollow_iff (h : Tracked m) : m.MonitorsFollow ↔ m.Settled := by
  constructor
  · intro follow
    rcases h.state with stopped | running
    · cases mouse : m.mouseDragMonitorState with
      | true => exact .ahead stopped mouse (h.ahead mouse)
      | false =>
        exact .idle stopped mouse (h.kept.registered_eq_empty.mp (follow.stopped stopped mouse))
    · obtain ⟨key, pointer⟩ := follow.running running
      exact .dragging running
        ⟨((h.kept.registered _).mp key).1, ((h.kept.registered _).mp pointer).1⟩
  · intro settled
    have remembered : ∀ id ∈ m.monitors.registered,
        id = m.monitors.keyEventMonitorId ∨ id = m.monitors.pointerEventMonitorId :=
      fun id mem => ((h.kept.registered id).mp mem).2
    cases settled with
    | dragging running watching =>
      refine ⟨fun _ => ⟨?_, ?_⟩, fun stopped => ?_, remembered⟩
      · exact (h.kept.registered _).mpr ⟨watching.key, .inl rfl⟩
      · exact (h.kept.registered _).mpr ⟨watching.pointer, .inr rfl⟩
      · simp [Running, stopped] at running
    | ahead stopped on watching =>
      refine ⟨fun running => ?_, fun _ off => ?_, remembered⟩
      · simp [Running, stopped] at running
      · simp [on] at off
    | idle stopped off deaf =>
      refine ⟨fun running => ?_, fun _ _ => h.kept.registered_eq_empty.mpr deaf, remembered⟩
      simp [Running, stopped] at running

theorem Settled.same (h : Settled m) {m' : DragManager PixelMap}
    (state : m'.dragState = m.dragState) (monitors : m'.monitors = m.monitors)
    (mouse : m'.mouseDragMonitorState = m.mouseDragMonitorState) : m'.Settled := by
  cases h with
  | dragging running watching =>
    exact .dragging (by rwa [Running, state]) (by rwa [monitors])
  | ahead stopped on watching =>
    exact .ahead (by rwa [state]) (by rwa [mouse]) (by rwa [monitors])
  | idle stopped off deaf => exact .idle (by rwa [state]) (by rwa [mouse]) (by rwa [monitors])

theorem Settled.key_of_pointer (h : Settled m) (pointer : 0 < m.monitors.pointerEventMonitorId) :
    0 < m.monitors.keyEventMonitorId := by
  cases h with
  | dragging _ watching => exact watching.key
  | ahead _ _ watching => exact watching.key
  | idle _ _ deaf => exact absurd pointer deaf.pointer.not_gt

/-- A drag that is seen has both monitors, for they were there or have been added. -/
theorem Settled.seenBy_watching (h : Settled m) {env : StartEnv} {w : DragMonitors}
    (monitors : SeenBy env m.monitors w) : w.Watching := by
  cases monitors with
  | added accepted => exact accepted.watching
  | before present =>
    cases h with
    | dragging _ watching => exact watching
    | ahead _ _ watching => exact watching
    | idle _ _ deaf => exact absurd present deaf.pointer.not_gt

/-- The end of mouse monitoring takes the monitors away, whoever needs them. -/
theorem Settled.resetMouseDragMonitorInfo_iff (h : Settled m) :
    m.resetMouseDragMonitorInfo.Settled ↔ m.dragState = .stop := by
  obtain ⟨timers, id, -, reset⟩ := m.resetMouseDragMonitorInfo_eq
  have deaf : m.monitors.removeDragEventHandler.Deaf :=
    m.monitors.removeDragEventHandler_deaf_iff.mpr h.key_of_pointer
  rw [reset]
  constructor
  · rintro (⟨-, watching⟩ | ⟨stopped, -, -⟩ | ⟨stopped, -, -⟩)
    · exact absurd deaf.key watching.key.not_ge
    · exact stopped
    · exact stopped
  · intro stopped
    exact .idle stopped rfl deaf

theorem Settled.stopDrag (h : Settled m) (env : StopEnv) (dropResult : DragDropResult) :
    (m.stopDrag env dropResult).2.Settled := by
  rcases m.stopDrag_cases env dropResult with ⟨-, refused⟩ | ⟨going, stopped⟩
  · rw [refused]
    exact h.same rfl rfl rfl
  · rw [stopped]
    cases h with
    | dragging running watching => exact .idle rfl rfl watching.removeOnStopDrag
    | ahead stopped => exact absurd stopped going
    | idle stopped => exact absurd stopped going

theorem Settled.startDrag_iff (h : Settled m) (env : StartEnv) (dragData : StartDragData PixelMap)
    (pid : ℤ) (isLongPressDrag : Bool) :
    (m.startDrag ctx env dragData pid isLongPressDrag).2.Settled ↔
      SharesMonitors ctx (.startDrag env dragData pid isLongPressDrag) m := by
  have exit := m.startDrag_exit ctx env dragData pid isLongPressDrag
  obtain ⟨timers, id, -, begun⟩ := m.begun_eq ctx env dragData pid isLongPressDrag
  generalize m.startDrag ctx env dragData pid isLongPressDrag = result at exit ⊢
  cases exit with
  | refused busy =>
    refine iff_of_true ?_ (.inl busy)
    obtain ⟨timers, id, -, reset⟩ := m.resetMouseDragMonitorTimerId_eq ctx dragData
    rw [reset]
    exact h.same rfl rfl rfl
  | failed free unready w monitors =>
    refine iff_of_true ?_ (.inr (.inr (.inl unready)))
    have stopped : m.dragState = .stop := by
      cases h with
      | dragging running => exact absurd (.inl running) free
      | ahead stopped => exact stopped
      | idle stopped => exact stopped
    obtain ⟨timers, id, -, reset⟩ := resetMouseDragMonitorInfo_eq
      { m.begun ctx env dragData pid isLongPressDrag with drawing := {}, monitors := w }
    rw [reset, begun]
    exact .idle stopped rfl ((unseen_deaf_iff monitors).mpr h.key_of_pointer)
  | undelivered free ready lost w monitors =>
    have watching := h.seenBy_watching monitors
    rw [begun]
    cases h with
    | dragging running => exact absurd (.inl running) free
    | ahead stopped on => exact iff_of_true (.ahead stopped on watching) (.inr (.inl on))
    | idle stopped off deaf =>
      refine iff_of_false ?_ ?_
      · rintro (⟨running, -⟩ | ⟨-, on, -⟩ | ⟨-, -, deaf⟩)
        · exact free (.inl running)
        · exact absurd (on.symm.trans off) (by simp)
        · exact absurd watching.key deaf.key.not_gt
      · rintro (busy | on | unready | delivered)
        · exact free busy
        · exact absurd (on.symm.trans off) (by simp)
        · exact unready ready
        · exact absurd (delivered.symm.trans lost) (by simp)
  | started free ready delivered w monitors =>
    refine iff_of_true ?_ (.inr (.inr (.inr delivered)))
    rw [begun]
    exact .dragging (.inl rfl) (h.seenBy_watching monitors)

theorem Settled.setMouseDragMonitorState_iff (h : Settled m)
    (keyEvents pointerEvents : InputService) (state : Bool) :
    (m.setMouseDragMonitorState keyEvents pointerEvents state).2.Settled ↔
      SharesMonitors ctx (.setMouseDragMonitorState keyEvents pointerEvents state) m := by
  cases state with
  | false =>
    rw [SharesMonitors, ← h.resetMouseDragMonitorInfo_iff]
    obtain ⟨timers, id, -, reset⟩ := m.resetMouseDragMonitorInfo_eq
    simp only [setMouseDragMonitorState, reset, Bool.false_eq_true, if_false]
  | true =>
    rw [SharesMonitors]
    rcases m.setMouseDragMonitorState_cases keyEvents pointerEvents with
      ⟨unaccepted, refused⟩ | ⟨accepted, added⟩
    · rw [refused]
      cases h with
      | dragging running watching =>
        rw [watching.addDragEventHandler]
        exact iff_of_true (.dragging running watching) fun half => watching.key.not_ge half.1
      | ahead stopped on watching =>
        rw [watching.addDragEventHandler]
        exact iff_of_true (.ahead stopped on watching) fun half => watching.key.not_ge half.1
      | idle stopped off deaf =>
        constructor
        · intro settled half
          obtain ⟨key, pointer⟩ := half.not_deaf
          rcases settled with ⟨-, watching⟩ | ⟨-, -, watching⟩ | ⟨-, -, deaf⟩
          · exact watching.pointer.not_ge pointer
          · exact watching.pointer.not_ge pointer
          · exact deaf.key.not_gt key
        · intro whole
          exact .idle stopped off (deaf.addDragEventHandler unaccepted whole)
    · rw [added]
      refine iff_of_true ?_ fun half => accepted.2.2.2.not_ge half.2.2.2
      cases h with
      | dragging _ watching => exact absurd accepted.1 watching.key.not_ge
      | ahead _ _ watching => exact absurd accepted.1 watching.key.not_ge
      | idle stopped _ _ => exact .ahead stopped rfl accepted.watching

theorem Settled.next_iff (h : Settled m) (call : DragCall Double PixelMap) :
    (m.next ctx call).Settled ↔ SharesMonitors ctx call m := by
  cases call with
  | startDrag env dragData pid isLongPressDrag =>
    exact h.startDrag_iff ctx env dragData pid isLongPressDrag
  | stopDrag env dropResult => exact iff_of_true (h.stopDrag env dropResult) trivial
  | setMouseDragMonitorState keyEvents pointerEvents state =>
    exact h.setMouseDragMonitorState_iff ctx keyEvents pointerEvents state
  | onDragUp =>
    refine iff_of_true ?_ trivial
    change Settled m.onDragUp.2
    rcases m.onDragUp_cases with refused | ⟨-, accepted⟩
    · rwa [refused]
    · rw [accepted]
      exact h.same rfl rfl rfl
  | addPrivilege currentTime pid signature dragEventData =>
    refine iff_of_true ?_ trivial
    change Settled (m.addPrivilege ctx currentTime pid signature dragEventData).2
    rcases m.addPrivilege_cases ctx currentTime pid signature dragEventData with
      refused | ⟨-, -, passed⟩
    · rwa [refused]
    · rw [passed]
      exact h.same rfl rfl rfl
  | getUdKey => exact iff_of_true h trivial
  | foreign call => exact iff_of_true (h.same rfl rfl rfl) trivial
  | turn env =>
    have turned : Settled { m with timers := m.timers.turn.2 } := h.same rfl rfl rfl
    change Settled (m.turn env) ↔ (m.timers.turn.1 = some .mouseDragMonitor → m.dragState = .stop)
    cases fired : m.timers.turn.1 with
    | none =>
      rw [turn_eq_of_none env fired]
      exact iff_of_true turned (by simp)
    | some timer =>
      rw [turn_eq_of_some env fired]
      cases timer with
      | mouseDragMonitor =>
        exact ⟨fun settled _ => turned.resetMouseDragMonitorInfo_iff.mp settled,
          fun ends => turned.resetMouseDragMonitorInfo_iff.mpr (ends rfl)⟩
      | dragUp drag => exact iff_of_true (turned.stopDrag env automaticResult) (by simp)
  | animationEnd => exact iff_of_true (h.same rfl rfl rfl) trivial

/-- The monitors follow the drag state in every state of the runs in which neither feature takes the
monitors of the other away, and in no others. -/
theorem monitors_follow_iff (calls : List (DragCall Double PixelMap)) :
    EachStep (DragManager.next ctx) (fun call m => (m.next ctx call).MonitorsFollow) {} calls ↔
      EachStep (DragManager.next ctx) (SharesMonitors ctx) {} calls := by
  refine EachStep.iff_of_invariant (I := fun m => Tracked m ∧ Settled m) ?_ ?_
    ⟨tracked_start, .idle rfl rfl ⟨by simp, by simp⟩⟩
  · rintro call m ⟨tracked, settled⟩ shares
    exact ⟨tracked.next ctx call, (settled.next_iff ctx call).mpr shares⟩
  · rintro call m ⟨tracked, settled⟩
    rw [(tracked.next ctx call).monitorsFollow_iff]
    exact settled.next_iff ctx call

/-- An input service that has one monitor, then no more. -/
def oneMonitor (id : ℤ) : InputService where
  addMonitor registered := if id ∈ registered then -1 else id
  fresh registered := by
    split_ifs with taken
    · simp
    · exact fun _ => taken

/-- A drag by touch of one shadow. -/
def touchDrag : StartDragData Unit :=
  { shadowInfos := [{ pixelMap := some () }], sourceType := 2, dragNum := 1 }

def someContext : DragContext Unit where
  deviceCollaboration := "collaboration"
  crypto :=
    { hmac := fun _ _ => [], encodeBlock := id, decodeBlock := id, print := fun _ => [] }

/-- What a start meets when nothing fails. -/
def goodStart : StartEnv where
  keyEvents := oneMonitor 1
  pointerEvents := oneMonitor 2
  randBytes := some (.replicate NONCE_SIZE 7)

/-- Mouse monitoring is begun, a drag by touch is started, and three seconds later the timer of the
mouse monitoring runs. -/
theorem monitors_lost_in_touch_drag :
    ¬ ∀ (ctx : DragContext Unit) (calls : List (DragCall Unit Unit)),
      EachStep (DragManager.next ctx) (fun call m => (m.next ctx call).MonitorsFollow) {}
        calls := by
  intro h
  let before : List (DragCall Unit Unit) :=
    [.setMouseDragMonitorState (oneMonitor 1) (oneMonitor 2) true,
      .startDrag goodStart touchDrag 100 false, .foreign (.wait 3000), .foreign .processTimers]
  have follow := h someContext (before ++ [.turn {}]) before (.turn {}) List.prefix_rfl
  exact absurd (follow.running (by decide)).1 (by decide)

end DragManager

end DeviceStatus.Drag
