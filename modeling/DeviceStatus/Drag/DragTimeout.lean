import DeviceStatus.Drag.Monitors

/-!
# A drag that nobody stops

`OnDragUp` arms a timer that stops the drag by exception three seconds after the pointer was
released. The manager has one id for such timers, takes a timer out by it when the drag is stopped
with a result, and keeps it when the timer has run or the drag was stopped by exception. The build
is the one without `OHOS_BUILD_ENABLE_ARKUI_X`.

## Main definitions

* `DragManager.EndsOnRelease` — the timers that stop a drag, and those that stopping takes out.
* `DragManager.ReleasesOver` — the calls that find no timer of an earlier drag.
* `Released` — what the timers of releases were armed for.
-/

namespace DeviceStatus.Drag

open Transition.System
open Timers (TimerClient TimerItem ForeignCall Owner)

/-- The timer of a release in the drag of that number. -/
def IsRelease (drag : ℕ) (t : TimerItem (Owner DragTimer)) : Prop :=
  t.callback = .own (.dragUp drag)

/-- Every timer of a release is one of the drag that was started last, and is not due before the
time that a drag has after a release. -/
structure Released (timers : TimerClient DragTimer) (drags : ℕ) (releases : List ℤ) : Prop where
  sound : timers.Sound
  own : ∀ t ∈ timers.timers, ∀ drag, IsRelease drag t →
    drag = drags ∧ ∃ released ∈ releases, released + TIMEOUT_MS ≤ t.nextCallTime

namespace Released

variable {w w' : TimerClient DragTimer} {drags : ℕ} {releases : List ℤ}

theorem start : Released {} 0 [] where
  sound := TimerClient.sound_start
  own := nofun

/-- Timers may go. -/
theorem mono (h : Released w drags releases) (sound : w'.Sound)
    (left : ∀ t ∈ w'.timers, ∀ drag, IsRelease drag t → t ∈ w.timers) :
    Released w' drags releases :=
  ⟨sound, fun t mem drag release => h.own t (left t mem drag release) drag release⟩

theorem removeTimer (h : Released w drags releases) (timerId : ℤ) :
    Released (w.removeTimer timerId) drags releases :=
  h.mono h.sound.removeTimer fun _ mem _ _ => (h.sound.mem_removeTimer.mp mem).1

theorem foreign (h : Released w drags releases) (call : ForeignCall) :
    Released (w.foreign call) drags releases :=
  h.mono (TimerClient.sound_foreign h.sound call) fun t mem drag release =>
    ((TimerClient.quiet_foreign h.sound call).own t (.dragUp drag) release).mp mem

theorem turn (h : Released w drags releases) : Released w.turn.2 drags releases := by
  refine h.mono h.sound.turn fun t mem drag release => ?_
  rcases TimerClient.turn_cases h.sound with ⟨t', _, _, -, -, -, -, -, -, -, left⟩ | ⟨-, quiet⟩
  · exact ((left t).mp mem).1
  · exact (quiet.own t (.dragUp drag) release).mp mem

/-- The timer of the mouse monitor is no timer of a release. -/
theorem addMouseTimer (h : Released w drags releases) :
    Released (w.addTimer TIMEOUT_MS .mouseDragMonitor).2 drags releases := by
  refine h.mono h.sound.addTimer fun t mem drag release => ?_
  rcases w.addTimer_cases TIMEOUT_MS .mouseDragMonitor with refused | ⟨item, callback, -, -, added⟩
  · rwa [refused] at mem
  · rw [added] at mem
    rcases Timers.mem_insertTimerInternal.mp mem with rfl | mem
    · cases callback.symm.trans release
    · exact mem

theorem addReleaseTimer (h : Released w drags releases) :
    Released (w.addTimer TIMEOUT_MS (.dragUp drags)).2 drags (w.clock :: releases) := by
  have own : ∀ t ∈ w.timers, ∀ drag, IsRelease drag t →
      drag = drags ∧ ∃ released ∈ w.clock :: releases, released + TIMEOUT_MS ≤ t.nextCallTime := by
    intro t mem drag release
    obtain ⟨same, released, earlier, due⟩ := h.own t mem drag release
    exact ⟨same, released, List.mem_cons_of_mem _ earlier, due⟩
  refine ⟨h.sound.addTimer, ?_⟩
  rcases w.addTimer_cases TIMEOUT_MS (.dragUp drags) with refused | ⟨item, callback, -, due, added⟩
  · rw [refused]
    exact own
  · rw [added]
    intro t mem drag release
    rcases Timers.mem_insertTimerInternal.mp mem with rfl | mem
    · cases callback.symm.trans release
      exact ⟨rfl, w.clock, List.mem_cons_self, due.ge⟩
    · exact own t mem drag release

end Released

namespace DragManager

variable {Double PixelMap : Type} (ctx : DragContext Double)

/-- Stopping the drag takes timers out only if a release of this drag armed them. -/
def StopRemovesOwn (env : StopEnv) (dropResult : DragDropResult) (m : DragManager PixelMap) :
    Prop :=
  ∀ t ∈ m.timers.timers, t ∉ (m.stopDrag env dropResult).2.timers.timers → IsRelease m.drags t

/-- A drag that a timer stops was released long enough ago, and what is taken out when a drag is
stopped was armed by a release of that drag. -/
def EndsOnRelease (call : DragCall Double PixelMap) (m : DragManager PixelMap) : Prop :=
  match call with
  | .stopDrag env dropResult => m.StopRemovesOwn env dropResult
  | .turn env => ∀ drag, m.timers.turn.1 = some (.dragUp drag) →
      (m.Running → ∃ released ∈ m.releases, released + TIMEOUT_MS ≤ m.timers.clock) ∧
        { m with timers := m.timers.turn.2 }.StopRemovesOwn env automaticResult
  | _ => True

/-- A drag is started when no timer of a release is left, and one that is running is stopped with a
result when no other timer has the id that the manager keeps. -/
def ReleasesOver (call : DragCall Double PixelMap) (m : DragManager PixelMap) : Prop :=
  match call with
  | .startDrag env dragData _ _ =>
      m.Busy ∨ ¬ env.Ready ctx dragData m.monitors ∨ env.deliversNonce ctx = false ∨
        ∀ t ∈ (m.resetMouseDragMonitorTimerId ctx dragData).timers.timers, ∀ drag,
          ¬ IsRelease drag t
  | .stopDrag _ dropResult =>
      m.dragState ≠ .stop → dropResult.result ≠ .dragException →
        ∀ t ∈ m.timers.timers, (t.id : ℤ) = m.timerId → ∃ drag, IsRelease drag t
  | _ => True

/-- The timers of releases are those of the last drag. -/
def ReleasesOwn (m : DragManager PixelMap) : Prop := Released m.timers m.drags m.releases

variable {m : DragManager PixelMap}

theorem ReleasesOwn.removeMouseDragMonitorTimer (h : ReleasesOwn m) {timers : TimerClient DragTimer}
    (cut : timers = m.timers ∨ timers = m.timers.removeTimer m.mouseDragMonitorTimerId) :
    Released timers m.drags m.releases := by
  rcases cut with rfl | rfl
  · exact h
  · exact Released.removeTimer h _

theorem ReleasesOwn.resetMouseDragMonitorInfo (h : ReleasesOwn m) :
    ReleasesOwn m.resetMouseDragMonitorInfo := by
  obtain ⟨timers, id, cut, reset⟩ := m.resetMouseDragMonitorInfo_eq
  rw [reset]
  exact h.removeMouseDragMonitorTimer cut

theorem removeDragUpTimer_timers (m : DragManager PixelMap) (dropResult : DragDropResult) :
    (m.removeDragUpTimer dropResult).timers = m.timers ∨
    (dropResult.result ≠ .dragException ∧
      (m.removeDragUpTimer dropResult).timers = m.timers.removeTimer m.timerId) := by
  unfold removeDragUpTimer
  split_ifs with removes
  · exact .inr ⟨removes.1, rfl⟩
  · exact .inl rfl

/-- What stopping does to the timers. -/
theorem stopDrag_timers (m : DragManager PixelMap) (env : StopEnv) (dropResult : DragDropResult) :
    (m.stopDrag env dropResult).2.timers = m.timers ∨
    (m.dragState ≠ .stop ∧ dropResult.result ≠ .dragException ∧
      (m.stopDrag env dropResult).2.timers = m.timers.removeTimer m.timerId) := by
  rcases m.stopDrag_cases env dropResult with ⟨-, refused⟩ | ⟨going, stopped⟩
  · rw [refused]
    exact .inl rfl
  · rw [stopped]
    rcases m.removeDragUpTimer_timers dropResult with same | ⟨result, removed⟩
    · exact .inl same
    · exact .inr ⟨going, result, removed⟩

theorem stopDrag_history (m : DragManager PixelMap) (env : StopEnv)
    (dropResult : DragDropResult) :
    (m.stopDrag env dropResult).2.drags = m.drags ∧
      (m.stopDrag env dropResult).2.releases = m.releases := by
  rcases m.stopDrag_cases env dropResult with ⟨-, refused⟩ | ⟨-, stopped⟩
  · rw [refused]
    exact ⟨rfl, rfl⟩
  · rw [stopped]
    exact ⟨rfl, rfl⟩

theorem ReleasesOwn.stopDrag (h : ReleasesOwn m) (env : StopEnv) (dropResult : DragDropResult) :
    ReleasesOwn (m.stopDrag env dropResult).2 := by
  obtain ⟨drags, releases⟩ := m.stopDrag_history env dropResult
  rw [ReleasesOwn, drags, releases]
  rcases m.stopDrag_timers env dropResult with same | ⟨-, -, removed⟩
  · rw [same]
    exact h
  · rw [removed]
    exact Released.removeTimer h _

theorem ReleasesOwn.startDrag (h : ReleasesOwn m) (env : StartEnv)
    (dragData : StartDragData PixelMap) (pid : ℤ) (isLongPressDrag : Bool)
    (past : ReleasesOver ctx (.startDrag env dragData pid isLongPressDrag) m) :
    ReleasesOwn (m.startDrag ctx env dragData pid isLongPressDrag).2 := by
  have reset : ReleasesOwn (m.resetMouseDragMonitorTimerId ctx dragData) := by
    obtain ⟨timers, id, cut, reset⟩ := m.resetMouseDragMonitorTimerId_eq ctx dragData
    rw [reset]
    exact h.removeMouseDragMonitorTimer cut
  have begun : ReleasesOwn (m.begun ctx env dragData pid isLongPressDrag) := reset
  have exit := m.startDrag_exit ctx env dragData pid isLongPressDrag
  generalize m.startDrag ctx env dragData pid isLongPressDrag = result at exit ⊢
  cases exit with
  | refused => exact reset
  | failed free unready w monitors =>
    apply ReleasesOwn.resetMouseDragMonitorInfo
    exact begun
  | undelivered => exact begun
  | started free ready delivered =>
    rcases past with busy | unready | lost | none
    · exact absurd busy free
    · exact absurd ready unready
    · exact absurd (lost.symm.trans delivered) (by simp)
    · exact ⟨begun.sound, fun t mem drag release => absurd release (none t mem drag)⟩

theorem ReleasesOwn.next (h : ReleasesOwn m) (call : DragCall Double PixelMap)
    (past : ReleasesOver ctx call m) : ReleasesOwn (m.next ctx call) := by
  cases call with
  | startDrag env dragData pid isLongPressDrag =>
    exact h.startDrag ctx env dragData pid isLongPressDrag past
  | stopDrag env dropResult => exact h.stopDrag env dropResult
  | setMouseDragMonitorState keyEvents pointerEvents state =>
    cases state with
    | false => exact h.resetMouseDragMonitorInfo
    | true =>
      change ReleasesOwn (m.setMouseDragMonitorState keyEvents pointerEvents true).2
      rcases m.setMouseDragMonitorState_cases keyEvents pointerEvents with
        ⟨-, refused⟩ | ⟨-, added⟩
      · rw [refused]
        exact h
      · rw [added]
        exact Released.addMouseTimer h
  | onDragUp =>
    change ReleasesOwn m.onDragUp.2
    rcases m.onDragUp_cases with refused | ⟨-, accepted⟩
    · rw [refused]
      exact h
    · rw [accepted]
      exact Released.addReleaseTimer h
  | addPrivilege currentTime pid signature dragEventData =>
    change ReleasesOwn (m.addPrivilege ctx currentTime pid signature dragEventData).2
    rcases m.addPrivilege_cases ctx currentTime pid signature dragEventData with
      refused | ⟨-, -, passed⟩
    · rw [refused]
      exact h
    · rw [passed]
      exact h
  | getUdKey => exact h
  | foreign call => exact Released.foreign h call
  | turn env =>
    have turned : ReleasesOwn { m with timers := m.timers.turn.2 } := Released.turn h
    exact turn_keeps env turned (fun _ h => h.resetMouseDragMonitorInfo)
      (fun _ h => h.stopDrag env automaticResult)
  | animationEnd => exact h

/-- A timer that has the id of a release of this drag is one, and stopping takes no other out. -/
theorem ReleasesOwn.stopRemovesOwn (h : ReleasesOwn m) (env : StopEnv)
    (dropResult : DragDropResult)
    (named : m.dragState ≠ .stop → dropResult.result ≠ .dragException →
      ∀ t ∈ m.timers.timers, (t.id : ℤ) = m.timerId → ∃ drag, IsRelease drag t) :
    m.StopRemovesOwn env dropResult := by
  intro t mem gone
  rcases m.stopDrag_timers env dropResult with same | ⟨going, result, removed⟩
  · rw [same] at gone
    exact absurd mem gone
  · rw [removed, h.sound.mem_removeTimer] at gone
    have id : (t.id : ℤ) = m.timerId := not_not.mp fun other => gone ⟨mem, other⟩
    obtain ⟨drag, release⟩ := named going result t mem id
    obtain ⟨rfl, -⟩ := h.own t mem drag release
    exact release

theorem ReleasesOwn.endsOnRelease (h : ReleasesOwn m) (call : DragCall Double PixelMap)
    (past : ReleasesOver ctx call m) : m.EndsOnRelease call := by
  cases call with
  | stopDrag env dropResult => exact h.stopRemovesOwn env dropResult past
  | turn env =>
    intro drag fired
    have turned : ReleasesOwn { m with timers := m.timers.turn.2 } := Released.turn h
    refine ⟨fun _ => ?_, turned.stopRemovesOwn env automaticResult fun _ result => ?_⟩
    · rcases TimerClient.turn_cases h.sound with
        ⟨t, c, p, release, mem, present, due, -, ran, -, -⟩ | ⟨none, -⟩
      · cases ran.symm.trans fired
        obtain ⟨-, released, earlier, least⟩ := h.own t mem drag release
        have now := h.sound.present p present
        exact ⟨released, earlier, by omega⟩
      · cases none.symm.trans fired
    · exact absurd rfl result
  | startDrag | setMouseDragMonitorState | onDragUp | addPrivilege | getUdKey | foreign
  | animationEnd => trivial

/-- In the runs that start a drag when the releases of earlier ones are over, and stop it when no
other timer has got the id of one, a drag ends by its own release only. -/
theorem drag_ends_on_own_release (calls : List (DragCall Double PixelMap))
    (past : EachStep (DragManager.next ctx) (ReleasesOver ctx) {} calls) :
    EachStep (DragManager.next ctx) EndsOnRelease {} calls :=
  EachStep.of_invariant (I := ReleasesOwn) (fun call _ h past => h.next ctx call past)
    (fun call _ h past => h.endsOnRelease ctx call past) Released.start past

/-- The pointer is released, and three seconds later the timer runs. -/
def abandonedDrag : List (DragCall Unit Unit) :=
  [.startDrag goodStart touchDrag 100 false, .onDragUp, .foreign (.wait 3000),
    .foreign .processTimers, .turn {}]

theorem abandoned_drag_ends_on_own_release :
    EachStep (DragManager.next someContext) EndsOnRelease {} abandonedDrag :=
  drag_ends_on_own_release someContext abandonedDrag <|
    .cons (.inr (.inr (.inr nofun))) <|
      .cons trivial <| .cons trivial <| .cons trivial <| .cons trivial .nil

/-- A drag that is stopped by exception after its release leaves its timer to the next drag. -/
theorem drag_ends_on_earlier_release :
    ¬ ∀ (ctx : DragContext Unit) (calls : List (DragCall Unit Unit)),
      EachStep (DragManager.next ctx) EndsOnRelease {} calls := by
  intro h
  let before : List (DragCall Unit Unit) :=
    [.startDrag goodStart touchDrag 100 false, .onDragUp, .stopDrag {} automaticResult,
      .startDrag goodStart touchDrag 100 false, .foreign (.wait 3000), .foreign .processTimers]
  have ends := h someContext (before ++ [.turn {}]) before (.turn {}) List.prefix_rfl
  obtain ⟨released, mem, -⟩ := (ends 1 (by decide)).1 (by decide)
  have none : (runFrom (DragManager.next someContext) {} before).releases = [] := by decide
  rw [none] at mem
  cases mem

end DragManager

end DeviceStatus.Drag
