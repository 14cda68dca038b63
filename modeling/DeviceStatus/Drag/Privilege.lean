import DeviceStatus.Drag.DragSteps
import DeviceStatus.Library.Transition

/-!
# One nonce, one privilege

A process that took part in the release of a drag proves it by a signature made from the nonce of
that drag, and may then have the key to the data. The nonce goes when a signature is accepted, the
process is forgotten when the drag is stopped. The drag manager is that of the build without
`OHOS_BUILD_ENABLE_ARKUI_X`.

## Main definitions

* `Privileges` — what is on record of a run: verifications since the last nonce, and the process
  that the last one in this drag admitted.
* `DragManager.OneNonceOnePrivilege` — what the calls may return, by that record.
-/

namespace DeviceStatus.Drag

open Transition.System

/-- The calls of `AddPrivilege` that got past verification since a nonce was generated, and the
process of the last one in the drag that is running. -/
structure Privileges where
  verified : ℕ := 0
  holder : Option ℕ := none

namespace DragManager

variable {Double PixelMap : Type} (ctx : DragContext Double)

/-- Whether the start gets to where a nonce is generated. -/
def generatesNonce (env : StartEnv) (dragData : StartDragData PixelMap) (pid : ℤ)
    (isLongPressDrag : Bool) (m : DragManager PixelMap) : Bool :=
  !decide m.Busy && ((m.begun ctx env dragData pid isLongPressDrag).onStartDrag ctx env).1

/-- What a call adds to the record; with no drag running nobody is admitted. -/
def record (call : DragCall Double PixelMap) (m : DragManager PixelMap) (p : Privileges) :
    Privileges :=
  match call with
  | .startDrag env dragData pid isLongPressDrag =>
      { verified := if m.generatesNonce ctx env dragData pid isLongPressDrag then 0 else p.verified
        holder :=
          if (m.startDrag ctx env dragData pid isLongPressDrag).1 then none else p.holder }
  | .addPrivilege currentTime pid signature dragEventData =>
      if (m.addPrivilege ctx currentTime pid signature dragEventData).1 then
        { verified := p.verified + 1, holder := some pid }
      else p
  | _ => if (m.next ctx call).dragState = .stop then { p with holder := none } else p

/-- The manager and the record of its run. -/
def recorded (call : DragCall Double PixelMap) (s : DragManager PixelMap × Privileges) :
    DragManager PixelMap × Privileges :=
  (s.1.next ctx call, s.1.record ctx call s.2)

/-- A call gets past verification for the first time since a nonce was generated, and the key to
the data goes to a process of the system or to the one that was verified last in this drag. -/
def OneNonceOnePrivilege (call : DragCall Double PixelMap)
    (s : DragManager PixelMap × Privileges) : Prop :=
  match call with
  | .addPrivilege currentTime pid signature dragEventData =>
      (s.1.addPrivilege ctx currentTime pid signature dragEventData).1 = true → s.2.verified = 0
  | .getUdKey pid isSystemService =>
      isSystemService = false → ∀ udKey, s.1.getUdKey pid isSystemService = some udKey →
        s.2.holder = some pid
  | _ => True

/-- There is a nonce only if nobody has been verified since it was generated, and the process that
is remembered is the one on record; nobody is remembered when the drag is over. -/
structure Guarded (m : DragManager PixelMap) (p : Privileges) : Prop where
  nonce : m.security.auth.nonceBin ≠ [] → p.verified = 0
  holder : m.security.securityPid = -1 ∨
    ∃ pid : ℕ, p.holder = some pid ∧ m.security.securityPid = pid
  idle : ¬ m.Running → m.security.securityPid = -1

variable {m m' : DragManager PixelMap} {p : Privileges}

theorem generatesNonce_iff (env : StartEnv) (dragData : StartDragData PixelMap) (pid : ℤ)
    (isLongPressDrag : Bool) :
    m.generatesNonce ctx env dragData pid isLongPressDrag = true ↔
      ¬ m.Busy ∧ env.Ready ctx dragData m.monitors := by
  rw [generatesNonce, Bool.and_eq_true, Bool.not_eq_true', decide_eq_false_iff_not]
  refine and_congr_right fun free => ?_
  obtain ⟨timers, id, -, begun⟩ := m.begun_eq ctx env dragData pid isLongPressDrag
  have idle : (m.begun ctx env dragData pid isLongPressDrag).drawing.isRunning = false := by
    rw [begun]
    simpa using (not_or.mp free).2
  have monitors : (m.begun ctx env dragData pid isLongPressDrag).monitors = m.monitors := by
    rw [begun]
  rw [← @ready_begun _ _ ctx m env dragData pid isLongPressDrag m.monitors]
  rcases @onStartDrag_cases _ _ ctx _ env idle with
    ⟨unready, w, -, failed⟩ | ⟨ready, w, -, started⟩
  · rw [monitors] at unready
    rw [failed]
    exact iff_of_false (by simp) unready
  · rw [monitors] at ready
    rw [started]
    exact iff_of_true rfl ready

/-- Calls that leave the nonce and the process alone, and the drag unless it had none. -/
theorem Guarded.same (h : Guarded m p) (security : m'.security = m.security)
    (running : m'.dragState = m.dragState) : Guarded m' p := by
  refine ⟨fun nonce => ?_, ?_, fun idle => ?_⟩
  · rw [security] at nonce
    exact h.nonce nonce
  · rw [security]
    exact h.holder
  · rw [security]
    apply h.idle
    rwa [Running, ← running]

/-- With no drag, nobody is on record. -/
theorem Guarded.forget (h : Guarded m p) :
    Guarded m (if m.dragState = .stop then { p with holder := none } else p) := by
  split_ifs with stopped
  · have idle : m.security.securityPid = -1 := h.idle (by simp [Running, stopped])
    exact ⟨h.nonce, .inl idle, h.idle⟩
  · exact h

theorem Guarded.resetMouseDragMonitorInfo (h : Guarded m p) :
    Guarded m.resetMouseDragMonitorInfo p := by
  obtain ⟨timers, id, -, reset⟩ := m.resetMouseDragMonitorInfo_eq
  rw [reset]
  exact h.same rfl rfl

theorem Guarded.stopDrag (h : Guarded m p) (env : StopEnv) (dropResult : DragDropResult) :
    Guarded (m.stopDrag env dropResult).2 p := by
  rcases m.stopDrag_cases env dropResult with ⟨-, refused⟩ | ⟨-, stopped⟩
  · rw [refused]
    exact h.same rfl rfl
  · rw [stopped]
    exact ⟨h.nonce, .inl rfl, fun _ => rfl⟩

theorem Guarded.startDrag (h : Guarded m p) (env : StartEnv) (dragData : StartDragData PixelMap)
    (pid : ℤ) (isLongPressDrag : Bool) :
    Guarded (m.startDrag ctx env dragData pid isLongPressDrag).2
      (m.record ctx (.startDrag env dragData pid isLongPressDrag) p) := by
  have generates := @generatesNonce_iff _ _ ctx m env dragData pid isLongPressDrag
  obtain ⟨timers, id, -, begun⟩ := m.begun_eq ctx env dragData pid isLongPressDrag
  have exit := m.startDrag_exit ctx env dragData pid isLongPressDrag
  rw [record]
  generalize m.startDrag ctx env dragData pid isLongPressDrag = result at exit ⊢
  have kept (same : ¬ (¬ m.Busy ∧ env.Ready ctx dragData m.monitors)) :
      (if m.generatesNonce ctx env dragData pid isLongPressDrag then 0 else p.verified) =
        p.verified := if_neg (mt generates.mp same)
  cases exit with
  | refused busy =>
    rw [kept fun free => free.1 busy]
    obtain ⟨timers, id, -, reset⟩ := m.resetMouseDragMonitorTimerId_eq ctx dragData
    rw [reset]
    exact h.same rfl rfl
  | failed free unready w monitors =>
    rw [kept fun ready => unready ready.2]
    apply Guarded.resetMouseDragMonitorInfo
    rw [begun]
    exact h.same rfl rfl
  | undelivered free ready lost w monitors =>
    rw [if_pos (generates.mpr ⟨free, ready⟩), begun]
    have none : m.security.securityPid = -1 := h.idle fun running => free (.inl running)
    exact ⟨fun _ => rfl, .inl none, fun _ => none⟩
  | started free ready delivered w monitors =>
    rw [if_pos (generates.mpr ⟨free, ready⟩), begun]
    have none : m.security.securityPid = -1 := h.idle fun running => free (.inl running)
    exact ⟨fun _ => rfl, .inl none, fun idle => absurd (.inl rfl) idle⟩

theorem Guarded.next (h : Guarded m p) (call : DragCall Double PixelMap) :
    Guarded (m.next ctx call) (m.record ctx call p) := by
  cases call with
  | startDrag env dragData pid isLongPressDrag =>
    exact h.startDrag ctx env dragData pid isLongPressDrag
  | stopDrag env dropResult => exact (h.stopDrag env dropResult).forget
  | setMouseDragMonitorState keyEvents pointerEvents state =>
    apply Guarded.forget
    cases state with
    | false => exact h.resetMouseDragMonitorInfo.same rfl rfl
    | true =>
      change Guarded (m.setMouseDragMonitorState keyEvents pointerEvents true).2 p
      rcases m.setMouseDragMonitorState_cases keyEvents pointerEvents with
        ⟨-, refused⟩ | ⟨-, added⟩
      · rw [refused]
        exact h.same rfl rfl
      · rw [added]
        exact h.same rfl rfl
  | onDragUp =>
    apply Guarded.forget
    change Guarded m.onDragUp.2 p
    rcases m.onDragUp_cases with refused | ⟨-, accepted⟩
    · rw [refused]
      exact h
    · rw [accepted]
      exact h.same rfl rfl
  | addPrivilege currentTime pid signature dragEventData =>
    rw [record]
    change Guarded (m.addPrivilege ctx currentTime pid signature dragEventData).2 _
    rcases m.addPrivilege_cases ctx currentTime pid signature dragEventData with
      refused | ⟨running, -, passed⟩
    · rw [refused]
      exact h
    · rw [passed]
      exact ⟨fun nonce => absurd rfl nonce, .inr ⟨pid, rfl, rfl⟩, fun idle => absurd running idle⟩
  | getUdKey => exact h.forget
  | foreign call =>
    apply Guarded.forget
    exact h.same rfl rfl
  | turn env =>
    apply Guarded.forget
    have turned : Guarded { m with timers := m.timers.turn.2 } p := h.same rfl rfl
    exact turn_keeps (I := fun m => Guarded m p) env turned
      (fun _ h => h.resetMouseDragMonitorInfo) (fun _ h => h.stopDrag env automaticResult)
  | animationEnd =>
    apply Guarded.forget
    exact h.same rfl rfl

/-- A key goes to a process of the system, or to the one that is remembered. -/
theorem Guarded.getUdKey (h : Guarded m p) {pid : ℕ} {udKey : StdString}
    (key : m.getUdKey pid false = some udKey) : p.holder = some pid := by
  have verified : m.security.verifySecurityPid pid = true := by
    by_contra other
    simp [DragManager.getUdKey, other] at key
  have same : (pid : ℤ) = m.security.securityPid := by
    simpa [DragSecurityManager.verifySecurityPid] using verified
  rcases h.holder with nobody | ⟨holder, recorded, remembered⟩
  · omega
  · rw [recorded, show holder = pid by omega]

theorem Guarded.oneNonceOnePrivilege (h : Guarded m p) (call : DragCall Double PixelMap) :
    OneNonceOnePrivilege ctx call (m, p) := by
  cases call with
  | addPrivilege currentTime pid signature dragEventData =>
    intro passed
    rcases m.addPrivilege_cases ctx currentTime pid signature dragEventData with
      refused | ⟨-, nonce, -⟩
    · simp [refused] at passed
    · exact h.nonce nonce
  | getUdKey pid isSystemService =>
    rintro rfl udKey key
    exact h.getUdKey key
  | startDrag | stopDrag | setMouseDragMonitorState | onDragUp | foreign | turn
  | animationEnd => trivial

/-- In every run, at most one call gets past verification for a nonce, and the key to the data of a
drag goes to the process verified last in that drag, or to the system. -/
theorem one_nonce_one_privilege (calls : List (DragCall Double PixelMap)) :
    EachStep (recorded ctx) (OneNonceOnePrivilege ctx) ({}, {}) calls := by
  refine EachStep.of_runFrom (I := fun s => Guarded s.1 s.2) ?_ ?_ ?_
  · rintro call ⟨m, p⟩ h
    exact h.next ctx call
  · rintro call ⟨m, p⟩ h
    exact h.oneNonceOnePrivilege ctx call
  · exact ⟨fun _ => rfl, .inl rfl, fun _ => rfl⟩

end DragManager

end DeviceStatus.Drag
