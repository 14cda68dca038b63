import DeviceStatus.Cooperate.Events
import DeviceStatus.Timer.TimerClient

/-!
# The screen timer

`StateMachine::OnCommonEvent`: cooperation is given up for good when the screen has been off or
locked for `SCREEN_LOCKED_TIMEOUT`. Each of the two events arms a timer and keeps its id in the
one member `screenEventTimer_`, so the timer of the first is out of reach after the second.

## Main definitions

* `ScreenTimer`, `ScreenTimer.onCommonEvent` — the timer manager and the member, and the handler.
* `ScreenTimer.MeasuresDark` — what is expected of a step.
* `ScreenTimer.InReach` — the steps at which `screenEventTimer_` names what is pending.
-/

namespace DeviceStatus.Cooperation

open Transition Transition.System
open Timers (Owner TimerItem TimerClient ForeignCall isExist isExist_iff)

def SCREEN_LOCKED_TIMEOUT : ℤ := 600000

/-- The events that a `CommonEventObserver` subscribes to. -/
inductive CommonEvent where
  | screenOn | screenOff | screenLocked | screenUnlocked | batteryLow | batteryOkay
  deriving DecidableEq

/-- A screen timer is known by the number of events that had called for one before. -/
structure ScreenTimer where
  timerManager : TimerClient ℕ := {}
  screenEventTimer : ℤ := -1
  isStopByScreenOffOrLock : Bool := false
  /-- the events so far that called for a timer -/
  arming : ℕ := 0
  /-- a screen timer has expired since the last of them -/
  expired : Bool := false
  /-- when the screen was turned on or unlocked -/
  bright : List ℤ := []

namespace ScreenTimer

def disarm (s : ScreenTimer) : ScreenTimer :=
  if 0 ≤ s.screenEventTimer ∧ isExist s.screenEventTimer s.timerManager.timers then
    { s with
      timerManager := s.timerManager.removeTimer s.screenEventTimer
      screenEventTimer := -1 }
  else s

def arm (s : ScreenTimer) : ScreenTimer :=
  let added := s.timerManager.addTimer SCREEN_LOCKED_TIMEOUT s.arming
  { s with
    timerManager := added.2
    screenEventTimer := added.1
    isStopByScreenOffOrLock := true
    arming := s.arming + 1
    expired := false }

/-- The handler, and the events that it sends. -/
def onCommonEvent (commonEvent : CommonEvent) (s : ScreenTimer) :
    List CooperateEvent × ScreenTimer :=
  match commonEvent with
  | .screenOn | .screenUnlocked =>
      ([], { s.disarm with bright := s.timerManager.clock :: s.bright })
  | .screenOff | .screenLocked => ([.stop { isUnchained := false }], s.arm)
  | .batteryLow | .batteryOkay => ([], s)

/-- A turn of the processing loop; the callback of a screen timer forgets the id, whichever timer
it was set for. -/
def turn (s : ScreenTimer) : List CooperateEvent × ScreenTimer :=
  let (callback, timerManager) := s.timerManager.turn
  match callback with
  | none => ([], { s with timerManager })
  | some _ =>
      ([.stop { isUnchained := true }],
        { s with timerManager, screenEventTimer := -1, expired := true })

inductive Label where
  | commonEvent (event : CommonEvent)
  | foreign (call : ForeignCall)
  | turn
  deriving DecidableEq

def step (l : Label) (s : ScreenTimer) : List CooperateEvent × ScreenTimer :=
  match l with
  | .commonEvent event => s.onCommonEvent event
  | .foreign call => ([], { s with timerManager := s.timerManager.foreign call })
  | .turn => s.turn

def next (l : Label) (s : ScreenTimer) : ScreenTimer := (s.step l).2

/-- The screen is turned on or unlocked. -/
def Label.IsBright (l : Label) : Prop :=
  l = .commonEvent .screenOn ∨ l = .commonEvent .screenUnlocked

/-- The timer of the `n`-th event that called for one is pending. -/
def Pending (n : ℕ) (t : TimerItem (Owner ℕ)) (s : ScreenTimer) : Prop :=
  t ∈ s.timerManager.timers ∧ t.callback = .own n

/-- No screen timer outlasts the screen being turned on, and cooperation is given up only when
that last happened a whole timeout ago. -/
structure MeasuresDark (l : Label) (s : ScreenTimer) : Prop where
  disarmed : l.IsBright → ∀ n t, ¬ (s.next l).Pending n t
  dark : ∀ event, .stop event ∈ (s.step l).1 → event.isUnchained = true →
    ∀ since ∈ s.bright, since + SCREEN_LOCKED_TIMEOUT ≤ s.timerManager.clock

/-- When the screen is turned on or unlocked, only the timer of the last event that called for
one is pending, and none has expired since. -/
def InReach (l : Label) (s : ScreenTimer) : Prop :=
  l.IsBright → ∀ n t, s.Pending n t → n + 1 = s.arming ∧ s.expired = false

/-- `screenEventTimer_` names the timer of the last event, as long as none has expired. -/
structure Names (s : ScreenTimer) : Prop where
  sound : s.timerManager.Sound
  earlier : ∀ n t, s.Pending n t → n < s.arming
  named : ∀ n t, s.Pending n t → n + 1 = s.arming → s.expired = false →
    (t.id : ℤ) = s.screenEventTimer
  names : 0 ≤ s.screenEventTimer → s.expired = false ∧
    ∃ n t, s.Pending n t ∧ (t.id : ℤ) = s.screenEventTimer ∧ n + 1 = s.arming

/-- The screen timers are due a whole timeout after the screen was last turned on. -/
structure Due (s : ScreenTimer) : Prop where
  past : ∀ since ∈ s.bright, since ≤ s.timerManager.clock
  due : ∀ n t, s.Pending n t → ∀ since ∈ s.bright, since + SCREEN_LOCKED_TIMEOUT ≤ t.nextCallTime

section Steps

variable {s : ScreenTimer} {l : Label} {n : ℕ} {t : TimerItem (Owner ℕ)}

/-- Turning the screen on takes out the timer that is named, and no other. -/
theorem pending_disarm (h : s.Names) :
    s.disarm.Pending n t ↔ s.Pending n t ∧ (t.id : ℤ) ≠ s.screenEventTimer := by
  unfold disarm Pending
  split
  · rw [h.sound.mem_removeTimer]
    tauto
  · next absent =>
    refine (and_iff_left_of_imp ?_).symm
    rintro ⟨mem, -⟩ named
    exact absent ⟨named ▸ Int.natCast_nonneg t.id, isExist_iff.mpr ⟨t, mem, named⟩⟩

/-- Under the invariant the timer that is named is the last one. -/
theorem Names.id_eq_iff (h : s.Names) (pending : s.Pending n t) :
    (t.id : ℤ) = s.screenEventTimer ↔ n + 1 = s.arming ∧ s.expired = false := by
  constructor
  · intro named
    obtain ⟨fresh, k, u, pending', named', last⟩ := h.names (named ▸ Int.natCast_nonneg t.id)
    obtain rfl : t = u :=
      h.sound.wellFormed.eq_of_id pending.1 pending'.1 (by exact_mod_cast named.trans named'.symm)
    obtain rfl : n = k := by simpa using pending.2.symm.trans pending'.2
    exact ⟨last, fresh⟩
  · rintro ⟨last, fresh⟩
    exact h.named n t pending last fresh

theorem disarmed_iff (h : s.Names) :
    (∀ n t, ¬ s.disarm.Pending n t) ↔
      ∀ n t, s.Pending n t → n + 1 = s.arming ∧ s.expired = false := by
  refine forall₂_congr fun n t => ?_
  rw [pending_disarm h, not_and, not_not]
  exact forall_congr' fun pending => h.id_eq_iff pending

theorem Names.disarm (h : s.Names) : s.disarm.Names := by
  constructor
  · unfold ScreenTimer.disarm
    split
    · exact h.sound.removeTimer
    · exact h.sound
  · intro n t pending
    have := h.earlier n t ((pending_disarm h).mp pending).1
    unfold ScreenTimer.disarm
    split <;> exact this
  · intro n t pending
    obtain ⟨before, other⟩ := (pending_disarm h).mp pending
    unfold ScreenTimer.disarm
    split <;> exact fun last fresh => absurd (h.named n t before last fresh) other
  · unfold ScreenTimer.disarm
    split
    · intro impossible
      contradiction
    · next absent =>
      intro nonneg
      obtain ⟨-, n, t, pending, named, -⟩ := h.names nonneg
      exact absurd ⟨nonneg, isExist_iff.mpr ⟨t, pending.1, named⟩⟩ absent

theorem Names.arm (h : s.Names) : s.arm.Names := by
  rcases s.timerManager.addTimer_cases SCREEN_LOCKED_TIMEOUT s.arming with
    refused | ⟨item, callback, free, -, added⟩
  · have old (n : ℕ) (t : TimerItem (Owner ℕ)) : s.arm.Pending n t ↔ s.Pending n t := by
      simp only [ScreenTimer.arm, Pending, refused]
    refine ⟨h.sound.addTimer, fun n t pending => ?_, fun n t pending last => ?_, ?_⟩
    · exact (h.earlier n t ((old n t).mp pending)).trans (Nat.lt_succ_self s.arming)
    · have := h.earlier n t ((old n t).mp pending)
      simp only [ScreenTimer.arm] at last
      omega
    · simp only [ScreenTimer.arm, refused]
      intro impossible
      contradiction
  · have new (n : ℕ) (t : TimerItem (Owner ℕ)) :
        s.arm.Pending n t ↔ t = item ∧ n = s.arming ∨ s.Pending n t := by
      simp only [ScreenTimer.arm, Pending, added, Timers.mem_insertTimerInternal]
      grind
    refine ⟨h.sound.addTimer, fun n t pending => ?_, fun n t pending last _ => ?_, fun _ => ?_⟩
    · rcases (new n t).mp pending with ⟨-, rfl⟩ | pending
      · exact Nat.lt_succ_self _
      · exact (h.earlier n t pending).trans (Nat.lt_succ_self s.arming)
    · rcases (new n t).mp pending with ⟨rfl, -⟩ | pending
      · simp only [ScreenTimer.arm, added]
      · have := h.earlier n t pending
        simp only [ScreenTimer.arm] at last
        omega
    · refine ⟨rfl, s.arming, item, (new _ _).mpr (.inl ⟨rfl, rfl⟩), ?_, rfl⟩
      simp only [ScreenTimer.arm, added]

/-- A step that leaves the screen timers alone. -/
theorem Names.quiet {w : TimerClient ℕ} (h : s.Names) (sound : w.Sound)
    (quiet : TimerClient.Quiet s.timerManager w) :
    ({ s with timerManager := w } : ScreenTimer).Names := by
  refine ⟨sound, ?_, ?_, ?_⟩
  · rintro n t ⟨mem, own⟩
    exact h.earlier n t ⟨(quiet.own t n own).mp mem, own⟩
  · rintro n t ⟨mem, own⟩
    exact h.named n t ⟨(quiet.own t n own).mp mem, own⟩
  · intro nonneg
    obtain ⟨fresh, n, t, ⟨mem, own⟩, rest⟩ := h.names nonneg
    exact ⟨fresh, n, t, ⟨(quiet.own t n own).mpr mem, own⟩, rest⟩

theorem Due.quiet {w : TimerClient ℕ} (h : s.Due)
    (quiet : TimerClient.Quiet s.timerManager w) :
    ({ s with timerManager := w } : ScreenTimer).Due where
  past since mem := (h.past since mem).trans quiet.clock
  due n t pending := h.due n t ⟨(quiet.own t n pending.2).mp pending.1, pending.2⟩

/-- A turn runs the callback of a screen timer that is due, or leaves them alone. -/
theorem turn_cases (h : s.Names) :
    (∃ n t w, s.Pending n t ∧ t.nextCallTime ≤ s.timerManager.clock ∧
      w.clock = s.timerManager.clock ∧ w.Sound ∧ (∀ t' ∈ w.timers, t' ∈ s.timerManager.timers) ∧
      s.turn = ([.stop { isUnchained := true }],
        { s with timerManager := w, screenEventTimer := -1, expired := true })) ∨
    ∃ w, w.Sound ∧ TimerClient.Quiet s.timerManager w ∧
      s.turn = ([], { s with timerManager := w }) := by
  rcases TimerClient.turn_cases h.sound with
    ⟨t, n, p, own, mem, present, due, -, ran, clock, left⟩ | ⟨none, quiet⟩
  · left
    refine ⟨n, t, s.timerManager.turn.2, ⟨mem, own⟩, ?_, clock, h.sound.turn, fun t' mem' => ?_, ?_⟩
    · exact due.trans (h.sound.present p present)
    · exact ((left t').mp mem').1
    · simp only [turn, ran]
  · exact .inr ⟨_, h.sound.turn, quiet, by simp only [turn, none]⟩

theorem Names.turn (h : s.Names) : s.turn.2.Names := by
  rcases turn_cases h with ⟨n, t, w, -, -, -, sound, left, ran⟩ | ⟨w, sound, quiet, ran⟩
  · rw [ran]
    refine ⟨sound, fun n t pending => ?_, fun _ _ _ _ fresh => ?_, fun impossible => ?_⟩
    · exact h.earlier n t ⟨left t pending.1, pending.2⟩
    · contradiction
    · contradiction
  · rw [ran]
    exact h.quiet sound quiet

theorem Names.next (h : s.Names) (l : Label) : (s.next l).Names := by
  cases l with
  | commonEvent event =>
    cases event with
    | screenOn | screenUnlocked =>
      obtain ⟨sound, earlier, named, names⟩ := h.disarm
      exact ⟨sound, earlier, named, names⟩
    | screenOff | screenLocked => exact h.arm
    | batteryLow | batteryOkay => exact h
  | foreign call =>
    have quiet := TimerClient.quiet_foreign h.sound call
    exact h.quiet (TimerClient.sound_foreign h.sound call) quiet
  | turn => exact h.turn

theorem next_bright (bright : l.IsBright) :
    s.next l = { s.disarm with bright := s.timerManager.clock :: s.bright } := by
  rcases bright with rfl | rfl <;> rfl

/-- What is pending after the screen has been turned on. -/
theorem pending_bright (bright : l.IsBright) :
    (s.next l).Pending n t ↔ s.disarm.Pending n t := by
  rw [next_bright bright]
  rfl

/-- A timer that is in reach does not outlast the screen being turned on. -/
theorem Due.bright (named : s.Names) (h : s.Due) (bright : l.IsBright) (reach : s.InReach l) :
    (s.next l).Due := by
  have none := (disarmed_iff named).mpr (reach bright)
  constructor
  · rw [next_bright bright]
    have clock : s.disarm.timerManager.clock = s.timerManager.clock := by
      unfold disarm
      split <;> rfl
    intro since mem
    dsimp only at mem ⊢
    rw [clock]
    rcases List.mem_cons.mp mem with rfl | mem
    · exact le_rfl
    · exact h.past since mem
  · intro n t pending
    exact absurd ((pending_bright bright).mp pending) (none n t)

theorem Due.arm (h : s.Due) : s.arm.Due := by
  constructor
  · exact h.past
  · rcases s.timerManager.addTimer_cases SCREEN_LOCKED_TIMEOUT s.arming with
      refused | ⟨item, -, -, later, added⟩
    · simpa only [ScreenTimer.arm, Pending, refused] using h.due
    · rintro n t ⟨mem, own⟩ since past
      simp only [ScreenTimer.arm, added, Timers.mem_insertTimerInternal] at mem
      rcases mem with rfl | mem
      · have clamped : Timers.clampInterval SCREEN_LOCKED_TIMEOUT = SCREEN_LOCKED_TIMEOUT := rfl
        have := h.past since past
        omega
      · exact h.due n t ⟨mem, own⟩ since past

theorem Due.next (named : s.Names) (h : s.Due) (reach : s.InReach l) : (s.next l).Due := by
  cases l with
  | commonEvent event =>
    cases event with
    | screenOn => exact h.bright named (.inl rfl) reach
    | screenUnlocked => exact h.bright named (.inr rfl) reach
    | screenOff | screenLocked => exact h.arm
    | batteryLow | batteryOkay => exact h
  | foreign call => exact h.quiet (TimerClient.quiet_foreign named.sound call)
  | turn =>
    unfold ScreenTimer.next step
    rcases turn_cases named with ⟨_, _, w, -, -, clock, -, left, ran⟩ | ⟨w, sound, quiet, ran⟩
    · rw [ran]
      refine ⟨fun since mem => (h.past since mem).trans clock.ge, fun n t pending => ?_⟩
      exact h.due n t ⟨left t pending.1, pending.2⟩
    · rw [ran]
      exact h.quiet quiet

/-- A step is as expected exactly when the timers that it must take out are in reach. -/
theorem measuresDark_iff (named : s.Names) (due : s.Due) : s.MeasuresDark l ↔ s.InReach l := by
  constructor
  · intro measures bright
    apply (disarmed_iff named).mp
    simpa only [pending_bright bright] using measures.disarmed bright
  · intro reach
    constructor
    · intro bright
      simpa only [pending_bright bright] using (disarmed_iff named).mpr (reach bright)
    · intro event sent unchained since mem
      cases l with
      | commonEvent common =>
        cases common <;> simp [step, onCommonEvent] at sent
        all_goals simp [sent] at unchained
      | foreign call => simp [step] at sent
      | turn =>
        unfold step at sent
        rcases turn_cases named with ⟨n, t, w, pending, late, -⟩ | ⟨w, -, -, ran⟩
        · exact (due.due n t pending since mem).trans late
        · simp [ran] at sent

end Steps

theorem names_start : Names {} where
  sound := TimerClient.sound_start
  earlier _ _ pending := nomatch pending.1
  named _ _ pending := nomatch pending.1
  names nonneg := absurd nonneg (by decide)

theorem due_start : Due {} where
  past := nofun
  due _ _ pending := nomatch pending.1

end ScreenTimer

end DeviceStatus.Cooperation
