import DeviceStatus.Library.Transition
import DeviceStatus.Timer.TimerManager
import Mathlib.Logic.Function.Basic

/-!
# Timer handles

The timer manager among its clients. Calls go through `DelegateTasks`: on the worker thread they
run at once, from any other thread they wait in the queue, and an asynchronous one waits in any
case and returns before it has run. The queue may refuse a call, and a caller that waits may give
up: its task is then dropped, unless it has run in the meantime. The callback of a timer is known
by the number of the call of `AddTimer` or `AddTimerAsync` that added it, and a client says which
of its timers it means by that number.

## Main definitions

* `AddCall`, `TimerTask`, `TimerService` — a call as its client knows it, the tasks of the worker
  and the whole service.
* `TimerService.Allowed` — a client uses handles that it was returned and that are still good.
* `TimerService.Identifies` — what is expected of a removal and of a reset.
* `TimerService.Separates` — the steps that keep handles apart.
-/

namespace DeviceStatus.Timers

open Transition

/-- A call of `AddTimer` or `AddTimerAsync`. -/
structure AddCall where
  /-- the call returned before its task has run -/
  deferred : Bool := false
  /-- what it returned to the client; nothing as long as the client waits -/
  handle : Option ℤ := none
  /-- what `OnAddTimer` returned on the worker thread, when it has run -/
  timer : Option ℤ := none
  /-- the client has called for the removal and drops the handle -/
  dropped : Bool := false
  /-- the client has waited too long, and what it is returned is an error code -/
  timedOut : Bool := false

/-- `OnAddTimer` returns to the worker, and to the client if it waits. -/
def AddCall.ran (timer : ℤ) (c : AddCall) : AddCall :=
  { c with
    timer := some timer, handle := if c.deferred ∨ c.timedOut then c.handle else some timer }

/-- A task of the worker thread; the number is that of the call whose timer is meant. A client
waits for a removal if it is `sync`, and for every reset. -/
inductive TimerTask where
  | add (call : ℕ) (intervalMs repeatCount : ℤ)
  | remove (timerId : ℤ) (call : ℕ) (sync : Bool)
  | reset (timerId : ℤ) (call : ℕ)
  | process

namespace TimerTask

/-- The task removes or resets the timer with id `timerId` in the name of `call`. -/
def Uses (timerId : ℤ) (call : ℕ) : TimerTask → Prop
  | .remove id k _ | .reset id k => id = timerId ∧ k = call
  | _ => False

def isAdd (call : ℕ) : TimerTask → Bool
  | .add k _ _ => k = call
  | _ => false

/-- A removal that the client of `call` waits for. -/
def isSyncRemove (call : ℕ) : TimerTask → Bool
  | .remove _ k sync => sync && k = call
  | _ => false

def isReset (call : ℕ) : TimerTask → Bool
  | .reset _ k => k = call
  | _ => false

end TimerTask

structure TimerService where
  timers : List (TimerItem ℕ) := []
  presentTime : Option ℤ := none
  tasks : List TimerTask := []
  /-- how many calls have been made -/
  count : ℕ := 0
  calls : ℕ → AddCall := fun _ => {}

/-- The calls of clients, from the worker thread or from another one, and what the worker does.
A call that the queue refuses returns an error code. A client that has waited too long for
`AddTimer` marks its task, before or after it has run, and returns one as well; its removal or
reset is dropped if it has not run when it is marked. -/
inductive ServiceLabel where
  | addTimer (onWorker : Bool) (nowTime intervalMs repeatCount : ℤ)
  | addTimerAsync (intervalMs repeatCount : ℤ)
  | refuse (code : ℤ)
  | timeout (call : ℕ)
  | setWaited (call : ℕ) (code : ℤ)
  | removeTimer (onWorker : Bool) (call : ℕ)
  | removeTimerAsync (call : ℕ)
  | refuseRemoval (call : ℕ)
  | resetTimer (onWorker : Bool) (nowTime : ℤ) (call : ℕ)
  | refuseReset (call : ℕ)
  /-- the client of a removal or a reset gives up before its task has run -/
  | giveUp (call : ℕ)
  | processTimers
  | work (nowTime : ℤ)
  | pass

namespace TimerTask

theorem Uses.eq {task : TimerTask} {i j : ℤ} {k l : ℕ} (h : task.Uses i k) (h' : task.Uses j l) :
    i = j ∧ k = l := by
  cases task <;> simp_all [Uses]

end TimerTask

namespace TimerService

def post (task : TimerTask) (w : TimerService) : TimerService :=
  { w with tasks := w.tasks ++ [task] }

def call (call : AddCall) (w : TimerService) : TimerService :=
  { w with count := w.count + 1, calls := Function.update w.calls w.count call }

/-- The client drops the handle of a call, or has it again. -/
def drop (dropped : Bool) (call : ℕ) (w : TimerService) : TimerService :=
  { w with calls := Function.update w.calls call { w.calls call with dropped } }

/-- `wait_for` of a call of `AddTimer` returns `timeout`. -/
def timeout (call : ℕ) (w : TimerService) : TimerService :=
  if w.tasks.any (·.isAdd call) ∧ (w.calls call).deferred = false then
    { w with calls := Function.update w.calls call { w.calls call with timedOut := true } }
  else w

/-- The call of `AddTimer` that has waited too long marks its task and returns. A task that has been
marked is discarded when its turn comes, so it leaves the queue. -/
def setWaited (call : ℕ) (code : ℤ) (w : TimerService) : TimerService :=
  if (w.calls call).timedOut = true ∧ (w.calls call).handle = none then
    { w with
      tasks := w.tasks.filter fun task => ¬ task.isAdd call
      calls := Function.update w.calls call { w.calls call with handle := some code } }
  else w

/-- A removal or a reset that has waited too long marks its task and returns. -/
def giveUp (call : ℕ) (w : TimerService) : TimerService :=
  if w.tasks.any fun task => task.isSyncRemove call || task.isReset call then
    { w.drop false call with
      tasks := w.tasks.filter fun task => ¬ (task.isSyncRemove call || task.isReset call) }
  else w

/-- A task runs on the worker thread: `OnAddTimer`, `OnRemoveTimer`, `OnResetTimer` or
`OnProcessTimers`. -/
def run (nowTime : ℤ) (task : TimerTask) (w : TimerService) : TimerService :=
  match task with
  | .add call intervalMs repeatCount =>
      let added := addTimerInternal nowTime intervalMs repeatCount (some call) w.timers
      { w with
        timers := added.2
        calls := Function.update w.calls call (AddCall.ran added.1 (w.calls call)) }
  | .remove timerId _ _ => { w with timers := (removeTimerInternal timerId w.timers).2 }
  | .reset timerId _ => { w with timers := (resetTimerInternal nowTime timerId w.timers).2 }
  | .process => { w with presentTime := some nowTime }

/-- A turn of the processing loop. -/
def turn (presentTime : ℤ) (w : TimerService) : TimerService :=
  match Timers.pass presentTime w.timers with
  | .stop timers => { w with timers, presentTime := none }
  | .run _ timers => { w with timers }

/-- The handle that the client of a call holds. -/
def handle (call : ℕ) (w : TimerService) : ℤ := (w.calls call).handle.getD NONEXISTENT_ID

def next (l : ServiceLabel) (w : TimerService) : TimerService :=
  match l with
  | .addTimer onWorker nowTime intervalMs repeatCount =>
      let task := .add w.count intervalMs repeatCount
      let w := w.call {}
      if onWorker then w.run nowTime task else w.post task
  | .addTimerAsync intervalMs repeatCount =>
      (w.call { deferred := true, handle := some RET_OK }).post
        (.add w.count intervalMs repeatCount)
  | .refuse code => w.call { handle := some code }
  | .timeout call => w.timeout call
  | .setWaited call code => w.setWaited call code
  | .removeTimer onWorker call =>
      let task := .remove (w.handle call) call true
      let w := w.drop true call
      -- the time is not read
      if onWorker then w.run 0 task else w.post task
  | .removeTimerAsync call => (w.drop true call).post (.remove (w.handle call) call false)
  | .refuseRemoval _ | .refuseReset _ => w
  | .giveUp call => w.giveUp call
  | .resetTimer onWorker nowTime call =>
      let task := .reset (w.handle call) call
      if onWorker then w.run nowTime task else w.post task
  | .processTimers => w.post .process
  | .work nowTime =>
      match w.presentTime, w.tasks with
      | none, task :: tasks => run nowTime task { w with tasks }
      | _, _ => w
  | .pass =>
      match w.presentTime with
      | none => w
      | some presentTime => turn presentTime w

/-- The timer of a call has been created and is gone. -/
def Finished (call : ℕ) (w : TimerService) : Prop :=
  (∃ timerId, (w.calls call).timer = some timerId ∧ 0 ≤ timerId) ∧
    ∀ t ∈ w.timers, t.callback ≠ call

/-- The client of a call may use its handle: it was returned one that is not negative, it has
not dropped it, the timer has not finished, and no earlier use waits. -/
def MayUse (call : ℕ) (w : TimerService) : Prop :=
  call < w.count ∧ (∃ h, (w.calls call).handle = some h ∧ 0 ≤ h) ∧
    (w.calls call).dropped = false ∧ ¬ w.Finished call ∧
    ∀ task ∈ w.tasks, ∀ timerId, ¬ task.Uses timerId call

/-- The error codes of the queue are none of the ids of timers. -/
def Allowed (l : ServiceLabel) (w : TimerService) : Prop :=
  match l with
  | .refuse code | .setWaited _ code => (MAX_TIMER_COUNT : ℤ) ≤ code
  | .removeTimer _ call | .removeTimerAsync call | .refuseRemoval call | .resetTimer _ _ call
  | .refuseReset call => w.MayUse call
  | _ => True

/-- The task that runs in a step. -/
def executes (l : ServiceLabel) (w : TimerService) : Option TimerTask :=
  match l with
  | .addTimer true _ intervalMs repeatCount => some (.add w.count intervalMs repeatCount)
  | .removeTimer true call => some (.remove (w.handle call) call true)
  | .resetTimer true _ call => some (.reset (w.handle call) call)
  | .work _ => if w.presentTime = none then w.tasks.head? else none
  | _ => none

/-- The call whose removal ends in a step without having run. -/
def abandons (l : ServiceLabel) (w : TimerService) : Option ℕ :=
  match l with
  | .refuseRemoval call => some call
  | .giveUp call => if w.tasks.any (·.isSyncRemove call) then some call else none
  | _ => none

/-- A removal or a reset leaves the timers of all other calls as they are, and no removal ends
with a timer of its own call left. -/
def Identifies (l : ServiceLabel) (w : TimerService) : Prop :=
  match executes l w with
  | some (.remove _ call _) =>
      (∀ t ∈ w.timers, t.callback ≠ call → t ∈ (next l w).timers) ∧
        ∀ t ∈ (next l w).timers, t.callback ≠ call
  | some (.reset _ call) => ∀ t ∈ w.timers, t.callback ≠ call → t ∈ (next l w).timers
  | _ => ∀ call, abandons l w = some call → ∀ t ∈ w.timers, t.callback ≠ call

def LowestFree (timerId : ℤ) (timers : List (TimerItem ℕ)) : Prop :=
  0 ≤ timerId ∧ (∀ t ∈ timers, (t.id : ℤ) ≠ timerId) ∧
    ∀ j : ℕ, (j : ℤ) < timerId → ∃ t ∈ timers, t.id = j

/-- A handle that was returned before the timer existed is used only when the timer has been
given the id that it says, or when there is nothing that the use could hit or miss; a removal whose
handle is the error code of a wait that timed out, and one that is refused or that its client gives
up, have no timer to remove; and no timer is added while a use waits whose handle is the lowest
free id. -/
def Separates (l : ServiceLabel) (w : TimerService) : Prop :=
  match executes l w with
  | some (.add call _ _) =>
      ∀ task ∈ w.tasks, ∀ timerId other, task.Uses timerId other → other ≠ call →
        ¬ LowestFree timerId w.timers
  | some (.remove _ call _) =>
      ((w.calls call).deferred = true → (w.calls call).timer = some RET_OK ∨
        ∀ t ∈ w.timers, (t.id : ℤ) ≠ RET_OK ∧ t.callback ≠ call) ∧
      ((w.calls call).timedOut = true → ∀ t ∈ w.timers, t.callback ≠ call)
  | some (.reset _ call) =>
      (w.calls call).deferred = true → (w.calls call).timer = some RET_OK ∨
        ∀ t ∈ w.timers, (t.id : ℤ) ≠ RET_OK ∧ t.callback ≠ call
  | _ => ∀ call, abandons l w = some call → ∀ t ∈ w.timers, t.callback ≠ call

/-! ## The invariant -/

/-- The id of the handle is that of the call's own timer, if either is in use. -/
def Fits (timerId : ℤ) (call : ℕ) (timers : List (TimerItem ℕ)) : Prop :=
  ∀ t ∈ timers, (t.id : ℤ) = timerId ↔ t.callback = call

/-- The handle that a call returned is the id of its timer. -/
structure Settled (c : AddCall) : Prop where
  deferred : c.deferred = true → c.timer = some RET_OK
  inTime : c.timedOut = false

structure Sound (w : TimerService) : Prop where
  wellFormed : WellFormed w.timers
  known : ∀ t ∈ w.timers, t.callback < w.count ∧ (w.calls t.callback).timer = some (t.id : ℤ)
  /-- a handle is the id of a timer, or an error of the queue -/
  returned : ∀ k h, (w.calls k).deferred = false → (w.calls k).timedOut = false →
    (w.calls k).handle = some h →
      (w.calls k).timer = some h ∨ ((w.calls k).timer = none ∧ (MAX_TIMER_COUNT : ℤ) ≤ h)
  deferred : ∀ k, (w.calls k).deferred = true → (w.calls k).handle = some RET_OK
  late : ∀ k, (w.calls k).timedOut = true → (w.calls k).deferred = false ∧
    ∀ h, (w.calls k).handle = some h → (MAX_TIMER_COUNT : ℤ) ≤ h
  /-- a call whose task waits has no timer, and its client waits unless it was deferred -/
  adds : ∀ k i r, .add k i r ∈ w.tasks → k < w.count ∧ (w.calls k).timer = none ∧
    ((w.calls k).deferred = false → (w.calls k).handle = none)
  once : w.tasks.Pairwise fun a b => ∀ k i r i' r', a = .add k i r → b ≠ .add k i' r'
  uses : ∀ task ∈ w.tasks, ∀ h k, task.Uses h k → k < w.count ∧ (w.calls k).handle = some h ∧
    (Settled (w.calls k) → Fits h k w.timers)

/-- What the invariant says of one call by itself. -/
structure Answers (c : AddCall) : Prop where
  returned : ∀ h, c.deferred = false → c.timedOut = false → c.handle = some h →
    c.timer = some h ∨ (c.timer = none ∧ (MAX_TIMER_COUNT : ℤ) ≤ h)
  deferred : c.deferred = true → c.handle = some RET_OK
  late : c.timedOut = true → c.deferred = false ∧
    ∀ h, c.handle = some h → (MAX_TIMER_COUNT : ℤ) ≤ h

section Invariant

variable {w : TimerService} {timers : List (TimerItem ℕ)} {call : ℕ} {timerId nowTime : ℤ}

theorem Sound.answers (h : Sound w) (k : ℕ) : Answers (w.calls k) :=
  ⟨h.returned k, h.deferred k, h.late k⟩

/-- Only the call that changed has to be looked at. -/
theorem Answers.update {c : AddCall} {calls : ℕ → AddCall} (here : Answers c)
    (before : ∀ k, Answers (calls k)) (k : ℕ) : Answers (Function.update calls call c k) := by
  by_cases hk : k = call
  · subst hk
    simpa using here
  · simpa [hk] using before k

/-- The timers of `l'` stand in `l` with the same ids and callbacks. -/
def Derived (l' l : List (TimerItem ℕ)) : Prop :=
  ∀ t' ∈ l', ∃ t ∈ l, t.id = t'.id ∧ t.callback = t'.callback

theorem Fits.derived {l l' : List (TimerItem ℕ)} (h : Fits timerId call l) (d : Derived l' l) :
    Fits timerId call l' := by
  intro t' ht'
  obtain ⟨t, ht, id, callback⟩ := d t' ht'
  rw [← id, ← callback]
  exact h t ht

theorem derived_of_subset {l l' : List (TimerItem ℕ)} (h : l' ⊆ l) : Derived l' l := by
  intro t ht
  exact ⟨t, h ht, rfl, rfl⟩

theorem derived_insert {l rest : List (TimerItem ℕ)} {timer item : TimerItem ℕ}
    (perm : (timer :: rest).Perm l) (id : item.id = timer.id)
    (callback : item.callback = timer.callback) : Derived (insertTimerInternal item rest) l := by
  intro t ht
  rcases mem_insertTimerInternal.mp ht with rfl | ht
  · exact ⟨timer, perm.subset List.mem_cons_self, id.symm, callback.symm⟩
  · exact ⟨t, perm.subset (List.mem_cons_of_mem _ ht), rfl, rfl⟩

theorem derived_removeTimer : Derived (removeTimerInternal timerId timers).2 timers := by
  rcases @removeTimerInternal_cases _ timers timerId with ⟨-, same⟩ | ⟨_, rest, -, -, hs, removed⟩
  · rw [same]
    exact derived_of_subset (List.Subset.refl _)
  · rw [removed]
    exact derived_of_subset hs.subset

theorem derived_resetTimer : Derived (resetTimerInternal nowTime timerId timers).2 timers := by
  rcases @resetTimerInternal_cases _ timers nowTime timerId with
    ⟨-, same⟩ | ⟨timer, rest, -, perm, hs, dropped | again⟩
  · rw [same]
    exact derived_of_subset (List.Subset.refl _)
  · rw [dropped]
    exact derived_of_subset hs.subset
  · rw [again]
    exact derived_insert perm rfl rfl

theorem derived_pass (presentTime : ℤ) :
    Derived (Timers.pass presentTime timers).timers timers := by
  rcases pass_cases presentTime timers with ⟨-, stop⟩ | ⟨timer, rest, rfl, -, turn⟩
  · rw [stop]
    exact derived_of_subset (List.Subset.refl _)
  · have tail : rest ⊆ timer :: rest := List.subset_cons_self timer rest
    rcases turn with ⟨-, -, dropped⟩ | ⟨-, -, last⟩ | ⟨-, again⟩
    · rw [dropped]
      exact derived_of_subset tail
    · rw [last]
      exact derived_of_subset tail
    · rw [again]
      exact derived_insert (.refl _) rfl rfl

theorem Sound.derive (h : Sound w) (wellFormed : WellFormed timers)
    (derived : Derived timers w.timers) : Sound { w with timers } :=
  { h with
    wellFormed
    known := by
      intro t' ht'
      obtain ⟨t, ht, id, callback⟩ := derived t' ht'
      rw [← id, ← callback]
      exact h.known t ht
    uses := by
      intro task ht i k hu
      obtain ⟨old, handle, fits⟩ := h.uses task ht i k hu
      exact ⟨old, handle, fun settled => (fits settled).derived derived⟩ }

theorem sound_turn {presentTime : ℤ} (h : Sound w) : Sound (turn presentTime w) := by
  have derived := h.derive h.wellFormed.pass (derived_pass presentTime)
  unfold turn
  cases hp : Timers.pass presentTime w.timers with
  | stop timers =>
    rw [hp] at derived
    exact { derived with }
  | run timer timers =>
    rw [hp] at derived
    exact derived

theorem Sound.post {task : TimerTask} (h : Sound w)
    (adds : ∀ k i r, task = .add k i r → k < w.count ∧ (w.calls k).timer = none ∧
      ((w.calls k).deferred = false → (w.calls k).handle = none) ∧
      ∀ i' r', .add k i' r' ∉ w.tasks)
    (uses : ∀ i k, task.Uses i k → k < w.count ∧ (w.calls k).handle = some i ∧
      (Settled (w.calls k) → Fits i k w.timers)) : Sound (w.post task) :=
  { h with
    adds := by
      intro k i r hm
      rcases List.mem_append.mp hm with old | new
      · exact h.adds k i r old
      · obtain ⟨bound, timer, handle, -⟩ := adds k i r (List.mem_singleton.mp new).symm
        exact ⟨bound, timer, handle⟩
    once := by
      refine List.pairwise_append.mpr ⟨h.once, List.pairwise_singleton _ _, ?_⟩
      intro a ha b hb k i r i' r' hadd hb'
      rw [List.mem_singleton.mp hb] at hb'
      obtain ⟨-, -, -, none⟩ := adds k i' r' hb'
      exact none i r (hadd ▸ ha)
    uses := by
      intro t ht
      rcases List.mem_append.mp ht with old | new
      · exact h.uses t old
      · rw [List.mem_singleton.mp new]
        exact uses }

/-- Which handles clients have dropped is no part of the invariant. -/
theorem Sound.drop (h : Sound w) (dropped : Bool) : Sound (w.drop dropped call) := by
  have same (k : ℕ) : ((w.drop dropped call).calls k).deferred = (w.calls k).deferred ∧
      ((w.drop dropped call).calls k).handle = (w.calls k).handle ∧
      ((w.drop dropped call).calls k).timer = (w.calls k).timer ∧
      ((w.drop dropped call).calls k).timedOut = (w.calls k).timedOut := by
    unfold TimerService.drop
    by_cases hk : k = call
    · subst hk
      simp
    · simp [hk]
  constructor
  · exact h.wellFormed
  · intro t ht
    rw [(same t.callback).2.2.1]
    exact h.known t ht
  · intro k i
    rw [(same k).1, (same k).2.1, (same k).2.2.1, (same k).2.2.2]
    exact h.returned k i
  · intro k
    rw [(same k).1, (same k).2.1]
    exact h.deferred k
  · intro k
    rw [(same k).1, (same k).2.1, (same k).2.2.2]
    exact h.late k
  · intro k i r
    rw [(same k).1, (same k).2.1, (same k).2.2.1]
    exact h.adds k i r
  · exact h.once
  · intro task ht i k hu
    obtain ⟨bound, handle, fits⟩ := h.uses task ht i k hu
    rw [(same k).2.1]
    refine ⟨bound, handle, fun settled => fits ⟨?_, ?_⟩⟩
    · rw [← (same k).1, ← (same k).2.2.1]
      exact settled.deferred
    · rw [← (same k).2.2.2]
      exact settled.inTime

/-- Tasks may be taken out of the queue. -/
theorem Sound.sublist {tasks : List TimerTask} (h : Sound w) (left : tasks.Sublist w.tasks) :
    Sound { w with tasks } :=
  { h with
    adds := fun k i r hm => h.adds k i r (left.subset hm)
    once := h.once.sublist left
    uses := fun t hm => h.uses t (left.subset hm) }

/-- What a call returns changes while its client waits. -/
theorem Sound.answer {c : AddCall} (h : Sound w) (waits : (w.calls call).handle = none)
    (timer : c.timer = (w.calls call).timer) (deferred : c.deferred = false)
    (timedOut : c.timedOut = true) (late : ∀ i, c.handle = some i → (MAX_TIMER_COUNT : ℤ) ≤ i)
    (answered : c.handle = none ∨ ∀ i r, .add call i r ∉ w.tasks) :
    Sound { w with calls := Function.update w.calls call c } := by
  have other {k : ℕ} (hk : k ≠ call) : Function.update w.calls call c k = w.calls k := by
    simp [hk]
  have own : Function.update w.calls call c call = c := by simp
  have here : Answers c := by
    constructor
    · rw [timedOut]
      nofun
    · rw [deferred]
      nofun
    · exact fun _ => ⟨deferred, late⟩
  have answers : ∀ k, Answers (Function.update w.calls call c k) := here.update h.answers
  constructor
  · exact h.wellFormed
  · intro t ht
    obtain ⟨bound, id⟩ := h.known t ht
    refine ⟨bound, ?_⟩
    by_cases hk : t.callback = call
    · rw [hk] at id ⊢
      dsimp only
      rw [own, timer, id]
    · dsimp only
      rw [other hk, id]
  · exact fun k => (answers k).returned
  · exact fun k => (answers k).deferred
  · exact fun k => (answers k).late
  · intro k i r hm
    dsimp only
    obtain ⟨bound, none, -⟩ := h.adds k i r hm
    by_cases hk : k = call
    · subst hk
      rw [own, timer]
      exact ⟨bound, none, fun _ => answered.resolve_right fun out => out i r hm⟩
    · rw [other hk]
      exact h.adds k i r hm
  · exact h.once
  · intro task ht i k hu
    dsimp only
    obtain ⟨bound, handle, fits⟩ := h.uses task ht i k hu
    have hk : k ≠ call := by
      rintro rfl
      cases waits.symm.trans handle
    rw [other hk]
    exact ⟨bound, handle, fits⟩

/-- A new call has no timer yet. -/
theorem Sound.newCall {c : AddCall} (h : Sound w) (timer : c.timer = none)
    (inTime : c.timedOut = false)
    (returned : ∀ i, c.deferred = false → c.handle = some i → (MAX_TIMER_COUNT : ℤ) ≤ i)
    (deferred : c.deferred = true → c.handle = some RET_OK) : Sound (w.call c) := by
  have old {k : ℕ} (hk : k < w.count) : (w.call c).calls k = w.calls k := by
    simp [TimerService.call, hk.ne]
  have here : Answers c := by
    constructor
    · exact fun i notDeferred _ handle => .inr ⟨timer, returned i notDeferred handle⟩
    · exact deferred
    · rw [inTime]
      nofun
  have answers : ∀ k, Answers ((w.call c).calls k) := here.update h.answers
  constructor
  · exact h.wellFormed
  · intro t ht
    obtain ⟨bound, id⟩ := h.known t ht
    rw [old bound]
    exact ⟨bound.trans (Nat.lt_succ_self _), id⟩
  · exact fun k => (answers k).returned
  · exact fun k => (answers k).deferred
  · exact fun k => (answers k).late
  · intro k i r hm
    obtain ⟨bound, rest⟩ := h.adds k i r hm
    rw [old bound]
    exact ⟨bound.trans (Nat.lt_succ_self _), rest⟩
  · exact h.once
  · intro task ht i k hu
    obtain ⟨bound, rest⟩ := h.uses task ht i k hu
    rw [old bound]
    exact ⟨bound.trans (Nat.lt_succ_self _), rest⟩

section New

variable {l : List (TimerItem ℕ)} {timer : ℤ}

/-- A timer under a free id is that of the call it was added for. -/
theorem Fits.of_new (new : ∀ t ∈ timers, t ∈ l ∨ ((t.id : ℤ) = timer ∧ t.callback = call))
    (free : ∀ t ∈ l, (t.id : ℤ) ≠ timer) (notOwn : ∀ t ∈ l, t.callback ≠ call) :
    Fits timer call timers := by
  intro t ht
  rcases new t ht with old | ⟨id, callback⟩
  · exact iff_of_false (free t old) (notOwn t old)
  · exact iff_of_true id callback

/-- The ids and timers of other calls stay as they are. -/
theorem Fits.of_other {k : ℕ} (fits : Fits timerId k l)
    (new : ∀ t ∈ timers, t ∈ l ∨ ((t.id : ℤ) = timer ∧ t.callback = call))
    (differs : ∀ t ∈ timers, (t.id : ℤ) = timer → timer ≠ timerId) (other : k ≠ call) :
    Fits timerId k timers := by
  intro t ht
  rcases new t ht with old | ⟨id, callback⟩
  · exact fits t old
  · refine iff_of_false (fun same => differs t ht id (id.symm.trans same)) ?_
    rw [callback]
    exact other.symm

end New

/-- A call that has no timer yet has none in the list. -/
theorem Sound.callback_ne (h : Sound w) (waiting : (w.calls call).timer = none) :
    ∀ t ∈ w.timers, t.callback ≠ call := by
  intro t ht hc
  have id := (h.known t ht).2
  rw [hc, waiting] at id
  cases id

/-- A call that has its timer keeps its answer, unless its client waits for the timer's id. -/
theorem Answers.ran {timer : ℤ} {c : AddCall} (h : Answers c) : Answers (AddCall.ran timer c) := by
  constructor
  · intro i notDeferred inTime returned
    have notDeferred : c.deferred = false := notDeferred
    have inTime : c.timedOut = false := inTime
    simp only [AddCall.ran, notDeferred, inTime, Bool.false_eq_true, or_false, if_false]
      at returned
    exact .inl returned
  · intro deferred
    have deferred : c.deferred = true := deferred
    simp only [AddCall.ran, deferred, true_or, if_true]
    exact h.deferred deferred
  · intro timedOut
    have timedOut : c.timedOut = true := timedOut
    simp only [AddCall.ran, timedOut, or_true, if_true]
    exact h.late timedOut

/-- `OnAddTimer` has run for a call: the new timer, if there is one, has the lowest free id. -/
theorem Sound.ran {timer : ℤ} (h : Sound w) (bound : call < w.count)
    (waiting : (w.calls call).timer = none)
    (handle : (w.calls call).deferred = false → (w.calls call).handle = none)
    (last : ∀ i r, .add call i r ∉ w.tasks)
    (apart : ∀ task ∈ w.tasks, ∀ timerId other, task.Uses timerId other → other ≠ call →
      ¬ LowestFree timerId w.timers)
    (wellFormed : WellFormed timers) (free : 0 ≤ timer → LowestFree timer w.timers)
    (new : ∀ t ∈ timers, t ∈ w.timers ∨ ((t.id : ℤ) = timer ∧ t.callback = call)) :
    Sound { w with
      timers
      calls := Function.update w.calls call (AddCall.ran timer (w.calls call)) } := by
  have other {k : ℕ} (hk : k ≠ call) :
      Function.update w.calls call (AddCall.ran timer (w.calls call)) k = w.calls k := by
    simp [hk]
  have own : Function.update w.calls call (AddCall.ran timer (w.calls call)) call =
      AddCall.ran timer (w.calls call) := by
    simp
  have notOwn := h.callback_ne waiting
  have answers (k : ℕ) :
      Answers (Function.update w.calls call (AddCall.ran timer (w.calls call)) k) :=
    (h.answers call).ran.update h.answers k
  constructor
  · exact wellFormed
  · intro t ht
    dsimp only
    rcases new t ht with old | ⟨id, rfl⟩
    · rw [other (notOwn t old)]
      exact h.known t old
    · rw [own, id]
      exact ⟨bound, rfl⟩
  · exact fun k => (answers k).returned
  · exact fun k => (answers k).deferred
  · exact fun k => (answers k).late
  · intro k i r hm
    dsimp only
    have hk : k ≠ call := by
      rintro rfl
      exact last i r hm
    rw [other hk]
    exact h.adds k i r hm
  · exact h.once
  · intro task ht i k hu
    dsimp only
    obtain ⟨old, returned, fits⟩ := h.uses task ht i k hu
    by_cases hk : k = call
    · subst hk
      have deferred : (w.calls k).deferred = true := by
        cases hd : (w.calls k).deferred with
        | true => rfl
        | false => cases (handle hd).symm.trans returned
      have zero : i = RET_OK := Option.some.inj (returned.symm.trans (h.deferred k deferred))
      rw [own]
      refine ⟨old, by simp [AddCall.ran, deferred, returned], fun settled => ?_⟩
      have given : timer = RET_OK := Option.some.inj (settled.deferred deferred)
      rw [zero, ← given]
      exact .of_new new (free (by rw [given]; decide)).2.1 notOwn
    · rw [other hk]
      refine ⟨old, returned, fun settled => (fits settled).of_other new ?_ hk⟩
      rintro t - id rfl
      exact apart task ht timer k hu hk (free (id ▸ Int.natCast_nonneg _))

theorem Sound.run_add {intervalMs repeatCount : ℤ} (h : Sound w) (bound : call < w.count)
    (waiting : (w.calls call).timer = none)
    (handle : (w.calls call).deferred = false → (w.calls call).handle = none)
    (last : ∀ i r, .add call i r ∉ w.tasks)
    (apart : ∀ task ∈ w.tasks, ∀ timerId other, task.Uses timerId other → other ≠ call →
      ¬ LowestFree timerId w.timers) :
    Sound (run nowTime (.add call intervalMs repeatCount) w) := by
  have wellFormed := @WellFormed.addTimer _ w.timers nowTime intervalMs repeatCount (some call)
    h.wellFormed
  apply h.ran bound waiting handle last apart wellFormed
  · rcases @addTimerInternal_cases _ w.timers nowTime intervalMs repeatCount (some call) with
      same | ⟨k, f, -, -, -, free, lower, added⟩
    · rw [same]
      intro nonneg
      exact absurd nonneg (show ¬ (0 : ℤ) ≤ NONEXISTENT_ID by decide)
    · rw [added]
      refine fun nonneg => ⟨nonneg, fun t ht => ?_, fun j hj => lower j (Int.ofNat_lt.mp hj)⟩
      exact fun id => free t ht (Int.ofNat_inj.mp id)
  · rcases @addTimerInternal_cases _ w.timers nowTime intervalMs repeatCount (some call) with
      same | ⟨k, f, hf, -, -, -, -, added⟩
    · rw [same]
      exact fun t ht => .inl ht
    · rw [added]
      intro t ht
      rcases mem_insertTimerInternal.mp ht with rfl | ht
      · exact .inr ⟨rfl, (Option.some.inj hf).symm⟩
      · exact .inl ht

/-- A task that the worker runs keeps the invariant, if an addition meets its conditions. -/
theorem Sound.run {task : TimerTask} (h : Sound w)
    (adds : ∀ k i r, task = .add k i r → k < w.count ∧ (w.calls k).timer = none ∧
      ((w.calls k).deferred = false → (w.calls k).handle = none) ∧
      (∀ i' r', .add k i' r' ∉ w.tasks) ∧
      ∀ task ∈ w.tasks, ∀ timerId other, task.Uses timerId other → other ≠ k →
        ¬ LowestFree timerId w.timers) : Sound (w.run nowTime task) := by
  cases task with
  | add k i r =>
    obtain ⟨bound, waiting, handle, last, apart⟩ := adds k i r rfl
    exact h.run_add bound waiting handle last apart
  | remove timerId k sync => exact h.derive h.wellFormed.removeTimer derived_removeTimer
  | reset timerId k => exact h.derive h.wellFormed.resetTimer derived_resetTimer
  | process => exact { h with }

/-- The id that a call got is that of its timer, as long as it has one. -/
theorem Sound.fits_of_timer {i : ℤ} (h : Sound w) (timer : (w.calls call).timer = some i)
    (pending : ∃ t ∈ w.timers, t.callback = call) : Fits i call w.timers := by
  obtain ⟨t₀, ht₀, hc₀⟩ := pending
  have id {t : TimerItem ℕ} (ht : t ∈ w.timers) (hc : t.callback = call) : (t.id : ℤ) = i := by
    have id := (h.known t ht).2
    rw [hc, timer] at id
    exact (Option.some.inj id).symm
  intro t ht
  refine ⟨fun hid => ?_, id ht⟩
  have same : t.id = t₀.id := Int.ofNat_inj.mp (hid.trans (id ht₀ hc₀).symm)
  rw [List.inj_on_of_nodup_map h.wellFormed.ids ht ht₀ same]
  exact hc₀

/-- A handle that its client may use is that of its timer. -/
theorem Sound.fits (h : Sound w) (settled : Settled (w.calls call)) (use : w.MayUse call) :
    Fits (w.handle call) call w.timers := by
  obtain ⟨-, ⟨i, handle, nonneg⟩, -, live, -⟩ := use
  have hi : w.handle call = i := by simp [TimerService.handle, handle]
  rw [hi]
  have own (timer : (w.calls call).timer = some i) : Fits i call w.timers := by
    apply h.fits_of_timer timer
    by_contra gone
    push Not at gone
    exact live ⟨⟨i, timer, nonneg⟩, gone⟩
  cases hd : (w.calls call).deferred with
  | true =>
    have zero : i = RET_OK := Option.some.inj (handle.symm.trans (h.deferred call hd))
    exact own (zero ▸ settled.deferred hd)
  | false =>
    rcases h.returned call i hd settled.inTime handle with timer | ⟨none, large⟩
    · exact own timer
    · intro t ht
      constructor
      · intro id
        have small := h.wellFormed.bounded t ht
        omega
      · intro hc
        exact absurd hc (h.callback_ne none t ht)

theorem Sound.tail {task : TimerTask} {tasks : List TimerTask} (h : Sound w)
    (ht : w.tasks = task :: tasks) : Sound { w with tasks } :=
  h.sublist (ht ▸ List.sublist_cons_self task tasks)

/-- The client may use the handle, so it may wait in the queue. -/
theorem Sound.post_use (h : Sound w) (task : TimerTask) (use : w.MayUse call)
    (uses : task.Uses (w.handle call) call) : Sound (w.post task) := by
  apply h.post
  · rintro k i r rfl
    cases uses
  · intro i k hu
    obtain ⟨rfl, rfl⟩ := hu.eq uses
    have held := use
    obtain ⟨bound, ⟨j, handle, -⟩, -⟩ := held
    exact ⟨bound, by simp [TimerService.handle, handle], fun settled => h.fits settled use⟩

/-- A client that has waited too long for `AddTimer` goes on waiting until it has marked its
task. -/
theorem Sound.timeout (h : Sound w) (call : ℕ) : Sound (w.timeout call) := by
  unfold TimerService.timeout
  split_ifs with waits
  · obtain ⟨queued, deferred⟩ := waits
    obtain ⟨task, mem, isAdd⟩ := List.any_eq_true.mp queued
    cases task with
    | add k i r =>
      obtain rfl : k = call := by simpa [TimerTask.isAdd] using isAdd
      have handle := (h.adds k i r mem).2.2 deferred
      exact h.answer handle rfl deferred rfl (by simp [handle]) (.inl handle)
    | remove | reset | process => cases isAdd
  · exact h

theorem Sound.setWaited {code : ℤ} (h : Sound w) (call : ℕ) (large : (MAX_TIMER_COUNT : ℤ) ≤ code) :
    Sound (w.setWaited call code) := by
  unfold TimerService.setWaited
  split_ifs with waits
  · obtain ⟨timedOut, handle⟩ := waits
    refine (h.sublist List.filter_sublist).answer
      (c := { w.calls call with handle := some code }) handle rfl (h.late call timedOut).1
      timedOut ?_ ?_
    · rintro i ⟨⟩
      exact large
    · right
      intro i r mem
      simpa [TimerTask.isAdd] using (List.mem_filter.mp mem).2
  · exact h

theorem Sound.giveUp (h : Sound w) (call : ℕ) : Sound (w.giveUp call) := by
  unfold TimerService.giveUp
  split_ifs
  · exact (h.drop false).sublist List.filter_sublist
  · exact h

/-- The worker takes the oldest task when it is not in the processing loop. -/
theorem next_work (nowTime : ℤ) (w : TimerService) :
    (∃ task tasks, w.presentTime = none ∧ w.tasks = task :: tasks ∧
      next (.work nowTime) w = run nowTime task { w with tasks }) ∨
    (executes (.work nowTime) w = none ∧ next (.work nowTime) w = w) := by
  cases hp : w.presentTime with
  | none =>
    cases ht : w.tasks with
    | nil => exact .inr ⟨by simp [executes, ht], by simp [next, hp, ht]⟩
    | cons task tasks => exact .inl ⟨task, tasks, rfl, rfl, by simp only [next, hp, ht]⟩
  | some presentTime => exact .inr ⟨by simp [executes, hp], by simp [next, hp]⟩

/-- No task adds a timer for a call that is yet to come. -/
theorem Sound.add_count_notMem (h : Sound w) (i r : ℤ) : .add w.count i r ∉ w.tasks := by
  intro hm
  exact absurd (h.adds w.count i r hm).1 (lt_irrefl _)

theorem sound_next {l : ServiceLabel} (h : Sound w) (ok : Allowed l w) (apart : Separates l w) :
    Sound (next l w) := by
  cases l with
  | addTimer onWorker nowTime intervalMs repeatCount =>
    have new : Sound (w.call {}) := h.newCall rfl rfl (by simp) (by simp)
    have fresh := h.add_count_notMem
    cases onWorker with
    | true =>
      change Sound ((w.call {}).run nowTime (.add w.count intervalMs repeatCount))
      apply new.run
      rintro k i r hk
      cases hk
      refine ⟨Nat.lt_succ_self _, ?_, ?_, fresh, apart⟩ <;> simp [TimerService.call]
    | false =>
      apply new.post
      · rintro k i r hk
        cases hk
        refine ⟨Nat.lt_succ_self _, ?_, ?_, fresh⟩ <;> simp [TimerService.call]
      · rintro i k ⟨⟩
  | addTimerAsync intervalMs repeatCount =>
    have new : Sound (w.call { deferred := true, handle := some RET_OK }) :=
      h.newCall rfl rfl (by simp) (by simp)
    apply new.post
    · rintro k i r hk
      cases hk
      refine ⟨Nat.lt_succ_self _, ?_, ?_, h.add_count_notMem⟩
      · simp [TimerService.call]
      · simp [TimerService.call]
    · rintro i k ⟨⟩
  | refuse code =>
    refine h.newCall rfl rfl ?_ (by simp)
    rintro i - hi
    cases hi
    exact ok
  | timeout call => exact h.timeout call
  | setWaited call code => exact h.setWaited call ok
  | removeTimer onWorker call =>
    cases onWorker with
    | true =>
      change Sound ((w.drop true call).run 0 (.remove (w.handle call) call true))
      apply (h.drop true).run
      rintro k i r hk
      cases hk
    | false =>
      exact (h.post_use (.remove (w.handle call) call true) ok ⟨rfl, rfl⟩).drop true
  | removeTimerAsync call =>
    exact (h.post_use (.remove (w.handle call) call false) ok ⟨rfl, rfl⟩).drop true
  | refuseRemoval call => exact h
  | refuseReset call => exact h
  | giveUp call => exact h.giveUp call
  | resetTimer onWorker nowTime call =>
    cases onWorker with
    | true =>
      change Sound (w.run nowTime (.reset (w.handle call) call))
      apply h.run
      rintro k i r hk
      cases hk
    | false => exact h.post_use (.reset (w.handle call) call) ok ⟨rfl, rfl⟩
  | processTimers =>
    apply h.post
    · rintro k i r hk
      cases hk
    · rintro i k ⟨⟩
  | work nowTime =>
    rcases next_work nowTime w with ⟨task, tasks, hp, ht, hn⟩ | ⟨-, hn⟩
    · rw [hn]
      apply (h.tail ht).run
      rintro k i r rfl
      obtain ⟨bound, waiting, handle⟩ := h.adds k i r (ht ▸ List.mem_cons_self)
      refine ⟨bound, waiting, handle, fun i' r' hm => ?_, ?_⟩
      · have once := (List.pairwise_cons.mp (ht ▸ h.once)).1 _ hm
        exact once k i r i' r' rfl rfl
      · simp only [Separates, executes, hp, ht, if_true, List.head?_cons] at apart
        exact fun task hm => apart task (List.mem_cons_of_mem _ hm)
    · rw [hn]
      exact h
  | pass =>
    unfold next
    cases hp : w.presentTime with
    | none => exact h
    | some presentTime => exact sound_turn h

/-! ## Removals and resets -/

theorem removeTimer_of_fits (wellFormed : WellFormed timers) (fits : Fits timerId call timers) :
    (∀ t ∈ timers, t.callback ≠ call → t ∈ (removeTimerInternal timerId timers).2) ∧
      ∀ t ∈ (removeTimerInternal timerId timers).2, t.callback ≠ call := by
  rcases @removeTimerInternal_cases _ timers timerId with
    ⟨absent, same⟩ | ⟨timer, rest, id, perm, hs, removed⟩
  · rw [same]
    exact ⟨fun t ht _ => ht, fun t ht hc => absent t ht ((fits t ht).mpr hc)⟩
  · rw [removed]
    have own : timer.callback = call := (fits timer (perm.subset List.mem_cons_self)).mp id
    constructor
    · intro t ht hc
      rcases List.mem_cons.mp (perm.symm.subset ht) with rfl | ht
      · exact absurd own hc
      · exact ht
    · intro t ht hc
      have same : (t.id : ℤ) = timer.id := ((fits t (hs.subset ht)).mpr hc).trans id.symm
      exact (wellFormed.free_of_perm perm).1 t ht (Int.ofNat_inj.mp same)

theorem resetTimer_of_hits (hits : ∀ t ∈ timers, (t.id : ℤ) = timerId → t.callback = call) :
    ∀ t ∈ timers, t.callback ≠ call → t ∈ (resetTimerInternal nowTime timerId timers).2 := by
  rcases @resetTimerInternal_cases _ timers nowTime timerId with
    ⟨-, same⟩ | ⟨timer, rest, id, perm, -, what⟩
  · rw [same]
    exact fun t ht _ => ht
  · have own : timer.callback = call := hits timer (perm.subset List.mem_cons_self) id
    intro t ht hc
    have left : t ∈ rest := by
      rcases List.mem_cons.mp (perm.symm.subset ht) with rfl | ht
      · exact absurd own hc
      · exact ht
    rcases what with dropped | again
    · rw [dropped]
      exact left
    · rw [again]
      exact mem_insertTimerInternal.mpr (.inr left)

/-- A removal or a reset that runs has the handle of its call. -/
theorem held_of_executes {l : ServiceLabel} {task : TimerTask} (h : Sound w) (ok : Allowed l w)
    (he : executes l w = some task) (hu : task.Uses timerId call) :
    (w.calls call).handle = some timerId ∧
      (Settled (w.calls call) → Fits timerId call w.timers) := by
  have use (use : w.MayUse call) (hi : timerId = w.handle call) :
      (w.calls call).handle = some timerId ∧
        (Settled (w.calls call) → Fits timerId call w.timers) := by
    have again := use
    obtain ⟨-, ⟨i, handle, -⟩, -⟩ := again
    refine ⟨by simp [hi, TimerService.handle, handle], fun settled => ?_⟩
    rw [hi]
    exact h.fits settled use
  cases l with
  | removeTimer onWorker k =>
    cases onWorker <;> cases he
    obtain ⟨rfl, rfl⟩ := hu
    exact use ok rfl
  | resetTimer onWorker nowTime k =>
    cases onWorker <;> cases he
    obtain ⟨rfl, rfl⟩ := hu
    exact use ok rfl
  | addTimer onWorker nowTime intervalMs repeatCount =>
    cases onWorker <;> cases he
    cases hu
  | work nowTime =>
    have mem : task ∈ w.tasks := by
      simp only [executes] at he
      split at he
      · exact List.mem_of_mem_head? he
      · cases he
    exact (h.uses task mem timerId call hu).2
  | _ => cases he

/-- The handle is that of the call's own timer, or an error code that no timer has. -/
theorem fits_of_executes {l : ServiceLabel} {task : TimerTask} (h : Sound w) (ok : Allowed l w)
    (he : executes l w = some task) (hu : task.Uses timerId call)
    (deferred : (w.calls call).deferred = true → (w.calls call).timer = some RET_OK ∨
      ∀ t ∈ w.timers, (t.id : ℤ) ≠ RET_OK ∧ t.callback ≠ call) :
    Fits timerId call w.timers ∨
      (w.calls call).timedOut = true ∧ ∀ t ∈ w.timers, (t.id : ℤ) ≠ timerId := by
  obtain ⟨handle, fits⟩ := held_of_executes h ok he hu
  cases late : (w.calls call).timedOut with
  | true =>
    right
    refine ⟨rfl, fun t ht same => ?_⟩
    have large := (h.late call late).2 timerId handle
    have small := h.wellFormed.bounded t ht
    omega
  | false =>
    left
    by_cases settled : (w.calls call).deferred = true → (w.calls call).timer = some RET_OK
    · exact fits ⟨settled, late⟩
    · push Not at settled
      obtain ⟨again, other⟩ := settled
      have nothing := (deferred again).resolve_left other
      have zero : timerId = RET_OK :=
        Option.some.inj (handle.symm.trans (h.deferred call again))
      intro t ht
      rw [zero]
      exact iff_of_false (nothing t ht).1 (nothing t ht).2

/-- A task that runs in a step makes of the timers what it makes of them by itself. -/
theorem timers_next {l : ServiceLabel} {task : TimerTask} (he : executes l w = some task)
    (hu : task.Uses timerId call) :
    ∃ (nowTime : ℤ) (u : TimerService), u.timers = w.timers ∧ next l w = run nowTime task u := by
  cases l with
  | removeTimer onWorker k =>
    cases onWorker <;> cases he
    exact ⟨0, w.drop true k, rfl, rfl⟩
  | resetTimer onWorker nowTime k =>
    cases onWorker <;> cases he
    exact ⟨nowTime, w, rfl, rfl⟩
  | addTimer onWorker nowTime intervalMs repeatCount =>
    cases onWorker <;> cases he
    exact ⟨nowTime, w.call {}, rfl, rfl⟩
  | work nowTime =>
    rcases next_work nowTime w with ⟨head, tasks, hp, ht, hn⟩ | ⟨idle, -⟩
    · simp only [executes, hp, ht, if_true, List.head?_cons, Option.some.injEq] at he
      exact ⟨nowTime, { w with tasks }, rfl, he ▸ hn⟩
    · cases idle.symm.trans he
  | _ => cases he

theorem abandons_of_executes {l : ServiceLabel} {task : TimerTask}
    (he : executes l w = some task) : abandons l w = none := by
  cases l with
  | refuseRemoval | giveUp => cases he
  | _ => rfl

theorem identifies_of_separates {l : ServiceLabel} (h : Sound w) (ok : Allowed l w)
    (apart : Separates l w) : Identifies l w := by
  unfold Identifies
  unfold Separates at apart
  cases he : executes l w with
  | none => simpa only [he] using apart
  | some task =>
    rw [he] at apart
    cases task with
    | add | process => simp [abandons_of_executes he]
    | remove timerId call sync =>
      obtain ⟨deferred, late⟩ := apart
      obtain ⟨nowTime, u, timers, hn⟩ := timers_next he ⟨rfl, rfl⟩
      have fits : Fits timerId call w.timers := by
        rcases fits_of_executes h ok he ⟨rfl, rfl⟩ deferred with fits | ⟨timedOut, missed⟩
        · exact fits
        · exact fun t ht => iff_of_false (missed t ht) (late timedOut t ht)
      rw [hn]
      change (∀ t ∈ w.timers, t.callback ≠ call → t ∈ (removeTimerInternal timerId u.timers).2) ∧
        ∀ t ∈ (removeTimerInternal timerId u.timers).2, t.callback ≠ call
      rw [timers]
      exact removeTimer_of_fits h.wellFormed fits
    | reset timerId call =>
      obtain ⟨nowTime, u, timers, hn⟩ := timers_next he ⟨rfl, rfl⟩
      rw [hn]
      change ∀ t ∈ w.timers, t.callback ≠ call →
        t ∈ (resetTimerInternal nowTime timerId u.timers).2
      rw [timers]
      apply resetTimer_of_hits
      rcases fits_of_executes h ok he ⟨rfl, rfl⟩ apart with fits | ⟨-, missed⟩
      · exact fun t ht => (fits t ht).mp
      · exact fun t ht same => absurd same (missed t ht)

end Invariant

theorem sound_start : Sound {} where
  wellFormed := ⟨.nil, .nil, by simp, by simp⟩
  known t ht := by cases ht
  returned k h _ _ handle := by cases handle
  deferred k d := by cases d
  late k late := by cases late
  adds k i r hm := by cases hm
  once := .nil
  uses task ht := by cases ht

/-- Handles identify timers in every run in which clients keep to their handles and whose steps
keep the handles apart. -/
theorem handles_identify (tr : List ServiceLabel)
    (allowed : System.EachStep next Allowed {} tr)
    (apart : System.EachStep next Separates {} tr) : System.EachStep next Identifies {} tr := by
  have both : System.EachStep next (fun l w => Allowed l w ∧ Separates l w) {} tr :=
    fun p l hp => ⟨allowed p l hp, apart p l hp⟩
  exact both.of_invariant (fun _ _ h ok => sound_next h ok.1 ok.2)
    (fun _ _ h ok => identifies_of_separates h ok.1 ok.2) sound_start

section Witness

variable {w : TimerService} {l : ServiceLabel} {call : ℕ}

theorem separates_of_none (idle : executes l w = none) (kept : abandons l w = none) :
    Separates l w := by
  simp [Separates, idle, kept]

theorem separates_of_add {i r : ℤ} (he : executes l w = some (.add call i r))
    (unused : ∀ task ∈ w.tasks, ∀ h k, ¬ task.Uses h k) : Separates l w := by
  simp only [Separates, he]
  exact fun task ht h k hu => absurd hu (unused task ht h k)

theorem mayUse_of_pending {t : TimerItem ℕ} {h : ℤ} (known : call < w.count)
    (handle : (w.calls call).handle = some h) (nonneg : 0 ≤ h)
    (kept : (w.calls call).dropped = false) (mem : t ∈ w.timers) (own : t.callback = call)
    (idle : w.tasks = []) : w.MayUse call := by
  refine ⟨known, ⟨h, handle, nonneg⟩, kept, fun finished => finished.2 t mem own, ?_⟩
  rw [idle]
  nofun

end Witness

/-- Timers of four calls, added on the worker thread, from another thread and asynchronously; the
first is removed on the worker thread, the second reset and removed, the third removed
asynchronously, and the fourth is never added since its client waits too long. -/
def clientsRun : List ServiceLabel :=
  [.addTimer true 0 100 1, .addTimer false 0 200 1, .work 0, .removeTimer true 0,
    .addTimerAsync 100 1, .work 0, .resetTimer false 0 1, .work 10, .removeTimerAsync 2, .work 20,
    .removeTimer true 1, .addTimer false 0 300 1, .timeout 3, .setWaited 3 64]

theorem handles_identify_clients : System.EachStep next Identifies {} clientsRun := by
  apply handles_identify
  · refine .cons trivial (.cons trivial (.cons trivial (.cons ?_ (.cons trivial (.cons trivial
      (.cons ?_ (.cons trivial (.cons ?_ (.cons trivial (.cons ?_ (.cons trivial (.cons trivial
      (.cons ?_ .nil)))))))))))))
    · exact mayUse_of_pending (by decide) rfl (by decide) rfl List.mem_cons_self rfl rfl
    · exact mayUse_of_pending (by decide) rfl (by decide) rfl
        (List.mem_cons_of_mem _ List.mem_cons_self) rfl rfl
    · exact mayUse_of_pending (by decide) rfl (by decide) rfl List.mem_cons_self rfl rfl
    · exact mayUse_of_pending (by decide) rfl (by decide) rfl List.mem_cons_self rfl rfl
    · exact le_rfl
  · have unused (k : ℕ) (i r : ℤ) : ∀ task ∈ [TimerTask.add k i r], ∀ h j, ¬ task.Uses h j := by
      rintro task ht h j hu
      cases List.mem_singleton.mp ht
      cases hu
    refine .cons (separates_of_add rfl nofun) (.cons (separates_of_none rfl rfl)
      (.cons (separates_of_add rfl (unused 1 200 1)) (.cons ⟨nofun, nofun⟩
      (.cons (separates_of_none rfl rfl) (.cons (separates_of_add rfl (unused 2 100 1))
      (.cons (separates_of_none rfl rfl) (.cons nofun (.cons (separates_of_none rfl rfl)
      (.cons ⟨fun _ => .inl rfl, nofun⟩ (.cons ⟨nofun, nofun⟩ (.cons (separates_of_none rfl rfl)
      (.cons (separates_of_none rfl rfl) (.cons (separates_of_none rfl rfl) .nil)))))))))))))

/-- One client adds a timer, which is given the id 0. Another adds one asynchronously, which
returns 0 and then gives the timer the id 1, and removes it again. -/
def mixedRun : List ServiceLabel :=
  [.addTimer true 0 100 1, .addTimerAsync 100 1, .work 0, .removeTimerAsync 1, .work 0]

/-- The removal hits the timer of the other client and leaves the client's own pending. -/
theorem async_handle_misses :
    System.EachStep next Allowed {} mixedRun ∧ ¬ System.EachStep next Identifies {} mixedRun := by
  constructor
  · refine .cons trivial (.cons trivial (.cons trivial (.cons ?_ (.cons trivial .nil))))
    refine ⟨by decide, ⟨0, by decide, by decide⟩, by decide, ?_, fun task ht => by cases ht⟩
    rintro ⟨-, gone⟩
    exact gone _ (List.mem_cons_of_mem _ List.mem_cons_self) rfl
  · intro each
    have last := each mixedRun.dropLast (.work 0) ⟨[], rfl⟩
    obtain ⟨-, removed⟩ := last
    exact removed _ List.mem_cons_self rfl

end TimerService

end DeviceStatus.Timers
