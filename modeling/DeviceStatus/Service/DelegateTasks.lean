import DeviceStatus.Library.Transition
import DeviceStatus.Utils.IdFactory
import Mathlib.Data.List.Nodup

/-!
# Delegated tasks

Any thread posts a task by writing a record to a pipe and pushing the task onto a queue, both
under one mutex. For each readable record the service loop takes up to ten tasks off the queue and
processes them. The caller of a synchronous task waits for three seconds and marks the task when
it leaves.

## Main definitions

* `TaskId` — the ids of the tasks.
* `DelegateTasks`, `DelegateTasks.next` — queue, pipe, loop and callers, one step of one of them.
* `DelegateTasks.RunsOnce` — what is expected of the tasks of a run.
-/

namespace DeviceStatus.Service

open Transition.System

/-- What `IdFactory<int32_t>` gives out. -/
abbrev TaskId := Utils.IntegerType.int32.Value

/-- A task knows the call of `PostTask` that made it. -/
structure Task where
  call : ℕ
  id : TaskId
  /-- whether there is a `promise_` -/
  sync : Bool
  deriving DecidableEq

/-- What `PostSyncTask` and `PostAsyncTask` return. -/
inductive PostResult where
  | retOk
  | etasksPostSyncTaskFail
  | etasksPostAsyncTaskFail
  | etasksWaitTimeout
  | value (ret : Int32)
  deriving DecidableEq

inductive Caller where
  | absent
  | waiting
  /-- `wait_for` has returned, the task is not marked yet -/
  | woken (result : PostResult)
  | returned (result : PostResult)
  deriving DecidableEq

inductive Loop where
  | idle
  /-- in `ProcessTasks`, before `PopPendingTaskList` -/
  | called
  | batch (tasks : List Task)
  | running (task : Task) (tasks : List Task)
  deriving DecidableEq

def Loop.unstarted : Loop → List Task
  | .batch tasks => tasks
  | .running _ tasks => tasks
  | _ => []

/-- What is left of the record in hand. -/
def Loop.work : Loop → ℕ
  | .idle => 0
  | .called => 2
  | .batch tasks => 2 * tasks.length + 1
  | .running _ tasks => 2 * tasks.length + 2

inductive Event where
  | refused (call : ℕ)
  | accepted (call : ℕ) (sync : Bool)
  /-- `wait_for` has returned `timeout` -/
  | timedOut (call : ℕ)
  | setWaited (call : ℕ)
  | dropped (call : ℕ)
  | executed (call : ℕ)
  deriving DecidableEq

def Event.accepted? : Event → Option ℕ
  | .accepted call _ => some call
  | _ => none

def Event.started? : Event → Option ℕ
  | .dropped call => some call
  | .executed call => some call
  | _ => none

/-- The calls that got a task object. -/
def accepted (trace : List Event) : List ℕ := trace.filterMap Event.accepted?

/-- The calls whose task was executed or dropped. -/
def started (trace : List Event) : List ℕ := trace.filterMap Event.started?

/-- Every event of a trace meets a condition on it and the events before it. -/
def EachEvent (P : List Event → Event → Prop) (trace : List Event) : Prop :=
  ∀ before e after, trace = before ++ e :: after → P before e

structure DelegateTasks where
  factory : Utils.IdFactory .int32 := {}
  tasks : List Task := []
  /-- the records in the pipe, by their `taskId` -/
  pipe : List TaskId := []
  /-- the task of the thread that is in `PostTask` and has written its record -/
  posting : Option Task := none
  loop : Loop := .idle
  callers : ℕ → Caller := fun _ => .absent
  promises : ℕ → Option Int32 := fun _ => none
  /-- the tasks with `hasWaited_` -/
  waited : Finset ℕ := ∅
  calls : ℕ := 0
  trace : List Event := []

namespace DelegateTasks

def maxTasksLimit : ℕ := 1000

def onceProcessTaskLimit : ℕ := 10

inductive Label where
  /-- a thread enters `PostTask`, `written` telling whether its write succeeds -/
  | postTask (sync written : Bool)
  | push
  | timeout (call : ℕ)
  | ready (call : ℕ)
  | setWaited (call : ℕ)
  /-- `OnDelegateTask`, `ok` telling whether its read succeeds -/
  | onDelegateTask (ok : Bool)
  | popPendingTaskList
  /-- `ProcessTask` of the next task -/
  | processTask
  | funReturns (ret : Int32)
  deriving DecidableEq

/-- The callers when one of them goes on. -/
def told (call : ℕ) (caller : Caller) (s : DelegateTasks) : ℕ → Caller :=
  fun other => if other = call then caller else s.callers other

def refuse (sync : Bool) (s : DelegateTasks) : DelegateTasks :=
  { s with
    calls := s.calls + 1
    callers := s.told s.calls
      (.returned (if sync then .etasksPostSyncTaskFail else .etasksPostAsyncTaskFail))
    trace := s.trace ++ [.refused s.calls] }

/-- `PostTask` up to the write. A thread that finds `mux_` locked waits. -/
def postTask (sync written : Bool) (s : DelegateTasks) : DelegateTasks :=
  if s.posting.isSome then s
  else if s.tasks.length > maxTasksLimit then s.refuse sync
  else
    let (id, factory) := s.factory.generateId
    if written then
      { s with
        factory, pipe := s.pipe ++ [id], calls := s.calls + 1
        posting := some { call := s.calls, id, sync } }
    else { s with factory := factory.recoveryId id }.refuse sync

/-- The rest of `PostTask`. -/
def push (s : DelegateTasks) : DelegateTasks :=
  match s.posting with
  | none => s
  | some task =>
    { s with
      posting := none, tasks := s.tasks ++ [task]
      callers := s.told task.call (if task.sync then .waiting else .returned .retOk)
      trace := s.trace ++ [.accepted task.call task.sync] }

def timeout (call : ℕ) (s : DelegateTasks) : DelegateTasks :=
  if s.callers call = .waiting ∧ s.promises call = none then
    { s with
      callers := s.told call (.woken .etasksWaitTimeout)
      trace := s.trace ++ [.timedOut call] }
  else s

def ready (call : ℕ) (s : DelegateTasks) : DelegateTasks :=
  match s.callers call, s.promises call with
  | .waiting, some ret =>
    { s with callers := s.told call (.woken (.value ret)) }
  | _, _ => s

def setWaited (call : ℕ) (s : DelegateTasks) : DelegateTasks :=
  match s.callers call with
  | .woken result =>
    { s with
      waited := insert call s.waited
      callers := s.told call (.returned result)
      trace := s.trace ++ [.setWaited call] }
  | _ => s

/-- The pipe is readable as long as there is a record. A failed read is logged only. -/
def onDelegateTask (ok : Bool) (s : DelegateTasks) : DelegateTasks :=
  if s.loop = .idle ∧ s.pipe ≠ [] then
    { s with pipe := if ok then s.pipe.tail else s.pipe, loop := .called }
  else s

def popPendingTaskList (s : DelegateTasks) : DelegateTasks :=
  if s.loop = .called ∧ s.posting = none then
    { s with
      factory := (s.tasks.take onceProcessTaskLimit).foldl (fun f task => f.recoveryId task.id)
        s.factory
      loop := .batch (s.tasks.take onceProcessTaskLimit)
      tasks := s.tasks.drop onceProcessTaskLimit }
  else s

def processTask (s : DelegateTasks) : DelegateTasks :=
  match s.loop with
  | .batch [] => { s with loop := .idle }
  | .batch (task :: tasks) =>
    if task.call ∈ s.waited then
      { s with loop := .batch tasks, trace := s.trace ++ [.dropped task.call] }
    else { s with loop := .running task tasks, trace := s.trace ++ [.executed task.call] }
  | _ => s

def funReturns (ret : Int32) (s : DelegateTasks) : DelegateTasks :=
  match s.loop with
  | .running task tasks =>
    { s with
      loop := .batch tasks
      promises := fun call =>
        if call = task.call ∧ call ∉ s.waited ∧ task.sync then some ret else s.promises call }
  | _ => s

def next : Label → DelegateTasks → DelegateTasks
  | .postTask sync written, s => s.postTask sync written
  | .push, s => s.push
  | .timeout call, s => s.timeout call
  | .ready call, s => s.ready call
  | .setWaited call, s => s.setWaited call
  | .onDelegateTask ok, s => s.onDelegateTask ok
  | .popPendingTaskList, s => s.popPendingTaskList
  | .processTask, s => s.processTask
  | .funReturns ret, s => s.funReturns ret

/-- The tasks that wait to be processed, the oldest first. -/
def unstarted (s : DelegateTasks) : List Task := s.loop.unstarted ++ s.tasks

/-- The step that the loop takes by itself, reads succeeding. -/
def loopLabel (ret : Int32) (s : DelegateTasks) : Label :=
  match s.loop with
  | .idle => .onDelegateTask true
  | .called => .popPendingTaskList
  | .batch _ => .processTask
  | .running _ _ => .funReturns ret

def runLoop (ret : Int32) (s : DelegateTasks) : DelegateTasks := next (s.loopLabel ret) s

def Settled (s : DelegateTasks) : Prop := s.pipe = [] ∧ s.posting = none ∧ s.loop = .idle

/-- A task is dropped if its synchronous caller is through with it by `late` when it is its turn,
and executed otherwise. -/
def FateBy (late : ℕ → List Event → Prop) (before : List Event) : Event → Prop
  | .dropped call => .accepted call true ∈ before ∧ late call before
  | .executed call => ¬ (.accepted call true ∈ before ∧ late call before)
  | _ => True

/-- The tasks that were accepted start once each and in their order, the others never; no task is
left when all is quiet, and when nobody is posting the loop by itself gets there. -/
structure RunsOnce (late : ℕ → List Event → Prop) (s : DelegateTasks) : Prop where
  inOrder : started s.trace ++ s.unstarted.map (·.call) = accepted s.trace
  once : (accepted s.trace).Nodup
  fate : EachEvent (FateBy late) s.trace
  refused : ∀ call, .refused call ∈ s.trace → call ∉ accepted s.trace
  drained : s.Settled → s.tasks = []
  settles : ∀ ret, s.posting = none → ∃ n,
    ((runLoop ret)^[n] s).Settled ∧ started ((runLoop ret)^[n] s).trace = accepted s.trace

/-- `wait_for` returned `timeout`. -/
def TimedOut (call : ℕ) (before : List Event) : Prop := .timedOut call ∈ before

/-- The caller has also marked the task. -/
def TimedOutAndMarked (call : ℕ) (before : List Event) : Prop :=
  .timedOut call ∈ before ∧ .setWaited call ∈ before

/-- The calls that got a task object, or are about to. -/
def granted (s : DelegateTasks) : List ℕ :=
  accepted s.trace ++ s.posting.toList.map (·.call)

/-- The record that the loop has read and not acted on. -/
def inHand (s : DelegateTasks) : ℕ := if s.loop = .called then 1 else 0

/-- Tasks start in the order in which they were accepted, and every task in the queue has its record
in the pipe or in hand. -/
structure InOrder (s : DelegateTasks) : Prop where
  order : started s.trace ++ s.unstarted.map (·.call) = accepted s.trace
  increasing : s.granted.Pairwise (· < ·)
  below : ∀ call ∈ s.granted, call < s.calls
  refused : ∀ call, .refused call ∈ s.trace → call < s.calls ∧ call ∉ s.granted
  covered : s.tasks.length + s.posting.toList.length ≤ s.pipe.length + s.inHand

/-- The wait for a synchronous task ends by its timeout or with the task executed. -/
def WaitOver (trace : List Event) (call : ℕ) : Prop :=
  .accepted call true ∈ trace ∧ (.timedOut call ∈ trace ∨ .executed call ∈ trace)

/-- What callers and tasks know of each other has happened. -/
structure Told (s : DelegateTasks) : Prop where
  waited : ∀ call, call ∈ s.waited ↔ .setWaited call ∈ s.trace
  waiting : ∀ call, s.callers call = .waiting → .accepted call true ∈ s.trace
  woken : ∀ call result, s.callers call = .woken result → WaitOver s.trace call
  marked : ∀ call, .setWaited call ∈ s.trace → WaitOver s.trace call
  promised : ∀ call, s.promises call ≠ none → .executed call ∈ s.trace
  running : ∀ task tasks, s.loop = .running task tasks → .executed task.call ∈ s.trace

end DelegateTasks

section Traces

variable {trace : List Event} {e : Event} {P : List Event → Event → Prop}

@[simp] theorem accepted_append :
    accepted (trace ++ [e]) = accepted trace ++ e.accepted?.toList := by
  cases e <;> simp [accepted, Event.accepted?]

@[simp] theorem started_append : started (trace ++ [e]) = started trace ++ e.started?.toList := by
  cases e <;> simp [started, Event.started?]

theorem mem_started {call : ℕ} :
    call ∈ started trace ↔ .dropped call ∈ trace ∨ .executed call ∈ trace := by
  simp only [started, List.mem_filterMap]
  constructor
  · rintro ⟨e, he, h⟩
    cases e <;> simp_all [Event.started?]
  · rintro (h | h)
    · exact ⟨_, h, rfl⟩
    · exact ⟨_, h, rfl⟩

theorem eachEvent_append (old : EachEvent P trace) (new : P trace e) :
    EachEvent P (trace ++ [e]) := by
  intro before x after split
  induction after using List.reverseRecOn with
  | nil =>
    obtain ⟨rfl, h⟩ := List.append_inj' split rfl
    obtain rfl := List.singleton_inj.mp h
    exact new
  | append_singleton after y _ =>
    have split : trace ++ [e] = (before ++ x :: after) ++ [y] := by simpa using split
    obtain ⟨rfl, -⟩ := List.append_inj' split rfl
    exact old _ _ _ rfl

end Traces

namespace DelegateTasks

variable {s : DelegateTasks}

theorem inOrder_start : InOrder {} where
  order := rfl
  increasing := by simp [granted, accepted]
  below := by simp [granted, accepted]
  refused := by simp
  covered := by simp

theorem told_start : Told {} where
  waited := by simp
  waiting := by simp
  woken := by simp
  marked := by simp
  promised := by simp
  running := by simp

section Steps

theorem InOrder.refuse (h : s.InOrder) (sync : Bool) : (s.refuse sync).InOrder := by
  have fresh : s.calls ∉ s.granted := fun mem => (h.below _ mem).false
  have same : (s.refuse sync).granted = s.granted := by
    simp [DelegateTasks.refuse, granted, Event.accepted?]
  have counted : (s.refuse sync).calls = s.calls + 1 := rfl
  constructor
  · simpa [DelegateTasks.refuse, unstarted, Event.accepted?, Event.started?] using h.order
  · exact same ▸ h.increasing
  · intro call mem
    have := h.below call (same ▸ mem)
    omega
  · intro call mem
    rw [same, counted]
    simp only [DelegateTasks.refuse, List.mem_append, List.mem_singleton,
      Event.refused.injEq] at mem
    rcases mem with mem | rfl
    · have := h.refused call mem
      exact ⟨by omega, this.2⟩
    · exact ⟨by omega, fresh⟩
  · exact h.covered

theorem InOrder.postTask (h : s.InOrder) (sync written : Bool) :
    (s.postTask sync written).InOrder := by
  unfold DelegateTasks.postTask
  split
  next => exact h
  next free =>
  split
  next => exact h.refuse sync
  next =>
  cases written with
  | false =>
    refine InOrder.refuse ?_ sync
    exact ⟨h.order, h.increasing, h.below, h.refused, h.covered⟩
  | true =>
    have none : s.posting = none := by simpa using free
    have before : s.granted = accepted s.trace := by simp [granted, none]
    have below := h.below
    have increasing := h.increasing
    rw [before] at below increasing
    simp only [if_true]
    constructor
    · exact h.order
    · refine List.pairwise_append.mpr ⟨increasing, List.pairwise_singleton _ _, ?_⟩
      intro call mem new isNew
      exact List.mem_singleton.mp isNew ▸ below call mem
    · intro call mem
      rcases List.mem_append.mp mem with old | new
      · exact Nat.lt_succ_of_lt (below call old)
      · exact List.mem_singleton.mp new ▸ Nat.lt_succ_self _
    · intro call mem
      obtain ⟨older, fresh⟩ := h.refused call mem
      refine ⟨Nat.lt_succ_of_lt older, fun granted => ?_⟩
      rcases List.mem_append.mp granted with old | new
      · exact fresh (before ▸ old)
      · exact older.ne (List.mem_singleton.mp new)
    · have covered := h.covered
      simp only [inHand, none, Option.toList_none, Option.toList_some, List.length_nil,
        List.length_append, List.length_singleton] at covered ⊢
      omega

theorem InOrder.push (h : s.InOrder) : s.push.InOrder := by
  unfold DelegateTasks.push
  split
  next => exact h
  next task held =>
    have order := h.order
    have covered := h.covered
    have same : granted { s with
        posting := none
        tasks := s.tasks ++ [task]
        callers := s.told task.call (if task.sync then .waiting else .returned .retOk)
        trace := s.trace ++ [.accepted task.call task.sync] } = s.granted := by
      simp [granted, held, Event.accepted?]
    constructor
    · simp [unstarted, Event.accepted?, Event.started?] at order ⊢
      rw [← order]
      simp
    · exact same ▸ h.increasing
    · exact same ▸ h.below
    · intro call mem
      exact same ▸ h.refused call (by simpa using mem)
    · simpa [inHand, held] using covered

/-- A caller goes on: no task is accepted, started or refused. -/
theorem InOrder.caller (h : s.InOrder) (callers : ℕ → Caller) (waited : Finset ℕ)
    {trace : List Event} (events : trace = s.trace ∨ ∃ e, trace = s.trace ++ [e] ∧
      e.accepted? = none ∧ e.started? = none ∧ ∀ call, e ≠ .refused call) :
    InOrder { s with callers, waited, trace } := by
  obtain rfl | ⟨e, rfl, accepts, starts, refuses⟩ := events
  · exact ⟨h.order, h.increasing, h.below, h.refused, h.covered⟩
  · constructor
    · simpa [unstarted, accepts, starts] using h.order
    · simpa [granted, accepts] using h.increasing
    · simpa [granted, accepts] using h.below
    · simpa [granted, accepts, (refuses _).symm] using h.refused
    · exact h.covered

theorem InOrder.timeout (h : s.InOrder) (call : ℕ) : (s.timeout call).InOrder := by
  unfold DelegateTasks.timeout
  split
  next => exact h.caller _ _ (.inr ⟨_, rfl, rfl, rfl, nofun⟩)
  next => exact h

theorem InOrder.ready (h : s.InOrder) (call : ℕ) : (s.ready call).InOrder := by
  unfold DelegateTasks.ready
  split
  next => exact h.caller _ _ (.inl rfl)
  next => exact h

theorem InOrder.setWaited (h : s.InOrder) (call : ℕ) : (s.setWaited call).InOrder := by
  unfold DelegateTasks.setWaited
  split
  next => exact h.caller _ _ (.inr ⟨_, rfl, rfl, rfl, nofun⟩)
  next => exact h

theorem InOrder.onDelegateTask (h : s.InOrder) (ok : Bool) :
    (s.onDelegateTask ok).InOrder := by
  unfold DelegateTasks.onDelegateTask
  split
  next readable =>
    obtain ⟨idle, records⟩ := readable
    have covered := h.covered
    constructor
    · simpa [unstarted, Loop.unstarted, idle] using h.order
    · exact h.increasing
    · exact h.below
    · exact h.refused
    · have := List.length_pos_of_ne_nil records
      cases ok <;> simp [inHand, idle] at covered ⊢ <;> omega
  next => exact h

theorem InOrder.popPendingTaskList (h : s.InOrder) : s.popPendingTaskList.InOrder := by
  unfold DelegateTasks.popPendingTaskList
  split
  next ready =>
    constructor
    · have split : (s.tasks.take onceProcessTaskLimit).map (·.call) ++
          (s.tasks.drop onceProcessTaskLimit).map (·.call) = s.tasks.map (·.call) := by
        rw [← List.map_append, List.take_append_drop]
      simpa [unstarted, Loop.unstarted, ready.1, split] using h.order
    · exact h.increasing
    · exact h.below
    · exact h.refused
    · have := h.covered
      simp [inHand, ready.1, ready.2, onceProcessTaskLimit] at this ⊢
      omega
  next => exact h

theorem InOrder.processTask (h : s.InOrder) : s.processTask.InOrder := by
  have order := h.order
  have covered := h.covered
  unfold DelegateTasks.processTask
  split
  next ended =>
    constructor
    · simpa [unstarted, Loop.unstarted, ended] using order
    · exact h.increasing
    · exact h.below
    · exact h.refused
    · simpa [inHand, ended] using covered
  next task tasks turn =>
    split
    all_goals
      constructor
      · simpa [unstarted, Loop.unstarted, turn, Event.accepted?, Event.started?] using order
      · simpa [granted, Event.accepted?] using h.increasing
      · simpa [granted, Event.accepted?] using h.below
      · simpa [granted, Event.accepted?] using h.refused
      · simpa [inHand, turn] using covered
  next => exact h

theorem InOrder.funReturns (h : s.InOrder) (ret : Int32) : (s.funReturns ret).InOrder := by
  unfold DelegateTasks.funReturns
  split
  next task tasks runs =>
    constructor
    · simpa [unstarted, Loop.unstarted, runs] using h.order
    · exact h.increasing
    · exact h.below
    · exact h.refused
    · simpa [inHand, runs] using h.covered
  next => exact h

theorem Told.refuse (h : s.Told) (sync : Bool) : (s.refuse sync).Told := by
  cases h
  constructor <;> simp only [DelegateTasks.refuse, told] <;> grind [WaitOver]

theorem Told.postTask (h : s.Told) (sync written : Bool) : (s.postTask sync written).Told := by
  unfold DelegateTasks.postTask
  split
  next => exact h
  split
  next => exact h.refuse sync
  cases written with
  | true => exact ⟨h.waited, h.waiting, h.woken, h.marked, h.promised, h.running⟩
  | false =>
    refine Told.refuse ?_ sync
    exact ⟨h.waited, h.waiting, h.woken, h.marked, h.promised, h.running⟩

theorem Told.push (h : s.Told) : s.push.Told := by
  cases h
  unfold DelegateTasks.push
  split
  next => constructor <;> assumption
  next task _ => constructor <;> simp only [told] <;> grind [WaitOver]

theorem Told.timeout (h : s.Told) (call : ℕ) : (s.timeout call).Told := by
  cases h
  unfold DelegateTasks.timeout
  split
  next => constructor <;> simp only [told] <;> grind [WaitOver]
  next => constructor <;> assumption

theorem Told.ready (h : s.Told) (call : ℕ) : (s.ready call).Told := by
  cases h
  unfold DelegateTasks.ready
  split
  next => constructor <;> simp only [told] <;> grind [WaitOver]
  next => constructor <;> assumption

theorem Told.setWaited (h : s.Told) (call : ℕ) : (s.setWaited call).Told := by
  cases h
  unfold DelegateTasks.setWaited
  split
  next => constructor <;> simp only [told] <;> grind [WaitOver]
  next => constructor <;> assumption

theorem Told.processTask (h : s.Told) : s.processTask.Told := by
  cases h
  constructor <;> grind [DelegateTasks.processTask, WaitOver]

theorem Told.funReturns (h : s.Told) (ret : Int32) : (s.funReturns ret).Told := by
  cases h
  unfold DelegateTasks.funReturns
  split
  next => constructor <;> grind
  next => constructor <;> assumption

/-- The fate of a task is decided when it is its turn. -/
theorem processTask_fate (h : s.InOrder) (told : s.Told)
    (fate : EachEvent (FateBy TimedOutAndMarked) s.trace) :
    EachEvent (FateBy TimedOutAndMarked) s.processTask.trace := by
  unfold DelegateTasks.processTask
  split
  next => exact fate
  next task tasks turn =>
    split
    next late =>
      have waitOver := told.marked _ ((told.waited _).mp late)
      have fresh : .executed task.call ∉ s.trace := by
        intro ran
        have twice := h.order
        rw [unstarted, turn] at twice
        have once : (accepted s.trace).Pairwise (· < ·) := (List.pairwise_append.mp h.increasing).1
        rw [← twice] at once
        have := (List.pairwise_append.mp once).2.2 _ (mem_started.mpr (.inr ran)) task.call
          (by simp [Loop.unstarted])
        exact this.false
      have timedOut := waitOver.2.resolve_right fresh
      exact eachEvent_append fate ⟨waitOver.1, timedOut, (told.waited _).mp late⟩
    next late =>
      apply eachEvent_append fate
      rintro ⟨-, -, marked⟩
      exact late ((told.waited _).mpr marked)
  next => exact fate

end Steps

theorem InOrder.next (h : s.InOrder) (l : Label) : (next l s).InOrder := by
  cases l with
  | postTask sync written => exact h.postTask sync written
  | push => exact h.push
  | timeout call => exact h.timeout call
  | ready call => exact h.ready call
  | setWaited call => exact h.setWaited call
  | onDelegateTask ok => exact h.onDelegateTask ok
  | popPendingTaskList => exact h.popPendingTaskList
  | processTask => exact h.processTask
  | funReturns ret => exact h.funReturns ret

theorem Told.next (h : s.Told) (l : Label) : (next l s).Told := by
  cases l with
  | postTask sync written => exact h.postTask sync written
  | push => exact h.push
  | timeout call => exact h.timeout call
  | ready call => exact h.ready call
  | setWaited call => exact h.setWaited call
  | onDelegateTask ok =>
    simp only [DelegateTasks.next, onDelegateTask]
    split
    next => exact ⟨h.waited, h.waiting, h.woken, h.marked, h.promised, by simp⟩
    next => exact h
  | popPendingTaskList =>
    simp only [DelegateTasks.next, popPendingTaskList]
    split
    next => exact ⟨h.waited, h.waiting, h.woken, h.marked, h.promised, by simp⟩
    next => exact h
  | processTask => exact h.processTask
  | funReturns ret => exact h.funReturns ret

theorem next_fate (h : s.InOrder) (told : s.Told)
    (fate : EachEvent (FateBy TimedOutAndMarked) s.trace) (l : Label) :
    EachEvent (FateBy TimedOutAndMarked) (next l s).trace := by
  cases l with
  | processTask => exact processTask_fate h told fate
  | _ =>
    simp only [next, postTask, refuse, push, timeout, ready, setWaited, onDelegateTask,
      popPendingTaskList, funReturns]
    repeat' split
    all_goals first | exact fate | exact eachEvent_append fate trivial

/-! ### The loop by itself -/

/-- What is left to do for the loop; a task costs less when it has been taken off the queue. -/
def work (s : DelegateTasks) : ℕ := 3 * s.pipe.length + 3 * s.tasks.length + s.loop.work

theorem runLoop_posting (ret : Int32) (free : s.posting = none) :
    (s.runLoop ret).posting = none := by
  unfold runLoop loopLabel
  split <;>
    simp only [next, onDelegateTask, popPendingTaskList, processTask, funReturns] <;> grind

theorem runLoop_accepted (ret : Int32) :
    accepted (s.runLoop ret).trace = accepted s.trace := by
  unfold runLoop loopLabel
  split <;>
    simp only [next, onDelegateTask, popPendingTaskList, processTask, funReturns] <;>
    grind [accepted_append, Event.accepted?]

theorem runLoop_work (ret : Int32) (free : s.posting = none) (busy : ¬ s.Settled) :
    (s.runLoop ret).work < s.work := by
  unfold runLoop loopLabel
  split
  next idle =>
    have records : s.pipe ≠ [] := fun empty => busy ⟨empty, free, idle⟩
    have := List.length_pos_of_ne_nil records
    simp [next, onDelegateTask, idle, records, work, Loop.work]
    omega
  next called =>
    simp [next, popPendingTaskList, called, free, work, Loop.work]
    omega
  next tasks taken =>
    simp only [next, processTask]
    cases tasks with
    | nil => simp [taken, work, Loop.work]
    | cons task tasks =>
      by_cases late : task.call ∈ s.waited
      · simp [taken, late, work, Loop.work]
      · simp [taken, late, work, Loop.work]
        omega
  next taken => simp [next, funReturns, taken, work, Loop.work]

theorem loop_settles (ret : Int32) (free : s.posting = none) :
    ∃ n, ((runLoop ret)^[n] s).Settled ∧
      accepted ((runLoop ret)^[n] s).trace = accepted s.trace := by
  induction h : s.work using Nat.strong_induction_on generalizing s with
  | _ left ih =>
    by_cases quiet : s.Settled
    · exact ⟨0, quiet, rfl⟩
    · have less := runLoop_work ret free quiet
      obtain ⟨n, settled, same⟩ := ih _ (h ▸ less) (runLoop_posting ret free) rfl
      exact ⟨n + 1, settled, same.trans (runLoop_accepted ret)⟩

theorem InOrder.iterate (h : s.InOrder) (ret : Int32) (n : ℕ) : ((runLoop ret)^[n] s).InOrder := by
  induction n generalizing s with
  | zero => exact h
  | succ n ih => exact ih (h.next _)

theorem InOrder.drained (h : s.InOrder) (settled : s.Settled) : s.tasks = [] := by
  have := h.covered
  simpa [settled.1, settled.2.1, inHand, settled.2.2] using this

/-- Every task that was accepted is processed, in its order and once, and none that was refused;
it is dropped exactly if the wait of its synchronous caller had timed out and the caller had marked
it before its turn. -/
theorem tasks_run_once_in_order (tr : List Label) :
    (runFrom next {} tr).RunsOnce TimedOutAndMarked := by
  have keep : ∀ l (s : DelegateTasks),
      (s.InOrder ∧ s.Told ∧ EachEvent (FateBy TimedOutAndMarked) s.trace) →
      (next l s).InOrder ∧ (next l s).Told ∧
        EachEvent (FateBy TimedOutAndMarked) (next l s).trace := by
    rintro l s ⟨order, told, fate⟩
    exact ⟨order.next l, told.next l, next_fate order told fate l⟩
  have start : InOrder {} ∧ Told {} ∧
      EachEvent (FateBy TimedOutAndMarked) ({} : DelegateTasks).trace :=
    ⟨inOrder_start, told_start, by simp [EachEvent]⟩
  obtain ⟨order, -, fate⟩ := runFrom_invariant keep start tr
  refine ⟨order.order, ?_, fate, ?_, order.drained, ?_⟩
  · have := (List.pairwise_append.mp order.increasing).1
    exact this.imp fun h => h.ne
  · intro call refused mem
    exact (order.refused call refused).2 (List.mem_append_left _ mem)
  · intro ret free
    obtain ⟨n, settled, same⟩ := loop_settles ret free
    refine ⟨n, settled, ?_⟩
    have ended := order.iterate ret n
    have all := ended.order
    simpa [unstarted, settled.2.2, Loop.unstarted, ended.drained settled, same] using all

/-- A task starts after the wait of its caller has timed out, and is executed. -/
theorem expired_task_executed :
    ¬ ∀ tr, (runFrom next {} tr).RunsOnce TimedOut := by
  intro h
  have fate := (h [.postTask true true, .push, .onDelegateTask true, .popPendingTaskList,
    .timeout 0, .processTask, .setWaited 0]).fate
  exact fate [.accepted 0 true, .timedOut 0] (.executed 0) [.setWaited 0] (by decide)
    ⟨by decide, .tail _ (.head _)⟩

end DelegateTasks

end DeviceStatus.Service
