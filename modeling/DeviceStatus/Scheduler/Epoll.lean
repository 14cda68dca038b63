import DeviceStatus.Library.Transition
import Mathlib.Data.Int.Notation

/-!
# The epoll scheduler

A task is spawned for each handler. It leaves its waker in the table of handlers whenever it is
polled, and delivers the events that the driver has left there. A descriptor is disarmed when the
kernel reports it, and armed again after a delivery. The task is spawned before its handler is in
the table, and a handler that is refused has a task as well until it is dropped.

## Main definitions

* `Epoll`, `Epoll.next` — the table, the epoll set, the tasks and the driver.
* `Epoll.Ready` — the next event of every handler will be delivered.
* `Epoll.Heard` — a task is not polled before its handler is in the table, and does not take the
  place of another task that has been polled.
-/

namespace DeviceStatus.Scheduler

open Transition.System

def libcEpollIn : UInt32 := 1
def libcEpollErr : UInt32 := 8
def libcEpollHup : UInt32 := 16
def libcEpollAll : UInt32 := libcEpollIn ||| libcEpollErr ||| libcEpollHup
def maxEpollEvents : ℕ := 128

/-- How far a task has come with a poll. -/
inductive Phase where
  | idle
  | started
  /-- `dispatch_inner` has found events, `epoll_reset` is to come -/
  | dispatching
  deriving DecidableEq

/-- How far the call of `Scheduler::add_epoll_handler` has come that spawned a task. -/
inductive Call where
  | spawned
  /-- the handler is refused and to be dropped -/
  | refused
  | returned
  deriving DecidableEq

structure Task where
  fd : ℤ
  /-- the runtime is to poll the task -/
  due : Bool := true
  cancelled : Bool := false
  phase : Phase := .idle
  call : Call := .spawned
  deriving DecidableEq

/-- A poll of the task will come to the table. -/
def Task.Coming (task : Task) : Prop := task.due = true ∨ task.phase = .started

/-- `EpollHandler`, known by the task that was spawned for it. -/
structure EpollHandler where
  task : ℕ
  /-- the task whose waker is stored -/
  waker : Option ℕ := none
  events : UInt32 := 0
  deriving DecidableEq

structure Epoll where
  handlers : ℤ → Option EpollHandler := fun _ => none
  /-- the descriptors in the epoll set, armed or not -/
  armed : ℤ → Option Bool := fun _ => none
  tasks : ℕ → Option Task := fun _ => none
  spawned : ℕ := 0
  /-- what the driver has got from `epoll_wait`, unless it is waiting -/
  batch : Option (List (ℤ × UInt32)) := none

namespace Epoll

inductive Label where
  | spawn (fd : ℤ)
  /-- the section of `Epoll::add_epoll_handler` -/
  | addEpollHandler (task : ℕ)
  /-- a handler that was refused is dropped -/
  | drop (task : ℕ)
  | removeEpollHandler (fd : ℤ)
  | poll (task : ℕ)
  | dispatchInner (task : ℕ)
  | epollReset (task : ℕ)
  /-- the kernel reports events -/
  | epollWait (ready : List (ℤ × UInt32))
  | wake

def setTask (n : ℕ) (task : Task) (s : Epoll) : ℕ → Option Task :=
  fun m => if m = n then some task else s.tasks m

def setHandler (fd : ℤ) (handler : Option EpollHandler) (s : Epoll) : ℤ → Option EpollHandler :=
  fun f => if f = fd then handler else s.handlers f

def setArmed (fd : ℤ) (armed : Option Bool) (s : Epoll) : ℤ → Option Bool :=
  fun f => if f = fd then armed else s.armed f

def spawn (fd : ℤ) (s : Epoll) : Epoll :=
  { s with tasks := s.setTask s.spawned { fd }, spawned := s.spawned + 1 }

/-- `EPOLL_CTL_ADD`, which fails if the descriptor is in the set. -/
def epollAdd (fd : ℤ) (s : Epoll) : ℤ → Option Bool :=
  match s.armed fd with
  | some _ => s.armed
  | none => s.setArmed fd (some true)

/-- `EPOLL_CTL_MOD`, which fails if the descriptor is not in the set. -/
def epollMod (fd : ℤ) (s : Epoll) : ℤ → Option Bool :=
  match s.armed fd with
  | some _ => s.setArmed fd (some true)
  | none => s.armed

def addEpollHandler (n : ℕ) (s : Epoll) : Epoll :=
  match s.tasks n with
  | some task =>
    if task.call ≠ .spawned then s
    else match s.handlers task.fd with
      | some _ => { s with tasks := s.setTask n { task with call := .refused } }
      | none =>
        { s with
          handlers := s.setHandler task.fd (some { task := n })
          armed := s.epollAdd task.fd
          tasks := s.setTask n { task with call := .returned } }
  | none => s

/-- `EpollHandler::drop`. -/
def drop (n : ℕ) (s : Epoll) : Epoll :=
  match s.tasks n with
  | some task =>
    if task.call = .refused then
      { s with tasks := s.setTask n { task with cancelled := true, call := .returned } }
    else s
  | none => s

/-- The handler is dropped under the lock. -/
def removeEpollHandler (fd : ℤ) (s : Epoll) : Epoll :=
  match s.handlers fd with
  | some handler =>
    { s with
      handlers := s.setHandler fd none
      armed := s.setArmed fd none
      tasks := fun m =>
        if m = handler.task then (s.tasks m).map fun task => { task with cancelled := true }
        else s.tasks m }
  | none => { s with armed := s.setArmed fd none }

def poll (n : ℕ) (s : Epoll) : Epoll :=
  match s.tasks n with
  | some task =>
    if task.due ∧ task.cancelled = false ∧ task.phase = .idle then
      { s with tasks := s.setTask n { task with due := false, phase := .started } }
    else s
  | none => s

def dispatchInner (n : ℕ) (s : Epoll) : Epoll :=
  match s.tasks n with
  | some task =>
    if task.phase ≠ .started then s
    else match s.handlers task.fd with
      | some handler =>
        { s with
          handlers := s.setHandler task.fd (some { handler with waker := some n, events := 0 })
          tasks := s.setTask n
            { task with
              phase := if handler.events &&& libcEpollAll ≠ 0 then .dispatching else .idle } }
      | none => { s with tasks := s.setTask n { task with phase := .idle } }
  | none => s

/-- The end of `dispatch`, after the handler has got its events. -/
def epollReset (n : ℕ) (s : Epoll) : Epoll :=
  match s.tasks n with
  | some task =>
    if task.phase = .dispatching then
      { s with
        armed := s.epollMod task.fd
        tasks := s.setTask n { task with phase := .idle } }
    else s
  | none => s

/-- The kernel reports events of descriptors that are armed, and disarms these. -/
def epollWait (ready : List (ℤ × UInt32)) (s : Epoll) : Epoll :=
  match s.batch with
  | some _ => s
  | none =>
    let events := (ready.filter fun (fd, events) =>
      s.armed fd = some true ∧ events &&& libcEpollAll ≠ 0).take maxEpollEvents
    { s with
      batch := some events
      armed := fun fd => if ∃ e ∈ events, e.1 = fd then some false else s.armed fd }

/-- `wake_by_ref` of a stored waker. -/
def wakeTask (waker : Option ℕ) (s : Epoll) : ℕ → Option Task := fun n =>
  if waker = some n then (s.tasks n).map fun task => { task with due := true } else s.tasks n

/-- A round of the loop of `wake`. -/
def wakeOne (s : Epoll) (e : ℤ × UInt32) : Epoll :=
  match s.handlers e.1 with
  | some handler =>
    { s with
      handlers := s.setHandler e.1 (some { handler with events := e.2 })
      tasks := s.wakeTask handler.waker }
  | none => s

def wake (s : Epoll) : Epoll :=
  match s.batch with
  | some events => { events.foldl wakeOne s with batch := none }
  | none => s

def next : Label → Epoll → Epoll
  | .spawn fd, s => s.spawn fd
  | .addEpollHandler n, s => s.addEpollHandler n
  | .drop n, s => s.drop n
  | .removeEpollHandler fd, s => s.removeEpollHandler fd
  | .poll n, s => s.poll n
  | .dispatchInner n, s => s.dispatchInner n
  | .epollReset n, s => s.epollReset n
  | .epollWait ready, s => s.epollWait ready
  | .wake, s => s.wake

/-- No call or poll is in progress, no task is due to be polled, and the driver is waiting. -/
structure Quiet (s : Epoll) : Prop where
  tasks : ∀ n task, s.tasks n = some task →
    task.call = .returned ∧ task.phase = .idle ∧ (task.due = false ∨ task.cancelled = true)
  driver : s.batch = none

/-- Every handler has no undelivered events, its descriptor is armed, and the waker of its own live
task is stored. -/
def Ready (s : Epoll) : Prop :=
  ∀ fd handler, s.handlers fd = some handler →
    handler.events = 0 ∧ s.armed fd = some true ∧ handler.waker = some handler.task ∧
      ∃ task, s.tasks handler.task = some task ∧ task.cancelled = false

/-- When a handler comes into the table, a poll of its task is still to come to it; and when a poll
comes to the handler of another task, a poll of that one is still to come. -/
def Heard (s : Epoll) (l : Label) : Prop :=
  match l with
  | .addEpollHandler n => ∀ task, s.tasks n = some task → task.call = .spawned →
    s.handlers task.fd = none → task.Coming
  | .dispatchInner n => ∀ task, s.tasks n = some task → task.phase = .started →
    ∀ handler, s.handlers task.fd = some handler → handler.task ≠ n →
      ∃ own, s.tasks handler.task = some own ∧ own.Coming
  | _ => True

/-! ### What a step keeps -/

/-- The task of a handler is alive, and comes to take events and to leave its waker. -/
def Served (s : Epoll) (fd : ℤ) (handler : EpollHandler) : Prop :=
  ∃ task, s.tasks handler.task = some task ∧ task.fd = fd ∧ task.cancelled = false ∧
    task.call = .returned ∧ (handler.waker = some handler.task ∨ task.Coming) ∧
    (handler.events ≠ 0 → task.Coming)

/-- A descriptor that is not armed has events on the way, or will be armed after a delivery. -/
def Awaited (s : Epoll) (fd : ℤ) (handler : EpollHandler) : Prop :=
  s.armed fd = some true ∨ s.armed fd = some false ∧
    (handler.events &&& libcEpollAll ≠ 0 ∨
      (∃ n task, s.tasks n = some task ∧ task.fd = fd ∧ task.phase = .dispatching) ∨
      ∃ e ∈ s.batch.getD [], e.1 = fd)

structure Good (s : Epoll) : Prop where
  fresh : ∀ n, s.spawned ≤ n → s.tasks n = none
  calls : ∀ n task, s.tasks n = some task → task.call = .spawned → task.cancelled = false
  handlers : ∀ fd handler, s.handlers fd = some handler →
    s.Served fd handler ∧ s.Awaited fd handler
  unarmed : ∀ fd, s.handlers fd = none → s.armed fd = none
  batch : ∀ e ∈ s.batch.getD [], e.2 &&& libcEpollAll ≠ 0

variable {s : Epoll} {n : ℕ} {fd : ℤ}

theorem good_start : Good {} := by
  constructor <;> simp

theorem Good.ready (h : s.Good) (quiet : s.Quiet) : s.Ready := by
  intro fd handler listed
  obtain ⟨⟨task, known, -, alive, -, waker, events⟩, awaited⟩ := h.handlers fd handler listed
  obtain ⟨-, idle, rest⟩ := quiet.tasks _ task known
  have still : ¬ task.Coming := by
    unfold Task.Coming
    grind
  have none : handler.events = 0 := by
    by_contra ne
    exact still (events ne)
  refine ⟨none, ?_, waker.resolve_right still, task, known, alive⟩
  refine awaited.resolve_right fun ⟨_, on_way⟩ => ?_
  obtain left | ⟨m, other, eq, -, phase⟩ | ⟨e, mem, -⟩ := on_way
  · exact left (by simp [none])
  · have rests := (quiet.tasks m other eq).2.1
    simp [phase] at rests
  · simp [quiet.driver] at mem

theorem setTask_self (n : ℕ) (task : Task) (s : Epoll) : s.setTask n task n = some task :=
  if_pos rfl

theorem setTask_of_ne {m n : ℕ} (ne : m ≠ n) (task : Task) (s : Epoll) :
    s.setTask n task m = s.tasks m :=
  if_neg ne

theorem Good.spawn (h : s.Good) (fd : ℤ) : (s.spawn fd).Good := by
  have new := h.fresh s.spawned (Nat.le_refl _)
  have kept {m : ℕ} {task : Task} (known : s.tasks m = some task) :
      s.setTask s.spawned { fd } m = some task := by
    rwa [setTask_of_ne]
    rintro rfl
    simp [new] at known
  refine ⟨fun m le => ?_, fun m task known => ?_, fun f handler listed => ?_, h.unarmed, h.batch⟩
  · exact (setTask_of_ne (Nat.ne_of_gt le) _ _).trans (h.fresh m (Nat.le_of_succ_le le))
  · by_cases same : m = s.spawned
    · subst same
      obtain rfl := Option.some.inj ((setTask_self s.spawned { fd } s).symm.trans known)
      exact fun _ => rfl
    · exact h.calls m task ((setTask_of_ne same _ _).symm.trans known)
  · obtain ⟨⟨task, known, rest⟩, awaited⟩ := h.handlers f handler listed
    refine ⟨⟨task, kept known, rest⟩, awaited.imp_right fun ⟨off, on_way⟩ => ⟨off, ?_⟩⟩
    exact on_way.imp_right (.imp_left fun ⟨m, other, eq, phase⟩ => ⟨m, other, kept eq, phase⟩)

theorem setHandler_self (fd : ℤ) (s : Epoll) : s.setHandler fd (s.handlers fd) = s.handlers := by
  funext f
  unfold setHandler
  grind

theorem setArmed_self (fd : ℤ) (s : Epoll) : s.setArmed fd (s.armed fd) = s.armed := by
  funext f
  unfold setArmed
  grind

/-- A step that concerns one task and its descriptor. -/
theorem Good.change (h : s.Good) {task : Task} (known : s.tasks n = some task) {t : Epoll}
    (other : Task) (handler : Option EpollHandler) (armed : Option Bool)
    (eq : t = { s with
      handlers := s.setHandler task.fd handler
      armed := s.setArmed task.fd armed
      tasks := s.setTask n other })
    (calls : other.call = .spawned → other.cancelled = false)
    (here : ∀ new ∈ handler, t.Served task.fd new ∧ t.Awaited task.fd new)
    (gone : handler = none → armed = none) : t.Good := by
  subst eq
  refine ⟨fun m le => ?_, fun m t eq => ?_, fun f new listed => ?_, fun f free => ?_, h.batch⟩
  · have none := h.fresh m le
    exact (setTask_of_ne (by rintro rfl; simp [none] at known) _ _).trans none
  · by_cases same : m = n
    · subst same
      obtain rfl := Option.some.inj ((setTask_self m other s).symm.trans eq)
      exact calls
    · exact h.calls m t ((setTask_of_ne same _ _).symm.trans eq)
  · by_cases same : f = task.fd
    · subst same
      exact here new ((if_pos rfl).symm.trans listed)
    · -- tasks with another descriptor are other tasks
      have kept {m : ℕ} {t : Task} (eq : s.tasks m = some t) (tfd : t.fd = f) :
          s.setTask n other m = some t := by
        rwa [setTask_of_ne]
        rintro rfl
        obtain rfl := Option.some.inj (known.symm.trans eq)
        exact same tfd.symm
      obtain ⟨⟨t, eq, tfd, served⟩, awaited⟩ :=
        h.handlers f new ((if_neg same).symm.trans listed)
      have still : s.setArmed task.fd armed f = s.armed f := if_neg same
      refine ⟨⟨t, kept eq tfd, tfd, served⟩, ?_⟩
      simp only [Awaited, still] at awaited ⊢
      refine awaited.imp_right fun ⟨off, on_way⟩ => ⟨off, on_way.imp_right (.imp_left ?_)⟩
      exact fun ⟨m, t, eq, tfd, delivers⟩ => ⟨m, t, kept eq tfd, tfd, delivers⟩
  · by_cases same : f = task.fd
    · subst same
      exact (if_pos rfl).trans (gone ((if_pos rfl).symm.trans free))
    · exact (if_neg same).trans (h.unarmed f ((if_neg same).symm.trans free))

/-- A task may change as long as it still comes to its handler and ends its delivery. -/
theorem Good.setTask (h : s.Good) {task : Task} (known : s.tasks n = some task) (other : Task)
    (fd : other.fd = task.fd) (phase : task.phase = .dispatching → other.phase = .dispatching)
    (calls : other.call = .spawned → other.cancelled = false)
    (own : ∀ handler, s.handlers task.fd = some handler → handler.task = n →
      other.cancelled = false ∧ other.call = .returned ∧ (task.Coming → other.Coming)) :
    Good { s with tasks := s.setTask n other } := by
  refine h.change known other (s.handlers task.fd) (s.armed task.fd)
    (by rw [setHandler_self, setArmed_self]) calls (fun handler listed => ?_) (h.unarmed task.fd)
  obtain ⟨⟨t, eq, tfd, alive, returned, waker, events⟩, awaited⟩ :=
    h.handlers task.fd handler listed
  constructor
  · by_cases same : handler.task = n
    · obtain rfl : task = t := Option.some.inj (known.symm.trans (same ▸ eq))
      obtain ⟨alive, returned, comes⟩ := own handler listed same
      exact ⟨other, same ▸ setTask_self n other s, fd, alive, returned, waker.imp_right comes,
        fun ne => comes (events ne)⟩
    · exact ⟨t, (setTask_of_ne same _ _).trans eq, tfd, alive, returned, waker, events⟩
  · refine awaited.imp_right fun ⟨off, on_way⟩ => ⟨off, on_way.imp_right (.imp_left ?_)⟩
    rintro ⟨m, t, eq, tfd, delivers⟩
    by_cases same : m = n
    · subst same
      obtain rfl : task = t := Option.some.inj (known.symm.trans eq)
      exact ⟨m, other, setTask_self m other s, fd, phase delivers⟩
    · exact ⟨m, t, (setTask_of_ne same _ _).trans eq, tfd, delivers⟩

theorem Good.call_of_own (h : s.Good) {task : Task} (known : s.tasks n = some task)
    {handler : EpollHandler} (listed : s.handlers fd = some handler) (own : handler.task = n) :
    task.fd = fd ∧ task.call = .returned ∧ task.cancelled = false := by
  obtain ⟨⟨t, eq, same, alive, returned, -⟩, -⟩ := h.handlers fd handler listed
  obtain rfl : task = t := Option.some.inj (known.symm.trans (own ▸ eq))
  exact ⟨same, returned, alive⟩

theorem Good.drop (h : s.Good) (n : ℕ) : (s.drop n).Good := by
  unfold Epoll.drop
  split
  next task known =>
    split
    next refused =>
      refine h.setTask known _ rfl id nofun fun handler listed own => ?_
      simp [(h.call_of_own known listed own).2.1] at refused
    next => exact h
  next => exact h

theorem Good.poll (h : s.Good) (n : ℕ) : (s.poll n).Good := by
  unfold Epoll.poll
  split
  next task known =>
    split
    next starts =>
      obtain ⟨-, -, idle⟩ := starts
      refine h.setTask known _ rfl (fun phase => by simp [idle] at phase) (h.calls n task known) ?_
      intro handler listed own
      obtain ⟨-, returned, alive⟩ := h.call_of_own known listed own
      exact ⟨alive, returned, fun _ => .inr rfl⟩
    next => exact h
  next => exact h

theorem Good.addEpollHandler (h : s.Good) (ok : s.Heard (.addEpollHandler n)) :
    (s.addEpollHandler n).Good := by
  unfold Epoll.addEpollHandler
  split
  next task known =>
    split
    next => exact h
    next called =>
      have spawned : task.call = .spawned := not_not.mp called
      split
      next taken listed =>
        refine h.setTask known _ rfl id nofun fun handler other own => ?_
        simp [(h.call_of_own known other own).2.1] at spawned
      next free =>
        have off : s.armed task.fd = none := h.unarmed task.fd free
        have added : s.epollAdd task.fd = s.setArmed task.fd (some true) := by
          simp only [epollAdd, off]
        rw [added]
        refine h.change known { task with call := .returned } (some { task := n }) (some true)
          rfl nofun (fun new listed => ?_) nofun
        obtain rfl := Option.some.inj listed
        exact ⟨⟨_, setTask_self n _ s, rfl, h.calls n task known spawned, rfl,
          .inr (ok task known spawned free), nofun⟩, .inl (if_pos rfl)⟩
  next => exact h

theorem Good.removeEpollHandler (h : s.Good) (fd : ℤ) : (s.removeEpollHandler fd).Good := by
  unfold Epoll.removeEpollHandler
  split
  next handler listed =>
    obtain ⟨⟨task, known, rfl, -, returned, -⟩, -⟩ := h.handlers fd handler listed
    have cancel : (fun m => if m = handler.task then
        (s.tasks m).map fun task => { task with cancelled := true } else s.tasks m) =
        s.setTask handler.task { task with cancelled := true } := by
      funext m
      unfold Epoll.setTask
      grind
    rw [cancel]
    exact h.change known { task with cancelled := true } none none rfl
      (fun spawned => by simp [returned] at spawned) nofun fun _ => rfl
  next free =>
    rw [← h.unarmed fd free, setArmed_self]
    exact h

theorem Good.dispatchInner (h : s.Good) (ok : s.Heard (.dispatchInner n)) :
    (s.dispatchInner n).Good := by
  unfold Epoll.dispatchInner
  split
  next task known =>
    split
    next => exact h
    next phase =>
      have started : task.phase = .started := not_not.mp phase
      split
      next handler listed =>
        refine h.change known
          { task with
            phase := if handler.events &&& libcEpollAll ≠ 0 then .dispatching else .idle }
          (some { handler with waker := some n, events := 0 }) (s.armed task.fd)
          (by rw [setArmed_self]) (h.calls n task known) (fun new now => ?_) nofun
        obtain rfl := Option.some.inj now
        obtain ⟨⟨t, eq, tfd, alive, returned, -⟩, awaited⟩ := h.handlers task.fd handler listed
        constructor
        · by_cases same : handler.task = n
          · obtain rfl : task = t := Option.some.inj (known.symm.trans (same ▸ eq))
            exact ⟨_, if_pos same, rfl, alive, returned, .inl (congrArg some same.symm), nofun⟩
          · obtain ⟨own, known, comes⟩ := ok task known started handler listed same
            obtain rfl : own = t := Option.some.inj (known.symm.trans eq)
            exact ⟨own, (setTask_of_ne same _ _).trans eq, tfd, alive, returned, .inr comes, nofun⟩
        · refine awaited.imp_right fun ⟨off, on_way⟩ => ⟨off, .inr ?_⟩
          obtain left | ⟨m, t, eq, tfd, delivers⟩ | waits := on_way
          · exact .inl ⟨n, _, setTask_self n _ s, rfl, if_pos left⟩
          · refine .inl ⟨m, t, (setTask_of_ne ?_ _ _).trans eq, tfd, delivers⟩
            rintro rfl
            obtain rfl := Option.some.inj (known.symm.trans eq)
            simp [started] at delivers
          · exact .inr waits
      next free =>
        refine h.setTask known _ rfl (fun phase => by simp [started] at phase)
          (h.calls n task known) ?_
        intro handler listed
        simp [free] at listed
  next => exact h

theorem Good.epollReset (h : s.Good) (n : ℕ) : (s.epollReset n).Good := by
  unfold Epoll.epollReset
  split
  next task known =>
    split
    next delivers =>
      have reset : s.epollMod task.fd =
          s.setArmed task.fd ((s.armed task.fd).map fun _ => true) := by
        unfold epollMod
        split
        next eq => rw [eq]; rfl
        next eq => rw [eq, Option.map_none, ← eq, setArmed_self]
      rw [reset]
      refine h.change known { task with phase := .idle } (s.handlers task.fd)
        ((s.armed task.fd).map fun _ => true) (by rw [setHandler_self]) (h.calls n task known)
        (fun handler listed => ?_) fun free => by rw [h.unarmed task.fd free]; rfl
      obtain ⟨⟨t, eq, tfd, alive, returned, waker, events⟩, awaited⟩ :=
        h.handlers task.fd handler listed
      constructor
      · by_cases same : handler.task = n
        · obtain rfl : task = t := Option.some.inj (known.symm.trans (same ▸ eq))
          have comes : task.Coming → Task.Coming { task with phase := .idle } := by
            unfold Task.Coming
            grind
          exact ⟨_, if_pos same, rfl, alive, returned, waker.imp_right comes,
            fun ne => comes (events ne)⟩
        · exact ⟨t, (setTask_of_ne same _ _).trans eq, tfd, alive, returned, waker, events⟩
      · left
        have present : s.armed task.fd = some true ∨ s.armed task.fd = some false :=
          awaited.imp_right And.left
        have armed : s.setArmed task.fd ((s.armed task.fd).map fun _ => true) task.fd =
            (s.armed task.fd).map fun _ => true := if_pos rfl
        obtain on | off := present
        · simpa [on] using armed
        · simpa [off] using armed
    next => exact h
  next => exact h

theorem Good.epollWait (h : s.Good) (ready : List (ℤ × UInt32)) : (s.epollWait ready).Good := by
  unfold Epoll.epollWait
  split
  next => exact h
  next waiting =>
    refine ⟨h.fresh, h.calls, fun fd handler listed => ?_, fun fd free => ?_, fun e mem => ?_⟩
    · obtain ⟨served, awaited⟩ := h.handlers fd handler listed
      refine ⟨served, ?_⟩
      by_cases reported : ∃ e ∈ (ready.filter fun (fd, events) =>
          s.armed fd = some true ∧ events &&& libcEpollAll ≠ 0).take maxEpollEvents, e.1 = fd
      · exact .inr ⟨if_pos reported, .inr (.inr reported)⟩
      · refine awaited.imp (if_neg reported).trans fun ⟨off, on_way⟩ =>
          ⟨(if_neg reported).trans off, ?_⟩
        exact on_way.imp_right (.imp_right fun waits => by simp [waiting] at waits)
    · have off := h.unarmed fd free
      refine (if_neg ?_).trans off
      rintro ⟨e, mem, rfl⟩
      simpa [off] using (List.mem_filter.mp (List.mem_of_mem_take mem)).2
    · simpa using (of_decide_eq_true (List.mem_filter.mp (List.mem_of_mem_take mem)).2).2

/-- What is on the way to a descriptor does not depend on an event of another one. -/
theorem Awaited.of_cons {e : ℤ × UInt32} {rest : List (ℤ × UInt32)} {handler : EpollHandler}
    (h : Awaited { s with batch := some (e :: rest) } fd handler) (other : fd ≠ e.1) :
    Awaited { s with batch := some rest } fd handler := by
  refine h.imp_right fun ⟨off, on_way⟩ => ⟨off, on_way.imp_right (.imp_right ?_)⟩
  rintro ⟨waits, mem, rfl⟩
  obtain rfl | later := List.mem_cons.mp mem
  · exact absurd rfl other
  · exact ⟨waits, later, rfl⟩

/-- A task that may be woken stays as it is, and comes if it is woken. -/
theorem wakeTask_of_known {task : Task} (waker : Option ℕ) (known : s.tasks n = some task) :
    ∃ other, s.wakeTask waker n = some other ∧ other.fd = task.fd ∧
      other.cancelled = task.cancelled ∧ other.call = task.call ∧ other.phase = task.phase ∧
      (task.Coming → other.Coming) ∧ (waker = some n → other.Coming) := by
  unfold wakeTask
  rw [known]
  by_cases wakes : waker = some n
  · exact ⟨_, if_pos wakes, rfl, rfl, rfl, rfl, fun _ => .inl rfl, fun _ => .inl rfl⟩
  · exact ⟨task, if_neg wakes, rfl, rfl, rfl, rfl, id, fun same => absurd same wakes⟩

theorem wakeTask_of_none (waker : Option ℕ) (none : s.tasks n = none) :
    s.wakeTask waker n = Option.none := by
  simp [wakeTask, none]

theorem Served.wakeTask {handler : EpollHandler} (h : s.Served fd handler) (waker : Option ℕ) :
    Served { s with tasks := s.wakeTask waker } fd handler := by
  obtain ⟨task, known, same, alive, returned, left, events⟩ := h
  obtain ⟨other, woken, tfd, cancelled, call, -, comes, -⟩ := wakeTask_of_known waker known
  exact ⟨other, woken, tfd.trans same, cancelled.trans alive, call.trans returned,
    left.imp_right comes, fun ne => comes (events ne)⟩

/-- The task of a handler comes for the events that it is woken for. -/
theorem Served.wakeTask_self {handler : EpollHandler} (h : s.Served fd handler)
    (events : UInt32) : Served { s with tasks := s.wakeTask handler.waker } fd
      { handler with events := events } := by
  obtain ⟨task, known, same, alive, returned, left, -⟩ := h
  obtain ⟨other, woken, tfd, cancelled, call, -, comes, wakes⟩ :=
    wakeTask_of_known handler.waker known
  have coming : other.Coming := left.elim wakes comes
  exact ⟨other, woken, tfd.trans same, cancelled.trans alive, call.trans returned, .inr coming,
    fun _ => coming⟩

theorem Awaited.wakeTask {handler : EpollHandler} (h : s.Awaited fd handler)
    (waker : Option ℕ) : Awaited { s with tasks := s.wakeTask waker } fd handler := by
  refine h.imp_right fun ⟨off, on_way⟩ => ⟨off, on_way.imp_right (.imp_left ?_)⟩
  rintro ⟨m, task, known, rfl, phase⟩
  obtain ⟨other, woken, same, -, -, still, -⟩ := wakeTask_of_known waker known
  exact ⟨m, other, woken, same, still.trans phase⟩

/-- A round of `wake`, while the rest of the batch is still to come. -/
theorem Good.wakeOne {e : ℤ × UInt32} {rest : List (ℤ × UInt32)}
    (h : Good { s with batch := some (e :: rest) }) :
    Good { s.wakeOne e with batch := some rest } := by
  have later : ∀ e' ∈ rest, e'.2 &&& libcEpollAll ≠ 0 := fun e' mem =>
    h.batch e' (List.mem_cons_of_mem e mem)
  unfold Epoll.wakeOne
  split
  next handler listed =>
    refine ⟨fun m le => ?_, fun m task known => ?_, fun fd new known => ?_, fun fd free => ?_,
      later⟩
    · exact wakeTask_of_none _ (h.fresh m le)
    · cases before : s.tasks m with
      | none => simp [wakeTask_of_none _ before] at known
      | some old =>
        obtain ⟨other, eq, -, alive, call, -⟩ := wakeTask_of_known handler.waker before
        obtain rfl : other = task := Option.some.inj (eq.symm.trans known)
        rw [alive, call]
        exact h.calls m old before
    · by_cases here : fd = e.1
      · subst here
        obtain rfl := Option.some.inj ((if_pos rfl).symm.trans known)
        obtain ⟨served, awaited⟩ := h.handlers e.1 handler listed
        have masked := h.batch e List.mem_cons_self
        exact ⟨served.wakeTask_self e.2, awaited.imp_right fun ⟨off, _⟩ => ⟨off, .inl masked⟩⟩
      · obtain ⟨served, awaited⟩ := h.handlers fd new ((if_neg here).symm.trans known)
        exact ⟨served.wakeTask handler.waker, (awaited.of_cons here).wakeTask handler.waker⟩
    · refine h.unarmed fd ?_
      simp only [Epoll.setHandler] at free
      grind
  next free =>
    refine ⟨h.fresh, h.calls, fun fd handler listed => ?_, h.unarmed, later⟩
    obtain ⟨served, awaited⟩ := h.handlers fd handler listed
    refine ⟨served, awaited.of_cons ?_⟩
    rintro rfl
    simp [free] at listed

theorem Good.wakeAll {events : List (ℤ × UInt32)} (h : Good { s with batch := some events }) :
    Good { events.foldl Epoll.wakeOne s with batch := some [] } := by
  induction events generalizing s with
  | nil => exact h
  | cons e rest ih => exact ih h.wakeOne

theorem Good.wake (h : s.Good) : s.wake.Good := by
  unfold Epoll.wake
  split
  next events waits =>
    have all : Good { events.foldl Epoll.wakeOne s with batch := some [] } :=
      Good.wakeAll (by rwa [← waits])
    exact ⟨all.fresh, all.calls, all.handlers, all.unarmed, all.batch⟩
  next => exact h

theorem Good.next (l : Label) (s : Epoll) (h : s.Good) (ok : s.Heard l) : (next l s).Good := by
  cases l with
  | spawn fd => exact h.spawn fd
  | addEpollHandler n => exact h.addEpollHandler ok
  | drop n => exact h.drop n
  | removeEpollHandler fd => exact h.removeEpollHandler fd
  | poll n => exact h.poll n
  | dispatchInner n => exact h.dispatchInner ok
  | epollReset n => exact h.epollReset n
  | epollWait ready => exact h.epollWait ready
  | wake => exact h.wake

/-- A task is polled after its handler is in the table, and delivers an event. -/
def delivery : List Label :=
  [.spawn 5, .addEpollHandler 0, .poll 0, .dispatchInner 0, .epollWait [(5, 1)], .wake, .poll 0,
    .dispatchInner 0, .epollReset 0]

/-- A task is polled before its handler is in the table. -/
def early : List Label := [.spawn 5, .poll 0, .dispatchInner 0, .addEpollHandler 0]

/-- A second handler of a descriptor is refused, and its task is polled before it is dropped. -/
def duplicate : List Label :=
  [.spawn 5, .addEpollHandler 0, .poll 0, .dispatchInner 0, .spawn 5, .poll 1, .dispatchInner 1,
    .addEpollHandler 1, .drop 1]

end Epoll

end DeviceStatus.Scheduler
