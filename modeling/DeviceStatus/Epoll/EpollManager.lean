import DeviceStatus.Library.Transition
import Mathlib.Data.Int.Notation
import Mathlib.Logic.Function.Basic

/-!
# Event sources of the epoll manager

The manager keeps a table of sources by descriptor and registers each of them with the kernel. A
batch of ready events is fetched at once and delivered one by one, to the objects that were
registered when the batch was fetched, while the handlers change the table.

## Main definitions

* `EpollManager`, `EpollManager.next` — the table, the registrations of the kernel and the batch
  that is being delivered.
* `EpollManager.Reaches` — an event is delivered to the source in the table, and the kernel knows
  the sources in the table.
* `EpollManager.Kept` — a source that is to be dispatched is still the one last registered.
-/

namespace DeviceStatus.Epoll

open Transition.System

/-- A source object, with its descriptor. -/
structure Source where
  id : ℕ
  fd : ℤ
  deriving DecidableEq

structure EpollManager where
  sources : ℤ → Option Source := fun _ => none
  /-- the object that is registered with the kernel for a descriptor -/
  kernel : ℤ → Option Source := fun _ => none
  /-- the events that are fetched and not delivered yet, with `EPOLLIN` or without -/
  batch : List (Source × Bool) := []
  /-- what has been done with a descriptor since the batch was fetched -/
  since : ℤ → Option (Option Source) := fun _ => none

namespace EpollManager

def maxNEvents : ℕ := 64

inductive Label where
  /-- `refused` tells that the kernel refuses for a reason of its own -/
  | add (source : Source) (refused : Bool)
  | remove (source : Source) (refused : Bool)
  | update (source : Source) (refused : Bool)
  /-- the kernel reports ready descriptors, with `EPOLLIN` or without -/
  | dispatch (ready : List (ℤ × Bool))
  /-- the next event of the batch is delivered -/
  | dispatchOne

/-- `EPOLL_CTL_ADD`; a descriptor is registered once. -/
def epollCtlAdd (source : Source) (refused : Bool) (kernel : ℤ → Option Source) :
    Option (ℤ → Option Source) :=
  if refused ∨ kernel source.fd ≠ none then none
  else some (Function.update kernel source.fd (some source))

/-- `EPOLL_CTL_MOD`. -/
def epollCtlMod (source : Source) (refused : Bool) (kernel : ℤ → Option Source) :
    Option (ℤ → Option Source) :=
  if refused ∨ kernel source.fd = none then none
  else some (Function.update kernel source.fd (some source))

/-- `EPOLL_CTL_DEL`. -/
def epollCtlDel (fd : ℤ) (refused : Bool) (kernel : ℤ → Option Source) :
    Option (ℤ → Option Source) :=
  if refused ∨ kernel fd = none then none else some (Function.update kernel fd none)

def add (source : Source) (refused : Bool) (s : EpollManager) : Bool × EpollManager :=
  match s.sources source.fd with
  | some _ => (true, s)
  | none =>
    match epollCtlAdd source refused s.kernel with
    | none => (false, s)
    | some kernel =>
      (true,
        { s with
          sources := Function.update s.sources source.fd (some source)
          kernel
          since := Function.update s.since source.fd (some (some source)) })

/-- The source is taken out of the table whatever the kernel answers. -/
def remove (source : Source) (refused : Bool) (s : EpollManager) : EpollManager :=
  match s.sources source.fd with
  | none => s
  | some _ =>
    { s with
      sources := Function.update s.sources source.fd none
      kernel := (epollCtlDel source.fd refused s.kernel).getD s.kernel
      since := Function.update s.since source.fd (some none) }

def update (source : Source) (refused : Bool) (s : EpollManager) : Bool × EpollManager :=
  match s.sources source.fd with
  | none => (false, s)
  | some _ =>
    match epollCtlMod source refused s.kernel with
    | none => (false, s)
    | some kernel =>
      (true,
        { s with
          sources := Function.update s.sources source.fd (some source)
          kernel
          since := Function.update s.since source.fd (some (some source)) })

/-- `WaitTimeout`, for each ready descriptor with the object that is registered for it. -/
def dispatch (ready : List (ℤ × Bool)) (s : EpollManager) : EpollManager :=
  match s.batch with
  | [] =>
    { s with
      batch := (ready.filterMap fun (fd, input) =>
        (s.kernel fd).map fun source => (source, input)).take maxNEvents
      since := fun _ => none }
  | _ => s

/-- A round of the loop of `DispatchOne`. -/
def dispatchOne (s : EpollManager) : EpollManager :=
  { s with batch := s.batch.tail }

/-- The source whose `Dispatch` is called in a step. -/
def called (s : EpollManager) (l : Label) : Option Source :=
  match l, s.batch with
  | .dispatchOne, (source, true) :: _ => some source
  | _, _ => none

def next : Label → EpollManager → EpollManager
  | .add source refused, s => (s.add source refused).2
  | .remove source refused, s => s.remove source refused
  | .update source refused, s => (s.update source refused).2
  | .dispatch ready, s => s.dispatch ready
  | .dispatchOne, s => s.dispatchOne

/-- The source that is called is the one in the table, and the kernel knows the sources in the
table. -/
structure Reaches (s : EpollManager) (l : Label) : Prop where
  called : ∀ source ∈ s.called l, s.sources source.fd = some source
  kernel : (next l s).kernel = (next l s).sources

/-- The kernel takes back what is removed; and nothing has been done since the batch was fetched
with the descriptor of the source that is called, or that source was the last one to be added or
updated. -/
def Kept (s : EpollManager) (l : Label) : Prop :=
  match l with
  | .remove source refused => s.sources source.fd ≠ none → refused = false
  | .dispatchOne => ∀ source ∈ s.called .dispatchOne,
    s.since source.fd = none ∨ s.since source.fd = some (some source)
  | _ => True

/-! ### What a step keeps -/

structure Good (s : EpollManager) : Prop where
  kernel : s.kernel = s.sources
  fds : ∀ fd source, s.sources fd = some source → source.fd = fd
  since : ∀ fd registered, s.since fd = some registered → s.sources fd = registered
  batch : ∀ event ∈ s.batch, s.since event.1.fd = none → s.sources event.1.fd = some event.1

variable {s : EpollManager} {source : Source} {refused : Bool}

/-- A change of one descriptor in the table and with the kernel alike. -/
theorem Good.change (h : s.Good) {fd : ℤ} {registered : Option Source}
    (own : ∀ source ∈ registered, source.fd = fd) :
    Good { s with
      sources := Function.update s.sources fd registered
      kernel := Function.update s.kernel fd registered
      since := Function.update s.since fd (some registered) } := by
  constructor
  · exact congrArg (Function.update · fd registered) h.kernel
  · intro other source value
    by_cases same : other = fd
    · subst same
      exact own source (by simpa using value)
    · exact h.fds other source (by simpa [same] using value)
  · intro other value
    by_cases same : other = fd
    · subst same
      simp
    · simpa [same] using h.since other value
  · intro event mem
    by_cases same : event.1.fd = fd
    · simp [same]
    · simpa [same] using h.batch event mem

theorem Good.add (h : s.Good) : (s.add source refused).2.Good := by
  unfold EpollManager.add epollCtlAdd
  split
  next => exact h
  next =>
    split
    next => exact h
    next kernel ctl =>
      obtain ⟨-, ⟨⟩⟩ := Option.ite_none_left_eq_some.mp ctl
      exact h.change (by simp)

theorem Good.update (h : s.Good) : (s.update source refused).2.Good := by
  unfold EpollManager.update epollCtlMod
  split
  next => exact h
  next =>
    split
    next => exact h
    next kernel ctl =>
      obtain ⟨-, ⟨⟩⟩ := Option.ite_none_left_eq_some.mp ctl
      exact h.change (by simp)

/-- What a removal leaves with the kernel. -/
theorem Good.remove_eq (h : s.Good) (found : s.sources source.fd ≠ none) :
    s.remove source refused =
      { s with
        sources := Function.update s.sources source.fd none
        kernel := if refused then s.kernel else Function.update s.kernel source.fd none
        since := Function.update s.since source.fd (some none) } := by
  obtain ⟨other, eq⟩ := Option.ne_none_iff_exists'.mp found
  have known : s.kernel source.fd ≠ none := h.kernel ▸ found
  cases refused <;> simp [EpollManager.remove, eq, epollCtlDel, known]

theorem remove_of_none (none : s.sources source.fd = none) : s.remove source refused = s := by
  simp [remove, none]

theorem Good.remove (h : s.Good) (ok : s.Kept (.remove source refused)) :
    (s.remove source refused).Good := by
  by_cases found : s.sources source.fd = none
  · rw [remove_of_none found]
    exact h
  · rw [h.remove_eq found, ok found]
    exact h.change nofun

theorem Good.dispatch (h : s.Good) (ready : List (ℤ × Bool)) : (s.dispatch ready).Good := by
  unfold EpollManager.dispatch
  split
  next =>
    refine ⟨h.kernel, h.fds, nofun, fun event mem _ => ?_⟩
    obtain ⟨⟨fd, input⟩, -, reported⟩ := List.mem_filterMap.mp (List.mem_of_mem_take mem)
    obtain ⟨source, eq, rfl⟩ := Option.map_eq_some_iff.mp reported
    rw [h.kernel] at eq
    obtain rfl := h.fds fd source eq
    exact eq
  next => exact h

theorem Good.dispatchOne (h : s.Good) : s.dispatchOne.Good :=
  ⟨h.kernel, h.fds, h.since, fun event mem => h.batch event (List.mem_of_mem_tail mem)⟩

theorem Good.next (l : Label) (s : EpollManager) (h : s.Good) (ok : s.Kept l) :
    (next l s).Good := by
  cases l with
  | add source refused => exact h.add
  | remove source refused => exact h.remove ok
  | update source refused => exact h.update
  | dispatch ready => exact h.dispatch ready
  | dispatchOne => exact h.dispatchOne

/-- The source of the next event is in the table exactly if the descriptor was left alone or given
back to it. -/
theorem Good.called_iff (h : s.Good) (called : source ∈ s.called .dispatchOne) :
    s.sources source.fd = some source ↔
      s.since source.fd = none ∨ s.since source.fd = some (some source) := by
  have mem : (source, true) ∈ s.batch := by
    unfold EpollManager.called at called
    split at called
    next eq =>
      obtain rfl := Option.some.inj called
      simp [eq]
    next => exact absurd called nofun
  cases since : s.since source.fd with
  | none => exact iff_of_true (h.batch _ mem since) (.inl rfl)
  | some registered => simp [h.since _ _ since]

/-- A kernel that refuses to take a source back keeps it while the table does not. -/
theorem Good.kernel_remove_iff (h : s.Good) (found : s.sources source.fd ≠ none) :
    (s.remove source refused).kernel = (s.remove source refused).sources ↔ refused = false := by
  rw [h.remove_eq found]
  cases refused with
  | false => simp [h.kernel]
  | true =>
    refine iff_of_false (fun eq => ?_) nofun
    have at_fd := congrFun eq source.fd
    exact found (by simpa [h.kernel] using at_fd)

theorem Good.reaches_iff (l : Label) (s : EpollManager) (h : s.Good) : s.Reaches l ↔ s.Kept l := by
  constructor
  · intro reaches
    cases l with
    | remove source refused => exact fun found => (h.kernel_remove_iff found).mp reaches.kernel
    | dispatchOne =>
      exact fun source called => (h.called_iff called).mp (reaches.called source called)
    | add source refused => trivial
    | update source refused => trivial
    | dispatch ready => trivial
  · intro ok
    refine ⟨fun source called => ?_, (h.next l s ok).kernel⟩
    cases l with
    | dispatchOne => exact (h.called_iff called).mpr (ok source called)
    | _ => exact absurd called nofun

/-- Every event of a run reaches the source in the table, and the kernel knows the table, exactly
if the kernel takes back what is removed and no source is called after its descriptor was taken
from it. -/
theorem reaches_iff_kept (tr : List Label) :
    EachStep next (fun l s => s.Reaches l) {} tr ↔ EachStep next (fun l s => s.Kept l) {} tr :=
  EachStep.iff_of_invariant Good.next Good.reaches_iff ⟨rfl, nofun, nofun, nofun⟩

/-- Two sources are ready, and the handler of the first one removes the second one. -/
theorem removed_source_called : ¬ EachStep next (fun l s => s.Reaches l) {}
    [.add ⟨1, 3⟩ false, .add ⟨2, 4⟩ false, .dispatch [(3, true), (4, true)], .dispatchOne,
      .remove ⟨2, 4⟩ false, .dispatchOne] := by
  intro run
  have called := run.tail.tail.tail.tail.tail.head.called ⟨2, 4⟩ (by decide)
  exact absurd called (by decide)

end EpollManager

end DeviceStatus.Epoll
