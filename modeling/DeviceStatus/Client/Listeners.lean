import DeviceStatus.Library.Transition
import Mathlib.Data.Finset.Sort

/-!
# The listeners of a client

An application registers its process with the service for the first of its listeners, and takes
the registration back with the last. The service forgets its registrations when the connection is
lost; `CooperateClient` and `DragClient` save their listeners then and register them anew when the
connection is back, except for the listeners to subscripts.

## Main definitions

* `CooperateClient`, `DragClient` — the listeners, and the registrations at the service.
* `Clients`, `Clients.next` — both clients and the connection, one call.
* `Clients.Reconnected` — what an application expects of a call.
-/

namespace DeviceStatus.Client

open Transition.System

structure CooperateClient where
  devCooperateListener : List ℕ := []
  connectedCooperateListeners : List ℕ := []
  isListeningProcess : Bool := false
  /-- whether the service knows of the process -/
  atService : Bool := false

namespace CooperateClient

/-- `RegisterListener`, and whether it returns `RET_OK`. The service is reached exactly while there
is a connection. -/
def registerListener (connected : Bool) (listener : ℕ) (c : CooperateClient) :
    Bool × CooperateClient :=
  if listener ∈ c.devCooperateListener then (false, c)
  else if c.isListeningProcess then
    (true, { c with devCooperateListener := c.devCooperateListener ++ [listener] })
  else if connected then
    (true,
      { c with
        atService := true, isListeningProcess := true
        devCooperateListener := c.devCooperateListener ++ [listener] })
  else (false, c)

/-- `UnregisterListener`, of all listeners without a pointer. -/
def unregisterListener (listener : Option ℕ) (c : CooperateClient) : CooperateClient :=
  let c :=
    { c with
      devCooperateListener :=
        match listener with
        | none => []
        | some listener => c.devCooperateListener.erase listener }
  if c.isListeningProcess ∧ c.devCooperateListener = [] then
    { c with isListeningProcess := false, atService := false }
  else c

def onConnected (c : CooperateClient) : CooperateClient :=
  c.connectedCooperateListeners.foldl (fun c listener => (c.registerListener true listener).2) c

def onDisconnected (c : CooperateClient) : CooperateClient :=
  let c := { c with atService := false }
  if c.isListeningProcess then
    if c.devCooperateListener = [] then c
    else
      { c with
        connectedCooperateListeners := c.devCooperateListener
        devCooperateListener := [], isListeningProcess := false }
  else c

end CooperateClient

/-- A set of listeners and the registration for it. -/
structure ListenerSet where
  listeners : Finset ℕ := ∅
  hasRegistered : Bool := false
  /-- whether the service knows of the process -/
  atService : Bool := false
  deriving DecidableEq

namespace ListenerSet

def add (connected : Bool) (listener : ℕ) (s : ListenerSet) : Bool × ListenerSet :=
  if listener ∈ s.listeners then (true, s)
  else if s.hasRegistered then (true, { s with listeners := insert listener s.listeners })
  else if connected then
    (true,
      { listeners := insert listener s.listeners, hasRegistered := true, atService := true })
  else (false, s)

def remove (listener : Option ℕ) (s : ListenerSet) : ListenerSet :=
  let s :=
    { s with
      listeners :=
        match listener with
        | none => ∅
        | some listener => s.listeners.erase listener }
  if s.hasRegistered ∧ s.listeners = ∅ then
    { s with hasRegistered := false, atService := false }
  else s

end ListenerSet

structure DragClient where
  dragListeners : ListenerSet := {}
  connectedDragListeners : Finset ℕ := ∅
  subscriptListeners : ListenerSet := {}

namespace DragClient

def addDraglistener (connected : Bool) (listener : ℕ) (c : DragClient) : Bool × DragClient :=
  let (ok, dragListeners) := c.dragListeners.add connected listener
  (ok, { c with dragListeners })

def removeDraglistener (listener : Option ℕ) (c : DragClient) : DragClient :=
  { c with dragListeners := c.dragListeners.remove listener }

def addSubscriptListener (connected : Bool) (listener : ℕ) (c : DragClient) :
    Bool × DragClient :=
  let (ok, subscriptListeners) := c.subscriptListeners.add connected listener
  (ok, { c with subscriptListeners })

def removeSubscriptListener (listener : Option ℕ) (c : DragClient) : DragClient :=
  { c with subscriptListeners := c.subscriptListeners.remove listener }

def onConnected (c : DragClient) : DragClient :=
  if c.connectedDragListeners = ∅ then c
  else
    { c.connectedDragListeners.sort.foldl (fun c listener => (c.addDraglistener true listener).2)
        c with
      connectedDragListeners := ∅ }

/-- The service forgets the process for both sets, the client for one. -/
def onDisconnected (c : DragClient) : DragClient :=
  let c :=
    { c with
      dragListeners := { c.dragListeners with atService := false }
      subscriptListeners := { c.subscriptListeners with atService := false } }
  if c.dragListeners.listeners = ∅ then c
  else
    { c with
      connectedDragListeners := c.dragListeners.listeners
      dragListeners := { c.dragListeners with listeners := ∅, hasRegistered := false } }

end DragClient

/-- The clients of a process, and the listeners of each kind whose registration was accepted and
that have not been unregistered since. -/
structure Clients where
  connected : Bool := true
  cooperate : CooperateClient := {}
  drag : DragClient := {}
  cooperateWanted : Finset ℕ := ∅
  dragWanted : Finset ℕ := ∅
  subscriptWanted : Finset ℕ := ∅

namespace Clients

inductive Label where
  | registerListener (listener : ℕ)
  | unregisterListener (listener : Option ℕ)
  | addDraglistener (listener : ℕ)
  | removeDraglistener (listener : Option ℕ)
  | addSubscriptListener (listener : ℕ)
  | removeSubscriptListener (listener : Option ℕ)
  | onConnected
  | onDisconnected
  deriving DecidableEq

/-- The wanted listeners after a registration, and after one is taken back. -/
def accept (ok : Bool) (listener : ℕ) (wanted : Finset ℕ) : Finset ℕ :=
  if ok then insert listener wanted else wanted

def withdraw (listener : Option ℕ) (wanted : Finset ℕ) : Finset ℕ :=
  match listener with
  | none => ∅
  | some listener => wanted.erase listener

def next : Label → Clients → Clients
  | .registerListener listener, s =>
    let (ok, cooperate) := s.cooperate.registerListener s.connected listener
    { s with cooperate, cooperateWanted := accept ok listener s.cooperateWanted }
  | .unregisterListener listener, s =>
    { s with
      cooperate := s.cooperate.unregisterListener listener
      cooperateWanted := withdraw listener s.cooperateWanted }
  | .addDraglistener listener, s =>
    let (ok, drag) := s.drag.addDraglistener s.connected listener
    { s with drag, dragWanted := accept ok listener s.dragWanted }
  | .removeDraglistener listener, s =>
    { s with
      drag := s.drag.removeDraglistener listener
      dragWanted := withdraw listener s.dragWanted }
  | .addSubscriptListener listener, s =>
    let (ok, drag) := s.drag.addSubscriptListener s.connected listener
    { s with drag, subscriptWanted := accept ok listener s.subscriptWanted }
  | .removeSubscriptListener listener, s =>
    { s with
      drag := s.drag.removeSubscriptListener listener
      subscriptWanted := withdraw listener s.subscriptWanted }
  | .onConnected, s =>
    if s.connected then s
    else
      { s with
        connected := true, cooperate := s.cooperate.onConnected, drag := s.drag.onConnected }
  | .onDisconnected, s =>
    if s.connected then
      { s with
        connected := false, cooperate := s.cooperate.onDisconnected
        drag := s.drag.onDisconnected }
    else s

/-- The active listeners are those that are wanted, and the service knows of the process exactly if
there are some. -/
def InStep (active wanted : Finset ℕ) (atService : Bool) : Prop :=
  active = wanted ∧ (atService = true ↔ active.Nonempty)

/-- While there is a connection, all three kinds are in step. -/
def AllInStep (s : Clients) : Prop :=
  s.connected = true →
    InStep s.cooperate.devCooperateListener.toFinset s.cooperateWanted s.cooperate.atService ∧
    InStep s.drag.dragListeners.listeners s.dragWanted s.drag.dragListeners.atService ∧
    InStep s.drag.subscriptListeners.listeners s.subscriptWanted
      s.drag.subscriptListeners.atService

def Reconnected (l : Label) (s : Clients) : Prop := (next l s).AllInStep

/-- When the connection comes back, all that is saved is still wanted, and there is no listener to
subscripts. -/
def SavedWanted (l : Label) (s : Clients) : Prop :=
  l = .onConnected → s.connected = false →
    s.cooperate.connectedCooperateListeners.toFinset ⊆ s.cooperateWanted ∧
    s.drag.connectedDragListeners ⊆ s.dragWanted ∧
    s.drag.subscriptListeners.listeners = ∅

end Clients

namespace CooperateClient

variable {c : CooperateClient} {connected : Bool} {listener : ℕ}

/-- The registration is there for a list that is not empty. -/
structure Tidy (c : CooperateClient) : Prop where
  nodup : c.devCooperateListener.Nodup
  listening : c.isListeningProcess = true ↔ c.devCooperateListener ≠ []

theorem Tidy.registerListener (h : c.Tidy) : (c.registerListener connected listener).2.Tidy := by
  unfold CooperateClient.registerListener
  split
  next => exact h
  next absent =>
  have nodup : (c.devCooperateListener ++ [listener]).Nodup := by
    have := h.nodup
    grind
  split
  next listening => exact ⟨nodup, by simp [listening]⟩
  split
  next => exact ⟨nodup, by simp⟩
  next => exact h

theorem Tidy.unregisterListener (h : c.Tidy) (listener : Option ℕ) :
    (c.unregisterListener listener).Tidy := by
  obtain ⟨nodup, listening⟩ := h
  unfold CooperateClient.unregisterListener
  cases listener <;> constructor <;> grind

theorem Tidy.onDisconnected (h : c.Tidy) : c.onDisconnected.Tidy := by
  obtain ⟨nodup, listening⟩ := h
  unfold CooperateClient.onDisconnected
  constructor <;> grind

/-- The service knows of the process as the client does. -/
structure Known (c : CooperateClient) : Prop extends Tidy c where
  atService : c.atService = c.isListeningProcess

theorem Known.registerListener (h : c.Known) (connected : Bool) (listener : ℕ) :
    (c.registerListener connected listener).2.Known := by
  refine ⟨h.toTidy.registerListener, ?_⟩
  have := h.atService
  unfold CooperateClient.registerListener
  grind

theorem toFinset_registerListener (connected : Bool) (listener : ℕ) (c : CooperateClient) :
    (c.registerListener connected listener).2.devCooperateListener.toFinset =
      if (c.registerListener connected listener).1 then
        insert listener c.devCooperateListener.toFinset
      else c.devCooperateListener.toFinset := by
  have added : (c.devCooperateListener ++ [listener]).toFinset =
      insert listener c.devCooperateListener.toFinset := by
    simp
  unfold CooperateClient.registerListener
  split_ifs <;> simp_all

theorem registerListener_of_connected (listener : ℕ) (c : CooperateClient) :
    (c.registerListener true listener).2.devCooperateListener.toFinset =
      insert listener c.devCooperateListener.toFinset := by
  rw [toFinset_registerListener]
  unfold CooperateClient.registerListener
  split_ifs <;> simp_all

/-- Registering the saved listeners, the process being known or not. -/
theorem registerAll (listeners : List ℕ) (h : c.Known) :
    let c' := listeners.foldl (fun c listener => (c.registerListener true listener).2) c
    c'.Known ∧ c'.devCooperateListener.toFinset =
      c.devCooperateListener.toFinset ∪ listeners.toFinset := by
  induction listeners generalizing c with
  | nil => exact ⟨h, by simp⟩
  | cons listener listeners ih =>
    obtain ⟨known, active⟩ := ih (h.registerListener true listener)
    refine ⟨known, ?_⟩
    simp only [List.foldl_cons, active, registerListener_of_connected, List.toFinset_cons]
    grind

theorem toFinset_unregisterListener (h : c.Tidy) (listener : Option ℕ) :
    (c.unregisterListener listener).devCooperateListener.toFinset =
      Clients.withdraw listener c.devCooperateListener.toFinset := by
  unfold unregisterListener Clients.withdraw
  cases listener with
  | none => dsimp only; split <;> rfl
  | some listener =>
    have erased : (c.devCooperateListener.erase listener).toFinset =
        c.devCooperateListener.toFinset.erase listener := by
      ext x
      simp [h.nodup.mem_erase_iff]
    dsimp only
    split <;> exact erased

/-- What holds between two calls, of the listeners that are wanted. -/
structure Good (connected : Bool) (wanted : Finset ℕ) (c : CooperateClient) : Prop
    extends Tidy c where
  up : connected = true → c.devCooperateListener.toFinset = wanted ∧
    c.atService = c.isListeningProcess
  down : connected = false → c.devCooperateListener = [] ∧ c.atService = false ∧
    wanted ⊆ c.connectedCooperateListeners.toFinset

variable {wanted : Finset ℕ}

theorem Good.registerListener (h : c.Good connected wanted) (listener : ℕ) :
    (c.registerListener connected listener).2.Good connected
      (Clients.accept (c.registerListener connected listener).1 listener wanted) := by
  cases connected with
  | true =>
    obtain ⟨same, atService⟩ := h.up rfl
    have known : c.Known := ⟨h.toTidy, atService⟩
    have known := known.registerListener true listener
    refine ⟨known.toTidy, fun _ => ⟨?_, known.atService⟩, nofun⟩
    rw [toFinset_registerListener, same, Clients.accept]
  | false =>
    obtain ⟨none, -⟩ := h.down rfl
    have off : c.isListeningProcess = false := by simpa [none] using h.listening
    have refused : c.registerListener false listener = (false, c) := by
      simp [CooperateClient.registerListener, none, off]
    simpa [refused, Clients.accept] using h

theorem Good.unregisterListener (h : c.Good connected wanted) (listener : Option ℕ) :
    (c.unregisterListener listener).Good connected (Clients.withdraw listener wanted) := by
  refine ⟨h.toTidy.unregisterListener listener, ?_, ?_⟩
  · intro up
    obtain ⟨same, atService⟩ := h.up up
    refine ⟨by rw [toFinset_unregisterListener h.toTidy, same], ?_⟩
    unfold CooperateClient.unregisterListener
    grind
  · intro down
    obtain ⟨none, atService, saved⟩ := h.down down
    have fewer : Clients.withdraw listener wanted ⊆ wanted := by
      unfold Clients.withdraw
      cases listener <;> simp [Finset.erase_subset]
    unfold CooperateClient.unregisterListener
    have := fewer.trans saved
    cases listener <;> grind

theorem Good.onDisconnected (h : c.Good true wanted) : c.onDisconnected.Good false wanted := by
  refine ⟨h.toTidy.onDisconnected, nofun, fun _ => ?_⟩
  obtain ⟨same, -⟩ := h.up rfl
  have listening := h.listening
  subst same
  by_cases none : c.devCooperateListener = []
  · have off : c.isListeningProcess = false := by simpa [none] using listening
    simp [CooperateClient.onDisconnected, none, off]
  · have on : c.isListeningProcess = true := listening.mpr none
    simp [CooperateClient.onDisconnected, none, on]

/-- When the connection comes back, the listeners that were saved become active. -/
theorem Good.onConnected (h : c.Good false wanted) :
    c.onConnected.Known ∧
      c.onConnected.devCooperateListener.toFinset = c.connectedCooperateListeners.toFinset := by
  obtain ⟨none, atService, -⟩ := h.down rfl
  have off : c.isListeningProcess = false := by simpa [none] using h.listening
  obtain ⟨known, active⟩ := registerAll c.connectedCooperateListeners
    ⟨h.toTidy, atService.trans off.symm⟩
  exact ⟨known, by simpa [CooperateClient.onConnected, none] using active⟩

end CooperateClient

namespace ListenerSet

variable {s : ListenerSet} {connected : Bool}

/-- The registration is there for a set that is not empty. -/
def Tidy (s : ListenerSet) : Prop := s.hasRegistered = true ↔ s.listeners.Nonempty

theorem Tidy.add (h : s.Tidy) (connected : Bool) (listener : ℕ) :
    (s.add connected listener).2.Tidy := by
  unfold ListenerSet.add Tidy at *
  split_ifs <;> simp_all

theorem Tidy.remove (h : s.Tidy) (listener : Option ℕ) : (s.remove listener).Tidy := by
  unfold ListenerSet.remove Tidy at *
  cases listener with
  | none => by_cases on : s.hasRegistered = true <;> simp_all
  | some listener =>
    by_cases none : s.listeners.erase listener = ∅
    · by_cases on : s.hasRegistered = true <;> simp_all
    · have some : s.listeners.Nonempty :=
        (Finset.nonempty_iff_ne_empty.mpr none).mono (Finset.erase_subset _ _)
      simp_all [Finset.nonempty_iff_ne_empty]

theorem listeners_add (connected : Bool) (listener : ℕ) (s : ListenerSet) :
    (s.add connected listener).2.listeners =
      Clients.accept (s.add connected listener).1 listener s.listeners := by
  unfold ListenerSet.add Clients.accept
  split_ifs <;> simp_all

theorem listeners_add_of_connected (listener : ℕ) (s : ListenerSet) :
    (s.add true listener).2.listeners = insert listener s.listeners := by
  unfold ListenerSet.add
  split_ifs <;> simp_all

theorem listeners_remove (listener : Option ℕ) (s : ListenerSet) :
    (s.remove listener).listeners = Clients.withdraw listener s.listeners := by
  unfold ListenerSet.remove Clients.withdraw
  cases listener <;> dsimp only <;> split <;> rfl

/-- The service knows of the process as the client does. -/
structure Known (s : ListenerSet) : Prop where
  tidy : s.Tidy
  atService : s.atService = s.hasRegistered

theorem Known.add (h : s.Known) (connected : Bool) (listener : ℕ) :
    (s.add connected listener).2.Known := by
  refine ⟨h.tidy.add connected listener, ?_⟩
  have := h.atService
  unfold ListenerSet.add
  split_ifs <;> simp_all

theorem Known.remove (h : s.Known) (listener : Option ℕ) : (s.remove listener).Known := by
  refine ⟨h.tidy.remove listener, ?_⟩
  have := h.atService
  unfold ListenerSet.remove
  cases listener <;> dsimp only <;> split <;> simp_all

/-- Without a connection and without listeners no listener is accepted. -/
theorem add_of_disconnected (h : s.Tidy) (none : s.listeners = ∅) (listener : ℕ) :
    s.add false listener = (false, s) := by
  have off : s.hasRegistered = false := by simpa [Tidy, none] using h
  simp [ListenerSet.add, none, off]

end ListenerSet

namespace DragClient

/-- What holds between two calls, of the listeners that are wanted. -/
structure Good (connected : Bool) (dragWanted subscriptWanted : Finset ℕ) (c : DragClient) :
    Prop where
  tidy : c.dragListeners.Tidy
  subscriptTidy : c.subscriptListeners.Tidy
  subscripts : c.subscriptListeners.listeners = subscriptWanted
  up : connected = true → c.dragListeners.listeners = dragWanted ∧ c.dragListeners.Known ∧
    c.subscriptListeners.Known ∧ c.connectedDragListeners = ∅
  down : connected = false → c.dragListeners.listeners = ∅ ∧
    c.dragListeners.atService = false ∧ c.subscriptListeners.atService = false ∧
    dragWanted ⊆ c.connectedDragListeners

variable {c : DragClient} {connected : Bool} {dragWanted subscriptWanted : Finset ℕ}

theorem Good.addDraglistener (h : c.Good connected dragWanted subscriptWanted) (listener : ℕ) :
    (c.addDraglistener connected listener).2.Good connected
      (Clients.accept (c.addDraglistener connected listener).1 listener dragWanted)
      subscriptWanted := by
  cases connected with
  | true =>
    obtain ⟨same, known, subscripts, cleared⟩ := h.up rfl
    have known := known.add true listener
    refine ⟨known.tidy, h.subscriptTidy, h.subscripts, ?_, nofun⟩
    refine fun _ => ⟨?_, known, subscripts, cleared⟩
    rw [← same]
    exact ListenerSet.listeners_add true listener c.dragListeners
  | false =>
    have refused := ListenerSet.add_of_disconnected h.tidy (h.down rfl).1 listener
    simpa [DragClient.addDraglistener, refused, Clients.accept] using h

theorem Good.removeDraglistener (h : c.Good connected dragWanted subscriptWanted)
    (listener : Option ℕ) :
    (c.removeDraglistener listener).Good connected (Clients.withdraw listener dragWanted)
      subscriptWanted := by
  refine ⟨h.tidy.remove listener, h.subscriptTidy, h.subscripts, ?_, ?_⟩
  · intro up
    obtain ⟨same, known, subscripts, cleared⟩ := h.up up
    refine ⟨?_, known.remove listener, subscripts, cleared⟩
    rw [← same]
    exact ListenerSet.listeners_remove listener c.dragListeners
  · intro down
    obtain ⟨none, unknown, subscripts, saved⟩ := h.down down
    have fewer : Clients.withdraw listener dragWanted ⊆ dragWanted := by
      unfold Clients.withdraw
      cases listener <;> simp [Finset.erase_subset]
    refine ⟨?_, ?_, subscripts, fewer.trans saved⟩
    · rw [DragClient.removeDraglistener, ListenerSet.listeners_remove, none]
      cases listener <;> simp [Clients.withdraw]
    · simp only [DragClient.removeDraglistener, ListenerSet.remove]
      cases listener <;> dsimp only <;> split <;> first | rfl | exact unknown

theorem Good.addSubscriptListener (h : c.Good connected dragWanted subscriptWanted)
    (listener : ℕ) :
    (c.addSubscriptListener connected listener).2.Good connected dragWanted
      (Clients.accept (c.addSubscriptListener connected listener).1 listener subscriptWanted) := by
  refine ⟨h.tidy, h.subscriptTidy.add connected listener, ?_, ?_, ?_⟩
  · rw [← h.subscripts]
    exact ListenerSet.listeners_add connected listener c.subscriptListeners
  · intro up
    obtain ⟨same, known, subscripts, cleared⟩ := h.up up
    exact ⟨same, known, subscripts.add connected listener, cleared⟩
  · intro down
    obtain ⟨none, unknown, subscripts, saved⟩ := h.down down
    refine ⟨none, unknown, ?_, saved⟩
    subst down
    simp only [DragClient.addSubscriptListener, ListenerSet.add, Bool.false_eq_true, if_false]
    split_ifs <;> exact subscripts

theorem Good.removeSubscriptListener (h : c.Good connected dragWanted subscriptWanted)
    (listener : Option ℕ) :
    (c.removeSubscriptListener listener).Good connected dragWanted
      (Clients.withdraw listener subscriptWanted) := by
  refine ⟨h.tidy, h.subscriptTidy.remove listener, ?_, ?_, ?_⟩
  · rw [← h.subscripts]
    exact ListenerSet.listeners_remove listener c.subscriptListeners
  · intro up
    obtain ⟨same, known, subscripts, cleared⟩ := h.up up
    exact ⟨same, known, subscripts.remove listener, cleared⟩
  · intro down
    obtain ⟨none, unknown, subscripts, saved⟩ := h.down down
    refine ⟨none, unknown, ?_, saved⟩
    simp only [DragClient.removeSubscriptListener, ListenerSet.remove]
    cases listener <;> dsimp only <;> split <;> first | rfl | exact subscripts

theorem Good.onDisconnected (h : c.Good true dragWanted subscriptWanted) :
    c.onDisconnected.Good false dragWanted subscriptWanted := by
  obtain ⟨same, known, subscripts, cleared⟩ := h.up rfl
  unfold DragClient.onDisconnected
  by_cases none : c.dragListeners.listeners = ∅
  · rw [if_pos none]
    refine ⟨h.tidy, h.subscriptTidy, h.subscripts, nofun, fun _ => ⟨none, rfl, rfl, ?_⟩⟩
    simp [← same, none]
  · rw [if_neg none]
    refine ⟨by simp [ListenerSet.Tidy], h.subscriptTidy, h.subscripts, nofun, ?_⟩
    exact fun _ => ⟨rfl, rfl, rfl, same ▸ Finset.Subset.refl _⟩

/-- Registering the saved listeners. -/
theorem addAll (listeners : List ℕ) (known : c.dragListeners.Known) :
    let c' := listeners.foldl (fun c listener => (c.addDraglistener true listener).2) c
    c'.dragListeners.Known ∧
      c'.dragListeners.listeners = c.dragListeners.listeners ∪ listeners.toFinset ∧
      c'.subscriptListeners = c.subscriptListeners := by
  induction listeners generalizing c with
  | nil => exact ⟨known, by simp, rfl⟩
  | cons listener listeners ih =>
    have first := known.add true listener
    obtain ⟨known, active, same⟩ := ih (c := (c.addDraglistener true listener).2) first
    refine ⟨known, ?_, same⟩
    have added := ListenerSet.listeners_add_of_connected listener c.dragListeners
    simp only [List.foldl_cons, active, List.toFinset_cons]
    simp only [DragClient.addDraglistener, added]
    grind

/-- When the connection comes back, the listeners that were saved become active; those to
subscripts are not registered. -/
theorem Good.onConnected (h : c.Good false dragWanted subscriptWanted) :
    c.onConnected.dragListeners.Known ∧
      c.onConnected.dragListeners.listeners = c.connectedDragListeners ∧
      c.onConnected.subscriptListeners = c.subscriptListeners ∧
      c.onConnected.connectedDragListeners = ∅ := by
  obtain ⟨none, unknown, subscripts, -⟩ := h.down rfl
  have off : c.dragListeners.hasRegistered = false := by
    simpa [ListenerSet.Tidy, none] using h.tidy
  have known : c.dragListeners.Known := ⟨h.tidy, unknown.trans off.symm⟩
  unfold DragClient.onConnected
  split
  next empty => exact ⟨known, none.trans empty.symm, rfl, empty⟩
  next =>
    obtain ⟨known, active, same⟩ := addAll c.connectedDragListeners.sort known
    exact ⟨known, by simpa [none] using active, same, rfl⟩

end DragClient

namespace Clients

variable {s : Clients} {l : Label}

structure Good (s : Clients) : Prop where
  cooperate : s.cooperate.Good s.connected s.cooperateWanted
  drag : s.drag.Good s.connected s.dragWanted s.subscriptWanted

theorem good_start : Good {} where
  cooperate := ⟨⟨by simp, by simp⟩, by simp, nofun⟩
  drag := by
    refine ⟨by simp [ListenerSet.Tidy], by simp [ListenerSet.Tidy], rfl, ?_, nofun⟩
    have known : ListenerSet.Known {} := ⟨by simp [ListenerSet.Tidy], rfl⟩
    exact fun _ => ⟨rfl, known, known, rfl⟩

/-- A set that the service knows of as the client does is in step. -/
theorem inStep_of_known {c : ListenerSet} (known : c.Known) {wanted : Finset ℕ}
    (same : c.listeners = wanted) : InStep c.listeners wanted c.atService :=
  ⟨same, by rw [known.atService]; exact known.tidy⟩

theorem inStep_of_cooperate {c : CooperateClient} (known : c.Known) {wanted : Finset ℕ}
    (same : c.devCooperateListener.toFinset = wanted) :
    InStep c.devCooperateListener.toFinset wanted c.atService :=
  ⟨same, by rw [known.atService, known.listening, List.toFinset_nonempty_iff]⟩

theorem Good.allInStep (h : s.Good) : s.AllInStep := by
  intro up
  obtain ⟨same, atService⟩ := h.cooperate.up up
  obtain ⟨dragSame, drag, subscripts, -⟩ := h.drag.up up
  exact ⟨inStep_of_cooperate ⟨h.cooperate.toTidy, atService⟩ same,
    inStep_of_known drag dragSame, inStep_of_known subscripts h.drag.subscripts⟩

theorem next_onConnected (down : s.connected = false) :
    next .onConnected s =
      { s with
        connected := true, cooperate := s.cooperate.onConnected, drag := s.drag.onConnected } := by
  simp [next, down]

/-- A reconnection that finds all that is saved wanted. -/
theorem Good.onConnected (h : s.Good) (down : s.connected = false)
    (ok : s.SavedWanted .onConnected) : (next .onConnected s).Good := by
  obtain ⟨cooperate, drag, subscripts⟩ := ok rfl down
  obtain ⟨cooperateGood, dragGood⟩ := h
  rw [down] at cooperateGood dragGood
  obtain ⟨known, active⟩ := cooperateGood.onConnected
  obtain ⟨dragKnown, dragActive, same, cleared⟩ := dragGood.onConnected
  have all := cooperate.antisymm (cooperateGood.down rfl).2.2
  have dragAll := drag.antisymm (dragGood.down rfl).2.2.2
  have unregistered : s.drag.subscriptListeners.hasRegistered = false := by
    simpa [ListenerSet.Tidy, subscripts] using dragGood.subscriptTidy
  rw [next_onConnected down]
  constructor
  · exact ⟨known.toTidy, fun _ => ⟨active.trans all, known.atService⟩, nofun⟩
  · refine ⟨dragKnown.tidy, same ▸ dragGood.subscriptTidy, same ▸ dragGood.subscripts, ?_, nofun⟩
    refine fun _ => ⟨dragActive.trans dragAll, dragKnown, ?_, cleared⟩
    rw [same]
    exact ⟨dragGood.subscriptTidy, (dragGood.down rfl).2.2.1.trans unregistered.symm⟩

theorem savedWanted_of_inStep (h : s.Good) (inStep : (next .onConnected s).AllInStep) :
    s.SavedWanted .onConnected := by
  intro _ down
  obtain ⟨cooperateGood, dragGood⟩ := h
  rw [down] at cooperateGood dragGood
  obtain ⟨-, active⟩ := cooperateGood.onConnected
  obtain ⟨-, dragActive, same, -⟩ := dragGood.onConnected
  rw [next_onConnected down] at inStep
  obtain ⟨cooperate, drag, subscripts⟩ := inStep rfl
  refine ⟨(active.symm.trans cooperate.1).subset, (dragActive.symm.trans drag.1).subset, ?_⟩
  have unknown := (dragGood.down rfl).2.2.1
  have none := subscripts.2
  rw [same, unknown] at none
  simpa using none

theorem Good.next (h : s.Good) (ok : s.SavedWanted l) : (next l s).Good := by
  cases l with
  | registerListener listener => exact ⟨h.cooperate.registerListener listener, h.drag⟩
  | unregisterListener listener => exact ⟨h.cooperate.unregisterListener listener, h.drag⟩
  | addDraglistener listener => exact ⟨h.cooperate, h.drag.addDraglistener listener⟩
  | removeDraglistener listener => exact ⟨h.cooperate, h.drag.removeDraglistener listener⟩
  | addSubscriptListener listener => exact ⟨h.cooperate, h.drag.addSubscriptListener listener⟩
  | removeSubscriptListener listener =>
    exact ⟨h.cooperate, h.drag.removeSubscriptListener listener⟩
  | onConnected =>
    cases up : s.connected with
    | true => simpa [Clients.next, up] using h
    | false => exact h.onConnected up ok
  | onDisconnected =>
    cases up : s.connected with
    | true =>
      have cooperate := h.cooperate
      have drag := h.drag
      rw [up] at cooperate drag
      have next : Clients.next .onDisconnected s =
          { s with
            connected := false, cooperate := s.cooperate.onDisconnected
            drag := s.drag.onDisconnected } := by
        simp [Clients.next, up]
      rw [next]
      exact ⟨cooperate.onDisconnected, drag.onDisconnected⟩
    | false => simpa [Clients.next, up] using h

theorem Good.reconnected_iff (l : Label) (h : s.Good) : s.Reconnected l ↔ s.SavedWanted l := by
  constructor
  · intro inStep
    by_cases connects : l = .onConnected
    · subst connects
      exact savedWanted_of_inStep h inStep
    · exact fun h => absurd h connects
  · intro ok
    exact (h.next ok).allInStep

/-- The listeners survive every reconnection of a run exactly if all that is saved is still wanted
when the connection comes back, and there are none to subscripts. -/
theorem reconnected_iff_savedWanted (tr : List Label) :
    EachStep next Reconnected {} tr ↔ EachStep next SavedWanted {} tr :=
  EachStep.iff_of_invariant (fun _ _ h ok => Good.next h ok) (fun l _ h => h.reconnected_iff l)
    good_start

/-- A listener to subscripts stays, without a registration; a listener that was unregistered
without a connection comes back. -/
theorem listeners_out_of_step :
    ¬ EachStep next Reconnected {} [.addSubscriptListener 1, .onDisconnected, .onConnected] ∧
    ¬ EachStep next Reconnected {} [.registerListener 1, .onDisconnected,
      .unregisterListener (some 1), .onConnected] := by
  constructor
  · intro h
    have inStep := h.tail.tail.head rfl
    exact absurd inStep.2.2.2 (by decide)
  · intro h
    have inStep := h.tail.tail.tail.head rfl
    exact absurd inStep.1.1 (by decide)

end Clients

end DeviceStatus.Client
