import DeviceStatus.Ipc.SocketSessionManager

/-!
# The listeners of drags

`StateChangeNotify` keeps who listens to the state of drags and who to their style, by the session
that the process had when it registered. That a session ends it learns from `OnSessionLost`, the
callback that the drag manager leaves with the sessions for some of the processes.

## Main definitions

* `StateChangeNotify` — the two lists and what is added to and removed from them.
* `DragListeners`, `DragListeners.next` — the lists beside the sessions.
* `DragListeners.ForgetsDead` — a process whose session has ended is no listener.
* `DragListeners.SparesSubscribers` — the steps that end no session of a listener to the style.
-/

namespace DeviceStatus.Drag

open Transition.System
open Ipc (SocketSession SocketSessionManager SocketSessionEvent SessionCallback)

inductive MessageType where
  | notifyState | notifyStyle
  deriving DecidableEq

structure MessageInfo where
  msgType : MessageType
  session : SocketSession
  deriving DecidableEq

/-- `operator==`. -/
def MessageInfo.Same (info other : MessageInfo) : Prop := info.session.pid = other.session.pid

instance (info other : MessageInfo) : Decidable (info.Same other) :=
  inferInstanceAs (Decidable (_ = _))

structure StateChangeNotify where
  msgInfos : MessageType → List MessageInfo := fun _ => []

namespace StateChangeNotify

/-- The first entry of the process gives way to the new one. -/
def replaceOrAppend (info : MessageInfo) : List MessageInfo → List MessageInfo
  | [] => [info]
  | old :: infos => if old.Same info then info :: infos else old :: replaceOrAppend info infos

def addNotifyMsg (info : MessageInfo) (n : StateChangeNotify) : StateChangeNotify :=
  { msgInfos :=
      Function.update n.msgInfos info.msgType (replaceOrAppend info (n.msgInfos info.msgType)) }

def removeNotifyMsg (info : MessageInfo) (n : StateChangeNotify) : StateChangeNotify :=
  { msgInfos :=
      Function.update n.msgInfos info.msgType
        ((n.msgInfos info.msgType).eraseP fun old => old.Same info) }

end StateChangeNotify

structure DragListeners where
  socketSessions : SocketSessionManager := {}
  stateNotify : StateChangeNotify := {}

/-- An event of the sessions; nobody else leaves callbacks with them or takes them back. -/
structure SessionChange where
  event : SocketSessionEvent
  unwatched : SocketSessionManager.watched event = none

/-- The calls of processes, and what happens to their sessions. `GetPackageName` is the part of
`StartDrag` that concerns the listeners, if `StartDrag` gets to it. -/
inductive ListenerCall where
  | addListener (pid : Int32)
  | removeListener (pid : Int32)
  | addSubscriptListener (pid : Int32)
  | removeSubscriptListener (pid : Int32)
  | startDrag (pid : Int32) (refused : Bool)
  | sessions (change : SessionChange)

namespace DragListeners

/-- The callback that calls `OnSessionLost`. -/
def ON_SESSION_LOST : SessionCallback := 0

def addNotifyMsg (msgType : MessageType) (pid : Int32) (s : DragListeners) : DragListeners :=
  match s.socketSessions.findSessionByPid pid with
  | none => s
  | some session => { s with stateNotify := s.stateNotify.addNotifyMsg { msgType, session } }

def removeNotifyMsg (msgType : MessageType) (pid : Int32) (s : DragListeners) : DragListeners :=
  match s.socketSessions.findSessionByPid pid with
  | none => s
  | some session => { s with stateNotify := s.stateNotify.removeNotifyMsg { msgType, session } }

/-- Leaves the callback for a process, unless there is one. -/
def watch (pid : Int32) (s : DragListeners) : DragListeners :=
  { s with
    socketSessions := s.socketSessions.addSessionDeletedCallback pid (some ON_SESSION_LOST) }

def addListener (pid : Int32) (s : DragListeners) : DragListeners :=
  if (s.socketSessions.findSessionByPid pid).isNone then s
  else (s.addNotifyMsg .notifyState pid).watch pid

def removeListener (pid : Int32) (s : DragListeners) : DragListeners :=
  s.removeNotifyMsg .notifyState pid

def addSubscriptListener (pid : Int32) (s : DragListeners) : DragListeners :=
  s.addNotifyMsg .notifyStyle pid

def removeSubscriptListener (pid : Int32) (s : DragListeners) : DragListeners :=
  s.removeNotifyMsg .notifyStyle pid

def startDrag (pid : Int32) (refused : Bool) (s : DragListeners) : DragListeners :=
  if refused then s else if pid = -1 then s else s.watch pid

def onSessionLost (session : SocketSession) (s : DragListeners) : DragListeners :=
  s.removeListener session.pid

/-- The sessions for which the event calls the callback. -/
def lost (event : SocketSessionEvent) (m : SocketSessionManager) : List SocketSession :=
  ((m.next event).called.drop m.called.length).map Prod.snd

/-- The callbacks run while the sessions that end are still in the table. -/
def changeSessions (change : SessionChange) (s : DragListeners) : DragListeners :=
  let told :=
    (lost change.event s.socketSessions).foldl (fun s session => s.onSessionLost session) s
  { told with socketSessions := s.socketSessions.next change.event }

def next (call : ListenerCall) (s : DragListeners) : DragListeners :=
  match call with
  | .addListener pid => s.addListener pid
  | .removeListener pid => s.removeListener pid
  | .addSubscriptListener pid => s.addSubscriptListener pid
  | .removeSubscriptListener pid => s.removeSubscriptListener pid
  | .startDrag pid refused => s.startDrag pid refused
  | .sessions change => s.changeSessions change

/-- A session of the process ends. -/
def Ends (pid : Int32) (call : ListenerCall) (s : DragListeners) : Prop :=
  ∃ change session, call = .sessions change ∧ session.pid = pid ∧
    SocketSessionManager.Removed session s.socketSessions (s.socketSessions.next change.event)

/-- The process registers, on a session that it has. -/
def Registers (pid : Int32) (call : ListenerCall) (s : DragListeners) : Prop :=
  (call = .addListener pid ∨ call = .addSubscriptListener pid) ∧
    (s.socketSessions.findSessionByPid pid).isSome

/-- The process listens to nothing. -/
def Forgets (pid : Int32) (s : DragListeners) : Prop :=
  ∀ msgType, ∀ info ∈ s.stateNotify.msgInfos msgType, info.session.pid ≠ pid

/-- From the end of its session on a process listens to nothing, until it registers again. -/
def ForgetsDead (calls : List ListenerCall) : Prop :=
  ∀ pid p call q, p ++ call :: q <+: calls → Ends pid call (runFrom next {} p) →
    EachStep next (fun call s => ¬ Registers pid call s) (runFrom next {} (p ++ [call])) q →
      Forgets pid (runFrom next {} (p ++ call :: q))

/-- A session that ends is not of a process that listens to the style of drags. -/
def SparesSubscribers (call : ListenerCall) (s : DragListeners) : Prop :=
  ∀ pid, Ends pid call s →
    ∀ info ∈ s.stateNotify.msgInfos .notifyStyle, info.session.pid ≠ pid

end DragListeners

/-! ## The lists -/

namespace StateChangeNotify

variable {info old : MessageInfo} {infos : List MessageInfo}

theorem mem_replaceOrAppend (mem : old ∈ replaceOrAppend info infos) :
    old = info ∨ old ∈ infos := by
  fun_induction replaceOrAppend info infos with grind

/-- No process has two entries. -/
def OnePerPid (infos : List MessageInfo) : Prop := infos.Pairwise fun old other => ¬ old.Same other

theorem onePerPid_replaceOrAppend (one : OnePerPid infos) :
    OnePerPid (replaceOrAppend info infos) := by
  induction infos with
  | nil => simp [replaceOrAppend, OnePerPid]
  | cons head infos ih =>
    obtain ⟨apart, one⟩ := List.pairwise_cons.mp one
    by_cases same : head.Same info
    · rw [replaceOrAppend, if_pos same]
      refine List.pairwise_cons.mpr ⟨?_, one⟩
      grind [MessageInfo.Same]
    · rw [replaceOrAppend, if_neg same]
      refine List.pairwise_cons.mpr ⟨?_, ih one⟩
      intro other mem
      obtain rfl | mem := mem_replaceOrAppend mem
      · exact same
      · exact apart other mem

/-- Where no process has two entries, none is left of a process when one is erased. -/
theorem mem_eraseP_iff (one : OnePerPid infos) :
    old ∈ infos.eraseP (fun old => old.Same info) ↔
      old ∈ infos ∧ old.session.pid ≠ info.session.pid := by
  induction infos with
  | nil => simp
  | cons head infos ih =>
    obtain ⟨apart, one⟩ := List.pairwise_cons.mp one
    have rest := ih one
    by_cases same : head.Same info
    · rw [List.eraseP_cons_of_pos (by simpa using same)]
      grind [MessageInfo.Same]
    · rw [List.eraseP_cons_of_neg (by simpa using same), List.mem_cons, rest]
      grind [MessageInfo.Same]

end StateChangeNotify

namespace DragListeners

open StateChangeNotify (OnePerPid)

variable {s : DragListeners} {pid : Int32} {msgType : MessageType}

/-! ## One call -/

/-- What the lists of drags and the sessions make of each other in every run. -/
structure Watched (s : DragListeners) : Prop where
  sound : s.socketSessions.Sound
  one : OnePerPid (s.stateNotify.msgInfos .notifyState)
  callback : ∀ info ∈ s.stateNotify.msgInfos .notifyState,
    info.session.pid ∈ s.socketSessions.callbacks

theorem pid_of_findSessionByPid {m : SocketSessionManager} {session : SocketSession}
    (found : m.findSessionByPid pid = some session) : session.pid = pid := by
  obtain ⟨item, here, rfl⟩ := Option.map_eq_some_iff.mp found
  simpa using List.find?_some here

/-- An entry is added only for a process with a session. -/
theorem mem_addNotifyMsg {listed : MessageType} {info : MessageInfo}
    (mem : info ∈ (s.addNotifyMsg msgType pid).stateNotify.msgInfos listed) :
    info ∈ s.stateNotify.msgInfos listed ∨
      info.session.pid = pid ∧ (s.socketSessions.findSessionByPid pid).isSome := by
  rw [addNotifyMsg] at mem
  cases found : s.socketSessions.findSessionByPid pid with
  | none =>
    rw [found] at mem
    exact .inl mem
  | some session =>
    simp only [found, StateChangeNotify.addNotifyMsg, Function.update_apply] at mem
    split_ifs at mem with same
    · obtain rfl | mem := StateChangeNotify.mem_replaceOrAppend mem
      · exact .inr ⟨pid_of_findSessionByPid found, rfl⟩
      · exact .inl (same ▸ mem)
    · exact .inl mem

theorem watched_watch (h : Watched s) : Watched (s.watch pid) where
  sound := h.sound.of_callbacks rfl rfl
  one := h.one
  callback := by
    intro info mem
    have held := h.callback info mem
    simp only [watch, SocketSessionManager.addSessionDeletedCallback]
    grind

theorem callback_watch : pid ∈ (s.watch pid).socketSessions.callbacks := by
  simp only [watch, SocketSessionManager.addSessionDeletedCallback]
  grind

theorem watched_addListener (h : Watched s) : Watched (s.addListener pid) := by
  rw [addListener]
  cases found : s.socketSessions.findSessionByPid pid with
  | none => exact h
  | some session =>
    have process := pid_of_findSessionByPid found
    have kept : Watched (s.watch pid) := watched_watch h
    have held := @callback_watch s pid
    simp only [Option.isNone_some, Bool.false_eq_true, if_false, addNotifyMsg, found]
    refine ⟨kept.sound, ?_, ?_⟩
    · simpa [watch, StateChangeNotify.addNotifyMsg] using
        StateChangeNotify.onePerPid_replaceOrAppend h.one
    · intro info mem
      simp only [watch, StateChangeNotify.addNotifyMsg, Function.update_self] at mem
      obtain rfl | mem := StateChangeNotify.mem_replaceOrAppend mem
      · rw [process]
        exact held
      · exact kept.callback info mem

theorem socketSessions_removeNotifyMsg :
    (s.removeNotifyMsg msgType pid).socketSessions = s.socketSessions := by
  grind [removeNotifyMsg]

theorem sublist_removeNotifyMsg (listed : MessageType) :
    ((s.removeNotifyMsg msgType pid).stateNotify.msgInfos listed).Sublist
      (s.stateNotify.msgInfos listed) := by
  rw [removeNotifyMsg]
  cases s.socketSessions.findSessionByPid pid with
  | none => exact .refl _
  | some session =>
    simp only [StateChangeNotify.removeNotifyMsg, Function.update_apply]
    split_ifs with same
    · rw [same]
      exact List.eraseP_sublist
    · exact .refl _

theorem watched_removeNotifyMsg (h : Watched s) : Watched (s.removeNotifyMsg msgType pid) := by
  have fewer := @sublist_removeNotifyMsg s pid msgType .notifyState
  refine ⟨?_, h.one.sublist fewer, ?_⟩ <;> rw [socketSessions_removeNotifyMsg]
  · exact h.sound
  · intro info mem
    exact h.callback info (fewer.subset mem)

theorem watched_addSubscriptListener (h : Watched s) :
    Watched (s.addSubscriptListener pid) := by
  rw [addSubscriptListener, addNotifyMsg]
  split
  · exact h
  · exact ⟨h.sound, by simpa [StateChangeNotify.addNotifyMsg] using h.one,
      by simpa [StateChangeNotify.addNotifyMsg] using h.callback⟩

theorem watched_startDrag (h : Watched s) (refused : Bool) : Watched (s.startDrag pid refused) := by
  rw [startDrag]
  split_ifs
  · exact h
  · exact h
  · exact watched_watch h

/-! ## Sessions that end -/

section Sessions

variable {change : SessionChange}

open Ipc.SocketSessionManager (Removed)

/-- The callback is called for the sessions that end, if there is one for their process. -/
theorem mem_lost_iff {m : SocketSessionManager} (sound : m.Sound) {event : SocketSessionEvent}
    {session : SocketSession} :
    session ∈ lost event m ↔ Removed session m (m.next event) ∧ session.pid ∈ m.callbacks := by
  obtain ⟨calls, called, told, only⟩ := (SocketSessionManager.stepOk sound event).notifies.called
  have here : lost event m = calls.map Prod.snd := by
    rw [lost, called, List.drop_left]
  rw [here]
  constructor
  · intro mem
    obtain ⟨call, listed, rfl⟩ := List.mem_map.mp mem
    obtain ⟨removed, held⟩ := only call listed
    exact ⟨removed, by grind⟩
  · rintro ⟨removed, watched⟩
    have once := told session _ removed (Std.ExtTreeMap.getElem?_eq_some_getElem watched)
    exact List.mem_map.mpr ⟨_, List.count_pos_iff.mp (once ▸ Nat.one_pos), rfl⟩

theorem findSessionByPid_of_removed {m m' : SocketSessionManager} {session : SocketSession}
    (removed : Removed session m m') : (m.findSessionByPid session.pid).isSome := by
  obtain ⟨fd, stored, -⟩ := removed
  cases found : m.findSessionByPid session.pid with
  | none => exact absurd rfl (SocketSessionManager.findSessionByPid_eq_none found stored)
  | some _ => rfl

/-- The entries of the processes of some sessions are removed from the list of `NOTIFY_STATE`. -/
structure Loses (gone : List SocketSession) (s s' : DragListeners) : Prop where
  socketSessions : s'.socketSessions = s.socketSessions
  style : s'.stateNotify.msgInfos .notifyStyle = s.stateNotify.msgInfos .notifyStyle
  one : OnePerPid (s'.stateNotify.msgInfos .notifyState)
  mem : ∀ info, info ∈ s'.stateNotify.msgInfos .notifyState ↔
    info ∈ s.stateNotify.msgInfos .notifyState ∧ ∀ session ∈ gone, info.session.pid ≠ session.pid

theorem loses_onSessionLost (one : OnePerPid (s.stateNotify.msgInfos .notifyState))
    {session : SocketSession} (there : (s.socketSessions.findSessionByPid session.pid).isSome) :
    Loses [session] s (s.onSessionLost session) := by
  obtain ⟨found, held⟩ := Option.isSome_iff_exists.mp there
  have process := pid_of_findSessionByPid held
  have kept := @sublist_removeNotifyMsg s session.pid .notifyState .notifyState
  refine ⟨socketSessions_removeNotifyMsg, ?_, one.sublist kept, ?_⟩
  · simp [onSessionLost, removeListener, removeNotifyMsg, held, StateChangeNotify.removeNotifyMsg]
  · intro info
    have erased := @StateChangeNotify.mem_eraseP_iff { msgType := .notifyState, session := found }
      info _ one
    simpa [onSessionLost, removeListener, removeNotifyMsg, held, process,
      StateChangeNotify.removeNotifyMsg] using erased

/-- `OnSessionLost` for one session after the other, by induction on them. -/
theorem loses_foldl (one : OnePerPid (s.stateNotify.msgInfos .notifyState))
    {gone : List SocketSession}
    (there : ∀ session ∈ gone, (s.socketSessions.findSessionByPid session.pid).isSome) :
    Loses gone s (gone.foldl (fun s session => s.onSessionLost session) s) := by
  induction gone generalizing s with
  | nil => exact ⟨rfl, rfl, one, by simp⟩
  | cons session gone ih =>
    obtain ⟨here, there⟩ := List.forall_mem_cons.mp there
    have first := loses_onSessionLost one here
    have rest := ih (s := s.onSessionLost session) first.one (by rwa [first.socketSessions])
    refine ⟨rest.socketSessions.trans first.socketSessions, rest.style.trans first.style,
      rest.one, ?_⟩
    intro info
    rw [List.foldl_cons, rest.mem, first.mem]
    grind

theorem loses_lost (h : Watched s) (change : SessionChange) :
    Loses (lost change.event s.socketSessions) s
      { s.changeSessions change with socketSessions := s.socketSessions } := by
  have there : ∀ session ∈ lost change.event s.socketSessions,
      (s.socketSessions.findSessionByPid session.pid).isSome := by
    intro session mem
    exact findSessionByPid_of_removed ((mem_lost_iff h.sound).mp mem).1
  have told := loses_foldl h.one there
  exact ⟨rfl, told.style, told.one, told.mem⟩

/-- After sessions have ended, their processes have no entry in the list of `NOTIFY_STATE`. -/
theorem mem_notifyState_changeSessions (h : Watched s) {info : MessageInfo} :
    info ∈ (s.changeSessions change).stateNotify.msgInfos .notifyState ↔
      info ∈ s.stateNotify.msgInfos .notifyState ∧
        ∀ session, Removed session s.socketSessions (s.socketSessions.next change.event) →
          info.session.pid ≠ session.pid := by
  rw [(loses_lost h change).mem info]
  refine and_congr_right fun mem => ⟨?_, ?_⟩
  · intro others session removed same
    have held := same ▸ h.callback info mem
    exact others session ((mem_lost_iff h.sound).mpr ⟨removed, held⟩) same
  · intro others session lost
    exact others session ((mem_lost_iff h.sound).mp lost).1

theorem watched_changeSessions (h : Watched s) : Watched (s.changeSessions change) where
  sound := (SocketSessionManager.stepOk h.sound change.event).sound
  one := (loses_lost h change).one
  callback := by
    intro info mem
    obtain ⟨mem, others⟩ := (mem_notifyState_changeSessions h).mp mem
    have held := h.callback info mem
    have stay := (SocketSessionManager.stepOk h.sound change.event).notifies.stay info.session.pid
      (fun session removed => (others session removed).symm) (by simp [change.unwatched])
    have there : info.session.pid ∈ (s.socketSessions.next change.event).callbacks := by grind
    exact there

end Sessions

/-! ## Runs -/

theorem watched_next (h : Watched s) (call : ListenerCall) : Watched (next call s) := by
  cases call with
  | addListener pid => exact watched_addListener h
  | removeListener pid => exact watched_removeNotifyMsg h
  | addSubscriptListener pid => exact watched_addSubscriptListener h
  | removeSubscriptListener pid => exact watched_removeNotifyMsg h
  | startDrag pid refused => exact watched_startDrag h refused
  | sessions change => exact watched_changeSessions h

theorem watched_run (calls : List ListenerCall) : Watched (runFrom next {} calls) := by
  have start : Watched {} := ⟨SocketSessionManager.sound_start, .nil, by simp⟩
  exact runFrom_invariant (I := Watched) (fun call _ h => watched_next h call) start calls

theorem style_changeSessions (h : Watched s) (change : SessionChange) :
    (s.changeSessions change).stateNotify.msgInfos .notifyStyle =
      s.stateNotify.msgInfos .notifyStyle :=
  (loses_lost h change).style

/-- Where no process of theirs listens to the style, sessions that end are forgotten at once. -/
theorem forgets_of_ends (h : Watched s) {call : ListenerCall} (spares : SparesSubscribers call s)
    (ended : Ends pid call s) : Forgets pid (next call s) := by
  have style := spares pid ended
  obtain ⟨change, session, rfl, rfl, removed⟩ := ended
  intro msgType info mem
  cases msgType with
  | notifyState => exact ((mem_notifyState_changeSessions h).mp mem).2 session removed
  | notifyStyle =>
    rw [next, style_changeSessions h] at mem
    exact style info mem

/-- Only a process that registers gets an entry. -/
theorem forgets_next (h : Watched s) (call : ListenerCall) (forgets : Forgets pid s)
    (silent : ¬ Registers pid call s) : Forgets pid (next call s) := by
  intro msgType info mem
  cases call with
  | addListener caller =>
    rw [next, addListener] at mem
    split_ifs at mem
    · exact forgets msgType info mem
    · obtain mem | ⟨own, there⟩ := mem_addNotifyMsg mem
      · exact forgets msgType info mem
      · rintro rfl
        exact silent ⟨.inl (own ▸ rfl), own ▸ there⟩
  | addSubscriptListener caller =>
    obtain mem | ⟨own, there⟩ := mem_addNotifyMsg mem
    · exact forgets msgType info mem
    · rintro rfl
      exact silent ⟨.inr (own ▸ rfl), own ▸ there⟩
  | removeListener caller => exact forgets msgType info ((sublist_removeNotifyMsg _).subset mem)
  | removeSubscriptListener caller =>
    exact forgets msgType info ((sublist_removeNotifyMsg _).subset mem)
  | startDrag caller refused =>
    rw [next, startDrag] at mem
    split_ifs at mem <;> exact forgets msgType info mem
  | sessions change =>
    cases msgType with
    | notifyState => exact forgets .notifyState info ((mem_notifyState_changeSessions h).mp mem).1
    | notifyStyle =>
      rw [next, style_changeSessions h] at mem
      exact forgets .notifyStyle info mem

/-- A process whose session has ended is no listener until it registers again, in exactly the runs
in which no session ends of a process that listens to the style of drags. -/
theorem forgetsDead_iff (calls : List ListenerCall) :
    ForgetsDead calls ↔ EachStep next SparesSubscribers {} calls := by
  constructor
  · intro forgets p call hp pid ended info mem
    have gone := forgets pid p call [] hp ended .nil
    obtain ⟨change, session, rfl, rfl, removed⟩ := ended
    rw [← style_changeSessions (watched_run p) change] at mem
    rw [runFrom_append] at gone
    exact gone .notifyStyle info mem
  · intro spares pid p call q hp ended silent
    have reached : p ++ [call] <+: calls :=
      ((List.prefix_append_right_inj p).mpr (by simp)).trans hp
    have gone := forgets_of_ends (watched_run p) (spares p call reached) ended
    have inv : Watched (runFrom next {} (p ++ [call])) ∧
        Forgets pid (runFrom next {} (p ++ [call])) := by
      refine ⟨watched_run _, ?_⟩
      rwa [runFrom_append]
    have later := EachStep.invariant (I := fun s => Watched s ∧ Forgets pid s)
      (fun call s inv silent => ⟨watched_next inv.1 call, forgets_next inv.1 call inv.2 silent⟩)
      inv silent
    rw [List.append_cons, runFrom_append]
    exact later.2

/-- A process gets a session and listens to the style of drags; then its session is released. -/
def styleListenerLeaves : List ListenerCall :=
  [.sessions ⟨.enable true, rfl⟩,
    .sessions ⟨.allocSocketFd [] 0 20 7 { socketpair := some (3, 4) }, rfl⟩,
    .addSubscriptListener 7,
    .sessions ⟨.releaseSessionByPid 7, rfl⟩]

/-- The process still listens to the style of drags. -/
theorem style_listener_outlives_session : ¬ ∀ calls, ForgetsDead calls := by
  let session : SocketSession := { fd := 3, uid := 20, pid := 7, tokenType := 0, programName := [] }
  intro forgets
  have ended : Ends 7 (.sessions ⟨.releaseSessionByPid 7, rfl⟩)
      (runFrom next {} (styleListenerLeaves.take 3)) :=
    ⟨_, session, rfl, rfl, 3, by decide +kernel, by decide +kernel⟩
  have listens : ⟨.notifyStyle, session⟩ ∈
      (runFrom next {} styleListenerLeaves).stateNotify.msgInfos .notifyStyle := by
    decide +kernel
  exact forgets styleListenerLeaves 7 _ _ [] List.prefix_rfl ended .nil .notifyStyle _ listens rfl

end DragListeners

end DeviceStatus.Drag
