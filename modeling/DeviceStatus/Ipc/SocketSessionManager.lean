import DeviceStatus.Ipc.StreamSessions

/-!
# Sessions of the intention socket

`SocketSessionManager` keeps one session for each process, polls its socket and tells whoever
has asked for it when the session ends. A session ends when its socket hangs up, when it is
released by descriptor or by process, when the collaboration service goes and when the manager
is disabled. All of these go through `NotifySessionDeleted`.

## Main definitions

* `EpollManager` — the sockets that are polled.
* `SocketSessionManager`, `SocketSessionManager.next` — the sessions and what an event makes of
  them.
* `SocketSessionManager.Sound` — the table, the processes and the polled sockets fit together.
* `SocketSessionManager.Drops` — some sessions end, and their callbacks are called.
-/

namespace DeviceStatus.Ipc

open Std (ExtTreeMap)
open Transition.System

structure SocketSession where
  fd : Int32
  uid : Int32
  pid : Int32
  tokenType : Int32
  programName : StdString
  deriving DecidableEq

/-! ## Polling -/

/-- `sources` is the table of the manager, `interest` what the kernel polls. -/
structure EpollManager where
  isOpen : Bool := false
  sources : ExtTreeMap Int32 SocketSession := ∅
  interest : ExtTreeMap Int32 SocketSession := ∅

namespace EpollManager

/-- `Open`; `created` tells whether the kernel gives a new descriptor. -/
def openEpoll (created : Bool) (e : EpollManager) : Bool × EpollManager :=
  if e.isOpen then (true, e)
  else if created then (true, { e with isOpen := true, interest := ∅ })
  else (false, e)

/-- `Close`. The sources stay in the table. -/
def closeEpoll (e : EpollManager) : EpollManager :=
  { e with isOpen := false, interest := ∅ }

/-- `Add`; `added` tells what the kernel answers if the epoll descriptor is open. -/
def add (source : SocketSession) (added : Bool) (e : EpollManager) : Bool × EpollManager :=
  if source.fd ∈ e.sources then (true, e)
  else if e.isOpen = true ∧ source.fd ∉ e.interest ∧ added = true then
    (true, { e with
      sources := e.sources.insert source.fd source
      interest := e.interest.insert source.fd source })
  else (false, e)

def remove (source : SocketSession) (e : EpollManager) : EpollManager :=
  if source.fd ∈ e.sources then
    { e with sources := e.sources.erase source.fd, interest := e.interest.erase source.fd }
  else e

end EpollManager

/-! ## The sessions -/

structure SocketSessionManager where
  epollMgr : EpollManager := {}
  sessions : ExtTreeMap Int32 SocketSession := ∅
  callbacks : ExtTreeMap Int32 SessionCallback := ∅
  /-- the callbacks that have been called -/
  called : List (SessionCallback × SocketSession) := []

namespace SocketSessionManager

/-- The descriptors of the sessions that still exist, in the table or as sources. -/
def openFds (s : SocketSessionManager) : Finset Int32 :=
  (s.sessions.keys ++ s.epollMgr.sources.keys).toFinset

def enable (created : Bool) (s : SocketSessionManager) : Int32 × SocketSessionManager :=
  let (opened, epollMgr) := s.epollMgr.openEpoll created
  if opened = false then (RET_ERR, s) else (RET_OK, { s with epollMgr })

def notifySessionDeleted (session : SocketSession) (s : SocketSessionManager) :
    SocketSessionManager :=
  match s.callbacks[session.pid]? with
  | none => s
  | some callback =>
    { s with
      called := s.called ++ [(callback, session)]
      callbacks := s.callbacks.erase session.pid }

def disable (s : SocketSessionManager) : SocketSessionManager :=
  let s := { s with epollMgr := s.epollMgr.closeEpoll }
  let s := (s.sessions.toList.map Prod.snd).foldl
    (fun s session => s.notifySessionDeleted session) s
  { s with sessions := ∅ }

def findSessionByPid (pid : Int32) (s : SocketSessionManager) : Option SocketSession :=
  (s.sessions.toList.find? fun item => item.2.pid = pid).map Prod.snd

def setBufferSize (answers : SocketAnswers) (sockFd : Int32) (bufSize : Nat) : Bool :=
  answers.setsockopt sockFd .sndBuf bufSize && answers.setsockopt sockFd .rcvBuf bufSize

def addSession (session : SocketSession) (added : Bool) (s : SocketSessionManager) :
    Bool × SocketSessionManager :=
  if MAX_SESSION_ALARM ≤ s.sessions.size then (false, s)
  else if session.fd ∈ s.sessions then (false, s)
  else
    let (polled, epollMgr) := s.epollMgr.add session added
    if polled = false then (false, { s with epollMgr })
    else (true, { s with epollMgr, sessions := s.sessions.insert session.fd session })

/-- `AllocSocketFd`, without the descriptor that the client is given. -/
def allocSocketFd (programName : StdString) (tokenType uid pid : Int32)
    (answers : SocketAnswers) (s : SocketSessionManager) : Int32 × SocketSessionManager :=
  let bufferSize := 32 * 1024
  let nativeBufferSize := 64 * 1024
  if (s.findSessionByPid pid).isSome then (RET_ERR, s)
  else
    match answers.sockFds s.openFds with
    | none => (RET_ERR, s)
    | some (serverFd, clientFd) =>
      if setBufferSize answers serverFd bufferSize = false then (RET_ERR, s)
      else if setBufferSize answers clientFd
          (if tokenType = TOKEN_NATIVE then nativeBufferSize else bufferSize) = false then
        (RET_ERR, s)
      else
        let session := { fd := serverFd, uid, pid, tokenType, programName }
        let (added, s) := s.addSession session answers.addEpoll
        if added = false then (RET_ERR, s) else (RET_OK, s)

/-- The end of a session, as every way to release one session has it. -/
def dropSession (session : SocketSession) (fd : Int32) (s : SocketSessionManager) :
    SocketSessionManager :=
  let s := { s with epollMgr := s.epollMgr.remove session }
  let s := s.notifySessionDeleted session
  { s with sessions := s.sessions.erase fd }

def releaseSession (fd : Int32) (s : SocketSessionManager) : SocketSessionManager :=
  match s.sessions[fd]? with
  | none => s
  | some session => s.dropSession session fd

def collaborationService : StdString := "collaboration_service".toUTF8.toList

def deleteCollaborationServiceByName (s : SocketSessionManager) : SocketSessionManager :=
  match s.sessions.toList.find? fun item => item.2.programName = collaborationService with
  | none => s
  | some (fd, session) => s.dropSession session fd

def releaseSessionByPid (pid : Int32) (s : SocketSessionManager) : SocketSessionManager :=
  match s.sessions.toList.find? fun item => item.2.pid = pid with
  | none => s
  | some (fd, session) => s.dropSession session fd

/-- The loop of `OnEpollIn`: it goes on as long as the buffer is filled. -/
def onEpollIn (fd : Int32) : List Recv → SocketSessionManager → SocketSessionManager
  | .data buf :: recvs, s =>
    if buf.length = MAX_PACKET_BUF_SIZE then onEpollIn fd recvs s else s
  | .closed :: _, s => s.releaseSession fd
  | _, s => s

/-- One turn of `DispatchOne`. -/
def onEpollEvent (ev : Int32 × EpollEvent) (s : SocketSessionManager) : SocketSessionManager :=
  match ev with
  | (fd, .readable recvs) => onEpollIn fd recvs s
  | (fd, .hangup) => s.releaseSession fd

/-- `DispatchOne`, when the kernel reports some sources. -/
def dispatchOne (evs : List (Int32 × EpollEvent)) (s : SocketSessionManager) :
    SocketSessionManager :=
  evs.foldl (fun s ev => s.onEpollEvent ev) s

def addSessionDeletedCallback (pid : Int32) (callback : Option SessionCallback)
    (s : SocketSessionManager) : SocketSessionManager :=
  match callback with
  | none => s
  | some callback => { s with callbacks := s.callbacks.insertIfNew pid callback }

def removeSessionDeletedCallback (pid : Int32) (s : SocketSessionManager) :
    SocketSessionManager :=
  { s with callbacks := s.callbacks.erase pid }

end SocketSessionManager

inductive SocketSessionEvent where
  | enable (created : Bool)
  | disable
  | allocSocketFd (programName : StdString) (tokenType uid pid : Int32) (answers : SocketAnswers)
  | addSessionDeletedCallback (pid : Int32) (callback : Option SessionCallback)
  | removeSessionDeletedCallback (pid : Int32)
  | dispatchOne (evs : List (Int32 × EpollEvent))
  | releaseSession (fd : Int32)
  | releaseSessionByPid (pid : Int32)
  | deleteCollaborationServiceByName

namespace SocketSessionManager

def next (event : SocketSessionEvent) (s : SocketSessionManager) : SocketSessionManager :=
  match event with
  | .enable created => (s.enable created).2
  | .disable => s.disable
  | .allocSocketFd programName tokenType uid pid answers =>
    (s.allocSocketFd programName tokenType uid pid answers).2
  | .addSessionDeletedCallback pid callback => s.addSessionDeletedCallback pid callback
  | .removeSessionDeletedCallback pid => s.removeSessionDeletedCallback pid
  | .dispatchOne evs => s.dispatchOne evs
  | .releaseSession fd => s.releaseSession fd
  | .releaseSessionByPid pid => s.releaseSessionByPid pid
  | .deleteCollaborationServiceByName => s.deleteCollaborationServiceByName

variable {s s' t : SocketSessionManager}

/-! ## What fits together -/

/-- The table, the processes and the polled sockets fit together. -/
structure Sound (s : SocketSessionManager) : Prop where
  bounded : s.sessions.size ≤ MAX_SESSION_ALARM
  ownFd : ∀ (fd : Int32) session, s.sessions[fd]? = some session → session.fd = fd
  perPid : ∀ (fd fd' : Int32) session session', s.sessions[fd]? = some session →
    s.sessions[fd']? = some session' → session.pid = session'.pid → fd = fd'
  polled : s.epollMgr.interest = s.sessions
  sources : ∀ (fd : Int32) session, s.sessions[fd]? = some session →
    s.epollMgr.sources[fd]? = some session
  closed : s.epollMgr.isOpen = false → s.sessions = ∅

/-- Every source is a session: none is left from before the manager was disabled. -/
def NoneStale (s : SocketSessionManager) : Prop := s.epollMgr.sources = s.sessions

/-! ## Sessions that end -/

/-- The callbacks for the sessions of the list are called with them and are gone. -/
structure Tells (told : List SocketSession) (s s' : SocketSessionManager) : Prop where
  callbacks : ∀ pid : Int32, s'.callbacks[pid]? =
    if pid ∈ told.map SocketSession.pid then none else s.callbacks[pid]?
  called : s'.called = s.called ++ told.filterMap fun session =>
    (s.callbacks[session.pid]?).map fun callback => (callback, session)

/-- The sessions of the list, of different processes, end. -/
structure Drops (dropped : List SocketSession) (s s' : SocketSessionManager) : Prop
    extends Tells dropped s s' where
  stored : ∀ session ∈ dropped, s.sessions[session.fd]? = some session
  distinct : (dropped.map SocketSession.pid).Nodup
  sessions : ∀ fd : Int32, s'.sessions[fd]? =
    if fd ∈ dropped.map SocketSession.fd then none else s.sessions[fd]?

theorem Tells.refl (s : SocketSessionManager) : Tells [] s s := by
  constructor <;> simp

theorem Tells.trans {l m : List SocketSession} (first : Tells l s t) (second : Tells m t s')
    (distinct : ((l ++ m).map SocketSession.pid).Nodup) : Tells (l ++ m) s s' where
  callbacks := by
    intro pid
    rw [second.callbacks, first.callbacks]
    grind
  called := by
    have apart : ∀ session ∈ m, session.pid ∉ l.map SocketSession.pid := by
      intro session mem here
      rw [List.map_append, List.nodup_append] at distinct
      exact distinct.2.2 _ here _ (List.mem_map_of_mem mem) rfl
    have same : (m.filterMap fun session =>
        (t.callbacks[session.pid]?).map fun callback => (callback, session)) =
        m.filterMap fun session =>
          (s.callbacks[session.pid]?).map fun callback => (callback, session) := by
      apply List.filterMap_congr
      intro session mem
      rw [first.callbacks, if_neg (apart session mem)]
    rw [second.called, first.called, same, List.filterMap_append, List.append_assoc]

theorem tells_notifySessionDeleted (session : SocketSession) :
    Tells [session] s (s.notifySessionDeleted session) := by
  cases held : s.callbacks[session.pid]? <;>
    constructor <;> simp [notifySessionDeleted, held] <;> grind

/-- Telling about several sessions, by induction on them. -/
theorem tells_foldl {l : List SocketSession} (distinct : (l.map SocketSession.pid).Nodup) :
    Tells l s (l.foldl (fun s session => s.notifySessionDeleted session) s) := by
  induction l generalizing s with
  | nil => exact .refl s
  | cons session l ih =>
    have rest := ih (s := s.notifySessionDeleted session) (List.nodup_cons.mp distinct).2
    exact (tells_notifySessionDeleted session).trans rest distinct

theorem Drops.refl (s : SocketSessionManager) : Drops [] s s where
  toTells := .refl s
  stored := by simp
  distinct := by simp
  sessions := by simp

theorem Drops.trans {l m : List SocketSession} (h : Sound s) (first : Drops l s t)
    (second : Drops m t s') : Drops (l ++ m) s s' := by
  have kept : ∀ session ∈ m, session.fd ∉ l.map SocketSession.fd ∧
      s.sessions[session.fd]? = some session := by
    intro session mem
    have stored := second.stored session mem
    rw [first.sessions] at stored
    split_ifs at stored with here
    exact ⟨here, stored⟩
  have distinct : ((l ++ m).map SocketSession.pid).Nodup := by
    rw [List.map_append, List.nodup_append]
    refine ⟨first.distinct, second.distinct, ?_⟩
    intro pid left pid' right same
    obtain ⟨a, hl, rfl⟩ := List.mem_map.mp left
    obtain ⟨b, hm, rfl⟩ := List.mem_map.mp right
    have fds := h.perPid _ _ a b (first.stored a hl) (kept b hm).2 same
    exact (kept b hm).1 (fds ▸ List.mem_map_of_mem hl)
  refine ⟨first.toTells.trans second.toTells distinct, ?_, distinct, ?_⟩
  · intro session mem
    obtain left | right := List.mem_append.mp mem
    · exact first.stored session left
    · exact (kept session right).2
  · intro fd
    rw [second.sessions, first.sessions]
    grind

@[simp] theorem sessions_notifySessionDeleted (session : SocketSession) :
    (s.notifySessionDeleted session).sessions = s.sessions := by
  grind [notifySessionDeleted]

@[simp] theorem epollMgr_notifySessionDeleted (session : SocketSession) :
    (s.notifySessionDeleted session).epollMgr = s.epollMgr := by
  grind [notifySessionDeleted]

theorem drops_dropSession {fd : Int32} {session : SocketSession} (own : session.fd = fd)
    (stored : s.sessions[fd]? = some session) :
    Drops [session] s (s.dropSession session fd) where
  toTells := by
    have told := tells_notifySessionDeleted (s := { s with
      epollMgr := s.epollMgr.remove session }) session
    exact ⟨told.callbacks, told.called⟩
  stored := by simpa [own] using stored
  distinct := by simp
  sessions := by
    intro k
    simp only [dropSession, sessions_notifySessionDeleted, List.map_cons, List.map_nil,
      List.mem_singleton, own]
    grind

/-- From one state to another sessions have ended, and everything still fits together. -/
structure Ends (s s' : SocketSessionManager) : Prop where
  drops : ∃ dropped, Drops dropped s s'
  sound : Sound s'
  noneStale : NoneStale s → NoneStale s'

theorem Ends.refl (h : Sound s) : Ends s s := ⟨⟨[], .refl s⟩, h, id⟩

theorem Ends.trans (h : Sound s) (first : Ends s t) (second : Ends t s') : Ends s s' := by
  obtain ⟨l, drops⟩ := first.drops
  obtain ⟨m, drops'⟩ := second.drops
  exact ⟨⟨l ++ m, drops.trans h drops'⟩, second.sound, second.noneStale ∘ first.noneStale⟩

theorem ends_dropSession (h : Sound s) {fd : Int32} {session : SocketSession}
    (stored : s.sessions[fd]? = some session) : Ends s (s.dropSession session fd) := by
  have own := h.ownFd fd session stored
  have source := h.sources fd session stored
  subst own
  have mem : session.fd ∈ s.epollMgr.sources := by grind
  have sessions : (s.dropSession session session.fd).sessions = s.sessions.erase session.fd := by
    simp [dropSession]
  have epollMgr : (s.dropSession session session.fd).epollMgr =
      { s.epollMgr with
        sources := s.epollMgr.sources.erase session.fd
        interest := s.epollMgr.interest.erase session.fd } := by
    simp [dropSession, EpollManager.remove, mem]
  refine ⟨⟨_, drops_dropSession rfl stored⟩, ⟨?_, ?_, ?_, ?_, ?_, ?_⟩, ?_⟩
  · rw [sessions]
    exact ExtTreeMap.size_erase_le.trans h.bounded
  · rw [sessions]
    grind [h.ownFd]
  · rw [sessions]
    intro k k' a b live live'
    apply h.perPid k k' a b <;> grind
  · rw [sessions, epollMgr, h.polled]
  · rw [sessions, epollMgr]
    grind [h.sources]
  · rw [sessions, epollMgr]
    intro closed
    rw [h.closed closed]
    grind
  · intro exact
    rw [NoneStale, sessions, epollMgr, exact]

theorem stored_of_find {P : Int32 × SocketSession → Bool} {fd : Int32} {session : SocketSession}
    (found : s.sessions.toList.find? P = some (fd, session)) :
    s.sessions[fd]? = some session :=
  ExtTreeMap.mem_toList_iff_getElem?_eq_some.mp (List.mem_of_find?_eq_some found)

theorem ends_releaseSession (h : Sound s) (fd : Int32) : Ends s (s.releaseSession fd) := by
  cases stored : s.sessions[fd]? with
  | none => simpa [releaseSession, stored] using Ends.refl h
  | some session => simpa [releaseSession, stored] using ends_dropSession h stored

theorem ends_releaseSessionByPid (h : Sound s) (pid : Int32) :
    Ends s (s.releaseSessionByPid pid) := by
  rw [releaseSessionByPid]
  split
  · exact .refl h
  · next found => exact ends_dropSession h (stored_of_find found)

theorem ends_deleteCollaborationServiceByName (h : Sound s) :
    Ends s s.deleteCollaborationServiceByName := by
  rw [deleteCollaborationServiceByName]
  split
  · exact .refl h
  · next found => exact ends_dropSession h (stored_of_find found)

theorem ends_onEpollEvent (h : Sound s) (ev : Int32 × EpollEvent) :
    Ends s (s.onEpollEvent ev) := by
  obtain ⟨fd, ev⟩ := ev
  cases ev with
  | hangup => exact ends_releaseSession h fd
  | readable recvs =>
    change Ends s (onEpollIn fd recvs s)
    fun_induction onEpollIn fd recvs s with
    | case1 s buf recvs full ih => exact ih h
    | case2 s buf recvs => exact .refl h
    | case3 s recvs => exact ends_releaseSession h fd
    | case4 s recvs => exact .refl h

theorem ends_dispatchOne (h : Sound s) (evs : List (Int32 × EpollEvent)) :
    Ends s (s.dispatchOne evs) := by
  induction evs generalizing s with
  | nil => exact .refl h
  | cons ev evs ih =>
    have first := ends_onEpollEvent h ev
    exact first.trans h (ih first.sound)

/-! ## Disabling -/

theorem nodup_pids (h : Sound s) :
    ((s.sessions.toList.map Prod.snd).map SocketSession.pid).Nodup := by
  have distinct := s.sessions.distinct_keys_toList
  rw [List.map_map, List.Nodup, List.pairwise_map]
  apply distinct.imp_of_mem
  intro a b ha hb keys same
  have left := ExtTreeMap.mem_toList_iff_getElem?_eq_some.mp ha
  have right := ExtTreeMap.mem_toList_iff_getElem?_eq_some.mp hb
  have fds := h.perPid _ _ _ _ left right same
  exact keys (by simp [fds])

theorem mem_values {session : SocketSession} :
    session ∈ s.sessions.toList.map Prod.snd ↔ ∃ fd : Int32, s.sessions[fd]? = some session := by
  simp only [List.mem_map, Prod.exists, exists_eq_right]
  exact exists_congr fun fd => ExtTreeMap.mem_toList_iff_getElem?_eq_some

theorem drops_disable (h : Sound s) : Drops (s.sessions.toList.map Prod.snd) s s.disable where
  toTells := by
    have told := tells_foldl (s := { s with epollMgr := s.epollMgr.closeEpoll }) (nodup_pids h)
    exact ⟨told.callbacks, told.called⟩
  stored := by
    intro session mem
    obtain ⟨fd, stored⟩ := mem_values.mp mem
    rwa [h.ownFd fd session stored]
  distinct := nodup_pids h
  sessions := by
    intro fd
    have gone : s.disable.sessions[fd]? = none := by simp [disable]
    rw [gone]
    split_ifs with listed
    · rfl
    · cases stored : s.sessions[fd]? with
      | none => rfl
      | some session =>
        have own := h.ownFd fd session stored
        have mem := List.mem_map_of_mem (f := SocketSession.fd) (mem_values.mpr ⟨fd, stored⟩)
        exact absurd (own ▸ mem) listed

/-- Telling leaves the polled sockets as they are. -/
theorem epollMgr_foldl (l : List SocketSession) :
    (l.foldl (fun s session => s.notifySessionDeleted session) s).epollMgr = s.epollMgr := by
  induction l generalizing s with
  | nil => rfl
  | cons session l ih => simp [ih]

theorem sound_disable : Sound s.disable := by
  have epollMgr : s.disable.epollMgr = s.epollMgr.closeEpoll := epollMgr_foldl _
  have sessions : s.disable.sessions = ∅ := rfl
  refine ⟨?_, ?_, ?_, ?_, ?_, ?_⟩
  · simp [sessions]
  · simp [sessions]
  · simp [sessions]
  · rw [epollMgr, sessions, EpollManager.closeEpoll]
  · simp [sessions]
  · exact fun _ => sessions

/-! ## Allocating -/

variable {programName : StdString} {tokenType uid pid : Int32} {answers : SocketAnswers}

theorem findSessionByPid_eq_none (none : s.findSessionByPid pid = none) {fd : Int32}
    {session : SocketSession} (stored : s.sessions[fd]? = some session) : session.pid ≠ pid := by
  simp only [findSessionByPid, Option.map_eq_none_iff, List.find?_eq_none,
    decide_eq_true_eq] at none
  exact none _ (ExtTreeMap.mem_toList_iff_getElem?_eq_some.mpr stored)

/-- A session is added: the table has room, its descriptor is new and the kernel polls it. -/
theorem addSession_cases {session : SocketSession} {added : Bool}
    (fresh : session.fd ∉ s.epollMgr.sources) :
    s.addSession session added = (false, s) ∨
      (s.sessions.size < MAX_SESSION_ALARM ∧ session.fd ∉ s.sessions ∧
        s.epollMgr.isOpen = true ∧
        s.addSession session added = (true, { s with
          epollMgr := { s.epollMgr with
            sources := s.epollMgr.sources.insert session.fd session
            interest := s.epollMgr.interest.insert session.fd session }
          sessions := s.sessions.insert session.fd session })) := by
  by_cases full : MAX_SESSION_ALARM ≤ s.sessions.size
  · simp [addSession, full]
  by_cases listed : session.fd ∈ s.sessions
  · simp [addSession, full, listed]
  by_cases polls : s.epollMgr.isOpen = true ∧ session.fd ∉ s.epollMgr.interest ∧ added = true
  · refine .inr ⟨Nat.not_le.mp full, listed, polls.1, ?_⟩
    simp [addSession, full, listed, EpollManager.add, fresh, polls]
  · refine .inl ?_
    simp only [addSession, full, listed, EpollManager.add, fresh, polls, if_false, if_true]

/-- An allocation leaves everything as it was, or adds a session for a process that had none. -/
theorem allocSocketFd_cases :
    s.allocSocketFd programName tokenType uid pid answers = (RET_ERR, s) ∨
      ∃ session : SocketSession, session.pid = pid ∧ session.fd ∉ s.epollMgr.sources ∧
        session.fd ∉ s.sessions ∧ s.findSessionByPid pid = none ∧
        s.sessions.size < MAX_SESSION_ALARM ∧ s.epollMgr.isOpen = true ∧
        s.allocSocketFd programName tokenType uid pid answers = (RET_OK, { s with
          epollMgr := { s.epollMgr with
            sources := s.epollMgr.sources.insert session.fd session
            interest := s.epollMgr.interest.insert session.fd session }
          sessions := s.sessions.insert session.fd session }) := by
  cases found : s.findSessionByPid pid with
  | some session => exact .inl (by simp [allocSocketFd, found])
  | none =>
    cases pair : answers.sockFds s.openFds with
    | none => exact .inl (by simp [allocSocketFd, found, pair])
    | some fds =>
      obtain ⟨serverFd, clientFd⟩ := fds
      have fresh : serverFd ∉ s.epollMgr.sources := by
        have given := pair
        simp only [SocketAnswers.sockFds, Option.filter_eq_some_iff, decide_eq_true_eq] at given
        intro mem
        apply given.2.2.2.2.1
        simp [openFds, mem]
      by_cases server : setBufferSize answers serverFd (32 * 1024) = false
      · exact .inl (by simp [allocSocketFd, found, pair, server])
      by_cases client : setBufferSize answers clientFd
          (if tokenType = TOKEN_NATIVE then 64 * 1024 else 32 * 1024) = false
      · exact .inl (by simp [allocSocketFd, found, pair, server, client])
      have added := @addSession_cases s { fd := serverFd, uid, pid, tokenType, programName }
        answers.addEpoll fresh
      obtain failed | ⟨room, new, isOpen, added⟩ := added
      · exact .inl (by simp [allocSocketFd, found, pair, server, client, failed])
      · refine .inr ⟨_, rfl, fresh, new, rfl, room, isOpen, ?_⟩
        simp [allocSocketFd, found, pair, server, client, added]

theorem sound_allocSocketFd (h : Sound s) :
    Sound (s.allocSocketFd programName tokenType uid pid answers).2 := by
  obtain same | ⟨session, process, fresh, new, none, room, isOpen, added⟩ :=
    @allocSocketFd_cases s programName tokenType uid pid answers
  · rw [same]
    exact h
  · rw [added]
    have others {fd : Int32} {other : SocketSession} (stored : s.sessions[fd]? = some other) :
        other.pid ≠ session.pid := by
      rw [process]
      exact findSessionByPid_eq_none none stored
    refine ⟨?_, ?_, ?_, ?_, ?_, ?_⟩
    · exact ExtTreeMap.size_insert_le.trans room
    · grind [h.ownFd]
    · intro k k' a b left right same
      simp only [ExtTreeMap.getElem?_insert] at left right
      grind [h.perPid k k' a b]
    · rw [h.polled]
    · grind [h.sources]
    · intro closed
      simp [isOpen] at closed

theorem sound_enable (h : Sound s) (created : Bool) : Sound (s.enable created).2 := by
  cases isOpen : s.epollMgr.isOpen with
  | true => simpa [enable, EpollManager.openEpoll, isOpen] using h
  | false =>
    have none := h.closed isOpen
    cases created with
    | false => simpa [enable, EpollManager.openEpoll, isOpen] using h
    | true =>
      simp only [enable, EpollManager.openEpoll, isOpen]
      exact ⟨h.bounded, h.ownFd, h.perPid, none.symm, h.sources, fun _ => none⟩

theorem Sound.of_callbacks (h : Sound s) (sessions : t.sessions = s.sessions)
    (epollMgr : t.epollMgr = s.epollMgr) : Sound t := by
  refine ⟨?_, ?_, ?_, ?_, ?_, ?_⟩ <;> rw [sessions] <;> try rw [epollMgr]
  · exact h.bounded
  · exact h.ownFd
  · exact h.perPid
  · exact h.polled
  · exact h.sources
  · exact h.closed

/-! ## Runs -/

/-- The session has been taken out of the table. -/
def Removed (session : SocketSession) (s s' : SocketSessionManager) : Prop :=
  ∃ fd : Int32, s.sessions[fd]? = some session ∧ s'.sessions[fd]? = none

/-- The process whose callback an event sets or takes away. -/
def watched : SocketSessionEvent → Option Int32
  | .addSessionDeletedCallback pid _ => some pid
  | .removeSessionDeletedCallback pid => some pid
  | _ => none

/-- For every session that a step removes, the callback that is held for its process is called
exactly once, with the session, and is gone; other callbacks are not called and stay. -/
structure Notifies (event : SocketSessionEvent) (s : SocketSessionManager) : Prop where
  called : ∃ calls, (next event s).called = s.called ++ calls ∧
    (∀ session callback, Removed session s (next event s) →
      s.callbacks[session.pid]? = some callback → calls.count (callback, session) = 1) ∧
    ∀ call ∈ calls, Removed call.2 s (next event s) ∧ s.callbacks[call.2.pid]? = some call.1
  gone : ∀ session, Removed session s (next event s) →
    (next event s).callbacks[session.pid]? = none
  stay : ∀ pid, (∀ session, Removed session s (next event s) → session.pid ≠ pid) →
    watched event ≠ some pid → (next event s).callbacks[pid]? = s.callbacks[pid]?

/-- An allocation that fails leaves the table and the polled sockets as they were. -/
def FailsClean (event : SocketSessionEvent) (s : SocketSessionManager) : Prop :=
  ∀ programName tokenType uid pid answers,
    event = .allocSocketFd programName tokenType uid pid answers →
      (s.allocSocketFd programName tokenType uid pid answers).1 ≠ RET_OK →
        (next event s).sessions = s.sessions ∧ (next event s).epollMgr = s.epollMgr

/-- The bookkeeping of a run: at any time everything fits together, and as long as the manager
has not been disabled its sources are its sessions; every step notifies whom it should and fails
clean. -/
structure Bookkept (events : List SocketSessionEvent) : Prop where
  sound : ∀ p, p <+: events → Sound (runFrom next {} p)
  sources : ∀ p, p <+: events → .disable ∉ p → NoneStale (runFrom next {} p)
  notifies : EachStep next Notifies {} events
  clean : EachStep next FailsClean {} events

theorem removed_iff {dropped : List SocketSession} (drops : Drops dropped s s')
    {session : SocketSession} : Removed session s s' ↔ session ∈ dropped := by
  constructor
  · rintro ⟨fd, stored, gone⟩
    rw [drops.sessions] at gone
    split_ifs at gone with listed
    · obtain ⟨other, mem, own⟩ := List.mem_map.mp listed
      have same := drops.stored other mem
      rw [own, stored, Option.some.injEq] at same
      rwa [same]
    · simp [stored] at gone
  · intro mem
    refine ⟨session.fd, drops.stored session mem, ?_⟩
    rw [drops.sessions, if_pos (List.mem_map_of_mem mem)]

theorem Drops.notifies {dropped : List SocketSession} {event : SocketSessionEvent}
    (drops : Drops dropped s (next event s)) : Notifies event s where
  called := by
    refine ⟨_, drops.called, ?_, ?_⟩
    · intro session callback removed held
      have mem := (removed_iff drops).mp removed
      apply List.count_eq_one_of_mem
      · apply List.Nodup.filterMap
        · intro a b call ha hb
          simp only [Option.mem_def, Option.map_eq_some_iff] at ha hb
          obtain ⟨_, _, rfl⟩ := ha
          obtain ⟨_, _, same⟩ := hb
          exact (Prod.mk.inj same).2.symm
        · exact drops.distinct.of_map
      · exact List.mem_filterMap.mpr ⟨session, mem, by simp [held]⟩
    · intro call mem
      obtain ⟨session, listed, mapped⟩ := List.mem_filterMap.mp mem
      obtain ⟨callback, held, rfl⟩ := Option.map_eq_some_iff.mp mapped
      exact ⟨(removed_iff drops).mpr listed, held⟩
  gone := by
    intro session removed
    have mem := (removed_iff drops).mp removed
    rw [drops.callbacks, if_pos (List.mem_map_of_mem mem)]
  stay := by
    intro pid others _
    rw [drops.callbacks, if_neg]
    intro listed
    obtain ⟨session, mem, same⟩ := List.mem_map.mp listed
    exact others session ((removed_iff drops).mpr mem) same

/-- A step that removes no session calls nobody. -/
theorem notifies_of_kept {event : SocketSessionEvent}
    (kept : ∀ (fd : Int32) session, s.sessions[fd]? = some session →
      (next event s).sessions[fd]? = some session)
    (called : (next event s).called = s.called)
    (callbacks : ∀ pid, watched event ≠ some pid →
      (next event s).callbacks[pid]? = s.callbacks[pid]?) : Notifies event s := by
  have none : ∀ session, ¬ Removed session s (next event s) := by
    rintro session ⟨fd, stored, gone⟩
    rw [kept fd session stored] at gone
    cases gone
  refine ⟨⟨[], by simpa using called, ?_, ?_⟩, ?_, ?_⟩
  · intro session callback removed
    exact absurd removed (none session)
  · simp
  · intro session removed
    exact absurd removed (none session)
  · intro pid _
    exact callbacks pid

/-- One step, from a state in which everything fits together. -/
structure StepOk (event : SocketSessionEvent) (s : SocketSessionManager) : Prop where
  sound : Sound (next event s)
  noneStale : event ≠ .disable → NoneStale s → NoneStale (next event s)
  notifies : Notifies event s
  clean : FailsClean event s

theorem StepOk.of_ends {event : SocketSessionEvent} (ends : Ends s (next event s))
    (other : ∀ programName tokenType uid pid answers,
      event ≠ .allocSocketFd programName tokenType uid pid answers) : StepOk event s where
  sound := ends.sound
  noneStale := fun _ => ends.noneStale
  notifies := by
    obtain ⟨dropped, drops⟩ := ends.drops
    exact drops.notifies
  clean := by
    intro programName tokenType uid pid answers alloc
    exact absurd alloc (other programName tokenType uid pid answers)

theorem StepOk.of_callbacks (h : Sound s) {event : SocketSessionEvent}
    (sessions : (next event s).sessions = s.sessions)
    (epollMgr : (next event s).epollMgr = s.epollMgr)
    (called : (next event s).called = s.called)
    (callbacks : ∀ pid, watched event ≠ some pid →
      (next event s).callbacks[pid]? = s.callbacks[pid]?) : StepOk event s where
  sound := h.of_callbacks sessions epollMgr
  noneStale := by
    intro _ none
    rw [NoneStale, sessions, epollMgr]
    exact none
  notifies := by
    apply notifies_of_kept _ called callbacks
    intro fd session stored
    rwa [sessions]
  clean := fun _ _ _ _ _ _ _ => ⟨sessions, epollMgr⟩

theorem stepOk_alloc (h : Sound s) :
    StepOk (.allocSocketFd programName tokenType uid pid answers) s := by
  obtain same | ⟨session, -, fresh, new, -, -, -, added⟩ :=
    @allocSocketFd_cases s programName tokenType uid pid answers
  · have unchanged : next (.allocSocketFd programName tokenType uid pid answers) s = s := by
      rw [next, same]
    apply StepOk.of_callbacks h <;> simp [unchanged]
  · have result : next (.allocSocketFd programName tokenType uid pid answers) s = _ :=
      congrArg Prod.snd added
    refine ⟨sound_allocSocketFd h, ?_, ?_, ?_⟩
    · intro _ none
      rw [NoneStale] at none
      rw [result, NoneStale, none]
    · apply notifies_of_kept
      · intro fd other stored
        rw [result]
        grind
      · rw [result]
      · rw [result]
        simp
    · rintro _ _ _ _ _ ⟨⟩ failed
      exact absurd (congrArg Prod.fst added) failed

theorem stepOk_enable (h : Sound s) (created : Bool) : StepOk (.enable created) s where
  sound := sound_enable h created
  noneStale := by
    intro _ none
    rw [NoneStale] at none ⊢
    grind [next, enable, EpollManager.openEpoll]
  notifies := by
    apply notifies_of_kept <;> grind [next, enable]
  clean := by
    rintro _ _ _ _ _ ⟨⟩

theorem stepOk (h : Sound s) (event : SocketSessionEvent) : StepOk event s := by
  cases event with
  | enable created => exact stepOk_enable h created
  | disable =>
    exact ⟨sound_disable, fun other => absurd rfl other, (drops_disable h).notifies,
      fun _ _ _ _ _ alloc => by cases alloc⟩
  | allocSocketFd programName tokenType uid pid answers => exact stepOk_alloc h
  | addSessionDeletedCallback pid callback =>
    cases callback with
    | none => apply StepOk.of_callbacks h <;> simp [next, addSessionDeletedCallback]
    | some callback =>
      apply StepOk.of_callbacks h <;> simp [next, addSessionDeletedCallback, watched]
      grind
  | removeSessionDeletedCallback pid =>
    apply StepOk.of_callbacks h <;> simp [next, removeSessionDeletedCallback, watched]
    grind
  | dispatchOne evs => exact .of_ends (ends_dispatchOne h evs) (by simp)
  | releaseSession fd => exact .of_ends (ends_releaseSession h fd) (by simp)
  | releaseSessionByPid pid => exact .of_ends (ends_releaseSessionByPid h pid) (by simp)
  | deleteCollaborationServiceByName =>
    exact .of_ends (ends_deleteCollaborationServiceByName h) (by simp)

theorem sound_start : Sound {} := by
  refine ⟨?_, ?_, ?_, ?_, ?_, ?_⟩ <;> simp

/-- The bookkeeping of every run. -/
theorem run_bookkept (events : List SocketSessionEvent) : Bookkept events := by
  have sound (p : List SocketSessionEvent) : Sound (runFrom next {} p) :=
    runFrom_invariant (I := Sound) (fun event _ h => (stepOk h event).sound) sound_start p
  have noneStale (p : List SocketSessionEvent) (never : .disable ∉ p) :
      NoneStale (runFrom next {} p) := by
    induction p using List.reverseRecOn with
    | nil => rfl
    | append_singleton p event ih =>
      rw [runFrom_append]
      exact (stepOk (sound p) event).noneStale (by grind) (ih (by grind))
  refine ⟨fun p _ => sound p, fun p _ => noneStale p, ?_, ?_⟩
  · intro p event _
    exact (stepOk (sound p) event).notifies
  · intro p event _
    exact (stepOk (sound p) event).clean

end SocketSessionManager

end DeviceStatus.Ipc
