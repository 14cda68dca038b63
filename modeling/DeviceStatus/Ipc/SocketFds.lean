import DeviceStatus.Ipc.SocketSessionManager
import DeviceStatus.Library.Handles

/-!
# The descriptors of the sessions

`AllocSocketFd` obtains two connected descriptors. The server end becomes that of a session, which
closes it when the last reference to the session goes away; the client end is given to the caller.
An allocation that fails closes both. A session that `AddSession` refuses goes away at the end of
`AllocSocketFd`, after its descriptor has been closed there as well.

## Main definitions

* `SocketFds` — the sessions that exist, and the descriptors of the process with their owners.
* `SocketFds.allocSocketFd`, `SocketFds.next` — the closes that a call issues.
* `SocketFds.ClosesRight` — a step closes what goes away, once, and nothing else.
* `SocketFds.Admitted` — a step that no session is refused in.
-/

namespace DeviceStatus.Ipc

open Std (ExtTreeMap)
open Transition.System

/-- Whom a descriptor of the process belongs to. -/
inductive FdOwner where
  | manager | other
  deriving DecidableEq

/-- An event of the manager, or what the rest of the process does. -/
inductive FdEvent where
  /-- what others are given while the manager is in the middle of a failing allocation -/
  | manage (event : SocketSessionEvent) (meanwhile : List Int32)
  /-- `FindSessionByPid`, of which the caller keeps the reference -/
  | hold (pid : Int32)
  | letGo (session : SocketSession)
  | otherOpen (fd : Int32)
  | otherClose (fd : Int32)

/-- Sessions that exist have different descriptors as long as none of these is closed. -/
structure SocketFds where
  manager : SocketSessionManager := {}
  /-- the sessions that are referred to from elsewhere -/
  held : List SocketSession := []
  /-- with the closes of the manager since the last step began -/
  fds : Handles Int32 FdOwner := {}

namespace SocketFds

/-- The sessions to which there is a reference. -/
def existing (s : SocketFds) : List SocketSession :=
  s.manager.sessions.toList.map Prod.snd ++ s.manager.epollMgr.sources.toList.map Prod.snd ++ s.held

/-- `socketpair`: it fails or gives two numbers that nobody has. -/
def socketpair (answers : SocketAnswers) (s : SocketFds) : Option (Int32 × Int32) :=
  answers.socketpair.filter fun (serverFd, clientFd) =>
    0 ≤ serverFd ∧ 0 ≤ clientFd ∧ serverFd ≠ clientFd ∧
      s.fds.owner serverFd = none ∧ s.fds.owner clientFd = none

def close (fd : Int32) (s : SocketFds) : SocketFds := { s with fds := s.fds.close fd }

/-- The number is given to someone else, unless it is in use. -/
def otherOpen (fd : Int32) (s : SocketFds) : SocketFds :=
  if s.fds.owner fd = none then { s with fds := s.fds.give fd .other } else s

/-- Someone else closes a descriptor of its own. -/
def otherClose (fd : Int32) (s : SocketFds) : SocketFds :=
  if s.fds.owner fd = some .other then
    { s with fds := { s.fds with owner := Function.update s.fds.owner fd none } }
  else s

/-- Both ends belong to the manager. -/
def obtain (serverFd clientFd : Int32) (s : SocketFds) : SocketFds :=
  { s with fds := (s.fds.give serverFd .manager).give clientFd .manager }

/-- `CLOSE_SOCK`. -/
def closeSock (serverFd clientFd : Int32) (s : SocketFds) : SocketFds :=
  (s.close serverFd).close clientFd

/-- The exit of `AllocSocketFd` after `AddSession` has failed: both ends are closed, then the
session goes away, and others may have been given what was closed. -/
def addSessionFail (serverFd clientFd : Int32) (meanwhile : List Int32) (s : SocketFds) :
    SocketFds :=
  let s := if 0 < serverFd then s.close serverFd else s
  let s := if 0 < clientFd then s.close clientFd else s
  let s := meanwhile.foldl (fun s fd => s.otherOpen fd) s
  if 0 ≤ serverFd then s.close serverFd else s

/-- Whether both ends get their buffers. -/
def setsBuffers (answers : SocketAnswers) (tokenType serverFd clientFd : Int32) : Bool :=
  let bufferSize := 32 * 1024
  let nativeBufferSize := 64 * 1024
  SocketSessionManager.setBufferSize answers serverFd bufferSize &&
    SocketSessionManager.setBufferSize answers clientFd
      (if tokenType = TOKEN_NATIVE then nativeBufferSize else bufferSize)

def allocSocketFd (programName : StdString) (tokenType uid pid : Int32) (answers : SocketAnswers)
    (meanwhile : List Int32) (s : SocketFds) : Int32 × SocketFds :=
  if (s.manager.findSessionByPid pid).isSome then (RET_ERR, s)
  else
    match s.socketpair answers with
    | none => (RET_ERR, s)
    | some (serverFd, clientFd) =>
      let s := s.obtain serverFd clientFd
      if setsBuffers answers tokenType serverFd clientFd = false then
        (RET_ERR, s.closeSock serverFd clientFd)
      else
        let session := { fd := serverFd, uid, pid, tokenType, programName }
        let (added, manager) := s.manager.addSession session answers.addEpoll
        let s := { s with manager }
        if added = false then (RET_ERR, s.addSessionFail serverFd clientFd meanwhile)
        else (RET_OK, { s with fds := s.fds.give clientFd .other })

/-- The sessions that have lost their last reference close their descriptors. -/
def destroy (before : List SocketSession) (s : SocketFds) : SocketFds :=
  let gone := before.dedup.filter fun session => session ∉ s.existing ∧ 0 ≤ session.fd
  { s with fds := s.fds.closeAll (gone.map SocketSession.fd) }

def manage (event : SocketSessionEvent) (meanwhile : List Int32) (s : SocketFds) : SocketFds :=
  match event with
  | .allocSocketFd programName tokenType uid pid answers =>
    (s.allocSocketFd programName tokenType uid pid answers meanwhile).2
  | event => { s with manager := s.manager.next event }.destroy s.existing

def hold (pid : Int32) (s : SocketFds) : SocketFds :=
  { s with held := (s.manager.findSessionByPid pid).toList ++ s.held }

def letGo (session : SocketSession) (s : SocketFds) : SocketFds :=
  { s with held := s.held.erase session }.destroy s.existing

/-- A step begins. -/
def begin (s : SocketFds) : SocketFds := { s with fds := { s.fds with closes := [] } }

def step (event : FdEvent) (s : SocketFds) : SocketFds :=
  match event with
  | .manage event meanwhile => s.manage event meanwhile
  | .hold pid => s.hold pid
  | .letGo session => s.letGo session
  | .otherOpen fd => s.otherOpen fd
  | .otherClose fd => s.otherClose fd

def next (event : FdEvent) (s : SocketFds) : SocketFds := s.begin.step event

/-- The ends that an allocation obtains and, as it fails, does not leave to anyone. -/
def unused (event : FdEvent) (s : SocketFds) : List Int32 :=
  match event with
  | .manage (.allocSocketFd programName tokenType uid pid answers) meanwhile =>
    if (s.manager.findSessionByPid pid).isSome ∨
        (s.begin.allocSocketFd programName tokenType uid pid answers meanwhile).1 = RET_OK then []
    else (s.socketpair answers).elim [] fun (serverFd, clientFd) => [serverFd, clientFd]
  | _ => []

/-- The descriptor is that of a session whose last reference goes away. -/
def Lost (event : FdEvent) (s : SocketFds) (fd : Int32) : Prop :=
  ∃ session ∈ s.existing, session ∉ (s.next event).existing ∧ session.fd = fd

/-- The step closes the descriptors of the sessions that go away and of an allocation that fails,
each once and while it belongs to the manager, and no others. -/
structure ClosesRight (event : FdEvent) (s : SocketFds) : Prop where
  owned : ∀ c ∈ (s.next event).fds.closes, c.2 = some .manager
  once : ((s.next event).fds.closes.map Prod.fst).Nodup
  closed : ∀ fd, fd ∈ (s.next event).fds.closes.map Prod.fst ↔
    s.Lost event fd ∨ fd ∈ s.unused event

/-- The manager has room for a session and polls, and the kernel agrees. -/
def Admits (answers : SocketAnswers) (s : SocketFds) : Prop :=
  s.manager.sessions.size < MAX_SESSION_ALARM ∧ s.manager.epollMgr.isOpen = true ∧
    answers.addEpoll = true

/-- An allocation that gets as far as the session has it admitted, or its server end is number 0,
which is not closed by hand. -/
def Admitted (event : FdEvent) (s : SocketFds) : Prop :=
  ∀ programName tokenType uid pid answers meanwhile serverFd clientFd,
    event = .manage (.allocSocketFd programName tokenType uid pid answers) meanwhile →
      s.manager.findSessionByPid pid = none →
        s.socketpair answers = some (serverFd, clientFd) →
          setsBuffers answers tokenType serverFd clientFd = true →
            s.Admits answers ∨ serverFd = 0

/-- The descriptors of the manager are those of the sessions that exist. -/
structure Owned (s : SocketFds) : Prop where
  sound : s.manager.Sound
  sourceFd : ∀ (fd : Int32) session, s.manager.epollMgr.sources[fd]? = some session →
    session.fd = fd
  valid : ∀ session ∈ s.existing, 0 ≤ session.fd
  unique : ∀ a ∈ s.existing, ∀ b ∈ s.existing, a.fd = b.fd → a = b
  owns : ∀ fd, s.fds.owner fd = some .manager ↔ ∃ session ∈ s.existing, session.fd = fd

variable {s : SocketFds} {m m' : SocketSessionManager} {fd serverFd clientFd : Int32}

theorem mem_existing {session : SocketSession} : session ∈ s.existing ↔
    (∃ fd : Int32, s.manager.sessions[fd]? = some session) ∨
      (∃ fd : Int32, s.manager.epollMgr.sources[fd]? = some session) ∨ session ∈ s.held := by
  simp only [existing, List.append_assoc, List.mem_append, List.mem_map, Prod.exists,
    exists_eq_right, ExtTreeMap.mem_toList_iff_getElem?_eq_some]

/-! ### Sessions that go away -/

/-- No reference to a session is new. -/
structure Shrinks (m m' : SocketSessionManager) : Prop where
  sessions : ∀ (fd : Int32) session, m'.sessions[fd]? = some session →
    m.sessions[fd]? = some session
  sources : ∀ (fd : Int32) session, m'.epollMgr.sources[fd]? = some session →
    m.epollMgr.sources[fd]? = some session

theorem Shrinks.of_eq (sessions : m'.sessions = m.sessions)
    (sources : m'.epollMgr.sources = m.epollMgr.sources) : Shrinks m m' := by
  constructor
  · rw [sessions]
    exact fun _ _ => id
  · rw [sources]
    exact fun _ _ => id

theorem Shrinks.trans {m'' : SocketSessionManager} (first : Shrinks m m')
    (second : Shrinks m' m'') : Shrinks m m'' :=
  ⟨fun fd session live => first.sessions fd session (second.sessions fd session live),
    fun fd session live => first.sources fd session (second.sources fd session live)⟩

theorem shrinks_dropSession (session : SocketSession) (fd : Int32) :
    Shrinks m (m.dropSession session fd) := by
  have sessions : (m.dropSession session fd).sessions = m.sessions.erase fd := by
    simp [SocketSessionManager.dropSession]
  have epollMgr : (m.dropSession session fd).epollMgr = m.epollMgr.remove session := by
    simp [SocketSessionManager.dropSession]
  constructor
  · rw [sessions]
    grind
  · rw [epollMgr, EpollManager.remove]
    grind

theorem shrinks_releaseSession (fd : Int32) : Shrinks m (m.releaseSession fd) := by
  rw [SocketSessionManager.releaseSession]
  split
  · exact .of_eq rfl rfl
  · exact shrinks_dropSession _ fd

theorem shrinks_onEpollEvent (ev : Int32 × EpollEvent) : Shrinks m (m.onEpollEvent ev) := by
  obtain ⟨fd, ev⟩ := ev
  cases ev with
  | hangup => exact shrinks_releaseSession fd
  | readable recvs =>
    change Shrinks m (SocketSessionManager.onEpollIn fd recvs m)
    fun_induction SocketSessionManager.onEpollIn fd recvs m with
    | case1 m buf recvs full ih => exact ih
    | case2 m buf recvs => exact .of_eq rfl rfl
    | case3 m recvs => exact shrinks_releaseSession fd
    | case4 m recvs => exact .of_eq rfl rfl

theorem shrinks_dispatchOne (evs : List (Int32 × EpollEvent)) : Shrinks m (m.dispatchOne evs) := by
  induction evs generalizing m with
  | nil => exact .of_eq rfl rfl
  | cons ev evs ih => exact (shrinks_onEpollEvent ev).trans ih

/-- Only an allocation makes a new reference. -/
theorem shrinks_next {event : SocketSessionEvent}
    (other : ∀ programName tokenType uid pid answers,
      event ≠ .allocSocketFd programName tokenType uid pid answers) :
    Shrinks m (m.next event) := by
  cases event with
  | enable created =>
    change Shrinks m (m.enable created).2
    constructor <;> grind [SocketSessionManager.enable, EpollManager.openEpoll]
  | disable =>
    constructor
    · intro fd session live
      exact absurd live (by simp [SocketSessionManager.next, SocketSessionManager.disable])
    · intro fd session live
      have same : m.disable.epollMgr = m.epollMgr.closeEpoll :=
        SocketSessionManager.epollMgr_foldl _
      change m.disable.epollMgr.sources[fd]? = some session at live
      rwa [same] at live
  | allocSocketFd programName tokenType uid pid answers => exact (other _ _ _ _ _ rfl).elim
  | addSessionDeletedCallback pid callback => cases callback <;> exact .of_eq rfl rfl
  | removeSessionDeletedCallback pid => exact .of_eq rfl rfl
  | dispatchOne evs => exact shrinks_dispatchOne evs
  | releaseSession fd => exact shrinks_releaseSession fd
  | releaseSessionByPid pid =>
    change Shrinks m (m.releaseSessionByPid pid)
    rw [SocketSessionManager.releaseSessionByPid]
    split
    · exact .of_eq rfl rfl
    · exact shrinks_dropSession ..
  | deleteCollaborationServiceByName =>
    change Shrinks m m.deleteCollaborationServiceByName
    rw [SocketSessionManager.deleteCollaborationServiceByName]
    split
    · exact .of_eq rfl rfl
    · exact shrinks_dropSession ..

/-- What the sessions that go away leave behind. -/
structure Settles (s s' : SocketFds) : Prop where
  owned : Owned s'
  closes : ∃ fds : List Int32, fds.Nodup ∧
    s'.fds.closes = s.fds.closes ++ fds.map (fun fd => (fd, some .manager)) ∧
    ∀ fd, fd ∈ fds ↔ ∃ session ∈ s.existing, session ∉ s'.existing ∧ session.fd = fd

/-- Sessions that lose their last references close their descriptors. -/
theorem Owned.destroy (h : Owned s) (held : List SocketSession) (sound : m.Sound)
    (shrinks : Shrinks s.manager m) (fewer : ∀ session ∈ held, session ∈ s.held) :
    Settles s ({ s with manager := m, held := held }.destroy s.existing) := by
  let t : SocketFds := { s with manager := m, held := held }
  have kept : ∀ session ∈ t.existing, session ∈ s.existing := by
    intro session live
    obtain ⟨fd, live⟩ | ⟨fd, live⟩ | live := mem_existing.mp live
    · exact mem_existing.mpr (.inl ⟨fd, shrinks.sessions fd session live⟩)
    · exact mem_existing.mpr (.inr (.inl ⟨fd, shrinks.sources fd session live⟩))
    · exact mem_existing.mpr (.inr (.inr (fewer session live)))
  let gone := s.existing.dedup.filter fun session => session ∉ t.existing ∧ 0 ≤ session.fd
  have mem_gone : ∀ session, session ∈ gone ↔ session ∈ s.existing ∧ session ∉ t.existing := by
    intro session
    simp only [gone, List.mem_filter, List.mem_dedup, decide_eq_true_eq]
    constructor
    · rintro ⟨live, lost, -⟩
      exact ⟨live, lost⟩
    · rintro ⟨live, lost⟩
      exact ⟨live, lost, h.valid session live⟩
  have mem_fds : ∀ fd, fd ∈ gone.map SocketSession.fd ↔
      ∃ session ∈ s.existing, session ∉ t.existing ∧ session.fd = fd := by
    intro fd
    simp only [List.mem_map, mem_gone, and_assoc]
  have distinct : (gone.map SocketSession.fd).Nodup := by
    apply List.Nodup.map_on _ ((List.nodup_dedup _).filter _)
    intro a ha b hb same
    exact h.unique a ((mem_gone a).mp ha).1 b ((mem_gone b).mp hb).1 same
  have closes : (t.destroy s.existing).fds.closes =
      s.fds.closes ++ (gone.map SocketSession.fd).map fun fd => (fd, s.fds.owner fd) :=
    Handles.closes_closeAll distinct
  have owner : ∀ fd, (t.destroy s.existing).fds.owner fd =
      if fd ∈ gone.map SocketSession.fd then none else s.fds.owner fd :=
    Handles.owner_closeAll
  refine ⟨⟨sound, ?_, ?_, ?_, ?_⟩, gone.map SocketSession.fd, distinct, ?_, mem_fds⟩
  · intro fd session live
    exact h.sourceFd fd session (shrinks.sources fd session live)
  · intro session live
    exact h.valid session (kept session live)
  · intro a ha b hb
    exact h.unique a (kept a ha) b (kept b hb)
  · intro fd
    rw [owner]
    constructor
    · intro own
      split_ifs at own with closed
      obtain ⟨session, live, rfl⟩ := (h.owns fd).mp own
      refine ⟨session, ?_, rfl⟩
      by_contra lost
      exact closed ((mem_fds _).mpr ⟨session, live, lost, rfl⟩)
    · rintro ⟨session, live, rfl⟩
      rw [if_neg]
      · exact (h.owns _).mpr ⟨session, kept session live, rfl⟩
      · rw [mem_fds]
        rintro ⟨other, existed, lost, same⟩
        exact lost (h.unique other existed session (kept session live) same ▸ live)
  · rw [closes]
    congr 1
    apply List.map_congr_left
    intro fd mem
    obtain ⟨session, live, -, rfl⟩ := (mem_fds fd).mp mem
    rw [(h.owns _).mpr ⟨session, live, rfl⟩]

theorem Owned.of_owner (h : Owned s) {t : SocketFds} (manager : t.manager = s.manager)
    (existing : ∀ session, session ∈ t.existing ↔ session ∈ s.existing)
    (owner : ∀ fd, t.fds.owner fd = some .manager ↔ s.fds.owner fd = some .manager) : Owned t := by
  refine ⟨manager ▸ h.sound, manager ▸ h.sourceFd, ?_, ?_, ?_⟩
  · intro session live
    exact h.valid session ((existing session).mp live)
  · intro a ha b hb
    exact h.unique a ((existing a).mp ha) b ((existing b).mp hb)
  · intro fd
    rw [owner, h.owns]
    exact exists_congr fun session => and_congr_left' (existing session).symm

theorem existing_congr {t : SocketFds} (manager : t.manager = s.manager) (held : t.held = s.held)
    (session : SocketSession) : session ∈ t.existing ↔ session ∈ s.existing := by
  rw [existing, existing, manager, held]

/-! ### Others -/

theorem otherOpen_eq (fd : Int32) (s : SocketFds) :
    (s.otherOpen fd).manager = s.manager ∧ (s.otherOpen fd).held = s.held ∧
      (s.otherOpen fd).fds.closes = s.fds.closes ∧
      ∀ k, (s.otherOpen fd).fds.owner k = some .manager ↔ s.fds.owner k = some .manager := by
  by_cases free : s.fds.owner fd = none
  · simp only [otherOpen, free, if_true, Handles.closes_give, Handles.owner_give, true_and]
    intro k
    by_cases here : k = fd <;> simp [here, free]
  · simp [otherOpen, free]

theorem otherClose_eq (fd : Int32) (s : SocketFds) :
    (s.otherClose fd).manager = s.manager ∧ (s.otherClose fd).held = s.held ∧
      (s.otherClose fd).fds.closes = s.fds.closes ∧
      ∀ k, (s.otherClose fd).fds.owner k = some .manager ↔ s.fds.owner k = some .manager := by
  by_cases other : s.fds.owner fd = some .other
  · simp only [otherClose, other, if_true, Function.update_apply, true_and]
    intro k
    by_cases here : k = fd <;> simp [here, other]
  · simp [otherClose, other]

/-- What others are given was not the manager's. -/
theorem othersOpen_eq (fds : List Int32) (s : SocketFds) :
    let s' := fds.foldl (fun s fd => s.otherOpen fd) s
    s'.manager = s.manager ∧ s'.held = s.held ∧ s'.fds.closes = s.fds.closes ∧
      ∀ k, s'.fds.owner k = some .manager ↔ s.fds.owner k = some .manager := by
  induction fds generalizing s with
  | nil => simp
  | cons fd fds ih =>
    obtain ⟨manager, held, closes, owner⟩ := otherOpen_eq fd s
    obtain ⟨manager', held', closes', owner'⟩ := ih (s.otherOpen fd)
    exact ⟨manager'.trans manager, held'.trans held, closes'.trans closes,
      fun k => (owner' k).trans (owner k)⟩

/-! ### Allocations -/

theorem socketpair_eq_some {answers : SocketAnswers}
    (pair : s.socketpair answers = some (serverFd, clientFd)) :
    0 ≤ serverFd ∧ 0 ≤ clientFd ∧ serverFd ≠ clientFd ∧
      s.fds.owner serverFd = none ∧ s.fds.owner clientFd = none := by
  simp only [socketpair, Option.filter_eq_some_iff, decide_eq_true_eq] at pair
  exact pair.2

theorem Owned.ne_of_free (h : Owned s) (free : s.fds.owner fd = none) {session : SocketSession}
    (live : session ∈ s.existing) : session.fd ≠ fd := by
  intro same
  have own := (h.owns fd).mpr ⟨session, live, same⟩
  rw [free] at own
  cases own

/-- A number that nobody has is not that of a session. -/
theorem Owned.fresh (h : Owned s) (free : s.fds.owner fd = none) :
    fd ∉ s.manager.sessions ∧ fd ∉ s.manager.epollMgr.sources ∧
      fd ∉ s.manager.epollMgr.interest := by
  have unlisted : fd ∉ s.manager.sessions := by
    intro listed
    rw [ExtTreeMap.mem_iff_isSome_getElem?, Option.isSome_iff_exists] at listed
    obtain ⟨session, stored⟩ := listed
    exact h.ne_of_free free (mem_existing.mpr (.inl ⟨fd, stored⟩))
      (h.sound.ownFd fd session stored)
  refine ⟨unlisted, ?_, h.sound.polled ▸ unlisted⟩
  intro listed
  rw [ExtTreeMap.mem_iff_isSome_getElem?, Option.isSome_iff_exists] at listed
  obtain ⟨session, stored⟩ := listed
  exact h.ne_of_free free (mem_existing.mpr (.inr (.inl ⟨fd, stored⟩)))
    (h.sourceFd fd session stored)

/-- The table with one session more. -/
def added (session : SocketSession) (m : SocketSessionManager) : SocketSessionManager :=
  { m with
    epollMgr := { m.epollMgr with
      sources := m.epollMgr.sources.insert session.fd session
      interest := m.epollMgr.interest.insert session.fd session }
    sessions := m.sessions.insert session.fd session }

/-- A session of a number that nobody has is added if it is admitted. -/
theorem Owned.addSession_eq (h : Owned s) (session : SocketSession)
    (free : s.fds.owner session.fd = none) (answers : SocketAnswers) :
    (s.Admits answers ∧
        s.manager.addSession session answers.addEpoll = (true, added session s.manager)) ∨
      ¬ s.Admits answers ∧
        s.manager.addSession session answers.addEpoll = (false, s.manager) := by
  obtain ⟨unlisted, noSource, unpolled⟩ := h.fresh free
  rcases Nat.lt_or_ge s.manager.sessions.size MAX_SESSION_ALARM with room | full
  · cases isOpen : s.manager.epollMgr.isOpen <;> cases polls : answers.addEpoll <;>
      simp [Admits, SocketSessionManager.addSession, EpollManager.add, Nat.not_le.mpr room, room,
        unlisted, noSource, unpolled, isOpen, polls, added]
  · refine .inr ⟨fun admits => absurd admits.1 (Nat.not_lt.mpr full), ?_⟩
    simp [SocketSessionManager.addSession, full]

theorem closeSock_eq (ne : serverFd ≠ clientFd) (serverFree : s.fds.owner serverFd = none)
    (clientFree : s.fds.owner clientFd = none) :
    let s' := (s.obtain serverFd clientFd).closeSock serverFd clientFd
    s'.fds.closes = s.fds.closes ++ [(serverFd, some .manager), (clientFd, some .manager)] ∧
      ∀ k, s'.fds.owner k = s.fds.owner k := by
  refine ⟨by simp [closeSock, close, obtain, ne, ne.symm], fun k => ?_⟩
  by_cases server : k = serverFd
  · simp [closeSock, close, obtain, server, serverFree]
  by_cases client : k = clientFd <;> simp [closeSock, close, obtain, server, client, clientFree]

/-- What the exit leaves when the server end is number 0. -/
theorem addSessionFail_zero (client : 0 < clientFd) (own : s.fds.owner 0 = some .manager)
    (meanwhile : List Int32) :
    let s' := s.addSessionFail 0 clientFd meanwhile
    s'.manager = s.manager ∧ s'.held = s.held ∧
      s'.fds.closes = s.fds.closes ++ [(clientFd, s.fds.owner clientFd), (0, some .manager)] ∧
      ∀ k, s'.fds.owner k = some .manager ↔
        s.fds.owner k = some .manager ∧ k ≠ 0 ∧ k ≠ clientFd := by
  obtain ⟨manager, held, closes, owner⟩ := othersOpen_eq meanwhile (s.close clientFd)
  have ne : (0 : Int32) ≠ clientFd := Int32.ne_of_lt client
  have own' := (owner 0).mpr (by simpa [close, ne] using own)
  simp only [addSessionFail, client, Int32.lt_irrefl, Int32.le_refl, if_true, if_false]
  refine ⟨manager, held, ?_, ?_⟩
  · rw [close, Handles.closes_close, closes, own']
    simp [close]
  · intro k
    rw [close, Handles.owner_close]
    by_cases zero : k = 0
    · simp [zero]
    · rw [if_neg zero, owner, close, Handles.owner_close]
      by_cases other : k = clientFd <;> simp [zero, other]

theorem manager_addSessionFail (clientFd : Int32) (meanwhile : List Int32) :
    (s.addSessionFail serverFd clientFd meanwhile).manager = s.manager := by
  simp only [addSessionFail, close]
  split_ifs <;> exact (othersOpen_eq meanwhile _).1

/-- The exit closes another server end twice. -/
theorem addSessionFail_twice (server : 0 < serverFd) (clientFd : Int32) (meanwhile : List Int32) :
    ¬ ((s.addSessionFail serverFd clientFd meanwhile).fds.closes.map Prod.fst).Nodup := by
  let t := if 0 < clientFd then (s.close serverFd).close clientFd else s.close serverFd
  obtain ⟨-, -, closes, -⟩ := othersOpen_eq meanwhile t
  have mem : serverFd ∈ t.fds.closes.map Prod.fst := by
    simp only [t]
    split_ifs <;> simp [close]
  have last : (s.addSessionFail serverFd clientFd meanwhile).fds.closes.map Prod.fst =
      t.fds.closes.map Prod.fst ++ [serverFd] := by
    simp only [addSessionFail, server, Int32.le_of_lt server, if_true]
    rw [close, Handles.closes_close, closes, List.map_append]
    rfl
  rw [last]
  intro distinct
  exact (List.nodup_append.mp distinct).2.2 serverFd mem serverFd (List.mem_singleton_self _) rfl

/-! ### Steps -/

variable {event : FdEvent}

/-- A step in which no session goes away closes what an allocation leaves. -/
theorem ClosesRight.of_kept (fds : List Int32)
    (kept : ∀ session ∈ s.existing, session ∈ (s.next event).existing)
    (closes : (s.next event).fds.closes = fds.map fun fd => (fd, some .manager))
    (distinct : fds.Nodup) (mem : ∀ fd, fd ∈ fds ↔ fd ∈ s.unused event) : ClosesRight event s := by
  have numbers : (s.next event).fds.closes.map Prod.fst = fds := by
    rw [closes, List.map_map]
    exact List.map_id fds
  constructor
  · rw [closes]
    intro c mem
    obtain ⟨fd, -, rfl⟩ := List.mem_map.mp mem
    rfl
  · rwa [numbers]
  · intro fd
    rw [numbers, mem]
    constructor
    · exact .inr
    · rintro (⟨session, live, lost, -⟩ | unused)
      · exact absurd (kept session live) lost
      · exact unused

/-- A step that leaves the sessions as they are. -/
theorem Owned.of_same (h : Owned s) (event : FdEvent) (fds : List Int32)
    (manager : (s.next event).manager = s.manager)
    (existing : ∀ session, session ∈ (s.next event).existing ↔ session ∈ s.existing)
    (owner : ∀ fd, (s.next event).fds.owner fd = some .manager ↔ s.fds.owner fd = some .manager)
    (closes : (s.next event).fds.closes = fds.map fun fd => (fd, some .manager))
    (distinct : fds.Nodup) (mem : ∀ fd, fd ∈ fds ↔ fd ∈ s.unused event) :
    ClosesRight event s ∧ Owned (s.next event) :=
  ⟨.of_kept fds (fun session => (existing session).mpr) closes distinct mem,
    h.of_owner manager existing owner⟩

theorem ClosesRight.of_settles (settles : Settles s.begin (s.next event))
    (unused : s.unused event = []) : ClosesRight event s := by
  obtain ⟨-, fds, distinct, closes, mem⟩ := settles
  have numbers : (s.next event).fds.closes.map Prod.fst = fds := by
    rw [closes, List.map_append, List.map_map]
    exact List.map_id fds
  constructor
  · rw [closes]
    intro c mem
    simp only [begin, List.nil_append, List.mem_map] at mem
    obtain ⟨fd, -, rfl⟩ := mem
    rfl
  · rwa [numbers]
  · intro fd
    rw [numbers, mem, unused]
    simp only [List.not_mem_nil, or_false]
    rfl

theorem Owned.begin (h : Owned s) : Owned s.begin :=
  h.of_owner rfl (fun _ => Iff.rfl) fun _ => Iff.rfl

section Alloc

variable (programName : StdString) (tokenType uid pid : Int32) (answers : SocketAnswers)
  (meanwhile : List Int32)

theorem admitted_alloc_iff :
    Admitted (.manage (.allocSocketFd programName tokenType uid pid answers) meanwhile) s ↔
      (s.manager.findSessionByPid pid = none → ∀ serverFd clientFd,
        s.socketpair answers = some (serverFd, clientFd) →
          setsBuffers answers tokenType serverFd clientFd = true →
            s.Admits answers ∨ serverFd = 0) := by
  constructor
  · intro admitted none serverFd clientFd
    exact admitted _ _ _ _ _ _ serverFd clientFd rfl none
  · rintro admitted _ _ _ _ _ _ serverFd clientFd ⟨⟩ none
    exact admitted none serverFd clientFd

/-- How far an allocation gets. -/
theorem Owned.allocSocketFd_cases (h : Owned s) :
    (s.allocSocketFd programName tokenType uid pid answers meanwhile = (RET_ERR, s) ∧
        (s.manager.findSessionByPid pid = none → s.socketpair answers = none)) ∨
      ∃ serverFd clientFd, s.manager.findSessionByPid pid = none ∧
        s.socketpair answers = some (serverFd, clientFd) ∧
        ((setsBuffers answers tokenType serverFd clientFd = false ∧
            s.allocSocketFd programName tokenType uid pid answers meanwhile =
              (RET_ERR, (s.obtain serverFd clientFd).closeSock serverFd clientFd)) ∨
          (setsBuffers answers tokenType serverFd clientFd = true ∧ ¬ s.Admits answers ∧
            s.allocSocketFd programName tokenType uid pid answers meanwhile =
              (RET_ERR, (s.obtain serverFd clientFd).addSessionFail serverFd clientFd
                meanwhile)) ∨
          setsBuffers answers tokenType serverFd clientFd = true ∧ s.Admits answers ∧
            ∃ session : SocketSession, session.fd = serverFd ∧
              s.allocSocketFd programName tokenType uid pid answers meanwhile =
                (RET_OK, { s with
                  manager := added session s.manager
                  fds := (s.obtain serverFd clientFd).fds.give clientFd .other })) := by
  cases found : s.manager.findSessionByPid pid with
  | some session => exact .inl ⟨by simp [allocSocketFd, found], fun none => by cases none⟩
  | none =>
    cases pair : s.socketpair answers with
    | none => exact .inl ⟨by simp [allocSocketFd, found, pair], fun _ => rfl⟩
    | some fds =>
      obtain ⟨serverFd, clientFd⟩ := fds
      obtain ⟨-, -, -, serverFree, -⟩ := socketpair_eq_some pair
      refine .inr ⟨serverFd, clientFd, rfl, rfl, ?_⟩
      cases buffers : setsBuffers answers tokenType serverFd clientFd with
      | false => exact .inl ⟨rfl, by simp [allocSocketFd, found, pair, buffers]⟩
      | true =>
        let session : SocketSession := { fd := serverFd, uid, pid, tokenType, programName }
        obtain ⟨admits, eq⟩ | ⟨refused, eq⟩ := h.addSession_eq session serverFree answers
        · refine .inr (.inr ⟨rfl, admits, session, rfl, ?_⟩)
          simp [allocSocketFd, found, pair, buffers, obtain, eq, session]
        · refine .inr (.inl ⟨rfl, refused, ?_⟩)
          simp [allocSocketFd, found, pair, buffers, obtain, eq, session]

/-- The kernel gives the manager a pair that it can do with. -/
theorem Owned.sockFds_eq (h : Owned s) :
    ({ answers with socketpair := s.socketpair answers } : SocketAnswers).sockFds
      s.manager.openFds = s.socketpair answers := by
  cases pair : s.socketpair answers with
  | none => rfl
  | some fds =>
    obtain ⟨serverFd, clientFd⟩ := fds
    obtain ⟨server, client, ne, serverFree, clientFree⟩ := socketpair_eq_some pair
    have unopened {fd : Int32} (free : s.fds.owner fd = none) : fd ∉ s.manager.openFds := by
      obtain ⟨unlisted, noSource, -⟩ := h.fresh free
      simp [SocketSessionManager.openFds, unlisted, noSource]
    simp [SocketAnswers.sockFds, server, client, ne, unopened serverFree, unopened clientFree]

/-- The sessions are those of `SocketSessionManager` with the numbers that the kernel gives. -/
theorem Owned.manager_allocSocketFd (h : Owned s) :
    (s.allocSocketFd programName tokenType uid pid answers meanwhile).2.manager =
      (s.manager.allocSocketFd programName tokenType uid pid
        { answers with socketpair := s.socketpair answers }).2 := by
  have sockFds := h.sockFds_eq answers
  cases found : s.manager.findSessionByPid pid with
  | some session => simp [allocSocketFd, SocketSessionManager.allocSocketFd, found]
  | none =>
    cases pair : s.socketpair answers with
    | none =>
      rw [pair] at sockFds
      simp [allocSocketFd, SocketSessionManager.allocSocketFd, found, pair, sockFds]
    | some fds =>
      obtain ⟨serverFd, clientFd⟩ := fds
      rw [pair] at sockFds
      obtain ⟨-, -, -, serverFree, -⟩ := socketpair_eq_some pair
      let session : SocketSession := { fd := serverFd, uid, pid, tokenType, programName }
      have buffer (fd : Int32) (size : ℕ) : SocketSessionManager.setBufferSize
          { answers with socketpair := some (serverFd, clientFd) } fd size =
            SocketSessionManager.setBufferSize answers fd size := rfl
      simp only [SocketSessionManager.allocSocketFd, allocSocketFd, found, pair, sockFds, buffer,
        Option.isSome_none, Bool.false_eq_true, if_false, setsBuffers, Bool.and_eq_false_iff]
      cases server : SocketSessionManager.setBufferSize answers serverFd (32 * 1024) with
      | false => simp [closeSock, close, obtain]
      | true =>
        cases client : SocketSessionManager.setBufferSize answers clientFd
            (if tokenType = TOKEN_NATIVE then 64 * 1024 else 32 * 1024) with
        | false => simp [closeSock, close, obtain]
        | true =>
          obtain ⟨-, eq⟩ | ⟨-, eq⟩ := h.addSession_eq session serverFree answers
          · simp [obtain, eq, session]
          · simp [obtain, eq, session, manager_addSessionFail]

theorem exists_insert {sessions : ExtTreeMap Int32 SocketSession} (fresh : fd ∉ sessions)
    {session other : SocketSession} :
    (∃ k : Int32, (sessions.insert fd session)[k]? = some other) ↔
      other = session ∨ ∃ k : Int32, sessions[k]? = some other := by
  constructor
  · rintro ⟨k, stored⟩
    rw [ExtTreeMap.getElem?_insert] at stored
    split_ifs at stored
    · exact .inl (Option.some.inj stored).symm
    · exact .inr ⟨k, stored⟩
  · rintro (rfl | ⟨k, stored⟩)
    · exact ⟨fd, by simp⟩
    · refine ⟨k, ?_⟩
      rw [ExtTreeMap.getElem?_insert, if_neg, stored]
      intro same
      obtain rfl : fd = k := by simpa using same
      exact fresh (ExtTreeMap.mem_iff_isSome_getElem?.mpr (stored ▸ rfl))

/-- A session that is added owns its descriptor. -/
theorem Owned.insert (h : Owned s) {session : SocketSession}
    (sound : (added session s.manager).Sound) (server : 0 ≤ session.fd) (ne : session.fd ≠ clientFd)
    (serverFree : s.fds.owner session.fd = none) (clientFree : s.fds.owner clientFd = none) :
    let s' : SocketFds := { s with
      manager := SocketFds.added session s.manager
      fds := (s.obtain session.fd clientFd).fds.give clientFd .other }
    Owned s' ∧ ∀ other, other ∈ s'.existing ↔ other = session ∨ other ∈ s.existing := by
  intro s'
  obtain ⟨unlisted, noSource, -⟩ := h.fresh serverFree
  have existing : ∀ other, other ∈ s'.existing ↔ other = session ∨ other ∈ s.existing := by
    intro other
    simp only [mem_existing, s', SocketFds.added, exists_insert unlisted, exists_insert noSource]
    tauto
  refine ⟨⟨sound, ?_, ?_, ?_, ?_⟩, existing⟩
  · intro fd other stored
    simp only [s', SocketFds.added, ExtTreeMap.getElem?_insert] at stored
    grind [h.sourceFd]
  · intro other live
    obtain rfl | live := (existing other).mp live
    · exact server
    · exact h.valid other live
  · intro a ha b hb same
    obtain rfl | ha' := (existing a).mp ha <;> obtain rfl | hb' := (existing b).mp hb
    · rfl
    · exact absurd same.symm (h.ne_of_free serverFree hb')
    · exact absurd same (h.ne_of_free serverFree ha')
    · exact h.unique a ha' b hb' same
  · intro fd
    have owner : s'.fds.owner fd =
        if fd = clientFd then some .other else if fd = session.fd then some .manager
        else s.fds.owner fd := by
      simp only [s', obtain, Handles.owner_give]
      split_ifs <;> rfl
    rw [owner]
    by_cases client : fd = clientFd
    · rw [if_pos client, client]
      refine iff_of_false (by simp) ?_
      rintro ⟨other, live, same⟩
      obtain rfl | live := (existing other).mp live
      · exact ne same
      · exact h.ne_of_free clientFree live same
    rw [if_neg client]
    by_cases server : fd = session.fd
    · rw [if_pos server]
      exact iff_of_true rfl ⟨session, (existing session).mpr (.inl rfl), server.symm⟩
    · rw [if_neg server, h.owns]
      constructor
      · rintro ⟨other, live, same⟩
        exact ⟨other, (existing other).mpr (.inr live), same⟩
      · rintro ⟨other, live, same⟩
        obtain rfl | live := (existing other).mp live
        · exact absurd same.symm server
        · exact ⟨other, live, same⟩

variable {programName tokenType uid pid answers meanwhile}

/-- With a pair at hand an allocation is admitted by what happens to this pair. -/
theorem admitted_pair_iff (found : s.manager.findSessionByPid pid = none)
    (pair : s.socketpair answers = some (serverFd, clientFd)) :
    Admitted (.manage (.allocSocketFd programName tokenType uid pid answers) meanwhile) s ↔
      (setsBuffers answers tokenType serverFd clientFd = true →
        s.Admits answers ∨ serverFd = 0) := by
  rw [admitted_alloc_iff]
  constructor
  · intro all
    exact all found serverFd clientFd pair
  · intro here _ _ _ same
    obtain ⟨rfl, rfl⟩ := Prod.mk.inj (Option.some.inj (pair.symm.trans same))
    exact here

/-- Both descriptors of a failed allocation are of no use. -/
theorem unused_of_fails (found : s.manager.findSessionByPid pid = none)
    (pair : s.socketpair answers = some (serverFd, clientFd))
    (fails : (s.begin.allocSocketFd programName tokenType uid pid answers meanwhile).1 = RET_ERR) :
    s.unused (.manage (.allocSocketFd programName tokenType uid pid answers) meanwhile) =
      [serverFd, clientFd] := by
  have failed : ¬ ((s.begin.allocSocketFd programName tokenType uid pid answers meanwhile).1 =
      RET_OK) := by
    rw [fails]
    decide
  simp [SocketFds.unused, found, pair, failed]

/-- An allocation that obtains no descriptors changes nothing. -/
theorem Owned.alloc_unobtained (h : Owned s)
    (eq : s.begin.allocSocketFd programName tokenType uid pid answers meanwhile =
      (RET_ERR, s.begin))
    (unobtained : s.manager.findSessionByPid pid = none → s.socketpair answers = none) :
    let event := FdEvent.manage (.allocSocketFd programName tokenType uid pid answers) meanwhile
    ClosesRight event s ∧ Owned (s.next event) := by
  intro event
  have unused : s.unused event = [] := by
    by_cases found : s.manager.findSessionByPid pid = none
    · simp [event, SocketFds.unused, unobtained found]
    · exact if_pos (.inl (Option.isSome_iff_ne_none.mpr found))
  have same : s.next event = s.begin := congrArg Prod.snd eq
  exact h.of_same event [] (same ▸ rfl) (same ▸ fun _ => Iff.rfl) (same ▸ fun _ => Iff.rfl)
    (same ▸ rfl) List.nodup_nil (unused ▸ fun _ => Iff.rfl)

/-- An allocation that cannot set the buffers closes both descriptors. -/
theorem Owned.alloc_closeSock (h : Owned s) (found : s.manager.findSessionByPid pid = none)
    (pair : s.socketpair answers = some (serverFd, clientFd))
    (eq : s.begin.allocSocketFd programName tokenType uid pid answers meanwhile =
      (RET_ERR, (s.begin.obtain serverFd clientFd).closeSock serverFd clientFd)) :
    let event := FdEvent.manage (.allocSocketFd programName tokenType uid pid answers) meanwhile
    ClosesRight event s ∧ Owned (s.next event) := by
  intro event
  obtain ⟨-, -, ne, serverFree, clientFree⟩ := socketpair_eq_some pair
  obtain ⟨closes, owner⟩ := closeSock_eq (s := s.begin) ne serverFree clientFree
  have same : s.next event = _ := congrArg Prod.snd eq
  have unused := unused_of_fails found pair (congrArg Prod.fst eq)
  exact h.of_same event [serverFd, clientFd] (same ▸ rfl) (same ▸ fun _ => Iff.rfl)
    (fun k => by rw [same, owner]; rfl) (same ▸ closes) (by simp [ne])
    (by rw [unused]; exact fun _ => Iff.rfl)

/-- A session with the number 0 that is not added has each of its descriptors closed once. -/
theorem Owned.alloc_addSessionFail_zero (h : Owned s)
    (found : s.manager.findSessionByPid pid = none)
    (pair : s.socketpair answers = some (0, clientFd))
    (eq : s.begin.allocSocketFd programName tokenType uid pid answers meanwhile =
      (RET_ERR, (s.begin.obtain 0 clientFd).addSessionFail 0 clientFd meanwhile)) :
    let event := FdEvent.manage (.allocSocketFd programName tokenType uid pid answers) meanwhile
    ClosesRight event s ∧ Owned (s.next event) := by
  intro event
  obtain ⟨-, client, ne, serverFree, clientFree⟩ := socketpair_eq_some pair
  have pos : 0 < clientFd := Int32.lt_of_le_of_ne client ne
  have same : s.next event = _ := congrArg Prod.snd eq
  obtain ⟨manager, held, closes, owner⟩ := addSessionFail_zero (s := s.begin.obtain 0 clientFd)
    pos (by simp [obtain, ne]) meanwhile
  refine h.of_same event [clientFd, 0] (same ▸ manager) (same ▸ existing_congr manager held)
    (fun k => ?_) (same ▸ closes.trans (by simp [obtain, SocketFds.begin])) (by simp [ne.symm])
    (fun k => ?_)
  · rw [same, owner]
    by_cases server : k = 0
    · simp [server, serverFree]
    · by_cases client : k = clientFd <;>
        simp [server, client, clientFree, obtain, SocketFds.begin]
  · rw [unused_of_fails found pair (congrArg Prod.fst eq)]
    simp [or_comm]

/-- A session with another number that is not added has its descriptor closed twice. -/
theorem alloc_addSessionFail_twice (pos : 0 < serverFd)
    (eq : s.begin.allocSocketFd programName tokenType uid pid answers meanwhile =
      (RET_ERR, (s.begin.obtain serverFd clientFd).addSessionFail serverFd clientFd meanwhile)) :
    ¬ ClosesRight
      (.manage (.allocSocketFd programName tokenType uid pid answers) meanwhile) s := by
  intro right
  have same : s.next
    (.manage (.allocSocketFd programName tokenType uid pid answers) meanwhile) = _ :=
      congrArg Prod.snd eq
  have once := right.once
  rw [same] at once
  exact addSessionFail_twice pos clientFd meanwhile once

/-- A session that is added keeps its descriptor, and the manager gives the other one away. -/
theorem Owned.alloc_added (h : Owned s) (pair : s.socketpair answers = some (serverFd, clientFd))
    {session : SocketSession} (fd : session.fd = serverFd)
    (eq : s.begin.allocSocketFd programName tokenType uid pid answers meanwhile =
      (RET_OK, { s.begin with
        manager := SocketFds.added session s.begin.manager
        fds := (s.begin.obtain serverFd clientFd).fds.give clientFd .other })) :
    let event := FdEvent.manage (.allocSocketFd programName tokenType uid pid answers) meanwhile
    ClosesRight event s ∧ Owned (s.next event) := by
  intro event
  subst fd
  have same : s.next event = _ := congrArg Prod.snd eq
  dsimp only at same
  obtain ⟨server, -, ne, serverFree, clientFree⟩ := socketpair_eq_some pair
  have sound : (SocketFds.added session s.begin.manager).Sound := by
    have next : (SocketFds.added session s.begin.manager) = (s.next event).manager := same ▸ rfl
    have alloc : (s.next event).manager = _ := h.begin.manager_allocSocketFd ..
    rw [next, alloc]
    exact SocketSessionManager.sound_allocSocketFd h.sound
  obtain ⟨owned, existing⟩ := h.begin.insert sound server ne serverFree clientFree
  rw [← same] at owned existing
  have unused : s.unused event = [] := if_pos (.inr (congrArg Prod.fst eq))
  refine ⟨.of_kept [] (fun other live => ?_) (same ▸ rfl) List.nodup_nil ?_, owned⟩
  · exact (existing other).mpr (.inr live)
  · rw [unused]
    exact fun _ => Iff.rfl

/-- An allocation closes what it should exactly if it is admitted, and then the descriptors of the
manager are again those of its sessions. -/
theorem Owned.alloc (h : Owned s) :
    let event := FdEvent.manage (.allocSocketFd programName tokenType uid pid answers) meanwhile
    (ClosesRight event s ↔ Admitted event s) ∧ (Admitted event s → Owned (s.next event)) := by
  intro event
  obtain ⟨eq, unobtained⟩ | ⟨serverFd, clientFd, found, pair, cases⟩ :=
    h.begin.allocSocketFd_cases programName tokenType uid pid answers meanwhile
  · obtain ⟨right, owned⟩ := h.alloc_unobtained eq unobtained
    refine ⟨iff_of_true right ?_, fun _ => owned⟩
    rw [admitted_alloc_iff]
    intro found serverFd clientFd pair
    cases pair.symm.trans (unobtained found)
  change s.manager.findSessionByPid pid = none at found
  change s.socketpair answers = some (serverFd, clientFd) at pair
  rw [admitted_pair_iff found pair]
  obtain ⟨buffers, eq⟩ | ⟨buffers, refused, eq⟩ | ⟨buffers, admits, session, fd, eq⟩ := cases
  · obtain ⟨right, owned⟩ := h.alloc_closeSock found pair eq
    exact ⟨iff_of_true right fun set => by simp [buffers] at set, fun _ => owned⟩
  · by_cases zero : serverFd = 0
    · subst zero
      obtain ⟨right, owned⟩ := h.alloc_addSessionFail_zero found pair eq
      exact ⟨iff_of_true right fun _ => .inr rfl, fun _ => owned⟩
    · obtain ⟨server, -⟩ := socketpair_eq_some pair
      have pos : 0 < serverFd := Int32.lt_of_le_of_ne server (Ne.symm zero)
      have refused' : ¬ (setsBuffers answers tokenType serverFd clientFd = true →
          s.Admits answers ∨ serverFd = 0) := fun admitted =>
        (admitted buffers).elim refused zero
      exact ⟨iff_of_false (alloc_addSessionFail_twice pos eq) refused',
        fun admitted => absurd admitted refused'⟩
  · obtain ⟨right, owned⟩ := h.alloc_added pair fd eq
    exact ⟨iff_of_true right fun _ => .inl admits, fun _ => owned⟩

end Alloc

/-- A step that makes no session closes the descriptors of those that go away. -/
theorem Owned.manage (h : Owned s) {event : SocketSessionEvent}
    (other : ∀ programName tokenType uid pid answers,
      event ≠ .allocSocketFd programName tokenType uid pid answers) (meanwhile : List Int32) :
    ClosesRight (.manage event meanwhile) s ∧ Owned (s.next (.manage event meanwhile)) := by
  have sound : (s.manager.next event).Sound := (SocketSessionManager.stepOk h.sound event).sound
  have settles : Settles s.begin (s.next (.manage event meanwhile)) := by
    have destroyed := h.begin.destroy s.held sound (shrinks_next other) fun _ => id
    cases event with
    | allocSocketFd => exact (other _ _ _ _ _ rfl).elim
    | _ => exact destroyed
  refine ⟨.of_settles settles ?_, settles.owned⟩
  cases event with
  | allocSocketFd => exact (other _ _ _ _ _ rfl).elim
  | _ => rfl

theorem Owned.hold (h : Owned s) (pid : Int32) :
    ClosesRight (.hold pid) s ∧ Owned (s.next (.hold pid)) := by
  refine h.of_same _ [] rfl (fun session => ?_) (fun _ => Iff.rfl) rfl List.nodup_nil
    fun _ => Iff.rfl
  rw [mem_existing, mem_existing]
  refine or_congr_right' fun unlisted => or_congr_right ?_
  refine List.mem_append.trans (or_iff_right fun found => unlisted ?_)
  simp only [Option.mem_toList, SocketSessionManager.findSessionByPid,
    Option.map_eq_some_iff] at found
  obtain ⟨⟨fd, _⟩, found, rfl⟩ := found
  exact ⟨fd, SocketSessionManager.stored_of_find found⟩

theorem Owned.letGo (h : Owned s) (session : SocketSession) :
    ClosesRight (.letGo session) s ∧ Owned (s.next (.letGo session)) := by
  have settles : Settles s.begin (s.next (.letGo session)) :=
    h.begin.destroy _ h.sound (.of_eq rfl rfl) fun _ => List.mem_of_mem_erase
  exact ⟨.of_settles settles rfl, settles.owned⟩

theorem Owned.step (h : Owned s) (event : FdEvent) :
    (ClosesRight event s ↔ Admitted event s) ∧ (Admitted event s → Owned (s.next event)) := by
  have free (right : ClosesRight event s ∧ Owned (s.next event))
      (other : ∀ programName tokenType uid pid answers meanwhile,
        event ≠ .manage (.allocSocketFd programName tokenType uid pid answers) meanwhile) :
      (ClosesRight event s ↔ Admitted event s) ∧ (Admitted event s → Owned (s.next event)) := by
    refine ⟨iff_of_true right.1 ?_, fun _ => right.2⟩
    intro _ _ _ _ _ _ _ _ alloc
    exact (other _ _ _ _ _ _ alloc).elim
  cases event with
  | manage event meanwhile =>
    cases event with
    | allocSocketFd programName tokenType uid pid answers => exact h.alloc
    | _ => exact free (h.manage (by simp) meanwhile) (by simp)
  | hold pid => exact free (h.hold pid) (by simp)
  | letGo session => exact free (h.letGo session) (by simp)
  | otherOpen fd =>
    obtain ⟨manager, held, closes, owner⟩ := otherOpen_eq fd s.begin
    exact free (h.of_same _ [] manager (existing_congr manager held) owner closes
      List.nodup_nil fun _ => Iff.rfl) (by simp)
  | otherClose fd =>
    obtain ⟨manager, held, closes, owner⟩ := otherClose_eq fd s.begin
    exact free (h.of_same _ [] manager (existing_congr manager held) owner closes
      List.nodup_nil fun _ => Iff.rfl) (by simp)

theorem owned_start : Owned {} := by
  refine ⟨SocketSessionManager.sound_start, ?_, ?_, ?_, ?_⟩ <;> simp [existing]

/-- Every descriptor is closed once and by whom it belongs to exactly in the runs in which no
session is refused. -/
theorem closes_right_iff (events : List FdEvent) :
    EachStep next ClosesRight {} events ↔ EachStep next Admitted {} events :=
  EachStep.iff_of_invariant (I := Owned) (fun event _ h => (h.step event).2)
    (fun event _ h => (h.step event).1) owned_start

/-- The kernel does not poll the session. Its descriptor is closed, given to someone else and closed
again. -/
theorem closes_twice : ¬ ∀ events, EachStep next ClosesRight {} events := by
  intro h
  let enabled : List FdEvent := [.manage (.enable true) []]
  let answers : SocketAnswers := { socketpair := some (5, 6), addEpoll := false }
  let alloc : FdEvent := .manage (.allocSocketFd [] 0 0 100 answers) [5]
  have right := h (enabled ++ [alloc]) enabled alloc List.prefix_rfl
  have owned := right.owned (5, some .other) (by decide)
  exact absurd owned (by decide)

end SocketFds

end DeviceStatus.Ipc
