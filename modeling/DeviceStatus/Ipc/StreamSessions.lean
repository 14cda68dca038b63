import DeviceStatus.Ipc.StreamServer
import DeviceStatus.Library.Transition
import Mathlib.Data.Finset.Basic

/-!
# The session tables of the stream server

`StreamServer` keeps its sessions by descriptor and, in a second table, the descriptor of each
process. Adding and deleting a session change both. They agree as long as no process connects
twice, no descriptor and no process happens to be one of the markers for "none", and every
descriptor that is added can be polled.

## Main definitions

* `SessionTables` — the two tables and the look-ups in them.
* `StreamServer`, `StreamServer.next` — the server and what an event makes of it.
* `SessionTables.Agree` — what the look-ups say is so.
* `StreamServer.KeepsApart` — what keeps the tables together.
-/

namespace DeviceStatus.Ipc

open Std (ExtTreeMap)
open Transition.System

def INVALID_FD : Int32 := 6
def INVALID_PID : Int32 := 7
def EPOLL_MODIFY_FAIL : Int32 := 9
def MAX_SESSION_ALARM : Nat := 100
def MAX_RECV_LIMIT : Nat := 13
def TOKEN_NATIVE : Int32 := 1

structure StreamSession where
  fd : Int32
  pid : Int32
  tokenType : Int32
  deriving DecidableEq

/-- The tables, and the descriptors of the server's ends of the sockets that are open. -/
structure SessionTables where
  sessions : ExtTreeMap Int32 StreamSession := ∅
  idxPids : ExtTreeMap Int32 Int32 := ∅
  openFds : Finset Int32 := ∅

namespace SessionTables

def getClientFd (pid : Int32) (t : SessionTables) : Int32 :=
  (t.idxPids[pid]?).getD INVALID_FD

def getClientPid (fd : Int32) (t : SessionTables) : Int32 :=
  match t.sessions[fd]? with
  | none => INVALID_PID
  | some ses => ses.pid

def getSession (fd : Int32) (t : SessionTables) : Option StreamSession := t.sessions[fd]?

def getSessionByPid (pid : Int32) (t : SessionTables) : Option StreamSession :=
  let fd := t.getClientFd pid
  if fd ≤ 0 then none else t.getSession fd

def addSession (ses : StreamSession) (t : SessionTables) : Bool × SessionTables :=
  if ses.fd < 0 then (false, t)
  else if ses.pid < 0 then (false, t)
  else if MAX_SESSION_ALARM ≤ t.sessions.size then (false, t)
  else
    (true, { t with
      idxPids := t.idxPids.insert ses.pid ses.fd
      sessions := t.sessions.insert ses.fd ses })

/-- What `DelSession` does to the tables. -/
def delSession (fd : Int32) (t : SessionTables) : SessionTables :=
  if fd < 0 then t
  else
    let pid := t.getClientPid fd
    { t with
      idxPids := if 0 < pid then t.idxPids.erase pid else t.idxPids
      sessions := t.sessions.erase fd }

end SessionTables

/-! ## The server -/

inductive SockOpt where
  | sndBuf | rcvBuf

/-- What the system calls answer while a session is added. -/
structure SocketAnswers where
  socketpair : Option (Int32 × Int32)
  setsockopt : Int32 → SockOpt → Nat → Bool := fun _ _ _ => true
  addEpoll : Bool := true

/-- `socketpair`: it fails or gives two descriptors that are not open. -/
def SocketAnswers.sockFds (answers : SocketAnswers) (openFds : Finset Int32) :
    Option (Int32 × Int32) :=
  answers.socketpair.filter fun (serverFd, clientFd) =>
    0 ≤ serverFd ∧ 0 ≤ clientFd ∧ serverFd ≠ clientFd ∧ serverFd ∉ openFds ∧ clientFd ∉ openFds

/-- A callback that a part of the service has left for the end of a session. -/
abbrev SessionCallback := Nat

structure StreamServer extends SessionTables where
  circleBufs : ExtTreeMap Int32 CircleStreamBuffer := ∅
  callbacks : ExtTreeMap Int32 SessionCallback := ∅
  /-- the callbacks that have been called -/
  called : List (SessionCallback × StreamSession) := []
  /-- the packets that `recvFun_` has been given -/
  handled : List (StreamSession × NetPacket) := []

/-- What `recv` returns. -/
inductive Recv where
  | data (szBuf : List UInt8)
  | again
  | failed
  | closed

inductive EpollEvent where
  | hangup
  | readable (recvs : List Recv)

namespace StreamServer

def closeFd (serverFd : Int32) (s : StreamServer) : Int32 × StreamServer :=
  (RET_ERR, { s with openFds := s.openFds.erase serverFd })

def setSockOpt (answers : SocketAnswers) (serverFd clientFd tokenType : Int32) : Bool :=
  let bufferSize := 32 * 1024
  let nativeBufferSize := 64 * 1024
  let clientSize := if tokenType = TOKEN_NATIVE then nativeBufferSize else bufferSize
  answers.setsockopt serverFd .sndBuf bufferSize &&
    answers.setsockopt serverFd .rcvBuf bufferSize &&
    answers.setsockopt clientFd .sndBuf clientSize &&
    answers.setsockopt clientFd .rcvBuf clientSize

def addSocketPairInfo (pid tokenType : Int32) (answers : SocketAnswers) (s : StreamServer) :
    Int32 × StreamServer :=
  match answers.sockFds s.openFds with
  | none => (RET_ERR, s)
  | some (serverFd, clientFd) =>
    let s := { s with openFds := insert serverFd s.openFds }
    if setSockOpt answers serverFd clientFd tokenType = false then closeFd serverFd s
    else
      let (added, tables) := s.toSessionTables.addSession { fd := serverFd, pid, tokenType }
      let s := { s with toSessionTables := tables }
      if added = false then closeFd serverFd s
      -- the session stays in both tables when its socket cannot be polled
      else if answers.addEpoll = false then closeFd serverFd s
      else (RET_OK, s)

def addSessionDeletedCallback (pid : Int32) (callback : SessionCallback) (s : StreamServer) :
    StreamServer :=
  { s with callbacks := s.callbacks.insertIfNew pid callback }

def notifySessionDeleted (ses : StreamSession) (s : StreamServer) : StreamServer :=
  match s.callbacks[ses.pid]? with
  | none => s
  | some callback =>
    { s with called := s.called ++ [(callback, ses)], callbacks := s.callbacks.erase ses.pid }

def delSession (fd : Int32) (s : StreamServer) : StreamServer :=
  let notified :=
    match s.sessions[fd]? with
    | none => s
    | some ses => if fd < 0 then s else s.notifySessionDeleted ses
  { notified with toSessionTables := s.toSessionTables.delSession fd }

def releaseSession (fd : Int32) (s : StreamServer) : StreamServer :=
  let s := match s.getSession fd with
    | none => s
    | some _ => s.delSession fd
  { s with circleBufs := s.circleBufs.erase fd, openFds := s.openFds.erase fd }

/-- A piece is written to the buffer of the descriptor and the packets are passed on. -/
def receive (fd : Int32) (szBuf : List UInt8) (s : StreamServer) : StreamServer :=
  let (pkts, buf) := onRecv szBuf ((s.circleBufs[fd]?).getD .new)
  { s with
    circleBufs := s.circleBufs.insert fd buf
    handled := s.handled ++ match s.getSession fd with
      | none => []
      | some ses => pkts.map fun pkt => (ses, pkt) }

/-- The loop of `OnEpollRecv`, with so many turns to go. -/
def onEpollRecv (fd : Int32) : Nat → List Recv → StreamServer → StreamServer
  | turns + 1, .data szBuf :: recvs, s =>
    if szBuf.length < MAX_PACKET_BUF_SIZE then s.receive fd szBuf
    else onEpollRecv fd turns recvs (s.receive fd szBuf)
  | turns + 1, .again :: recvs, s => onEpollRecv fd turns recvs s
  | _ + 1, .closed :: _, s => s.releaseSession fd
  | _, _, s => s

def onEpollEvent (fd : Int32) (ev : EpollEvent) (s : StreamServer) : StreamServer :=
  if fd < 0 then s
  else
    match ev with
    | .hangup => s.releaseSession fd
    | .readable recvs => onEpollRecv fd MAX_RECV_LIMIT recvs s

end StreamServer

inductive StreamServerEvent where
  | addSocketPairInfo (pid tokenType : Int32) (answers : SocketAnswers)
  | addSessionDeletedCallback (pid : Int32) (callback : SessionCallback)
  | delSession (fd : Int32)
  | releaseSession (fd : Int32)
  | onEpollEvent (fd : Int32) (ev : EpollEvent)

namespace StreamServer

def next (event : StreamServerEvent) (s : StreamServer) : StreamServer :=
  match event with
  | .addSocketPairInfo pid tokenType answers => (s.addSocketPairInfo pid tokenType answers).2
  | .addSessionDeletedCallback pid callback => s.addSessionDeletedCallback pid callback
  | .delSession fd => s.delSession fd
  | .releaseSession fd => s.releaseSession fd
  | .onEpollEvent fd ev => s.onEpollEvent fd ev

end StreamServer

/-! ## Agreement -/

namespace SessionTables

variable {t : SessionTables}

def Live (ses : StreamSession) (t : SessionTables) : Prop :=
  ∃ fd : Int32, t.sessions[fd]? = some ses

/-- What the look-ups say is so: by process they find its session, by descriptor and by process
they are inverse to each other, and for what is not there they give a marker that nothing
bears. -/
structure Agree (t : SessionTables) : Prop where
  byPid : ∀ pid ses, t.getSessionByPid pid = some ses → Live ses t ∧ ses.pid = pid
  found : ∀ ses, Live ses t → ∃ other, t.getSessionByPid ses.pid = some other
  fdOfPid : ∀ (fd : Int32) ses, t.sessions[fd]? = some ses →
    t.getClientFd (t.getClientPid fd) = fd
  pidOfFd : ∀ ses, Live ses t → t.getClientPid (t.getClientFd ses.pid) = ses.pid
  noFd : ∀ pid, (∀ ses, Live ses t → ses.pid ≠ pid) →
    t.getClientFd pid = INVALID_FD ∧ INVALID_FD ∉ t.sessions
  noPid : ∀ fd ∉ t.sessions, t.getClientPid fd = INVALID_PID ∧
    ∀ ses, Live ses t → ses.pid ≠ INVALID_PID

/-- The second table is the first one turned around, and no session bears a marker. -/
structure Inverse (t : SessionTables) : Prop where
  index : ∀ pid fd : Int32, t.idxPids[pid]? = some fd ↔
    ∃ ses, t.sessions[fd]? = some ses ∧ ses.pid = pid
  fds : ∀ (fd : Int32) ses, t.sessions[fd]? = some ses →
    0 < fd ∧ fd ≠ INVALID_FD ∧ fd ∈ t.openFds
  pids : ∀ (fd : Int32) ses, t.sessions[fd]? = some ses → 0 ≤ ses.pid ∧ ses.pid ≠ INVALID_PID

theorem getClientFd_of_live (h : Inverse t) {fd : Int32} {ses : StreamSession}
    (live : t.sessions[fd]? = some ses) : t.getClientFd ses.pid = fd := by
  have index := (h.index ses.pid fd).mpr ⟨ses, live, rfl⟩
  simp [getClientFd, index]

theorem getClientPid_of_live {fd : Int32} {ses : StreamSession}
    (live : t.sessions[fd]? = some ses) : t.getClientPid fd = ses.pid := by
  simp [getClientPid, live]

theorem getSessionByPid_of_live (h : Inverse t) {fd : Int32} {ses : StreamSession}
    (live : t.sessions[fd]? = some ses) : t.getSessionByPid ses.pid = some ses := by
  have positive : ¬ fd ≤ 0 := Int32.not_le.mpr (h.fds fd ses live).1
  simp [getSessionByPid, getClientFd_of_live h live, positive, getSession, live]

/-- A process without a session has no descriptor in the second table. -/
theorem idxPids_of_absent (h : Inverse t) {pid : Int32}
    (absent : ∀ ses, Live ses t → ses.pid ≠ pid) : t.idxPids[pid]? = none := by
  cases index : t.idxPids[pid]? with
  | none => rfl
  | some fd =>
    obtain ⟨ses, live, same⟩ := (h.index pid fd).mp index
    exact absurd same (absent ses ⟨fd, live⟩)

theorem marker_not_live (h : Inverse t) : INVALID_FD ∉ t.sessions := by
  intro mem
  have live := ExtTreeMap.getElem?_eq_some_getElem mem
  exact (h.fds _ _ live).2.1 rfl

theorem Inverse.agree (h : Inverse t) : Agree t where
  byPid := by
    intro pid ses found
    cases index : t.idxPids[pid]? with
    | none =>
      have marker := marker_not_live h
      simp [getSessionByPid, getClientFd, index, getSession, marker] at found
    | some fd =>
      obtain ⟨other, live, rfl⟩ := (h.index pid fd).mp index
      rw [getSessionByPid_of_live h live, Option.some.injEq] at found
      subst found
      exact ⟨⟨fd, live⟩, rfl⟩
  found := by
    rintro ses ⟨fd, live⟩
    exact ⟨ses, getSessionByPid_of_live h live⟩
  fdOfPid := by
    intro fd ses live
    rw [getClientPid_of_live live]
    exact getClientFd_of_live h live
  pidOfFd := by
    rintro ses ⟨fd, live⟩
    rw [getClientFd_of_live h live]
    exact getClientPid_of_live live
  noFd := by
    intro pid absent
    refine ⟨?_, marker_not_live h⟩
    simp [getClientFd, idxPids_of_absent h absent]
  noPid := by
    intro fd absent
    refine ⟨by simp [getClientPid, absent], ?_⟩
    rintro ses ⟨fd, live⟩
    exact (h.pids fd ses live).2

theorem addSession_eq (ses : StreamSession) : t.addSession ses =
    if 0 ≤ ses.fd ∧ 0 ≤ ses.pid ∧ t.sessions.size < MAX_SESSION_ALARM then
      (true, { t with
        idxPids := t.idxPids.insert ses.pid ses.fd
        sessions := t.sessions.insert ses.fd ses })
    else (false, t) := by
  have fd : ses.fd < 0 ↔ ¬ 0 ≤ ses.fd := Int32.not_le.symm
  have pid : ses.pid < 0 ↔ ¬ 0 ≤ ses.pid := Int32.not_le.symm
  grind [addSession]

/-- A descriptor that is not live, for the markers. -/
theorem negative_absent (h : Inverse t) : (-1 : Int32) ∉ t.sessions := by
  intro mem
  have live := ExtTreeMap.getElem?_eq_some_getElem mem
  have positive := (h.fds _ _ live).1
  exact absurd positive (by decide)

/-! ### Deleting -/

/-- `t'` is `t` without the session of the descriptor. -/
structure Deletes (fd : Int32) (t t' : SessionTables) : Prop where
  sessions : ∀ k : Int32, t'.sessions[k]? = if k = fd then none else t.sessions[k]?
  idxPids : ∀ p : Int32, t'.idxPids[p]? =
    if 0 < p ∧ fd ∈ t.sessions ∧ t.getClientPid fd = p then none else t.idxPids[p]?
  openFds : ∀ k ∈ t.openFds, k ≠ fd → k ∈ t'.openFds

/-- The session of the descriptor is not of process 0, whose entry a deletion leaves. -/
def Deletable (fd : Int32) (t : SessionTables) : Prop :=
  ∀ ses, t.sessions[fd]? = some ses → ses.pid ≠ 0

theorem deletes_delSession (h : Inverse t) (fd : Int32) : Deletes fd t (t.delSession fd) := by
  by_cases live : fd ∈ t.sessions
  · have stored := ExtTreeMap.getElem?_eq_some_getElem live
    have positive := (h.fds _ _ stored).1
    have valid : ¬ fd < 0 := by grind
    refine ⟨?_, ?_, ?_⟩ <;> intro k <;> simp only [delSession, valid, if_false]
    · grind
    · split_ifs <;> grind
    · exact fun mem _ => mem
  · have marker : t.idxPids[INVALID_PID]? = none := by
      apply idxPids_of_absent h
      rintro ses ⟨k, stored⟩
      exact (h.pids k ses stored).2
    have pid : t.getClientPid fd = INVALID_PID := by simp [getClientPid, live]
    refine ⟨?_, ?_, ?_⟩ <;> intro k <;> simp only [delSession, pid]
    · split_ifs <;> grind
    · split_ifs <;> grind
    · split_ifs <;> exact fun mem _ => mem

theorem Inverse.of_deletes (h : Inverse t) {t' : SessionTables} {fd : Int32}
    (deletes : Deletes fd t t') (ok : Deletable fd t) : Inverse t' where
  index := by
    intro pid k
    rw [deletes.idxPids, deletes.sessions]
    cases live : t.sessions[fd]? with
    | none => grind [h.index pid k]
    | some ses =>
      have own := getClientFd_of_live h live
      have bounds := h.pids fd ses live
      have nonzero := ok ses live
      have same := getClientPid_of_live live
      have mine := h.index ses.pid fd
      grind [h.index pid k, getClientFd]
  fds := by
    intro k ses live
    rw [deletes.sessions] at live
    split_ifs at live with same
    obtain ⟨positive, marker, isOpen⟩ := h.fds k ses live
    exact ⟨positive, marker, deletes.openFds k isOpen same⟩
  pids := by
    intro k ses live
    rw [deletes.sessions] at live
    split_ifs at live
    exact h.pids k ses live

/-- Deleting the session of process 0 leaves its descriptor in the second table. -/
theorem not_agree_of_deletes (h : Inverse t) {t' : SessionTables} {fd : Int32}
    (deletes : Deletes fd t t') (zero : ¬ Deletable fd t) : ¬ Agree t' := by
  intro agree
  obtain ⟨ses, live, zero⟩ : ∃ ses, t.sessions[fd]? = some ses ∧ ses.pid = 0 := by
    simpa [Deletable] using zero
  have left : t'.idxPids[(0 : Int32)]? = some fd := by
    rw [deletes.idxPids]
    grind [(h.index 0 fd).mpr ⟨ses, live, zero⟩]
  have absent : ∀ other, Live other t' → other.pid ≠ 0 := by
    rintro other ⟨k, stored⟩ same
    rw [deletes.sessions] at stored
    split_ifs at stored with here
    have first := getClientFd_of_live h live
    have second := getClientFd_of_live h stored
    rw [same] at second
    rw [zero, second] at first
    exact here first
  obtain ⟨marker, -⟩ := agree.noFd 0 absent
  rw [getClientFd, left] at marker
  exact (h.fds fd ses live).2.1 marker

end SessionTables

namespace StreamServer

open SessionTables

variable {s : StreamServer}

/-- The receiving loop ends because the client has closed its end. -/
def hangsUp : Nat → List Recv → Bool
  | turns + 1, .data szBuf :: recvs =>
    if szBuf.length < MAX_PACKET_BUF_SIZE then false else hangsUp turns recvs
  | turns + 1, .again :: recvs => hangsUp turns recvs
  | _ + 1, .closed :: _ => true
  | _, _ => false

/-- The descriptor whose session an event deletes. -/
def deleted : StreamServerEvent → Option Int32
  | .delSession fd => some fd
  | .releaseSession fd => some fd
  | .onEpollEvent fd .hangup => if fd < 0 then none else some fd
  | .onEpollEvent fd (.readable recvs) =>
    if fd < 0 then none else if hangsUp MAX_RECV_LIMIT recvs then some fd else none
  | _ => none

@[simp] theorem tables_delSession (fd : Int32) :
    (s.delSession fd).toSessionTables = s.toSessionTables.delSession fd := rfl

theorem deletes_releaseSession (h : Inverse s.toSessionTables) (fd : Int32) :
    Deletes fd s.toSessionTables (s.releaseSession fd).toSessionTables := by
  cases live : s.sessions[fd]? with
  | none =>
    simp only [releaseSession, getSession, live]
    refine ⟨?_, ?_, ?_⟩ <;> grind
  | some ses =>
    have inner := deletes_delSession h fd
    simp only [releaseSession, getSession, live, tables_delSession]
    refine ⟨inner.sessions, inner.idxPids, ?_⟩
    intro k mem other
    exact Finset.mem_erase.mpr ⟨other, inner.openFds k mem other⟩

/-- What the receiving loop does to the tables. By the recursion of the loop. -/
theorem deletes_onEpollRecv (fd : Int32) (turns : Nat) (recvs : List Recv)
    (h : Inverse s.toSessionTables) :
    (hangsUp turns recvs = true →
        Deletes fd s.toSessionTables (onEpollRecv fd turns recvs s).toSessionTables) ∧
      (hangsUp turns recvs = false →
        (onEpollRecv fd turns recvs s).toSessionTables = s.toSessionTables) := by
  have same (szBuf : List UInt8) (s : StreamServer) :
      (s.receive fd szBuf).toSessionTables = s.toSessionTables := rfl
  fun_induction onEpollRecv fd turns recvs s with
  | case1 s turns szBuf recvs short => simp [hangsUp, short, same]
  | case2 s turns szBuf recvs long ih =>
    have rest := ih h
    simpa [hangsUp, long, same] using rest
  | case3 s turns recvs ih => exact ih h
  | case4 s turns recvs => simpa [hangsUp] using deletes_releaseSession h fd
  | case5 s turns recvs => simp_all [hangsUp]

/-- What an event other than an addition does to the tables. -/
theorem tables_next (h : Inverse s.toSessionTables) {event : StreamServerEvent}
    (other : ∀ pid tokenType answers, event ≠ .addSocketPairInfo pid tokenType answers) :
    match deleted event with
    | some fd => Deletes fd s.toSessionTables (next event s).toSessionTables
    | none => (next event s).toSessionTables = s.toSessionTables := by
  cases event with
  | addSocketPairInfo pid tokenType answers => exact absurd rfl (other pid tokenType answers)
  | addSessionDeletedCallback pid callback => rfl
  | delSession fd => exact deletes_delSession h fd
  | releaseSession fd => exact deletes_releaseSession h fd
  | onEpollEvent fd ev =>
    cases ev with
    | hangup =>
      by_cases invalid : fd < 0
      · simp [deleted, next, onEpollEvent, invalid]
      · simpa [deleted, next, onEpollEvent, invalid] using deletes_releaseSession h fd
    | readable recvs =>
      have loop := deletes_onEpollRecv fd MAX_RECV_LIMIT recvs h
      by_cases invalid : fd < 0
      · simp [deleted, next, onEpollEvent, invalid]
      · cases ends : hangsUp MAX_RECV_LIMIT recvs with
        | true => simpa [deleted, next, onEpollEvent, invalid, ends] using loop.1 ends
        | false => simpa [deleted, next, onEpollEvent, invalid, ends] using loop.2 ends

/-! ### Adding -/

/-- An addition gets as far as the tables. -/
structure Stores (pid tokenType : Int32) (answers : SocketAnswers) (s : StreamServer)
    (serverFd clientFd : Int32) : Prop where
  pair : answers.sockFds s.openFds = some (serverFd, clientFd)
  set : setSockOpt answers serverFd clientFd tokenType = true
  process : 0 ≤ pid
  room : s.sessions.size < MAX_SESSION_ALARM

/-- What keeps the tables together: a session that is stored can be polled, is the only one of
its process and bears no marker; and none of process 0 is deleted. -/
def KeepsApart (event : StreamServerEvent) (s : StreamServer) : Prop :=
  match event with
  | .addSocketPairInfo pid tokenType answers =>
    ∀ serverFd clientFd, Stores pid tokenType answers s serverFd clientFd →
      answers.addEpoll = true ∧ serverFd ≠ 0 ∧ serverFd ≠ INVALID_FD ∧ pid ≠ INVALID_PID ∧
        ∀ ses, Live ses s.toSessionTables → ses.pid ≠ pid
  | event => ∀ fd, deleted event = some fd → Deletable fd s.toSessionTables

/-- After the step the tables agree, and an addition that fails has left them as they were. -/
structure Agrees (event : StreamServerEvent) (s : StreamServer) : Prop where
  agree : Agree (next event s).toSessionTables
  unchanged : ∀ pid tokenType answers, event = .addSocketPairInfo pid tokenType answers →
    (s.addSocketPairInfo pid tokenType answers).1 ≠ RET_OK →
      (next event s).sessions = s.sessions ∧ (next event s).idxPids = s.idxPids

variable {pid tokenType serverFd clientFd : Int32} {answers : SocketAnswers}

theorem fresh_of_stores (stores : Stores pid tokenType answers s serverFd clientFd) :
    0 ≤ serverFd ∧ serverFd ∉ s.openFds := by
  have pair := stores.pair
  simp only [SocketAnswers.sockFds, Option.filter_eq_some_iff, decide_eq_true_eq] at pair
  exact ⟨pair.2.1, pair.2.2.2.2.1⟩

/-- The session that an addition stores. -/
def newSession (pid tokenType serverFd : Int32) : StreamSession :=
  { fd := serverFd, pid, tokenType }

theorem addSocketPairInfo_of_stores (stores : Stores pid tokenType answers s serverFd clientFd) :
    ((s.addSocketPairInfo pid tokenType answers).1 = RET_OK ↔ answers.addEpoll = true) ∧
      (next (.addSocketPairInfo pid tokenType answers) s).sessions =
        s.sessions.insert serverFd (newSession pid tokenType serverFd) ∧
      (next (.addSocketPairInfo pid tokenType answers) s).idxPids =
        s.idxPids.insert pid serverFd ∧
      (answers.addEpoll = true →
        (next (.addSocketPairInfo pid tokenType answers) s).openFds =
          insert serverFd s.openFds) := by
  have valid := (fresh_of_stores stores).1
  have differ : RET_ERR ≠ RET_OK := by decide
  cases polled : answers.addEpoll <;>
    simp [next, addSocketPairInfo, stores.pair, stores.set, addSession_eq, valid, stores.process,
      stores.room, polled, closeFd, newSession, differ]

theorem addSocketPairInfo_of_not_stores
    (refused : ∀ serverFd clientFd, ¬ Stores pid tokenType answers s serverFd clientFd) :
    (next (.addSocketPairInfo pid tokenType answers) s).sessions = s.sessions ∧
      (next (.addSocketPairInfo pid tokenType answers) s).idxPids = s.idxPids ∧
      ∀ k ∈ s.openFds, k ∈ (next (.addSocketPairInfo pid tokenType answers) s).openFds := by
  cases pair : answers.sockFds s.openFds with
  | none => simp [next, addSocketPairInfo, pair]
  | some fds =>
    obtain ⟨serverFd, clientFd⟩ := fds
    have fresh : serverFd ∉ s.openFds := by
      simp only [SocketAnswers.sockFds, Option.filter_eq_some_iff, decide_eq_true_eq] at pair
      exact pair.2.2.2.2.1
    have closed : ∀ k ∈ s.openFds, k ≠ serverFd := by
      rintro k mem rfl
      exact fresh mem
    by_cases set : setSockOpt answers serverFd clientFd tokenType = true
    · have stuck : ¬ (0 ≤ serverFd ∧ 0 ≤ pid ∧ s.sessions.size < MAX_SESSION_ALARM) :=
        fun ok => refused serverFd clientFd ⟨pair, set, ok.2.1, ok.2.2⟩
      simp only [next, addSocketPairInfo, closeFd, pair, set, addSession_eq, if_neg stuck, if_true,
        Bool.true_eq_false, if_false]
      refine ⟨trivial, trivial, ?_⟩
      intro k mem
      exact Finset.mem_erase.mpr ⟨closed k mem, Finset.mem_insert_of_mem mem⟩
    · simp_all [next, addSocketPairInfo, closeFd]

/-- A session that is stored, polled and bears no marker keeps the tables inverse. -/
theorem inverse_of_stores (h : Inverse s.toSessionTables)
    (stores : Stores pid tokenType answers s serverFd clientFd) (polled : answers.addEpoll = true)
    (nonzero : serverFd ≠ 0) (fdMarker : serverFd ≠ INVALID_FD) (pidMarker : pid ≠ INVALID_PID)
    (only : ∀ ses, Live ses s.toSessionTables → ses.pid ≠ pid) :
    Inverse (next (.addSocketPairInfo pid tokenType answers) s).toSessionTables := by
  obtain ⟨-, sessions, idxPids, openFds⟩ := addSocketPairInfo_of_stores stores
  obtain ⟨valid, fresh⟩ := fresh_of_stores stores
  have absent : s.sessions[serverFd]? = none := by
    cases live : s.sessions[serverFd]? with
    | none => rfl
    | some ses => exact absurd (h.fds _ _ live).2.2 fresh
  have others : ∀ (fd : Int32) ses, s.sessions[fd]? = some ses → ses.pid ≠ pid :=
    fun fd ses live => only ses ⟨fd, live⟩
  have process := stores.process
  refine ⟨?_, ?_, ?_⟩
  · intro p k
    have before := h.index p k
    rw [sessions, idxPids]
    by_cases own : pid = p <;> by_cases here : serverFd = k
    · subst own here
      simp [newSession]
    · subst own
      have none : ¬ ∃ ses, s.sessions[k]? = some ses ∧ ses.pid = pid :=
        fun ⟨ses, live, same⟩ => others k ses live same
      simp [ExtTreeMap.getElem?_insert, here, none]
    · subst here
      have none : s.idxPids[p]? ≠ some serverFd := by
        intro index
        obtain ⟨ses, live, -⟩ := before.mp index
        simp [absent] at live
      simp [ExtTreeMap.getElem?_insert, own, none, newSession]
    · simpa [ExtTreeMap.getElem?_insert, own, here] using before
  · intro k ses live
    rw [sessions] at live
    rw [openFds polled]
    grind [h.fds k]
  · intro k ses live
    rw [sessions] at live
    grind [h.pids k, newSession]

/-- What an addition must not do, as the look-ups show it. -/
theorem Agrees.keepsApart (h : Inverse s.toSessionTables)
    (agrees : Agrees (.addSocketPairInfo pid tokenType answers) s)
    (stores : Stores pid tokenType answers s serverFd clientFd) :
    answers.addEpoll = true ∧ serverFd ≠ 0 ∧ serverFd ≠ INVALID_FD ∧ pid ≠ INVALID_PID ∧
      ∀ ses, Live ses s.toSessionTables → ses.pid ≠ pid := by
  obtain ⟨result, sessions, idxPids, -⟩ := addSocketPairInfo_of_stores stores
  obtain ⟨valid, fresh⟩ := fresh_of_stores stores
  have process := stores.process
  have agree := agrees.agree
  have absent : s.sessions[serverFd]? = none := by
    cases live : s.sessions[serverFd]? with
    | none => rfl
    | some ses => exact absurd (h.fds _ _ live).2.2 fresh
  have stored : (next (.addSocketPairInfo pid tokenType answers) s).sessions[serverFd]? =
      some (newSession pid tokenType serverFd) := by simp [sessions]
  have live : Live (newSession pid tokenType serverFd)
      (next (.addSocketPairInfo pid tokenType answers) s).toSessionTables := ⟨_, stored⟩
  have positive : serverFd ≠ 0 := by
    rintro rfl
    obtain ⟨other, found⟩ := agree.found _ live
    have index := agree.fdOfPid _ _ stored
    rw [getClientPid_of_live stored] at index
    simp [getSessionByPid, index] at found
  have absentFd : (-1 : Int32) ∉
      (next (.addSocketPairInfo pid tokenType answers) s).sessions := by
    have negative := negative_absent h
    have other : serverFd ≠ -1 := by
      rintro rfl
      exact absurd valid (by decide)
    grind
  refine ⟨?_, positive, ?_, (agree.noPid _ absentFd).2 _ live, ?_⟩
  · by_contra polled
    have same := (agrees.unchanged _ _ _ rfl (fun ok => polled (result.mp ok))).1
    rw [same, absent] at stored
    cases stored
  · have lonely : ∀ ses,
        Live ses (next (.addSocketPairInfo pid tokenType answers) s).toSessionTables →
          ses.pid ≠ -1 := by
      rintro ses ⟨k, there⟩ negative
      have bound : 0 ≤ ses.pid := by
        rw [sessions, ExtTreeMap.getElem?_insert] at there
        split_ifs at there with here
        · obtain rfl := Option.some.inj there
          exact process
        · exact (h.pids k ses there).1
      rw [negative] at bound
      exact absurd bound (by decide)
    rintro rfl
    have mem := (agree.noFd (-1) lonely).2
    grind
  · rintro ses ⟨k, there⟩ same
    have other : k ≠ serverFd := by
      rintro rfl
      simp [absent] at there
    have kept : (next (.addSocketPairInfo pid tokenType answers) s).sessions[k]? = some ses := by
      rw [sessions]
      grind
    have first := agree.fdOfPid _ _ kept
    have second := agree.fdOfPid _ _ stored
    rw [getClientPid_of_live kept, same] at first
    rw [getClientPid_of_live stored] at second
    exact other (first.symm.trans second)

theorem keepsApart_iff_of_not_add {event : StreamServerEvent}
    (other : ∀ pid tokenType answers, event ≠ .addSocketPairInfo pid tokenType answers) :
    KeepsApart event s ↔
      ∀ fd, deleted event = some fd → Deletable fd s.toSessionTables := by
  cases event with
  | addSocketPairInfo pid tokenType answers => exact absurd rfl (other pid tokenType answers)
  | _ => exact Iff.rfl

/-- One step, from inverse tables. -/
theorem inverse_next (h : Inverse s.toSessionTables) {event : StreamServerEvent}
    (ok : KeepsApart event s) : Inverse (next event s).toSessionTables := by
  by_cases addition : ∃ pid tokenType answers, event = .addSocketPairInfo pid tokenType answers
  · obtain ⟨pid, tokenType, answers, rfl⟩ := addition
    by_cases stores : ∃ serverFd clientFd, Stores pid tokenType answers s serverFd clientFd
    · obtain ⟨serverFd, clientFd, stores⟩ := stores
      obtain ⟨polled, nonzero, fdMarker, pidMarker, only⟩ := ok serverFd clientFd stores
      exact inverse_of_stores h stores polled nonzero fdMarker pidMarker only
    · obtain ⟨sessions, idxPids, openFds⟩ := addSocketPairInfo_of_not_stores
        fun serverFd clientFd h => stores ⟨serverFd, clientFd, h⟩
      refine ⟨?_, ?_, ?_⟩
      · rw [sessions, idxPids]
        exact h.index
      · intro k ses live
        rw [sessions] at live
        obtain ⟨positive, marker, isOpen⟩ := h.fds k ses live
        exact ⟨positive, marker, openFds k isOpen⟩
      · rw [sessions]
        exact h.pids
  · have other : ∀ pid tokenType answers, event ≠ .addSocketPairInfo pid tokenType answers :=
      fun pid tokenType answers eq => addition ⟨pid, tokenType, answers, eq⟩
    have tables := tables_next h other
    have deletable := (keepsApart_iff_of_not_add other).mp ok
    cases target : deleted event with
    | none =>
      rw [target] at tables
      rwa [tables]
    | some fd =>
      rw [target] at tables
      exact h.of_deletes tables (deletable fd target)

theorem agrees_iff_keepsApart (h : Inverse s.toSessionTables) (event : StreamServerEvent) :
    Agrees event s ↔ KeepsApart event s := by
  constructor
  · intro agrees
    by_cases addition : ∃ pid tokenType answers, event = .addSocketPairInfo pid tokenType answers
    · obtain ⟨pid, tokenType, answers, rfl⟩ := addition
      exact fun serverFd clientFd stores => agrees.keepsApart h stores
    · have other : ∀ pid tokenType answers, event ≠ .addSocketPairInfo pid tokenType answers :=
        fun pid tokenType answers eq => addition ⟨pid, tokenType, answers, eq⟩
      rw [keepsApart_iff_of_not_add other]
      intro fd target
      have tables := tables_next h other
      rw [target] at tables
      by_contra zero
      exact not_agree_of_deletes h tables zero agrees.agree
  · intro ok
    refine ⟨(inverse_next h ok).agree, ?_⟩
    rintro pid tokenType answers rfl failed
    by_cases stores : ∃ serverFd clientFd, Stores pid tokenType answers s serverFd clientFd
    · obtain ⟨serverFd, clientFd, stores⟩ := stores
      have polled := (ok serverFd clientFd stores).1
      exact absurd ((addSocketPairInfo_of_stores stores).1.mpr polled) failed
    · obtain ⟨sessions, idxPids, -⟩ := addSocketPairInfo_of_not_stores
        fun serverFd clientFd h => stores ⟨serverFd, clientFd, h⟩
      exact ⟨sessions, idxPids⟩

/-- In a run of the server the tables agree after every step, and additions that fail leave
them as they were, exactly when each step keeps the tables apart. -/
theorem run_agrees_iff_keepsApart (events : List StreamServerEvent) :
    EachStep next Agrees {} events ↔ EachStep next KeepsApart {} events := by
  refine EachStep.iff_of_invariant (I := fun s => Inverse s.toSessionTables) ?_ ?_ ?_
  · intro event s h ok
    exact inverse_next h ok
  · intro event s h
    exact agrees_iff_keepsApart h event
  · refine ⟨?_, ?_, ?_⟩ <;> simp

/-- Process 8 connects with descriptor 5 and then with descriptor 9, and descriptor 5 hangs up. -/
def connectsTwice : List StreamServerEvent :=
  [.addSocketPairInfo 8 0 { socketpair := some (5, 10) },
    .addSocketPairInfo 8 0 { socketpair := some (9, 11) }, .onEpollEvent 5 .hangup]

/-- The session of descriptor 9 cannot be found by its process any more. -/
theorem connectsTwice_disagrees : ¬ EachStep next Agrees {} connectsTwice := by
  intro agrees
  have agree := (agrees [connectsTwice[0], connectsTwice[1]] connectsTwice[2]
    List.prefix_rfl).agree
  obtain ⟨other, found⟩ :=
    agree.found { fd := 9, pid := 8, tokenType := 0 } ⟨9, by decide +kernel⟩
  have lost : getSessionByPid 8
      (next connectsTwice[2] (runFrom next {} [connectsTwice[0], connectsTwice[1]])).toSessionTables
        = none := by decide +kernel
  simp [lost] at found

end StreamServer

end DeviceStatus.Ipc
