import DeviceStatus.Library.Transition
import Std.Data.ExtTreeMap

/-!
# The dsoftbus of the fusion service

`Inner` of `dsoftbus.rs` behind its lock. Opening a session enters its id in `session_dev_map`,
waits and then judges the result by `channel_status_map`. The callbacks that report the result
need the lock that the waiting call holds, so the call never learns it: what it returns depends
on earlier calls only. The table itself is sound until a call panics: an id is cut after twenty
bytes, which may be in the middle of a character, and a panic under the lock poisons it, so that
no later call or callback touches the table.

## Main definitions

* `Inner`, `Inner.next` — the tables, the sessions of the softbus, and a call or callback.
* `DSoftbus.openInputSoftbus` — a call that takes the lock.
* `Inner.Truthful` — what a call returns, and the table after it, agree with the reports.
* `Inner.OpensWhenLive` — nobody asks for a session with a peer unless there is one already, and
  with a poisoned lock nothing concerns a session in the table.
-/

namespace DeviceStatus.Fusion

open Std (ExtTreeMap)
open Transition.System

/-- A `String` is its bytes. -/
abbrev NetworkId := List UInt8

/-- The softbus gives out ids that it has not given out before. -/
abbrev SessionId := ℕ

def INTERCEPT_STRING_LENGTH : ℕ := 20
def SESSION_SIDE_SERVER : Int32 := 0
def SESSION_SIDE_CLIENT : Int32 := 1
def RET_OK : Int32 := 0
def RET_ERROR : Int32 := -1

inductive FusionErrorCode where
  | fail
  deriving DecidableEq

abbrev FusionResult (T : Type) := Except FusionErrorCode T

/-- What ends a call early. -/
inductive Stop where
  | returns (e : FusionErrorCode)
  | panics
  deriving DecidableEq

/-- A session as the softbus knows it. -/
structure Session where
  peer : NetworkId
  side : Int32
  /-- what `on_session_opened` has reported -/
  opened : Option Bool := none
  closed : Bool := false
  /-- reported as opened, and not closed since -/
  live : Bool := false

structure Inner where
  localSessionName : NetworkId := []
  sessionDevMap : ExtTreeMap NetworkId SessionId := ∅
  channelStatusMap : ExtTreeMap NetworkId Bool := ∅
  /-- the sessions of the softbus, by their ids -/
  sessions : List Session := []
  /-- a call has panicked while it held the lock -/
  poisoned : Bool := false

/-- What the softbus answers while a session is opened. -/
structure OpenAnswers where
  localNetworkId : Option NetworkId
  createSessionServer : Int32 := RET_OK
  /-- whether `OpenSession` gives an id -/
  openSession : Bool := true

/-- What the softbus answers to a callback that asks about the session. -/
structure PeerAnswers where
  getPeerDeviceId : Int32 := RET_OK
  /-- whether `GetSessionSide` succeeds -/
  sideKnown : Bool := true

namespace Inner

def sessionNameHead : NetworkId := "ohos.msdp.device_status".toUTF8.toList

/-! ## The softbus -/

/-- `OpenSession`; the id is the next one. -/
def openSession (peer : NetworkId) (d : Inner) : SessionId × Inner :=
  (d.sessions.length, { d with sessions := d.sessions ++ [{ peer, side := SESSION_SIDE_CLIENT }] })

/-- The session `id` has been closed, by `CloseSession` or by its peer. -/
def closed (id : SessionId) (d : Inner) : Inner :=
  { d with sessions := d.sessions.modify id fun s => { s with closed := true, live := false } }

/-- The softbus has reported the result of opening session `id`. -/
def reported (id : SessionId) (success : Bool) (d : Inner) : Inner :=
  { d with
    sessions := d.sessions.modify id fun s => { s with opened := some success, live := success } }

/-- `GetSessionSide`. -/
def getSessionSide (id : SessionId) (answers : PeerAnswers) (d : Inner) : Int32 :=
  match d.sessions[id]? with
  | some session => if answers.sideKnown then session.side else RET_ERROR
  | none => RET_ERROR

/-! ## The calls -/

/-- `str::is_char_boundary`: no byte that continues a character stands there. -/
def isCharBoundary (s : NetworkId) (index : ℕ) : Bool :=
  match s[index]? with
  | some byte => byte < 0x80 || 0xC0 ≤ byte
  | none => index = s.length

/-- The slice of the first twenty bytes. -/
def interceptString (s : NetworkId) : Except Stop NetworkId :=
  if isCharBoundary s INTERCEPT_STRING_LENGTH then .ok (s.take INTERCEPT_STRING_LENGTH)
  else .error .panics

def getSessionName (answers : OpenAnswers) : Except Stop NetworkId :=
  match answers.localNetworkId with
  | some localNetworkId =>
    if INTERCEPT_STRING_LENGTH ≤ localNetworkId.length then
      (interceptString localNetworkId).map (sessionNameHead ++ ·)
    else .error (.returns .fail)
  | none => .error (.returns .fail)

def init (answers : OpenAnswers) (d : Inner) : Except Stop Unit × Inner :=
  match getSessionName answers with
  | .error e => (.error e, d)
  | .ok sessionName =>
    if d.localSessionName = sessionName then (.ok (), d)
    else
      let d := { d with localSessionName := sessionName }
      if answers.createSessionServer ≠ RET_OK then (.error (.returns .fail), d) else (.ok (), d)

def getPeerSessionName (remoteNetworkId : NetworkId) : Except Stop NetworkId :=
  if INTERCEPT_STRING_LENGTH ≤ remoteNetworkId.length then
    (interceptString remoteNetworkId).map (sessionNameHead ++ ·)
  else .error (.returns .fail)

def checkDeviceSessionState (remoteNetworkId : NetworkId) (d : Inner) : Bool :=
  (d.sessionDevMap[remoteNetworkId]?).isSome

/-- `wait_session_opend`. Whoever would end the wait needs the lock, so it times out. -/
def waitSessionOpend (remoteNetworkId : NetworkId) (sessionId : SessionId) (d : Inner) :
    Except Stop Unit × Inner :=
  let d := { d with sessionDevMap := d.sessionDevMap.insert remoteNetworkId sessionId }
  if d.channelStatusMap[remoteNetworkId]? = some false then (.error (.returns .fail), d)
  else
    (.ok (), { d with channelStatusMap := d.channelStatusMap.insert remoteNetworkId false })

def openInputSoftbus (remoteNetworkId : NetworkId) (answers : OpenAnswers) (d : Inner) :
    Except Stop Unit × Inner :=
  if d.checkDeviceSessionState remoteNetworkId then (.ok (), d)
  else
    match d.init answers with
    | (.error e, d) => (.error e, d)
    | (.ok _, d) =>
      match getPeerSessionName remoteNetworkId with
      | .error e => (.error e, d)
      | .ok _ =>
        if answers.openSession = false then (.error (.returns .fail), d)
        else
          let (sessionId, d) := d.openSession remoteNetworkId
          d.waitSessionOpend remoteNetworkId sessionId

def closeInputSoftbus (remoteNetworkId : NetworkId) (d : Inner) : Inner :=
  match d.sessionDevMap[remoteNetworkId]? with
  | some sessionId =>
    { d.closed sessionId with
      sessionDevMap := d.sessionDevMap.erase remoteNetworkId
      channelStatusMap := d.channelStatusMap.erase remoteNetworkId }
  | none => d

def findDevice (sessionId : SessionId) (d : Inner) : FusionResult NetworkId :=
  match d.sessionDevMap.toList.find? fun entry => entry.2 = sessionId with
  | some (key, _) => .ok key
  | none => .error .fail

/-- `on_session_opened`, of a session with the peer `peerDevId`. -/
def onSessionOpened (sessionId : SessionId) (result : Int32) (peerDevId : NetworkId)
    (answers : PeerAnswers) (d : Inner) : FusionResult Unit × Inner :=
  let opened (d : Inner) : Inner :=
    if answers.getPeerDeviceId = RET_OK then
      { d with channelStatusMap := d.channelStatusMap.insert peerDevId true }
    else d
  if result ≠ RET_OK then
    match d.findDevice sessionId with
    | .error e => (.error e, d)
    | .ok deviceId => (.ok (), opened { d with sessionDevMap := d.sessionDevMap.erase deviceId })
  else if d.getSessionSide sessionId answers = SESSION_SIDE_SERVER then
    if answers.getPeerDeviceId = RET_OK then
      (.ok (), { d with sessionDevMap := d.sessionDevMap.insert peerDevId sessionId })
    else (.ok (), d)
  else (.ok (), opened d)

def onSessionClosed (sessionId : SessionId) (answers : PeerAnswers) (d : Inner) : Inner :=
  match d.findDevice sessionId with
  | .error _ => d
  | .ok deviceId =>
    let d := { d with sessionDevMap := d.sessionDevMap.erase deviceId }
    if d.getSessionSide sessionId answers ≠ RET_OK then
      { d with channelStatusMap := d.channelStatusMap.erase deviceId }
    else d

end Inner

namespace DSoftbus

/-! ## The lock -/

def openInputSoftbus (remoteNetworkId : NetworkId) (answers : OpenAnswers) (d : Inner) :
    Except Stop Unit × Inner :=
  if d.poisoned then (.error (.returns .fail), d)
  else
    match d.openInputSoftbus remoteNetworkId answers with
    | (.error .panics, d) => (.error .panics, { d with poisoned := true })
    | (.error (.returns e), d) => (.error (.returns e), d)
    | (.ok (), d) => (.ok (), d)

def closeInputSoftbus (remoteNetworkId : NetworkId) (d : Inner) : Inner :=
  if d.poisoned then d else d.closeInputSoftbus remoteNetworkId

def onSessionOpened (sessionId : SessionId) (result : Int32) (peerDevId : NetworkId)
    (answers : PeerAnswers) (d : Inner) : FusionResult Unit × Inner :=
  if d.poisoned then (.error .fail, d) else d.onSessionOpened sessionId result peerDevId answers

def onSessionClosed (sessionId : SessionId) (answers : PeerAnswers) (d : Inner) : Inner :=
  if d.poisoned then d else d.onSessionClosed sessionId answers

end DSoftbus

/-- What may take the lock next. -/
inductive Call where
  | openInputSoftbus (remoteNetworkId : NetworkId) (answers : OpenAnswers)
  | closeInputSoftbus (remoteNetworkId : NetworkId)
  /-- a peer asks the softbus for a session; what comes of it is reported like any other -/
  | request (peer : NetworkId)
  | onSessionOpened (sessionId : SessionId) (result : Int32) (answers : PeerAnswers)
  | onSessionClosed (sessionId : SessionId) (answers : PeerAnswers)

namespace Inner

/-- The softbus reports the result of each session once; and that a session of a peer has been
closed, only after it has been reported. -/
def next (call : Call) (d : Inner) : Inner :=
  match call with
  | .openInputSoftbus remoteNetworkId answers =>
    (DSoftbus.openInputSoftbus remoteNetworkId answers d).2
  | .closeInputSoftbus remoteNetworkId => DSoftbus.closeInputSoftbus remoteNetworkId d
  | .request peer =>
    { d with sessions := d.sessions ++ [{ peer, side := SESSION_SIDE_SERVER }] }
  | .onSessionOpened id result answers =>
    match d.sessions[id]? with
    | some session =>
      if session.opened = none then
        (DSoftbus.onSessionOpened id result session.peer answers
          (d.reported id (result = RET_OK))).2
      else d
    | none => d
  | .onSessionClosed id answers =>
    match d.sessions[id]? with
    | some session =>
      if session.side = SESSION_SIDE_CLIENT ∨ session.opened.isSome then
        DSoftbus.onSessionClosed id answers (d.closed id)
      else d
    | none => d

/-! ## Truthful reports -/

/-- A session with the peer has been reported as opened and has not been closed since. -/
def Live (peer : NetworkId) (d : Inner) : Prop :=
  ∃ session ∈ d.sessions, session.peer = peer ∧ session.live

/-- No entry has an id whose opening failed or which was closed. -/
def MapSound (d : Inner) : Prop :=
  ∀ (n : NetworkId) (id : SessionId), d.sessionDevMap[n]? = some id →
    ∃ session : Session, d.sessions[id]? = some session ∧ session.opened ≠ some false ∧
      session.closed = false

/-- What a call returns, and the table after it, agree with what has been reported. -/
structure Truthful (call : Call) (d : Inner) : Prop where
  ok : ∀ n answers, call = .openInputSoftbus n answers →
    (DSoftbus.openInputSoftbus n answers d).1 = .ok () → Live n (next call d)
  error : ∀ n answers e, call = .openInputSoftbus n answers →
    (DSoftbus.openInputSoftbus n answers d).1 = .error (.returns e) →
      (next call d).sessionDevMap[n]? = none
  sound : MapSound (next call d)

/-- The id is long enough, and its first twenty bytes are whole characters. -/
def Intercepts (s : NetworkId) : Prop :=
  INTERCEPT_STRING_LENGTH ≤ s.length ∧ isCharBoundary s INTERCEPT_STRING_LENGTH = true

/-- The session server of this device is there or can be made. -/
def CanInit (answers : OpenAnswers) (d : Inner) : Prop :=
  ∃ l, answers.localNetworkId = some l ∧ Intercepts l ∧
    (d.localSessionName = sessionNameHead ++ l.take INTERCEPT_STRING_LENGTH ∨
      answers.createSessionServer = RET_OK)

/-- The softbus gives an id when it is asked for a session with the peer. -/
structure GetsSession (n : NetworkId) (answers : OpenAnswers) (d : Inner) : Prop where
  init : CanInit answers d
  peer : Intercepts n
  openSession : answers.openSession = true

/-- Asked for a peer that has an entry, or for which the softbus gives a new id, the call comes
while a session with the peer is open; and for a new id, the channel status is not false. Once the
lock is poisoned, no call asks for a peer that has an entry, and no session that has one is
reported as failed or as closed. -/
def OpensWhenLive (call : Call) (d : Inner) : Prop :=
  match call with
  | .openInputSoftbus n answers =>
    if d.poisoned then n ∉ d.sessionDevMap
    else (n ∈ d.sessionDevMap → Live n d) ∧
      (n ∉ d.sessionDevMap → GetsSession n answers d →
        Live n d ∧ d.channelStatusMap[n]? ≠ some false)
  | .onSessionOpened id result _ =>
    d.poisoned = true → result ≠ RET_OK → ∀ session, d.sessions[id]? = some session →
      session.opened = none → ∀ n : NetworkId, d.sessionDevMap[n]? ≠ some id
  | .onSessionClosed id _ => d.poisoned = true → ∀ n : NetworkId, d.sessionDevMap[n]? ≠ some id
  | _ => True

variable {d : Inner} {n : NetworkId} {id : SessionId} {answers : OpenAnswers}

/-! ## What an open does -/

theorem openInputSoftbus_of_mem (known : n ∈ d.sessionDevMap) :
    d.openInputSoftbus n answers = (.ok (), d) := by
  have present : d.checkDeviceSessionState n = true := by
    grind [checkDeviceSessionState]
  rw [openInputSoftbus, if_pos present]

theorem getPeerSessionName_of_intercepts (whole : Intercepts n) :
    getPeerSessionName n = .ok (sessionNameHead ++ n.take INTERCEPT_STRING_LENGTH) := by
  rw [getPeerSessionName, if_pos whole.1, interceptString, if_pos whole.2]
  rfl

theorem getPeerSessionName_of_not_intercepts (cut : ¬ Intercepts n) :
    ∃ e, getPeerSessionName n = .error e := by
  unfold getPeerSessionName interceptString
  split_ifs with long boundary
  · exact absurd ⟨long, boundary⟩ cut
  · exact ⟨.panics, rfl⟩
  · exact ⟨.returns .fail, rfl⟩

theorem getSessionName_eq {l : NetworkId} (localId : answers.localNetworkId = some l) :
    getSessionName answers = getPeerSessionName l := by
  rw [getSessionName, localId]
  rfl

theorem init_of_canInit (can : CanInit answers d) :
    ∃ name, d.init answers = (.ok (), { d with localSessionName := name }) := by
  obtain ⟨l, localId, whole, start⟩ := can
  simp only [init, getSessionName_eq localId, getPeerSessionName_of_intercepts whole]
  split_ifs with same refused
  · exact ⟨d.localSessionName, rfl⟩
  · exact absurd (start.resolve_left same) refused
  · exact ⟨_, rfl⟩

theorem init_of_not_canInit (cannot : ¬ CanInit answers d) :
    ∃ e name, d.init answers = (.error e, { d with localSessionName := name }) := by
  cases localId : answers.localNetworkId with
  | none => exact ⟨_, d.localSessionName, by rw [init, getSessionName, localId]⟩
  | some l =>
    by_cases whole : Intercepts l
    · simp only [init, getSessionName_eq localId, getPeerSessionName_of_intercepts whole]
      split_ifs with same refused
      · exact absurd ⟨l, localId, whole, .inl same⟩ cannot
      · exact ⟨_, _, rfl⟩
      · exact absurd ⟨l, localId, whole, .inr (not_not.mp refused)⟩ cannot
    · obtain ⟨e, failed⟩ := getPeerSessionName_of_not_intercepts whole
      exact ⟨e, d.localSessionName, by rw [init, getSessionName_eq localId, failed]⟩

theorem checkDeviceSessionState_of_not_mem (unknown : n ∉ d.sessionDevMap) :
    ¬ d.checkDeviceSessionState n = true := by
  grind [checkDeviceSessionState]

/-- When the softbus gives no id, the tables stay as they are. -/
theorem openInputSoftbus_of_not_gets (unknown : n ∉ d.sessionDevMap)
    (refused : ¬ GetsSession n answers d) :
    ∃ e name, d.openInputSoftbus n answers = (.error e, { d with localSessionName := name }) := by
  rw [openInputSoftbus, if_neg (checkDeviceSessionState_of_not_mem unknown)]
  by_cases can : CanInit answers d
  · obtain ⟨name, started⟩ := init_of_canInit can
    rw [started]
    by_cases peer : Intercepts n
    · have opens : answers.openSession = false := by
        by_contra given
        exact refused ⟨can, peer, by simpa using given⟩
      exact ⟨.returns .fail, name, by simp [getPeerSessionName_of_intercepts peer, opens]⟩
    · obtain ⟨e, failed⟩ := getPeerSessionName_of_not_intercepts peer
      exact ⟨e, name, by simp [failed]⟩
  · obtain ⟨e, name, failed⟩ := init_of_not_canInit can
    exact ⟨e, name, by rw [failed]⟩

theorem openInputSoftbus_of_gets (unknown : n ∉ d.sessionDevMap)
    (gets : GetsSession n answers d) :
    ∃ name, d.openInputSoftbus n answers =
      waitSessionOpend n d.sessions.length { d with
        localSessionName := name
        sessions := d.sessions ++ [{ peer := n, side := SESSION_SIDE_CLIENT }] } := by
  obtain ⟨name, started⟩ := init_of_canInit gets.init
  rw [openInputSoftbus, if_neg (checkDeviceSessionState_of_not_mem unknown), started]
  exact ⟨name, by
    simp [getPeerSessionName_of_intercepts gets.peer, gets.openSession, openSession]⟩

/-- With a channel status of false, the call fails and leaves an entry. -/
theorem openInputSoftbus_of_timeout (unknown : n ∉ d.sessionDevMap)
    (gets : GetsSession n answers d) (timeout : d.channelStatusMap[n]? = some false) :
    (d.openInputSoftbus n answers).1 = .error (.returns .fail) ∧
      (d.openInputSoftbus n answers).2.sessionDevMap[n]? = some d.sessions.length := by
  obtain ⟨name, eq⟩ := openInputSoftbus_of_gets unknown gets
  rw [eq, waitSessionOpend]
  simp [timeout]

theorem openInputSoftbus_eq_ok_iff :
    (d.openInputSoftbus n answers).1 = .ok () ↔
      n ∈ d.sessionDevMap ∨ GetsSession n answers d ∧ d.channelStatusMap[n]? ≠ some false := by
  by_cases known : n ∈ d.sessionDevMap
  · rw [openInputSoftbus_of_mem known]
    exact iff_of_true rfl (.inl known)
  by_cases gets : GetsSession n answers d
  · by_cases timeout : d.channelStatusMap[n]? = some false
    · rw [(openInputSoftbus_of_timeout known gets timeout).1]
      simp [known, timeout]
    · obtain ⟨name, eq⟩ := openInputSoftbus_of_gets known gets
      rw [eq, waitSessionOpend]
      simp [gets, timeout]
  · obtain ⟨e, name, eq⟩ := openInputSoftbus_of_not_gets known gets
    rw [eq]
    simp [known, gets]

/-! ## What the lock does -/

theorem openInputSoftbus_of_poisoned (n : NetworkId) (answers : OpenAnswers)
    (poisoned : d.poisoned = true) :
    DSoftbus.openInputSoftbus n answers d = (.error (.returns .fail), d) := by
  rw [DSoftbus.openInputSoftbus, if_pos poisoned]

@[simp] theorem poisoned_reported (success : Bool) :
    (d.reported id success).poisoned = d.poisoned := rfl

@[simp] theorem poisoned_closed : (d.closed id).poisoned = d.poisoned := rfl

/-- A call that gets the lock does what it does, and may poison the lock. -/
theorem openInputSoftbus_of_not_poisoned (n : NetworkId) (answers : OpenAnswers)
    (healthy : d.poisoned = false) :
    ∃ poisoned, DSoftbus.openInputSoftbus n answers d =
      ((d.openInputSoftbus n answers).1, { (d.openInputSoftbus n answers).2 with poisoned }) := by
  rw [DSoftbus.openInputSoftbus, if_neg (by simp [healthy])]
  split
  next d' eq => exact ⟨true, by rw [eq]⟩
  next e d' eq => exact ⟨d'.poisoned, by rw [eq]⟩
  next d' eq => exact ⟨d'.poisoned, by rw [eq]⟩

/-! ## What the callbacks do -/

@[simp] theorem sessions_onSessionOpened (result : Int32) (peer : NetworkId)
    (answers : PeerAnswers) :
    (d.onSessionOpened id result peer answers).2.sessions = d.sessions := by
  unfold onSessionOpened
  grind

/-! ## The table -/

/-- The session of an entry. -/
structure Entry (n : NetworkId) (session : Session) : Prop where
  peer : session.peer = n
  opened : session.opened ≠ some false
  closed : session.closed = false

/-- What the lock protects. -/
structure Sound (d : Inner) : Prop where
  entry : ∀ (n : NetworkId) (id : SessionId), d.sessionDevMap[n]? = some id →
    ∃ session : Session, d.sessions[id]? = some session ∧ Entry n session
  announced : ∀ (id : SessionId) (session : Session), d.sessions[id]? = some session →
    session.side ≠ SESSION_SIDE_CLIENT → session.opened = none →
      session.closed = false ∧ ∀ n : NetworkId, d.sessionDevMap[n]? ≠ some id

/-- The device that is found has an entry with the id. -/
theorem findDevice_spec (d : Inner) (id : SessionId) :
    match d.findDevice id with
    | .ok n => d.sessionDevMap[n]? = some id
    | .error _ => ∀ n : NetworkId, d.sessionDevMap[n]? ≠ some id := by
  unfold findDevice
  cases found : d.sessionDevMap.toList.find? fun entry => entry.2 = id with
  | none =>
    intro n entry
    rw [List.find?_eq_none] at found
    have mem := ExtTreeMap.mem_toList_iff_getElem?_eq_some.mpr entry
    exact found _ mem (by simp)
  | some entry =>
    obtain ⟨n, i⟩ := entry
    have mem := List.mem_of_find?_eq_some found
    have same : i = id := by simpa using List.find?_some found
    rw [← same]
    exact ExtTreeMap.mem_toList_iff_getElem?_eq_some.mp mem

namespace Sound

theorem mapSound (h : Sound d) : MapSound d := by
  intro n id entry
  obtain ⟨session, known, sound⟩ := h.entry n id entry
  exact ⟨session, known, sound.opened, sound.closed⟩

theorem start : Sound {} where
  entry n id entry := by simp at entry
  announced id session known := by simp at known

/-- The ids of two entries differ, since the peers do. -/
theorem peer_unique (h : Sound d) {m : NetworkId} (hn : d.sessionDevMap[n]? = some id)
    (hm : d.sessionDevMap[m]? = some id) : m = n := by
  obtain ⟨session, known, entry⟩ := h.entry n id hn
  obtain ⟨session', known', entry'⟩ := h.entry m id hm
  obtain rfl : session = session' := Option.some.inj (known.symm.trans known')
  exact entry'.peer.symm.trans entry.peer

theorem getElem?_erase (h : Sound d) (entry : d.sessionDevMap[n]? = some id) {m : NetworkId}
    {i : SessionId} (later : (d.sessionDevMap.erase n)[m]? = some i) :
    i ≠ id ∧ d.sessionDevMap[m]? = some i := by
  rw [ExtTreeMap.getElem?_erase] at later
  split_ifs at later with same
  refine ⟨?_, later⟩
  rintro rfl
  exact same (by rw [h.peer_unique entry later]; exact Std.ReflCmp.compare_self)

/-- One session changes; the entries with other ids were there before. -/
theorem modify {d' : Inner} {session : Session} {f : Session → Session} (h : Sound d)
    (known : d.sessions[id]? = some session) (sessions : d'.sessions = d.sessions.modify id f)
    (announced : (f session).side = SESSION_SIDE_CLIENT ∨ (f session).opened ≠ none)
    (map : ∀ (n : NetworkId) (i : SessionId), d'.sessionDevMap[n]? = some i →
      if i = id then Entry n (f session) else d.sessionDevMap[n]? = some i) : Sound d' := by
  have here : d'.sessions[id]? = some (f session) := by
    rw [sessions, List.getElem?_modify, known]
    simp
  have other (i : SessionId) (ne : i ≠ id) : d'.sessions[i]? = d.sessions[i]? := by
    rw [sessions, List.getElem?_modify]
    simp [ne.symm]
  constructor
  · intro n i entry
    have before := map n i entry
    split_ifs at before with same
    · subst same
      exact ⟨f session, here, before⟩
    · rw [other i same]
      exact h.entry n i before
  · intro i found lookup side none
    by_cases same : i = id
    · subst same
      obtain rfl : f session = found := Option.some.inj (here.symm.trans lookup)
      exact absurd none (announced.resolve_left side)
    · rw [other i same] at lookup
      obtain ⟨opened, absent⟩ := h.announced i found lookup side none
      refine ⟨opened, fun n entry => absent n ?_⟩
      simpa [same] using map n i entry

/-- A session comes; the entries with other ids were there before. -/
theorem append {d' : Inner} (h : Sound d) (session : Session)
    (sessions : d'.sessions = d.sessions ++ [session]) (unclosed : session.closed = false)
    (map : ∀ (n : NetworkId) (i : SessionId), d'.sessionDevMap[n]? = some i →
      if i = d.sessions.length then session.side = SESSION_SIDE_CLIENT ∧ Entry n session
      else d.sessionDevMap[n]? = some i) : Sound d' := by
  have here : d'.sessions[d.sessions.length]? = some session := by simp [sessions]
  have other (i : SessionId) (ne : i ≠ d.sessions.length) :
      d'.sessions[i]? = d.sessions[i]? := by
    rw [sessions]
    grind
  constructor
  · intro n i entry
    have before := map n i entry
    split_ifs at before with same
    · subst same
      exact ⟨session, here, before.2⟩
    · rw [other i same]
      exact h.entry n i before
  · intro i found lookup side none
    by_cases same : i = d.sessions.length
    · subst same
      obtain rfl : session = found := Option.some.inj (here.symm.trans lookup)
      refine ⟨unclosed, fun n entry => ?_⟩
      have before := map n d.sessions.length entry
      rw [if_pos rfl] at before
      exact side before.1
    · rw [other i same] at lookup
      obtain ⟨opened, absent⟩ := h.announced i found lookup side none
      refine ⟨opened, fun n entry => absent n ?_⟩
      simpa [same] using map n i entry

/-- The ids of entries have been given out. -/
theorem lt_length (h : Sound d) (entry : d.sessionDevMap[n]? = some id) :
    id < d.sessions.length := by
  obtain ⟨session, known, -⟩ := h.entry n id entry
  exact (List.getElem?_eq_some_iff.mp known).1

/-! ### The calls keep the table sound -/

theorem openInputSoftbus (h : Sound d) (n : NetworkId) (answers : OpenAnswers) :
    Sound (d.openInputSoftbus n answers).2 := by
  by_cases known : n ∈ d.sessionDevMap
  · rw [openInputSoftbus_of_mem known]
    exact h
  by_cases gets : GetsSession n answers d
  · obtain ⟨name, eq⟩ := openInputSoftbus_of_gets known gets
    rw [eq]
    refine h.append { peer := n, side := SESSION_SIDE_CLIENT } ?_ rfl ?_
    · unfold waitSessionOpend
      dsimp only
      split_ifs <;> rfl
    · intro m i entry
      have inserted : (d.sessionDevMap.insert n d.sessions.length)[m]? = some i := by
        unfold waitSessionOpend at entry
        dsimp only at entry
        split_ifs at entry <;> exact entry
      rw [ExtTreeMap.getElem?_insert] at inserted
      split_ifs at inserted with same
      · obtain rfl : n = m := Std.LawfulEqCmp.eq_of_compare same
        obtain rfl : d.sessions.length = i := Option.some.inj inserted
        rw [if_pos rfl]
        exact ⟨rfl, rfl, by simp, rfl⟩
      · rw [if_neg (Nat.ne_of_lt (h.lt_length inserted))]
        exact inserted
  · obtain ⟨e, name, eq⟩ := openInputSoftbus_of_not_gets known gets
    rw [eq]
    exact ⟨h.entry, h.announced⟩

theorem closeInputSoftbus (h : Sound d) (n : NetworkId) : Sound (d.closeInputSoftbus n) := by
  unfold Inner.closeInputSoftbus
  split
  · next id entry =>
    obtain ⟨session, known, -⟩ := h.entry n id entry
    refine h.modify known rfl ?_ ?_
    · by_contra silent
      push Not at silent
      exact (h.announced id session known silent.1 silent.2).2 n entry
    · intro m i later
      obtain ⟨other, before⟩ := h.getElem?_erase entry later
      rw [if_neg other]
      exact before
  · exact h

theorem request (h : Sound d) (peer : NetworkId) : Sound (next (.request peer) d) := by
  refine h.append { peer, side := SESSION_SIDE_SERVER } rfl rfl fun m i entry => ?_
  rw [if_neg (Nat.ne_of_lt (h.lt_length entry))]
  exact entry

/-- Once the device of a session has been found and its entry erased, no entry has its id. -/
theorem ne_of_findDevice (h : Sound d) {d' : Inner} (same : d'.sessionDevMap = d.sessionDevMap)
    {map : ExtTreeMap NetworkId SessionId} {i : SessionId}
    (erased : match d'.findDevice id with
      | .ok deviceId => map = d.sessionDevMap.erase deviceId
      | .error _ => map = d.sessionDevMap)
    (later : map[n]? = some i) : i ≠ id ∧ d.sessionDevMap[n]? = some i := by
  have spec := findDevice_spec d' id
  rw [same] at spec
  cases found : d'.findDevice id with
  | error e =>
    simp only [found] at spec erased
    subst erased
    refine ⟨?_, later⟩
    rintro rfl
    exact spec n later
  | ok deviceId =>
    simp only [found] at spec erased
    subst erased
    exact h.getElem?_erase spec later

/-- A failed session loses its entry. -/
theorem onSessionOpened_failed (h : Sound d) {session : Session}
    (known : d.sessions[id]? = some session) {result : Int32} (failed : result ≠ RET_OK)
    (answers : PeerAnswers) :
    Sound ((d.reported id false).onSessionOpened id result session.peer answers).2 := by
  refine h.modify (f := fun s => { s with opened := some false, live := false }) known
    (sessions_onSessionOpened ..) (.inr (by simp)) fun n i later => ?_
  have same : (d.reported id false).sessionDevMap = d.sessionDevMap := rfl
  obtain ⟨other, before⟩ := h.ne_of_findDevice same (by
    rw [Inner.onSessionOpened, if_pos failed]
    cases (d.reported id false).findDevice id with
    | error e => rfl
    | ok deviceId =>
      simp only
      split_ifs <;> rfl) later
  rw [if_neg other]
  exact before

/-- A session that has been opened keeps its entry, or gets it when the peer has asked for it. -/
theorem onSessionOpened_ok (h : Sound d) {session : Session}
    (known : d.sessions[id]? = some session) (first : session.opened = none)
    (answers : PeerAnswers) :
    Sound ((d.reported id true).onSessionOpened id RET_OK session.peer answers).2 := by
  refine h.modify (f := fun s => { s with opened := some true, live := true }) known
    (sessions_onSessionOpened ..) (.inr (by simp)) fun n i later => ?_
  have side : (d.reported id true).getSessionSide id answers = SESSION_SIDE_SERVER →
      session.side = SESSION_SIDE_SERVER := by
    have failed : RET_ERROR ≠ SESSION_SIDE_SERVER := by decide
    simp only [getSessionSide, reported, List.getElem?_modify, known]
    grind
  have kept (entry : d.sessionDevMap[n]? = some i) :
      if i = id then Entry n { session with opened := some true, live := true }
        else d.sessionDevMap[n]? = some i := by
    split_ifs with same
    · subst same
      obtain ⟨session', known', entry'⟩ := h.entry n i entry
      obtain rfl : session = session' := Option.some.inj (known.symm.trans known')
      exact ⟨entry'.peer, by simp, entry'.closed⟩
    · exact entry
  rw [Inner.onSessionOpened, if_neg (not_not.mpr rfl)] at later
  split_ifs at later with server told
  · change (d.sessionDevMap.insert session.peer id)[n]? = some i at later
    rw [ExtTreeMap.getElem?_insert] at later
    split_ifs at later with same
    · obtain rfl : id = i := Option.some.inj later
      have remote : session.side ≠ SESSION_SIDE_CLIENT := by
        rw [side server]
        decide
      rw [if_pos rfl]
      exact ⟨Std.LawfulEqCmp.eq_of_compare same, by simp,
        (h.announced id session known remote first).1⟩
    · exact kept later
  all_goals exact kept later

theorem onSessionClosed (h : Sound d) {session : Session}
    (known : d.sessions[id]? = some session)
    (announced : session.side = SESSION_SIDE_CLIENT ∨ session.opened.isSome)
    (answers : PeerAnswers) : Sound ((d.closed id).onSessionClosed id answers) := by
  refine h.modify (f := fun s => { s with closed := true, live := false }) known ?_ ?_ ?_
  · unfold Inner.onSessionClosed
    grind [closed]
  · exact announced.imp_right Option.isSome_iff_ne_none.mp
  · intro n i later
    have same : (d.closed id).sessionDevMap = d.sessionDevMap := rfl
    obtain ⟨other, before⟩ := h.ne_of_findDevice same (by
      unfold Inner.onSessionClosed
      cases (d.closed id).findDevice id with
      | error e => rfl
      | ok deviceId =>
        simp only
        split_ifs <;> rfl) later
    rw [if_neg other]
    exact before

/-- With a poisoned lock, a report leaves the table as it is. -/
theorem reported (h : Sound d) {session : Session} (known : d.sessions[id]? = some session)
    (success : Bool) (silent : success = false → ∀ n : NetworkId, d.sessionDevMap[n]? ≠ some id) :
    Sound (d.reported id success) := by
  refine h.modify (f := fun s => { s with opened := some success, live := success }) known rfl
    (.inr (by simp)) fun n i entry => ?_
  change d.sessionDevMap[n]? = some i at entry
  split_ifs with same
  · subst same
    obtain ⟨session', known', sound⟩ := h.entry n i entry
    obtain rfl : session = session' := Option.some.inj (known.symm.trans known')
    refine ⟨sound.peer, ?_, sound.closed⟩
    rintro failed
    exact silent (Option.some.inj failed) n entry
  · exact entry

theorem closed (h : Sound d) {session : Session} (known : d.sessions[id]? = some session)
    (announced : session.side = SESSION_SIDE_CLIENT ∨ session.opened.isSome)
    (silent : ∀ n : NetworkId, d.sessionDevMap[n]? ≠ some id) : Sound (d.closed id) := by
  refine h.modify (f := fun s => { s with closed := true, live := false }) known rfl
    (announced.imp_right Option.isSome_iff_ne_none.mp) fun n i entry => ?_
  rw [if_neg]
  · exact entry
  · rintro rfl
    exact silent n entry

protected theorem next (h : Sound d) (call : Call) (condition : OpensWhenLive call d) :
    Sound (next call d) := by
  cases call with
  | openInputSoftbus n answers =>
    rw [Inner.next]
    cases poisoned : d.poisoned with
    | true => rwa [openInputSoftbus_of_poisoned _ _ poisoned]
    | false =>
      obtain ⟨_, eq⟩ := openInputSoftbus_of_not_poisoned n answers poisoned
      rw [eq]
      have sound := h.openInputSoftbus n answers
      exact ⟨sound.entry, sound.announced⟩
  | closeInputSoftbus n =>
    rw [Inner.next, DSoftbus.closeInputSoftbus]
    split_ifs
    · exact h
    · exact h.closeInputSoftbus n
  | request peer => exact h.request peer
  | onSessionOpened id result answers =>
    simp only [Inner.next]
    split
    · next session known =>
      split_ifs with first
      · cases poisoned : d.poisoned with
        | true =>
          rw [DSoftbus.onSessionOpened, poisoned_reported, if_pos poisoned]
          refine h.reported known _ fun failed => ?_
          exact condition poisoned (of_decide_eq_false failed) session known first
        | false =>
          rw [DSoftbus.onSessionOpened, poisoned_reported, if_neg (ne_true_of_eq_false poisoned)]
          by_cases success : result = RET_OK
          · subst success
            exact h.onSessionOpened_ok known first answers
          · simp only [success, decide_false]
            exact h.onSessionOpened_failed known success answers
      · exact h
    · exact h
  | onSessionClosed id answers =>
    simp only [Inner.next]
    split
    · next session known =>
      split_ifs with announced
      · cases poisoned : d.poisoned with
        | true =>
          rw [DSoftbus.onSessionClosed, poisoned_closed, if_pos poisoned]
          exact h.closed known announced (condition poisoned)
        | false =>
          rw [DSoftbus.onSessionClosed, poisoned_closed, if_neg (ne_true_of_eq_false poisoned)]
          exact h.onSessionClosed known announced answers
      · exact h
    · exact h

end Sound

/-! ## When the reports are truthful -/

/-- A session that has not been reported yet changes nothing about which peers have a session. -/
theorem live_openInputSoftbus (n m : NetworkId) (answers : OpenAnswers) :
    Live m (d.openInputSoftbus n answers).2 ↔ Live m d := by
  by_cases known : n ∈ d.sessionDevMap
  · rw [openInputSoftbus_of_mem known]
  by_cases gets : GetsSession n answers d
  · obtain ⟨name, eq⟩ := openInputSoftbus_of_gets known gets
    have sessions : (d.openInputSoftbus n answers).2.sessions =
        d.sessions ++ [{ peer := n, side := SESSION_SIDE_CLIENT }] := by
      rw [eq]
      unfold waitSessionOpend
      dsimp only
      split_ifs <;> rfl
    simp [Live, sessions]
  · obtain ⟨e, name, eq⟩ := openInputSoftbus_of_not_gets known gets
    rw [eq]
    exact Iff.rfl

/-- A call that gets the lock is truthful only if it meets the condition. -/
theorem Truthful.live (truthful : Truthful (.openInputSoftbus n answers) d)
    (healthy : d.poisoned = false) :
    (n ∈ d.sessionDevMap → Live n d) ∧
      (n ∉ d.sessionDevMap → GetsSession n answers d →
        Live n d ∧ d.channelStatusMap[n]? ≠ some false) := by
  obtain ⟨_, eq⟩ := openInputSoftbus_of_not_poisoned n answers healthy
  obtain ⟨ok, error, -⟩ := truthful
  have live (success : (d.openInputSoftbus n answers).1 = .ok ()) : Live n d := by
    have now := ok n answers rfl (by rw [eq]; exact success)
    rw [next, eq] at now
    exact (live_openInputSoftbus n n answers).mp now
  refine ⟨fun known => live (openInputSoftbus_eq_ok_iff.mpr (.inl known)), fun unknown gets => ?_⟩
  have status : d.channelStatusMap[n]? ≠ some false := by
    intro timeout
    obtain ⟨failed, entry⟩ := openInputSoftbus_of_timeout unknown gets timeout
    have absent := error n answers .fail rfl (by rw [eq]; exact failed)
    rw [next, eq] at absent
    change (d.openInputSoftbus n answers).2.sessionDevMap[n]? = none at absent
    rw [entry] at absent
    cases absent
  exact ⟨live (openInputSoftbus_eq_ok_iff.mpr (.inr ⟨gets, status⟩)), status⟩

theorem Truthful.opensWhenLive (h : Sound d) {call : Call} (truthful : Truthful call d) :
    OpensWhenLive call d := by
  cases call with
  | openInputSoftbus n answers =>
    cases poisoned : d.poisoned with
    | true =>
      have refused := openInputSoftbus_of_poisoned n answers poisoned
      have absent := truthful.error n answers .fail rfl (by rw [refused])
      rw [next, refused] at absent
      simpa [OpensWhenLive, poisoned] using absent
    | false => simpa [OpensWhenLive, poisoned] using truthful.live poisoned
  | closeInputSoftbus n => trivial
  | request peer => trivial
  | onSessionOpened id result answers =>
    intro poisoned failed session known first n entry
    have later : next (.onSessionOpened id result answers) d = d.reported id false := by
      simp only [next, known, first, if_true, failed, decide_false, DSoftbus.onSessionOpened]
      rw [poisoned_reported, if_pos poisoned]
    have sound := truthful.sound
    rw [later] at sound
    obtain ⟨session', now, opened, -⟩ := sound n id entry
    simp only [Inner.reported, List.getElem?_modify, known] at now
    obtain rfl := Option.some.inj now
    simp at opened
  | onSessionClosed id answers =>
    intro poisoned n entry
    obtain ⟨session, known, -⟩ := h.entry n id entry
    have announced : session.side = SESSION_SIDE_CLIENT ∨ session.opened.isSome := by
      by_contra silent
      push Not at silent
      have none : session.opened = none := by simpa using silent.2
      exact (h.announced id session known silent.1 none).2 n entry
    have later : next (.onSessionClosed id answers) d = d.closed id := by
      simp only [next, known, if_pos announced, DSoftbus.onSessionClosed]
      rw [poisoned_closed, if_pos poisoned]
    have sound := truthful.sound
    rw [later] at sound
    obtain ⟨session', now, -, open'⟩ := sound n id entry
    simp only [Inner.closed, List.getElem?_modify, known] at now
    obtain rfl := Option.some.inj now
    simp at open'

theorem OpensWhenLive.truthful (h : Sound d) {call : Call} (condition : OpensWhenLive call d) :
    Truthful call d := by
  refine ⟨?_, ?_, (h.next call condition).mapSound⟩
  · rintro n answers rfl ok
    rw [next]
    cases poisoned : d.poisoned with
    | true =>
      rw [openInputSoftbus_of_poisoned _ _ poisoned] at ok
      cases ok
    | false =>
      obtain ⟨_, eq⟩ := openInputSoftbus_of_not_poisoned n answers poisoned
      simp only [OpensWhenLive, poisoned, Bool.false_eq_true, if_false] at condition
      rw [eq] at ok ⊢
      change Live n (d.openInputSoftbus n answers).2
      rw [live_openInputSoftbus]
      by_cases known : n ∈ d.sessionDevMap
      · exact condition.1 known
      · obtain ⟨gets, -⟩ := (openInputSoftbus_eq_ok_iff.mp ok).resolve_left known
        exact (condition.2 known gets).1
  · rintro n answers e rfl failed
    rw [next]
    cases poisoned : d.poisoned with
    | true =>
      rw [openInputSoftbus_of_poisoned _ _ poisoned]
      simpa [OpensWhenLive, poisoned] using condition
    | false =>
      obtain ⟨_, eq⟩ := openInputSoftbus_of_not_poisoned n answers poisoned
      simp only [OpensWhenLive, poisoned, Bool.false_eq_true, if_false] at condition
      rw [eq] at failed ⊢
      have refused : ¬ (d.openInputSoftbus n answers).1 = .ok () := by
        intro success
        cases success.symm.trans failed
      rw [openInputSoftbus_eq_ok_iff, not_or] at refused
      obtain ⟨unknown, refused⟩ := refused
      have gets : ¬ GetsSession n answers d :=
        fun gets => refused ⟨gets, (condition.2 unknown gets).2⟩
      obtain ⟨e, name, same⟩ := openInputSoftbus_of_not_gets unknown gets
      rw [same]
      exact ExtTreeMap.getElem?_eq_none unknown

/-- The reports of a run are truthful exactly when nobody asks for a session with a peer that has
none: an open that the softbus takes on returns before its result can be known. -/
theorem truthful_iff_opensWhenLive (calls : List Call) :
    EachStep next Truthful {} calls ↔ EachStep next OpensWhenLive {} calls :=
  EachStep.iff_of_invariant (fun call _ h condition => h.next call condition)
    (fun _ _ h => ⟨Truthful.opensWhenLive h, OpensWhenLive.truthful h⟩) Sound.start

/-- An id of twenty characters. -/
def otherDevice : NetworkId := List.replicate 20 97

def ready : OpenAnswers := { localNetworkId := some (List.replicate 20 98) }

/-- A peer is asked for a session, refuses it, and is asked again: the first call says that the
session is open, the second one fails and leaves an entry that the third one trusts. -/
def refusedTwice : List Call :=
  [.openInputSoftbus otherDevice ready,
    .onSessionOpened 0 RET_ERROR { getPeerDeviceId := RET_ERROR },
    .openInputSoftbus otherDevice ready, .openInputSoftbus otherDevice ready]

theorem refusedTwice_not_truthful :
    ¬ EachStep next Truthful {} refusedTwice ∧
      (DSoftbus.openInputSoftbus otherDevice ready
          (runFrom next {} (refusedTwice.take 2))).1 =
        .error (.returns .fail) ∧
      (runFrom next {} (refusedTwice.take 3)).sessionDevMap[otherDevice]? = some 1 := by
  refine ⟨fun truthful => ?_, by decide +kernel, by decide +kernel⟩
  have first := truthful.head.ok otherDevice ready rfl (by decide +kernel)
  revert first
  unfold Live
  decide +kernel

end Inner

end DeviceStatus.Fusion
