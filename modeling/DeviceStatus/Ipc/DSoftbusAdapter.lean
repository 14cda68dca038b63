import DeviceStatus.Ipc.DSoftbusSession
import DeviceStatus.Library.Transition
import Mathlib.Data.List.Nodup

/-!
# Sessions of the dsoftbus adapter

`DSoftbusAdapterImpl` keeps one session for each peer. A session comes about when the device
opens it or when a peer binds. A peer that binds is checked: it must run the same system. What
the check says has no influence on the session table, since the refusal only shuts the socket
down and goes on.

## Main definitions

* `DeviceManager` — the device manager and the JSON library, as they answer.
* `DSoftbusAdapterImpl`, `DSoftbusAdapterImpl.next` — the sessions and what an event makes of
  them.
* `DSoftbusAdapterImpl.Admits` — a step keeps refused peers out of the table.
-/

namespace DeviceStatus.Ipc

open Std (ExtTreeMap)
open Transition.System

abbrev NetworkId := StdString

def ERR_OK : Int32 := 0
def SOFTBUS_OK : Int32 := 0

def DEVICE_NAME_SIZE_MAX : Nat := 256
def PKG_NAME_SIZE_MAX : Nat := 65
def BIND_STRING_LENGTH : Nat := 15
def OS_TYPE_OH : Int32 := 10

def CLIENT_SESSION_NAME : StdString :=
  "ohos.msdp.device_status.intention.clientsession.".toUTF8.toList

def PARAM_KEY_OS_TYPE : StdString := "OS_TYPE".toUTF8.toList

/-- `c_str()`, read up to its end. -/
def cStr (s : StdString) : StdString := s.takeWhile (· ≠ 0)

/-! ## The check of a peer -/

/-- An item of a JSON text, as far as the adapter looks at it. -/
inductive CJson where
  | number (valueint : Int32)
  | object (items : List (StdString × CJson))
  | other

structure DmDeviceInfo where
  extraData : StdString := []

/-- The device manager and the JSON library at the time of a call. -/
structure DeviceManager where
  getDeviceInfo (networkId : NetworkId) : Int32 × DmDeviceInfo
  cJSON_Parse (text : StdString) : Option CJson

def DeviceManager.checkDeviceOsType (dm : DeviceManager) (networkId : NetworkId) : Bool :=
  let (res, deviceInfo) := dm.getDeviceInfo networkId
  if res ≠ ERR_OK then false
  else if deviceInfo.extraData = [] then false
  else
    match dm.cJSON_Parse (cStr deviceInfo.extraData) with
    | some (.object items) =>
      match items.lookup PARAM_KEY_OS_TYPE with
      | some (.number valueint) => valueint = OS_TYPE_OH
      | _ => false
    | _ => false

/-! ## The sessions -/

structure Session where
  socket : Int32
  buffer : CircleStreamBuffer := .new
  /-- of a session that `OnBind` has made, whether the peer passed the check -/
  bound : Option Bool := none

/-- What the softbus and the observers get to see. -/
inductive SessionEffect where
  | shutdown (socket : Int32)
  | onBind (networkId : NetworkId)
  | onShutdown (networkId : NetworkId)
  | onConnected (networkId : NetworkId)
  | received (networkId : NetworkId) (data : DSoftbusAdapter.Received)
  | sent (networkId : NetworkId) (data : List UInt8)

structure DSoftbusAdapterImpl where
  sessions : ExtTreeMap NetworkId Session := ∅
  effects : List SessionEffect := []

/-- What the softbus answers when a client socket is set up: the socket, and what binding it
returns. -/
structure ClientSocket where
  socket : Int32
  bind : Int32 := 0

namespace DSoftbusAdapterImpl

def effect (e : SessionEffect) (a : DSoftbusAdapterImpl) : DSoftbusAdapterImpl :=
  { a with effects := a.effects ++ [e] }

@[simp] theorem sessions_effect (e : SessionEffect) (a : DSoftbusAdapterImpl) :
    (a.effect e).sessions = a.sessions := rfl

/-- `FindConnection`. -/
def findConnection (networkId : NetworkId) (a : DSoftbusAdapterImpl) : Int32 :=
  match a.sessions[networkId]? with
  | some session => session.socket
  | none => -1

/-- `SendPacket`, when the softbus answers `sendBytes`. -/
def sendPacket (networkId : NetworkId) (packet : NetPacket) (sendBytes : Int32)
    (a : DSoftbusAdapterImpl) : Int32 × DSoftbusAdapterImpl :=
  if a.findConnection networkId < 0 then (RET_ERR, a)
  else
    match DSoftbusAdapter.sendPacket packet with
    | none => (RET_ERR, a)
    | some data =>
      if sendBytes ≠ SOFTBUS_OK then (RET_ERR, a)
      else (RET_OK, a.effect (.sent networkId data))

/-- The first session with the socket, in the order of the table. -/
def findSocket (socket : Int32) (a : DSoftbusAdapterImpl) : Option (NetworkId × Session) :=
  a.sessions.toList.find? fun item => item.2.socket = socket

/-- The end of `OnBind`: the session is stored and the observers are told. -/
def emplaceBound (dm : DeviceManager) (socket : Int32) (networkId : NetworkId)
    (a : DSoftbusAdapterImpl) : DSoftbusAdapterImpl :=
  let session := { socket, bound := some (dm.checkDeviceOsType networkId) }
  { a with sessions := a.sessions.insertIfNew networkId session }.effect (.onBind networkId)

def onBind (dm : DeviceManager) (socket : Int32) (networkId : NetworkId)
    (a : DSoftbusAdapterImpl) : DSoftbusAdapterImpl :=
  -- the refusal is not followed by a return
  let a := if dm.checkDeviceOsType networkId = false then a.effect (.shutdown socket) else a
  match a.sessions[networkId]? with
  | some session =>
    if session.socket = socket then a
    else emplaceBound dm socket networkId { a with sessions := a.sessions.erase networkId }
  | none => emplaceBound dm socket networkId a

def onShutdown (socket : Int32) (a : DSoftbusAdapterImpl) : DSoftbusAdapterImpl :=
  match a.findSocket socket with
  | none => a
  | some (networkId, _) =>
    { a with sessions := a.sessions.erase networkId }.effect (.onShutdown networkId)

def onBytes (socket : Int32) (data : List UInt8) (a : DSoftbusAdapterImpl) :
    DSoftbusAdapterImpl :=
  match a.findSocket socket with
  | none => a
  | some (networkId, session) =>
    let (received, buffer) := DSoftbusAdapter.onBytes data session.buffer
    { a with sessions := a.sessions.insert networkId { session with buffer } }.effect
      (.received networkId received)

/-- `InitSocket` for a client: its result, the socket and the adapter. -/
def initSocket (client : ClientSocket) (a : DSoftbusAdapterImpl) :
    Int32 × Int32 × DSoftbusAdapterImpl :=
  if client.socket < 0 then (RET_ERR, client.socket, a)
  else if client.bind ≠ 0 then (client.bind, -1, a.effect (.shutdown client.socket))
  else (RET_OK, client.socket, a)

def openSession (networkId : NetworkId) (client : ClientSocket) (a : DSoftbusAdapterImpl) :
    Int32 × DSoftbusAdapterImpl :=
  if networkId ∈ a.sessions then (RET_OK, a)
  else if DEVICE_NAME_SIZE_MAX ≤
      (cStr (CLIENT_SESSION_NAME ++ networkId.take BIND_STRING_LENGTH)).length then (RET_ERR, a)
  else if PKG_NAME_SIZE_MAX ≤ (cStr networkId).length then (RET_ERR, a)
  else
    let (ret, socket, a) := initSocket client a
    if ret ≠ RET_OK then (ret, a)
    else
      (RET_OK, { a with sessions := a.sessions.insertIfNew networkId { socket } }.effect
        (.onConnected networkId))

def closeSession (networkId : NetworkId) (a : DSoftbusAdapterImpl) : DSoftbusAdapterImpl :=
  match a.sessions[networkId]? with
  | none => a
  | some session =>
    { a with sessions := a.sessions.erase networkId }.effect (.shutdown session.socket)

def closeAllSessions (a : DSoftbusAdapterImpl) : DSoftbusAdapterImpl where
  sessions := ∅
  effects := a.effects ++ a.sessions.toList.map fun item => .shutdown item.2.socket

end DSoftbusAdapterImpl

/-- What happens to the sessions. The answers of the softbus and of the device manager come with
the event. -/
inductive SessionEvent where
  | onBind (dm : DeviceManager) (socket : Int32) (networkId : NetworkId)
  | onShutdown (socket : Int32)
  | onBytes (socket : Int32) (data : List UInt8)
  | openSession (networkId : NetworkId) (client : ClientSocket)
  | closeSession (networkId : NetworkId)
  | closeAllSessions

namespace DSoftbusAdapterImpl

def next (event : SessionEvent) (a : DSoftbusAdapterImpl) : DSoftbusAdapterImpl :=
  match event with
  | .onBind dm socket networkId => onBind dm socket networkId a
  | .onShutdown socket => onShutdown socket a
  | .onBytes socket data => onBytes socket data a
  | .openSession networkId client => (openSession networkId client a).2
  | .closeSession networkId => closeSession networkId a
  | .closeAllSessions => closeAllSessions a

/-! ## Refused peers -/

variable {a : DSoftbusAdapterImpl} {n : NetworkId} {socket : Int32} {dm : DeviceManager}

/-- A peer that does not pass the check binds. -/
def RefusedBind : SessionEvent → Prop
  | .onBind dm _ networkId => dm.checkDeviceOsType networkId = false
  | _ => False

/-- The sessions that peers have bound are those of peers that passed the check. -/
def OnlyAdmitted (a : DSoftbusAdapterImpl) : Prop :=
  ∀ (n : NetworkId) (session : Session), a.sessions[n]? = some session →
    ∀ passed, session.bound = some passed → passed = true

/-- The step keeps refused peers out: the table holds sessions of admitted peers, a refused one
leaves it as it was, and there is one session for a peer. -/
structure Admits (event : SessionEvent) (a : DSoftbusAdapterImpl) : Prop where
  admitted : OnlyAdmitted (next event a)
  refused : RefusedBind event → (next event a).sessions = a.sessions
  unique : (next event a).sessions.keys.Nodup

/-- A peer that binds passes the check, or the session is in the table already. -/
def BindsChecked (event : SessionEvent) (a : DSoftbusAdapterImpl) : Prop :=
  match event with
  | .onBind dm socket networkId =>
      dm.checkDeviceOsType networkId = true ∨
        ∃ session, a.sessions[networkId]? = some session ∧ session.socket = socket
  | _ => True

theorem sessions_onBind_of_stored
    (h : ∃ session, a.sessions[n]? = some session ∧ session.socket = socket) :
    (onBind dm socket n a).sessions = a.sessions := by
  obtain ⟨session, stored, rfl⟩ := h
  grind [onBind, sessions_effect]

/-- Without its session in the table, a peer gets one, whatever the check says. -/
theorem sessions_onBind_of_not_stored
    (h : ¬ ∃ session, a.sessions[n]? = some session ∧ session.socket = socket) :
    (onBind dm socket n a).sessions[n]? =
      some { socket, bound := some (dm.checkDeviceOsType n) } := by
  grind [onBind, emplaceBound, sessions_effect]

theorem sessions_onBind_of_ne {m : NetworkId} (h : m ≠ n) :
    (onBind dm socket n a).sessions[m]? = a.sessions[m]? := by
  grind [onBind, emplaceBound, sessions_effect]

@[simp] theorem sessions_initSocket (client : ClientSocket) (a : DSoftbusAdapterImpl) :
    (initSocket client a).2.2.sessions = a.sessions := by
  grind [initSocket, sessions_effect]

/-- What the events other than a binding do to the sessions of a peer: they stay as they are up
to the buffer, go away, or are opened by the device. -/
theorem session_of_next {event : SessionEvent}
    (other : ∀ dm socket n, event ≠ .onBind dm socket n) {session : Session}
    (h : (next event a).sessions[n]? = some session) :
    session.bound = none ∨
      ∃ before, a.sessions[n]? = some before ∧ before.bound = session.bound := by
  cases event with
  | onBind dm socket n => exact absurd rfl (other dm socket n)
  | onShutdown socket => grind [next, onShutdown, sessions_effect]
  | onBytes socket data =>
    cases found : a.findSocket socket with
    | none => grind [next, onBytes]
    | some item =>
      obtain ⟨networkId, before⟩ := item
      have member := List.mem_of_find?_eq_some found
      have stored := ExtTreeMap.mem_toList_iff_getElem?_eq_some.mp member
      grind [next, onBytes, sessions_effect]
  | openSession networkId client =>
    have unchanged := sessions_initSocket client a
    grind [next, openSession, sessions_effect]
  | closeSession networkId => grind [next, closeSession, sessions_effect]
  | closeAllSessions => grind [next, closeAllSessions]

theorem OnlyAdmitted.next (h : OnlyAdmitted a) {event : SessionEvent}
    (checked : BindsChecked event a) : OnlyAdmitted (next event a) := by
  intro m session stored passed bound
  by_cases bind : ∃ dm socket n, event = .onBind dm socket n
  · obtain ⟨dm, socket, n, rfl⟩ := bind
    change (onBind dm socket n a).sessions[m]? = some session at stored
    by_cases known : ∃ session, a.sessions[n]? = some session ∧ session.socket = socket
    · rw [sessions_onBind_of_stored known] at stored
      exact h m session stored passed bound
    · have admitted : dm.checkDeviceOsType n = true := checked.resolve_right known
      by_cases peer : m = n
      · subst peer
        rw [sessions_onBind_of_not_stored known] at stored
        grind
      · rw [sessions_onBind_of_ne peer] at stored
        exact h m session stored passed bound
  · have other : ∀ dm socket n, event ≠ .onBind dm socket n := by
      intro dm socket n eq
      exact bind ⟨dm, socket, n, eq⟩
    obtain opened | ⟨before, kept, same⟩ := session_of_next other stored
    · simp [opened] at bound
    · exact h m before kept passed (same.trans bound)

theorem nodup_keys (a : DSoftbusAdapterImpl) : a.sessions.keys.Nodup := by
  have distinct := a.sessions.distinct_keys
  exact distinct.imp fun h eq => h (by simp [eq])

theorem Admits.of_checked (h : OnlyAdmitted a) {event : SessionEvent}
    (checked : BindsChecked event a) : Admits event a where
  admitted := h.next checked
  refused := by
    intro refused
    cases event with
    | onBind dm socket n =>
      change dm.checkDeviceOsType n = false at refused
      apply sessions_onBind_of_stored
      apply checked.resolve_left
      simp [refused]
    | _ => exact refused.elim
  unique := nodup_keys _

/-- A refused peer whose session is not in the table already gets one. -/
theorem Admits.checked {event : SessionEvent} (h : Admits event a) : BindsChecked event a := by
  cases event with
  | onBind dm socket n =>
    by_contra unchecked
    obtain ⟨refused, unknown⟩ := not_or.mp unchecked
    have stored : (onBind dm socket n a).sessions[n]? = some _ :=
      sessions_onBind_of_not_stored unknown
    have failed := h.admitted n _ stored _ rfl
    exact refused failed
  | _ => trivial

/-- In a run only admitted peers hold sessions that they have bound, exactly when each peer that
binds passes the check or is bound already. -/
theorem admits_iff_bindsChecked (events : List SessionEvent) :
    EachStep next Admits {} events ↔ EachStep next BindsChecked {} events := by
  constructor
  · intro admits p event hp
    exact (admits p event hp).checked
  · intro checked
    refine EachStep.of_invariant (I := OnlyAdmitted) ?_ ?_ ?_ checked
    · intro event a h ok
      exact h.next ok
    · intro event a h ok
      exact .of_checked h ok
    · intro n session stored
      simp at stored

/-- A device manager that knows no device. -/
def noDevice : DeviceManager where
  getDeviceInfo _ := (-1, {})
  cJSON_Parse _ := none

/-- The bind is refused, and the peer has a session. -/
theorem refusedBind_admitted : ¬ EachStep next Admits {} [.onBind noDevice 1 [97]] := by
  intro admits
  have step := admits.head.refused rfl
  have stored : (onBind noDevice 1 [97] {}).sessions[([97] : NetworkId)]? ≠ none := by
    rw [sessions_onBind_of_not_stored (by simp)]
    simp
  apply stored
  rw [show (onBind noDevice 1 [97] {}).sessions = ∅ from step]
  simp

end DSoftbusAdapterImpl

end DeviceStatus.Ipc
