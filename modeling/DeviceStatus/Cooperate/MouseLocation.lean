import DeviceStatus.Cooperate.PacketWire
import DeviceStatus.Library.Transition
import Mathlib.Data.Finset.Basic
import Mathlib.Logic.Function.Basic

/-!
# Listeners for the mouse location of a peer

`MouseLocation` keeps the local processes that listen for the mouse of a peer and tells the
peer to send locations, by SUBSCRIBE, and to stop, by UNSUBSCRIBE. A process that goes away by
itself unsubscribes the device, whether or not others still listen; one that dies does so only
when it was the last.

## Main definitions

* `SoftbusLink` — the softbus, with its sessions up.
* `MouseLocation`, `MouseLocation.next` — the listeners and what a call makes of them.
* `wanted` — the processes that listen, as the calls say.
* `MouseLocation.Lawful` — the peers send locations as long as somebody listens.
-/

namespace DeviceStatus.Cooperation

open Transition.System
open Function (update)
open Ipc (StreamBuffer NetPacket)

abbrev UnregisterEventListenerEvent := RegisterEventListenerEvent

/-- The softbus while the sessions stay up: sending a packet succeeds. -/
structure SoftbusLink where
  localNetworkId : NetworkId
  sendPacket (networkId : NetworkId) (packet : NetPacket) : Int32
  up : ∀ networkId packet, sendPacket networkId packet = RET_OK

structure MouseLocation where
  localListeners : Finset Int32 := ∅
  listeners : NetworkId → Option (Finset Int32) := fun _ => none
  /-- the subscriptions and unsubscriptions that have gone to a peer, the last one last -/
  sent : NetworkId → List Ipc.MessageId := fun _ => []

namespace MouseLocation

variable (link : SoftbusLink)

/-- The packet of both messages. -/
def subscriptionPacket (msgId : Ipc.MessageId) (event : DSoftbusSubscribeMouseLocation) :
    Option NetPacket :=
  DSoftbusWire.buildPacket msgId fun packet =>
    packet |>.putString event.networkId |>.putString event.remoteNetworkId

/-- The packet is written and sent. -/
def transmits (msgId : Ipc.MessageId) (event : DSoftbusSubscribeMouseLocation) : Bool :=
  match subscriptionPacket msgId event with
  | none => false
  | some packet => link.sendPacket event.remoteNetworkId packet = RET_OK

def sendSubscription (msgId : Ipc.MessageId) (event : DSoftbusSubscribeMouseLocation)
    (m : MouseLocation) : Int32 × MouseLocation :=
  if transmits link msgId event then
    (RET_OK, { m with
      sent := update m.sent event.remoteNetworkId (m.sent event.remoteNetworkId ++ [msgId]) })
  else (RET_ERR, m)

def subscribeMouseLocation (event : DSoftbusSubscribeMouseLocation) (m : MouseLocation) :
    Int32 × MouseLocation :=
  sendSubscription link DSOFTBUS_SUBSCRIBE_MOUSE_LOCATION event m

def unSubscribeMouseLocation (event : DSoftbusSubscribeMouseLocation) (m : MouseLocation) :
    Int32 × MouseLocation :=
  sendSubscription link DSOFTBUS_UNSUBSCRIBE_MOUSE_LOCATION event m

/-- `listeners_[networkId]`, as it is read. -/
def listenersOf (networkId : NetworkId) (m : MouseLocation) : Finset Int32 :=
  (m.listeners networkId).getD ∅

def addListener (event : RegisterEventListenerEvent) (m : MouseLocation) : MouseLocation :=
  if event.networkId = link.localNetworkId then
    { m with localListeners := insert event.pid m.localListeners }
  else
    let (ret, m) := subscribeMouseLocation link
      { networkId := link.localNetworkId, remoteNetworkId := event.networkId } m
    if ret ≠ RET_OK then m
    else
      { m with
        listeners := update m.listeners event.networkId
          (some (insert event.pid (m.listenersOf event.networkId))) }

def removeListener (event : UnregisterEventListenerEvent) (m : MouseLocation) : MouseLocation :=
  if event.networkId = link.localNetworkId then
    { m with localListeners := m.localListeners.erase event.pid }
  else
    let (_, m) := unSubscribeMouseLocation link
      { networkId := link.localNetworkId, remoteNetworkId := event.networkId } m
    match m.listeners event.networkId with
    | none => m
    | some pids =>
      let pids := pids.erase event.pid
      { m with
        listeners := update m.listeners event.networkId (if pids = ∅ then none else some pids) }

/-- The entries of the map, each by itself, as what is sent to one peer does not depend on the
others. -/
def onClientDied (event : ClientDiedEvent) (m : MouseLocation) : MouseLocation where
  localListeners := m.localListeners.erase event.pid
  listeners networkId :=
    match m.listeners networkId with
    | none => none
    | some pids =>
      let pids := pids.erase event.pid
      if pids = ∅ then none else some pids
  sent networkId :=
    match m.listeners networkId with
    | none => m.sent networkId
    | some pids =>
      if pids.erase event.pid = ∅ then
        (unSubscribeMouseLocation link
          { networkId := link.localNetworkId, remoteNetworkId := networkId } m).2.sent networkId
      else m.sent networkId

end MouseLocation

/-- A call of a local process, or its death. -/
inductive ListenerCall where
  | addListener (event : RegisterEventListenerEvent)
  | removeListener (event : UnregisterEventListenerEvent)
  | onClientDied (event : ClientDiedEvent)

def MouseLocation.next (link : SoftbusLink) (call : ListenerCall) (m : MouseLocation) :
    MouseLocation :=
  match call with
  | .addListener event => addListener link event m
  | .removeListener event => removeListener link event m
  | .onClientDied event => onClientDied link event m

/-! ## What the processes want -/

/-- The processes that listen for a peer after one more call. -/
def wantedNext (networkId : NetworkId) (pids : Finset Int32) : ListenerCall → Finset Int32
  | .addListener event => if event.networkId = networkId then insert event.pid pids else pids
  | .removeListener event => if event.networkId = networkId then pids.erase event.pid else pids
  | .onClientDied event => pids.erase event.pid

/-- The processes that listen for a peer: they have asked to, have not asked to stop since and
have not died. -/
def wanted (networkId : NetworkId) (calls : List ListenerCall) : Finset Int32 :=
  calls.foldl (wantedNext networkId) ∅

/-- At some time there was a process that listened. -/
def Heard (networkId : NetworkId) (calls : List ListenerCall) : Prop :=
  ∃ earlier, earlier <+: calls ∧ wanted networkId earlier ≠ ∅

theorem wanted_append (networkId : NetworkId) (calls : List ListenerCall) (call : ListenerCall) :
    wanted networkId (calls ++ [call]) = wantedNext networkId (wanted networkId calls) call := by
  simp [wanted]

namespace MouseLocation

variable (link : SoftbusLink)

/-- A peer that is not the device itself and to which both messages can be written. -/
structure Reaches (networkId : NetworkId) : Prop where
  remote : networkId ≠ link.localNetworkId
  fits : link.localNetworkId.length + networkId.length + 2 ≤ MAX_STREAM_BUF_SIZE

instance (networkId : NetworkId) : Decidable (Reaches link networkId) :=
  decidable_of_iff (networkId ≠ link.localNetworkId ∧
      link.localNetworkId.length + networkId.length + 2 ≤ MAX_STREAM_BUF_SIZE)
    ⟨fun h => ⟨h.1, h.2⟩, fun h => ⟨h.remote, h.fits⟩⟩

/-- After the calls, for every peer: as long as a process listens, the last message to the peer
is SUBSCRIBE; when none does any more, it is UNSUBSCRIBE. -/
structure Lawful (calls : List ListenerCall) (m : MouseLocation) : Prop where
  subscribed : ∀ n, Reaches link n → wanted n calls ≠ ∅ →
    (m.sent n).getLast? = some DSOFTBUS_SUBSCRIBE_MOUSE_LOCATION
  unsubscribed : ∀ n, Reaches link n → wanted n calls = ∅ → Heard n calls →
    (m.sent n).getLast? = some DSOFTBUS_UNSUBSCRIBE_MOUSE_LOCATION

/-- A process that stops listening to a peer is the last that listened. -/
def RemovesLast (call : ListenerCall) (m : MouseLocation) : Prop :=
  match call with
  | .removeListener event =>
      event.networkId ≠ link.localNetworkId → ∀ pid ∈ m.listenersOf event.networkId,
        pid = event.pid
  | _ => True

/-! ## Sending -/

theorem putString_status (s : StdString) (b : StreamBuffer) :
    (b.putString s).rwErrorStatus = .ok ↔
      b.rwErrorStatus = .ok ∧ b.wPos + (s.length + 1) ≤ MAX_STREAM_BUF_SIZE := by
  have size : (s ++ [0]).length = s.length + 1 := by simp
  have nonempty : s ++ [0] ≠ [] := by simp
  rw [StreamBuffer.putString, StreamBuffer.writeString]
  obtain ⟨fits, status, -, eq⟩ | ⟨refused, eq⟩ := StreamBuffer.write_cases (s ++ [0]) b
  · rw [eq]
    rw [size] at fits
    exact iff_of_true status ⟨status, fits⟩
  · rw [eq]
    rw [size] at refused
    refine iff_of_false ?_ fun fits => refused ⟨fits.1, nonempty, fits.2⟩
    by_cases status : b.rwErrorStatus = .ok <;> simp [status]

/-- The messages go out to the peers whose ids fit in the packet. -/
theorem transmits_iff (msgId : Ipc.MessageId) (event : DSoftbusSubscribeMouseLocation) :
    transmits link msgId event = true ↔
      event.networkId.length + event.remoteNetworkId.length + 2 ≤ MAX_STREAM_BUF_SIZE := by
  have first := putString_status event.networkId {}
  have second := putString_status event.remoteNetworkId (StreamBuffer.putString event.networkId {})
  have written : transmits link msgId event = true ↔
      ((StreamBuffer.putString event.networkId {}).putString
        event.remoteNetworkId).rwErrorStatus = .ok := by
    simp only [transmits, subscriptionPacket, DSoftbusWire.buildPacket]
    split
    · next refused =>
      split_ifs at refused with error
      simpa [StreamBuffer.chkRWError] using error
    · next packet sent =>
      split_ifs at sent with error
      simpa [link.up] using error
  have position : (StreamBuffer.putString event.networkId {}).rwErrorStatus = .ok →
      (StreamBuffer.putString event.networkId {}).wPos = event.networkId.length + 1 := by
    intro status
    simpa using (StreamBuffer.Wrote.putString event.networkId {}).length_le status
  rw [written, second]
  constructor
  · rintro ⟨status, bound⟩
    rw [position status] at bound
    omega
  · intro bound
    have status := first.mpr ⟨rfl, by change 0 + _ ≤ _; omega⟩
    rw [position status]
    exact ⟨status, by omega⟩

variable {link : SoftbusLink} {networkId n : NetworkId} {calls : List ListenerCall}
  {m : MouseLocation}

theorem Reaches.transmits (h : Reaches link n) (msgId : Ipc.MessageId) :
    transmits link msgId { networkId := link.localNetworkId, remoteNetworkId := n } = true :=
  (transmits_iff link msgId _).mpr h.fits

/-- To a peer that is reached, both messages are sent. -/
theorem Reaches.sendSubscription (h : Reaches link n) (msgId : Ipc.MessageId)
    (m : MouseLocation) :
    sendSubscription link msgId { networkId := link.localNetworkId, remoteNetworkId := n } m =
      (RET_OK, { m with sent := update m.sent n (m.sent n ++ [msgId]) }) := by
  rw [MouseLocation.sendSubscription, if_pos (h.transmits msgId)]

/-- Nothing is sent to a peer whose id does not fit, and nobody listens to it. -/
theorem sendSubscription_of_not_reaches (remote : n ≠ link.localNetworkId)
    (h : ¬ Reaches link n) (msgId : Ipc.MessageId) (m : MouseLocation) :
    sendSubscription link msgId { networkId := link.localNetworkId, remoteNetworkId := n } m =
      (RET_ERR, m) := by
  have refused : ¬ transmits link msgId
      { networkId := link.localNetworkId, remoteNetworkId := n } = true := by
    intro transmitted
    exact h ⟨remote, (transmits_iff link msgId _).mp transmitted⟩
  rw [sendSubscription, if_neg refused]

/-! ## What a call does to one peer -/

/-- The listeners and the messages of one peer. -/
def view (n : NetworkId) (m : MouseLocation) : Option (Finset Int32) × List Ipc.MessageId :=
  (m.listeners n, m.sent n)

/-- A set of processes, kept only when it is not empty. -/
def entry (pids : Finset Int32) : Option (Finset Int32) := if pids = ∅ then none else some pids

theorem entry_of_ne {pids : Finset Int32} (h : pids ≠ ∅) : entry pids = some pids := if_neg h

@[simp] theorem entry_empty : entry ∅ = none := if_pos rfl

@[simp] theorem getD_entry (pids : Finset Int32) : (entry pids).getD ∅ = pids := by
  unfold entry
  split
  · next empty => rw [empty]; rfl
  · rfl

theorem addListener_of_remote {event : RegisterEventListenerEvent}
    (remote : event.networkId ≠ link.localNetworkId) (m : MouseLocation) :
    addListener link event m = if Reaches link event.networkId then
        { m with
          sent := update m.sent event.networkId
            (m.sent event.networkId ++ [DSOFTBUS_SUBSCRIBE_MOUSE_LOCATION])
          listeners := update m.listeners event.networkId
            (some (insert event.pid (m.listenersOf event.networkId))) }
      else m := by
  by_cases reached : Reaches link event.networkId
  · have sent := reached.sendSubscription DSOFTBUS_SUBSCRIBE_MOUSE_LOCATION m
    simp only [addListener, if_neg remote, subscribeMouseLocation, sent, if_pos reached]
    rfl
  · have refused := sendSubscription_of_not_reaches remote reached
      DSOFTBUS_SUBSCRIBE_MOUSE_LOCATION m
    simp only [addListener, if_neg remote, subscribeMouseLocation, refused, if_neg reached]
    rfl

theorem view_addListener (reached : Reaches link n) (event : RegisterEventListenerEvent)
    (m : MouseLocation) :
    view n (addListener link event m) =
      if event.networkId = n then
        (some (insert event.pid (m.listenersOf n)),
          m.sent n ++ [DSOFTBUS_SUBSCRIBE_MOUSE_LOCATION])
      else view n m := by
  by_cases here : event.networkId = n
  · subst here
    rw [addListener_of_remote reached.remote, if_pos reached, if_pos rfl]
    simp [view]
  · rw [if_neg here]
    by_cases remote : event.networkId = link.localNetworkId
    · simp [addListener, remote, view]
    · rw [addListener_of_remote remote]
      split
      · simp [view, Ne.symm here]
      · rfl

theorem removeListener_of_remote {event : UnregisterEventListenerEvent}
    (remote : event.networkId ≠ link.localNetworkId) (m : MouseLocation) :
    removeListener link event m =
      { m with
        sent := if Reaches link event.networkId then
            update m.sent event.networkId
              (m.sent event.networkId ++ [DSOFTBUS_UNSUBSCRIBE_MOUSE_LOCATION])
          else m.sent
        listeners := match m.listeners event.networkId with
          | none => m.listeners
          | some pids => update m.listeners event.networkId (entry (pids.erase event.pid)) } := by
  by_cases reached : Reaches link event.networkId
  · have sent := reached.sendSubscription DSOFTBUS_UNSUBSCRIBE_MOUSE_LOCATION m
    simp only [removeListener, if_neg remote, unSubscribeMouseLocation, sent, if_pos reached]
    cases m.listeners event.networkId <;> rfl
  · have refused := sendSubscription_of_not_reaches remote reached
      DSOFTBUS_UNSUBSCRIBE_MOUSE_LOCATION m
    simp only [removeListener, if_neg remote, unSubscribeMouseLocation, refused,
      if_neg reached]
    cases m.listeners event.networkId <;> rfl

theorem view_removeListener (reached : Reaches link n) (event : UnregisterEventListenerEvent)
    (m : MouseLocation) :
    view n (removeListener link event m) =
      if event.networkId = n then
        ((m.listeners n).bind fun pids => entry (pids.erase event.pid),
          m.sent n ++ [DSOFTBUS_UNSUBSCRIBE_MOUSE_LOCATION])
      else view n m := by
  by_cases here : event.networkId = n
  · subst here
    rw [removeListener_of_remote reached.remote, if_pos reached, if_pos rfl]
    cases listened : m.listeners event.networkId <;> simp [view, listened]
  · rw [if_neg here]
    by_cases remote : event.networkId = link.localNetworkId
    · simp [removeListener, remote, view]
    · rw [removeListener_of_remote remote]
      have listeners : (match m.listeners event.networkId with
          | none => m.listeners
          | some pids => update m.listeners event.networkId (entry (pids.erase event.pid))) n =
            m.listeners n := by
        cases m.listeners event.networkId <;> simp [Ne.symm here]
      simp only [view, listeners]
      split <;> simp [Ne.symm here]

theorem view_onClientDied (reached : Reaches link n) (event : ClientDiedEvent)
    (m : MouseLocation) :
    view n (onClientDied link event m) =
      match m.listeners n with
      | none => view n m
      | some pids => (entry (pids.erase event.pid),
          if pids.erase event.pid = ∅ then m.sent n ++ [DSOFTBUS_UNSUBSCRIBE_MOUSE_LOCATION]
          else m.sent n) := by
  cases listened : m.listeners n with
  | none => simp [view, onClientDied, listened]
  | some pids =>
    simp only [view, onClientDied, listened, unSubscribeMouseLocation,
      reached.sendSubscription, entry, Function.update_self]

/-! ## Runs -/

/-- The table and the messages about one peer agree with what the processes want. -/
def Tracks (wanted : Finset Int32) (heard : Prop)
    (v : Option (Finset Int32) × List Ipc.MessageId) : Prop :=
  v.1 = entry wanted ∧
    (wanted ≠ ∅ → v.2.getLast? = some DSOFTBUS_SUBSCRIBE_MOUSE_LOCATION) ∧
    (wanted = ∅ → heard → v.2.getLast? = some DSOFTBUS_UNSUBSCRIBE_MOUSE_LOCATION)

/-- After the calls, of every peer that is reached. -/
def TracksAll (link : SoftbusLink) (calls : List ListenerCall) (m : MouseLocation) : Prop :=
  ∀ n, Reaches link n → Tracks (wanted n calls) (Heard n calls) (view n m)

theorem TracksAll.lawful (h : TracksAll link calls m) : Lawful link calls m where
  subscribed n reached := (h n reached).2.1
  unsubscribed n reached := (h n reached).2.2

theorem TracksAll.listenersOf (h : TracksAll link calls m) (reached : Reaches link n) :
    m.listenersOf n = wanted n calls := by
  have is : m.listeners n = entry (wanted n calls) := (h n reached).1
  rw [MouseLocation.listenersOf, is, getD_entry]

/-- Nobody has been heard later who is not wanted. -/
theorem heard_append {call : ListenerCall} (none : wanted n (calls ++ [call]) = ∅)
    (h : Heard n (calls ++ [call])) : Heard n calls := by
  obtain ⟨earlier, isPrefix, some⟩ := h
  obtain rfl | shorter := List.prefix_concat_iff.mp isPrefix
  · exact absurd none some
  · exact ⟨earlier, shorter, some⟩

theorem TracksAll.next {call : ListenerCall} (h : TracksAll link calls m)
    (last : RemovesLast link call m) : TracksAll link (calls ++ [call]) (next link call m) := by
  intro n reached
  obtain ⟨table, subscribed, unsubscribed⟩ := h n reached
  have listenersOf := h.listenersOf reached
  have later := @heard_append n calls call
  rw [wanted_append] at later ⊢
  cases call with
  | addListener event =>
    simp only [MouseLocation.next, wantedNext] at later ⊢
    rw [view_addListener reached]
    split
    · next here =>
      have some : insert event.pid (wanted n calls) ≠ ∅ := Finset.insert_ne_empty _ _
      rw [listenersOf]
      exact ⟨(entry_of_ne some).symm, by simp, fun none => absurd none some⟩
    · next other =>
      rw [if_neg other] at later
      exact ⟨table, subscribed, fun none heard => unsubscribed none (later none heard)⟩
  | removeListener event =>
    simp only [MouseLocation.next, wantedNext] at later ⊢
    rw [view_removeListener reached]
    split
    · next here =>
      subst here
      have none : (wanted event.networkId calls).erase event.pid = ∅ := by
        apply Finset.eq_empty_of_forall_notMem
        intro pid mem
        obtain ⟨other, mem⟩ := Finset.mem_erase.mp mem
        exact other (last reached.remote pid (listenersOf ▸ mem))
      refine ⟨?_, fun some => absurd none some, by simp⟩
      have is : m.listeners event.networkId = entry (wanted event.networkId calls) := table
      rw [none, is]
      by_cases empty : wanted event.networkId calls = ∅
      · simp [empty]
      · simp [entry_of_ne empty, none]
    · next other =>
      rw [if_neg other] at later
      exact ⟨table, subscribed, fun none heard => unsubscribed none (later none heard)⟩
  | onClientDied event =>
    simp only [MouseLocation.next, wantedNext] at later ⊢
    rw [view_onClientDied reached]
    have is : m.listeners n = entry (wanted n calls) := table
    by_cases empty : wanted n calls = ∅
    · rw [empty] at is
      simp only [is, entry_empty]
      have none : (wanted n calls).erase event.pid = ∅ := by simp [empty]
      refine ⟨by rw [none]; exact is, fun some => absurd none some, fun _ heard => ?_⟩
      exact unsubscribed empty (later none heard)
    · rw [entry_of_ne empty] at is
      simp only [is]
      refine ⟨rfl, fun some => ?_, fun none _ => ?_⟩
      · simp only [if_neg some]
        exact subscribed empty
      · simp [none]

/-- Nobody is entered for a peer that is not reached. -/
def OnlyReached (link : SoftbusLink) (m : MouseLocation) : Prop :=
  ∀ n, ¬ Reaches link n → m.listeners n = none

theorem OnlyReached.next (h : OnlyReached link m) (call : ListenerCall) :
    OnlyReached link (next link call m) := by
  intro n unreached
  cases call with
  | addListener event =>
    by_cases remote : event.networkId = link.localNetworkId
    · simpa [MouseLocation.next, addListener, remote] using h n unreached
    · rw [MouseLocation.next, addListener_of_remote remote]
      split
      · next reached =>
        have other : n ≠ event.networkId := fun same => unreached (same ▸ reached)
        simpa [other] using h n unreached
      · exact h n unreached
  | removeListener event =>
    by_cases remote : event.networkId = link.localNetworkId
    · simpa [MouseLocation.next, removeListener, remote] using h n unreached
    · rw [MouseLocation.next, removeListener_of_remote remote]
      cases listened : m.listeners event.networkId with
      | none => exact h n unreached
      | some pids =>
        have other : n ≠ event.networkId := by
          rintro rfl
          rw [h event.networkId unreached] at listened
          cases listened
        simpa [other] using h n unreached
  | onClientDied event => simp [MouseLocation.next, onClientDied, h n unreached]

/-- When a listener goes although others stay, their peer has been told to stop. -/
theorem removesLast_of_lawful {call : ListenerCall} (tracks : TracksAll link calls m)
    (only : OnlyReached link m) (lawful : Lawful link (calls ++ [call]) (next link call m)) :
    RemovesLast link call m := by
  cases call with
  | removeListener event =>
    intro remote pid listening
    by_contra other
    have reached : Reaches link event.networkId := by
      by_contra unreached
      simp [MouseLocation.listenersOf, only _ unreached] at listening
    have still : wanted event.networkId (calls ++ [.removeListener event]) ≠ ∅ := by
      rw [tracks.listenersOf reached] at listening
      rw [wanted_append, wantedNext, if_pos rfl]
      exact Finset.ne_empty_of_mem (Finset.mem_erase.mpr ⟨other, listening⟩)
    have told := congrArg Prod.snd (view_removeListener reached event m)
    rw [if_pos rfl] at told
    have last := lawful.subscribed event.networkId reached still
    change (view event.networkId (removeListener link event m)).2.getLast? = _ at last
    rw [told] at last
    simp [DSOFTBUS_UNSUBSCRIBE_MOUSE_LOCATION, DSOFTBUS_SUBSCRIBE_MOUSE_LOCATION] at last
  | _ => trivial

theorem tracks_init (link : SoftbusLink) : TracksAll link [] {} := by
  intro n _
  refine ⟨rfl, fun some => absurd rfl some, ?_⟩
  rintro - ⟨earlier, isPrefix, some⟩
  rw [List.prefix_nil.mp isPrefix] at some
  exact absurd rfl some

/-- At any time in a run the peers send locations as long as somebody listens, and no longer,
exactly when every process that stopped listening was the last that listened. -/
theorem lawful_iff_removesLast (link : SoftbusLink) (calls : List ListenerCall) :
    (∀ earlier, earlier <+: calls →
        Lawful link earlier (runFrom (next link) {} earlier)) ↔
      EachStep (next link) (RemovesLast link) {} calls := by
  -- both directions carry the two invariants from one prefix of the run to the next
  have step : ∀ (earlier : List ListenerCall) (call : ListenerCall),
      runFrom (next link) {} (earlier ++ [call]) =
        next link call (runFrom (next link) {} earlier) := by
    intro earlier call
    rw [runFrom_append]
    rfl
  constructor
  · intro lawful
    have each : ∀ earlier, earlier <+: calls →
        EachStep (next link) (RemovesLast link) {} earlier ∧
          TracksAll link earlier (runFrom (next link) {} earlier) ∧
          OnlyReached link (runFrom (next link) {} earlier) := by
      intro earlier
      induction earlier using List.reverseRecOn with
      | nil => exact fun _ => ⟨.nil, tracks_init link, fun _ _ => rfl⟩
      | append_singleton earlier call ih =>
        intro isPrefix
        obtain ⟨each, tracks, only⟩ := ih ((List.prefix_append earlier [call]).trans isPrefix)
        have law := lawful _ isPrefix
        rw [step] at law ⊢
        have last := removesLast_of_lawful tracks only law
        refine ⟨fun p l hp => ?_, tracks.next last, only.next call⟩
        obtain same | shorter := List.prefix_concat_iff.mp hp
        · obtain ⟨rfl, rfl⟩ := List.append_inj' same rfl |>.imp_right List.head_eq_of_cons_eq
          exact last
        · exact each p l shorter
    exact (each calls List.prefix_rfl).1
  · intro each earlier isPrefix
    have tracks : TracksAll link earlier (runFrom (next link) {} earlier) := by
      induction earlier using List.reverseRecOn with
      | nil => exact tracks_init link
      | append_singleton earlier call ih =>
        rw [step]
        exact (ih ((List.prefix_append earlier [call]).trans isPrefix)).next
          (each earlier call isPrefix)
    exact tracks.lawful

/-- A softbus on which the device is known as `local`. -/
def localLink : SoftbusLink where
  localNetworkId := [108, 111, 99, 97, 108]
  sendPacket _ _ := RET_OK
  up _ _ := rfl

/-- Two processes listen to the same peer, and one of them stops. -/
def oneOfTwoStops : List ListenerCall :=
  [.addListener { pid := 1, networkId := [65] }, .addListener { pid := 2, networkId := [65] },
    .removeListener { pid := 1, networkId := [65] }]

/-- The peer is told to stop although the other still listens. -/
theorem oneOfTwoStops_unlawful :
    ¬ ∀ earlier, earlier <+: oneOfTwoStops →
      Lawful localLink earlier (runFrom (next localLink) {} earlier) := by
  intro lawful
  have law := lawful oneOfTwoStops List.prefix_rfl
  have reached : Reaches localLink [65] := by decide
  have still : wanted [65] oneOfTwoStops ≠ ∅ := by decide
  have told : ((runFrom (next localLink) {} oneOfTwoStops).sent [65]).getLast? =
      some DSOFTBUS_UNSUBSCRIBE_MOUSE_LOCATION := by decide +kernel
  rw [law.subscribed [65] reached still] at told
  exact absurd told (by decide)

end MouseLocation

end DeviceStatus.Cooperation
