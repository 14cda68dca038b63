import DeviceStatus.Cooperate.MouseLocation

/-!
# Mouse locations shared with peers

The whole of `MouseLocation`: besides the local processes that listen, the peers that have
subscribed to the mouse of this device. The peers speak through packets, which carry a network id
of their own; the handlers of `DSoftbusHandler` pass that one on and drop that of the session.

## Main definitions

* `MouseSharing`, `MouseSharing.step` — the listeners and subscribers, and what comes in.
* `MouseSharing.SpeaksForSender` — what a packet may bring about.
* `MouseSharing.NamesSender` — the packets that name their sender, where it matters.
-/

namespace DeviceStatus.Cooperation

open Transition.System
open Function (update)
open Ipc (NetPacket)

def MOUSE_LOCATION_ADD_LISTENER : Ipc.MessageId := 5

/-- The softbus and the sessions of the local processes, which may take a packet or not. -/
structure MouseEnv where
  localNetworkId : NetworkId
  sendPacket : NetworkId → NetPacket → Bool := fun _ _ => true
  sendMsg : Int32 → NetPacket → Bool := fun _ _ => true

structure MouseSharing where
  localListeners : Finset Int32 := ∅
  listeners : NetworkId → Option (Finset Int32) := fun _ => none
  remoteSubscribers : Finset NetworkId := ∅
  /-- the peers whose own session brought a SUBSCRIBE after the last UNSUBSCRIBE that it brought -/
  announced : Finset NetworkId := ∅

/-- A location that has gone to the listeners of a network id. -/
structure MouseReport where
  networkId : NetworkId
  locationInfo : LocationInfo
  pids : Finset Int32

/-- What goes out: the reply to a peer and the report to the local processes. -/
structure MouseOutput where
  reply : Option (NetworkId × NetPacket) := none
  report : Option MouseReport := none

/-- A packet on the session of a peer, the calls of local processes and what ends them. -/
inductive MouseInput where
  | packet (networkId : NetworkId) (packet : NetPacket)
  | addListener (event : RegisterEventListenerEvent)
  | removeListener (event : UnregisterEventListenerEvent)
  | onClientDied (event : ClientDiedEvent)
  | onSoftbusSessionClosed (event : DSoftbusSessionClosed)

namespace MouseSharing

variable (env : MouseEnv)

/-- `SubscribeMouseLocation`, the only message whose failure decides anything. -/
def subscribeMouseLocation (event : DSoftbusSubscribeMouseLocation) : Bool :=
  match MouseLocation.subscriptionPacket DSOFTBUS_SUBSCRIBE_MOUSE_LOCATION event with
  | none => false
  | some packet => env.sendPacket event.remoteNetworkId packet

def listenersOf (networkId : NetworkId) (s : MouseSharing) : Finset Int32 :=
  (s.listeners networkId).getD ∅

def addListener (event : RegisterEventListenerEvent) (s : MouseSharing) : MouseSharing :=
  if event.networkId = env.localNetworkId then
    { s with localListeners := insert event.pid s.localListeners }
  else if subscribeMouseLocation env
      { networkId := env.localNetworkId, remoteNetworkId := event.networkId } then
    { s with
      listeners := update s.listeners event.networkId
        (some (insert event.pid (s.listenersOf event.networkId))) }
  else s

def removeListener (event : UnregisterEventListenerEvent) (s : MouseSharing) : MouseSharing :=
  if event.networkId = env.localNetworkId then
    { s with localListeners := s.localListeners.erase event.pid }
  else
    match s.listeners event.networkId with
    | none => s
    | some pids =>
      { s with
        listeners := update s.listeners event.networkId
          (MouseLocation.entry (pids.erase event.pid)) }

def onClientDied (event : ClientDiedEvent) (s : MouseSharing) : MouseSharing :=
  { s with
    localListeners := s.localListeners.erase event.pid
    listeners := fun networkId =>
      (s.listeners networkId).bind fun pids => MouseLocation.entry (pids.erase event.pid) }

def onSoftbusSessionClosed (notice : DSoftbusSessionClosed) (s : MouseSharing) : MouseSharing :=
  { s with
    remoteSubscribers := s.remoteSubscribers.erase notice.networkId
    listeners := update s.listeners notice.networkId none }

/-- The packet of `ReplySubscribeMouseLocation` and `ReplyUnSubscribeMouseLocation`, addressed to
the peer that the message named. -/
def replyTo (msgId : Ipc.MessageId) (notice : DSoftbusSubscribeMouseLocation) : MouseOutput where
  reply :=
    (DSoftbusWire.buildPacket msgId fun packet =>
      packet |>.putString notice.remoteNetworkId |>.putString notice.networkId |>.put true).map
        (notice.networkId, ·)

def onSubscribeMouseLocation (notice : DSoftbusSubscribeMouseLocation) (s : MouseSharing) :
    MouseOutput × MouseSharing :=
  (replyTo DSOFTBUS_REPLY_SUBSCRIBE_MOUSE_LOCATION notice,
    { s with remoteSubscribers := insert notice.networkId s.remoteSubscribers })

def onUnSubscribeMouseLocation (notice : DSoftbusSubscribeMouseLocation) (s : MouseSharing) :
    MouseOutput × MouseSharing :=
  if notice.networkId ∈ s.remoteSubscribers then
    (replyTo DSOFTBUS_REPLY_UNSUBSCRIBE_MOUSE_LOCATION notice,
      { s with remoteSubscribers := s.remoteSubscribers.erase notice.networkId })
  else ({}, s)

/-- `ReportMouseLocationToListener`: whether the process is told. -/
def reportMouseLocationToListener (networkId : NetworkId) (locationInfo : LocationInfo)
    (pid : Int32) : Bool :=
  match DSoftbusWire.buildPacket MOUSE_LOCATION_ADD_LISTENER fun packet =>
      packet |>.putString networkId |>.put locationInfo.displayX |>.put locationInfo.displayY
        |>.put locationInfo.displayWidth |>.put locationInfo.displayHeight with
  | none => false
  | some pkt => env.sendMsg pid pkt

/-- The processes that are told of the location that a message carries. -/
def told (notice : DSoftbusSyncMouseLocation) (s : MouseSharing) : Finset Int32 :=
  (s.listenersOf notice.networkId).filter fun pid =>
    reportMouseLocationToListener env notice.networkId notice.mouseLocation pid

def onRemoteMouseLocation (notice : DSoftbusSyncMouseLocation) (s : MouseSharing) :
    MouseOutput × MouseSharing :=
  ({ report := some
      { networkId := notice.networkId, locationInfo := notice.mouseLocation,
        pids := told env notice s } }, s)

/-- The event that a packet becomes, for `MouseLocation`; the replies only write to the log. -/
def onEvent (event : CooperateEvent) (s : MouseSharing) : MouseOutput × MouseSharing :=
  match event with
  | .dsoftbusSubscribeMouseLocation notice => onSubscribeMouseLocation notice s
  | .dsoftbusUnsubscribeMouseLocation notice => onUnSubscribeMouseLocation notice s
  | .dsoftbusMouseLocation notice => onRemoteMouseLocation env notice s
  | _ => ({}, s)

/-- What the sender of a packet has announced, by the session that it came on. -/
def announce (networkId : NetworkId) (event : CooperateEvent) (s : MouseSharing) :
    MouseSharing :=
  match event with
  | .dsoftbusSubscribeMouseLocation _ =>
      { s with announced := insert networkId s.announced }
  | .dsoftbusUnsubscribeMouseLocation _ =>
      { s with announced := s.announced.erase networkId }
  | _ => s

def onPacket (networkId : NetworkId) (packet : NetPacket) (s : MouseSharing) :
    MouseOutput × MouseSharing :=
  match DSoftbusWire.onPacket networkId packet with
  | none => ({}, s)
  | some event => onEvent env event (announce networkId event s)

end MouseSharing

/-- What comes in, and the surroundings that it meets. -/
structure MouseLabel where
  env : MouseEnv
  input : MouseInput

namespace MouseSharing

def step (l : MouseLabel) (s : MouseSharing) : MouseOutput × MouseSharing :=
  match l.input with
  | .packet networkId packet => onPacket l.env networkId packet s
  | .addListener event => ({}, addListener l.env event s)
  | .removeListener event => ({}, removeListener l.env event s)
  | .onClientDied event => ({}, onClientDied event s)
  | .onSoftbusSessionClosed event => ({}, onSoftbusSessionClosed event s)

def next (l : MouseLabel) (s : MouseSharing) : MouseSharing := (s.step l).2

/-! ### The listeners by themselves -/

/-- The surroundings while the sessions stay up. -/
def ofLink (link : SoftbusLink) : MouseEnv where
  localNetworkId := link.localNetworkId
  sendPacket networkId packet := link.sendPacket networkId packet = RET_OK

def ofCall : ListenerCall → MouseInput
  | .addListener event => .addListener event
  | .removeListener event => .removeListener event
  | .onClientDied event => .onClientDied event

structure SameListeners (s : MouseSharing) (m : MouseLocation) : Prop where
  localListeners : s.localListeners = m.localListeners
  listeners : s.listeners = m.listeners

/-- While the sessions stay up, the calls of local processes do to the listeners what they do in
`MouseLocation.next`. -/
theorem SameListeners.next {s : MouseSharing} {m : MouseLocation} (h : SameListeners s m)
    (link : SoftbusLink) (call : ListenerCall) :
    SameListeners (s.next { env := ofLink link, input := ofCall call })
      (MouseLocation.next link call m) := by
  obtain ⟨locals, tables⟩ := h
  cases call with
  | addListener event =>
    change SameListeners (addListener (ofLink link) event s)
      (MouseLocation.addListener link event m)
    by_cases here : event.networkId = link.localNetworkId
    · have there : event.networkId = (ofLink link).localNetworkId := here
      rw [addListener, MouseLocation.addListener, if_pos here, if_pos there]
      exact ⟨congrArg (insert event.pid) locals, tables⟩
    · have there : event.networkId ≠ (ofLink link).localNetworkId := here
      have reached : subscribeMouseLocation (ofLink link)
          { networkId := (ofLink link).localNetworkId, remoteNetworkId := event.networkId } = true ↔
            MouseLocation.Reaches link event.networkId :=
        (MouseLocation.transmits_iff link DSOFTBUS_SUBSCRIBE_MOUSE_LOCATION _).trans
          ⟨fun fits => ⟨here, fits⟩, fun reaches => reaches.fits⟩
      rw [MouseLocation.addListener_of_remote here, addListener, if_neg there]
      by_cases reaches : MouseLocation.Reaches link event.networkId
      · rw [if_pos reaches, if_pos (reached.mpr reaches)]
        refine ⟨locals, ?_⟩
        simp only [listenersOf, MouseLocation.listenersOf, tables]
      · rw [if_neg reaches, if_neg (mt reached.mp reaches)]
        exact ⟨locals, tables⟩
  | removeListener event =>
    change SameListeners (removeListener (ofLink link) event s)
      (MouseLocation.removeListener link event m)
    by_cases here : event.networkId = link.localNetworkId
    · have there : event.networkId = (ofLink link).localNetworkId := here
      rw [removeListener, MouseLocation.removeListener, if_pos here, if_pos there]
      exact ⟨congrArg (Finset.erase · event.pid) locals, tables⟩
    · have there : event.networkId ≠ (ofLink link).localNetworkId := here
      rw [MouseLocation.removeListener_of_remote here, removeListener, if_neg there, tables]
      cases m.listeners event.networkId with
      | none => exact ⟨locals, tables⟩
      | some pids => exact ⟨locals, rfl⟩
  | onClientDied event =>
    refine ⟨congrArg (Finset.erase · event.pid) locals, funext fun n => ?_⟩
    simp only [MouseSharing.next, step, ofCall, onClientDied, MouseLocation.next,
      MouseLocation.onClientDied, tables]
    cases m.listeners n <;> rfl

/-- The subscribers have announced themselves, a packet changes the subscription of its sender
alone, and a location that is reported for a peer came on the session of that peer. -/
structure SpeaksForSender (l : MouseLabel) (s : MouseSharing) : Prop where
  subscribers : (s.next l).remoteSubscribers ⊆ (s.next l).announced
  others : ∀ sender packet, l.input = .packet sender packet → ∀ n ≠ sender,
    (n ∈ (s.next l).remoteSubscribers ↔ n ∈ s.remoteSubscribers)
  reports : ∀ sender packet, l.input = .packet sender packet → ∀ report,
    (s.step l).1.report = some report → report.pids ≠ ∅ → report.networkId = sender

/-- A message names its sender, unless it comes to nothing: the peer that it subscribes has
subscribed, neither the sender nor the one that it unsubscribes has, nobody is told of the
location. -/
def EventNamesSender (env : MouseEnv) (sender : NetworkId) (event : CooperateEvent)
    (s : MouseSharing) : Prop :=
  match event with
  | .dsoftbusSubscribeMouseLocation notice =>
      notice.networkId = sender ∨ notice.networkId ∈ s.remoteSubscribers
  | .dsoftbusUnsubscribeMouseLocation notice =>
      notice.networkId = sender ∨
        notice.networkId ∉ s.remoteSubscribers ∧ sender ∉ s.remoteSubscribers
  | .dsoftbusMouseLocation notice =>
      notice.networkId = sender ∨ ∀ pid ∈ s.listenersOf notice.networkId,
        reportMouseLocationToListener env notice.networkId notice.mouseLocation pid = false
  | _ => True

def NamesSender (l : MouseLabel) (s : MouseSharing) : Prop :=
  ∀ sender packet, l.input = .packet sender packet →
    ∀ event, DSoftbusWire.onPacket sender packet = some event →
      EventNamesSender l.env sender event s

section Steps

variable {s : MouseSharing} {env : MouseEnv} {sender : NetworkId} {packet : NetPacket}

/-- The calls of local processes leave the subscribers alone, and a session that is closed only
takes one away. -/
theorem speaksForSender_of_not_packet {l : MouseLabel} (h : s.remoteSubscribers ⊆ s.announced)
    (other : ∀ sender packet, l.input ≠ .packet sender packet) : s.SpeaksForSender l := by
  refine ⟨?_, fun sender packet here => absurd here (other sender packet),
    fun sender packet here => absurd here (other sender packet)⟩
  rcases l with ⟨env, _ | _ | _ | _ | _⟩
  case packet sender packet => exact absurd rfl (other sender packet)
  case addListener event =>
    simp only [next, step, addListener]
    split_ifs <;> exact h
  case removeListener event =>
    simp only [next, step, removeListener]
    split_ifs
    · exact h
    · split <;> exact h
  case onClientDied event => exact h
  case onSoftbusSessionClosed event => exact (Finset.erase_subset _ _).trans h

/-- What a message of `sender` that is read must keep to. -/
structure EventSpeaks (env : MouseEnv) (sender : NetworkId) (event : CooperateEvent)
    (s : MouseSharing) : Prop where
  subscribers : (onEvent env event (announce sender event s)).2.remoteSubscribers ⊆
    (onEvent env event (announce sender event s)).2.announced
  others : ∀ n ≠ sender,
    (n ∈ (onEvent env event (announce sender event s)).2.remoteSubscribers ↔
      n ∈ s.remoteSubscribers)
  reports : ∀ report, (onEvent env event (announce sender event s)).1.report = some report →
    report.pids ≠ ∅ → report.networkId = sender

theorem subscribe_speaks_iff (h : s.remoteSubscribers ⊆ s.announced)
    (notice : DSoftbusSubscribeMouseLocation) :
    EventSpeaks env sender (.dsoftbusSubscribeMouseLocation notice) s ↔
      notice.networkId = sender ∨ notice.networkId ∈ s.remoteSubscribers := by
  constructor
  · intro speaks
    by_contra none
    obtain ⟨other, absent⟩ := not_or.mp none
    exact absent ((speaks.others notice.networkId other).mp (Finset.mem_insert_self _ _))
  · intro own
    refine ⟨?_, fun n other => ?_, nofun⟩
    · simp only [onEvent, onSubscribeMouseLocation, announce]
      grind
    · simp only [onEvent, onSubscribeMouseLocation, announce]
      grind

theorem onUnSubscribeMouseLocation_eq (notice : DSoftbusSubscribeMouseLocation)
    (s : MouseSharing) :
    (onUnSubscribeMouseLocation notice s).1.report = none ∧
      (onUnSubscribeMouseLocation notice s).2 =
        { s with remoteSubscribers := s.remoteSubscribers.erase notice.networkId } := by
  unfold onUnSubscribeMouseLocation
  by_cases subscribed : notice.networkId ∈ s.remoteSubscribers
  · rw [if_pos subscribed]
    exact ⟨rfl, rfl⟩
  · rw [if_neg subscribed, Finset.erase_eq_of_notMem subscribed]
    exact ⟨rfl, rfl⟩

theorem unsubscribe_speaks_iff (h : s.remoteSubscribers ⊆ s.announced)
    (notice : DSoftbusSubscribeMouseLocation) :
    EventSpeaks env sender (.dsoftbusUnsubscribeMouseLocation notice) s ↔
      notice.networkId = sender ∨
        notice.networkId ∉ s.remoteSubscribers ∧ sender ∉ s.remoteSubscribers := by
  have after : (onEvent env (.dsoftbusUnsubscribeMouseLocation notice)
      (announce sender (.dsoftbusUnsubscribeMouseLocation notice) s)).2 =
        { s with
          remoteSubscribers := s.remoteSubscribers.erase notice.networkId
          announced := s.announced.erase sender } :=
    (onUnSubscribeMouseLocation_eq notice _).2
  constructor
  · rintro ⟨subscribers, others, -⟩
    rw [after] at subscribers others
    by_contra none
    obtain ⟨other, subscribed⟩ := not_or.mp none
    have absent : notice.networkId ∉ s.remoteSubscribers := by
      intro mem
      exact absurd ((others _ other).mpr mem) (Finset.notMem_erase _ _)
    -- what is left of the subscribers is all of them, with the sender
    rw [Finset.erase_eq_of_notMem absent] at subscribers
    refine subscribed ⟨absent, fun mem => ?_⟩
    exact absurd (subscribers mem) (Finset.notMem_erase _ _)
  · intro own
    refine ⟨?_, fun n other => ?_, fun report sent => ?_⟩
    · rw [after]
      grind
    · rw [after]
      grind
    · cases (onUnSubscribeMouseLocation_eq notice _).1.symm.trans sent

theorem location_speaks_iff (h : s.remoteSubscribers ⊆ s.announced)
    (notice : DSoftbusSyncMouseLocation) :
    EventSpeaks env sender (.dsoftbusMouseLocation notice) s ↔
      notice.networkId = sender ∨ ∀ pid ∈ s.listenersOf notice.networkId,
        reportMouseLocationToListener env notice.networkId notice.mouseLocation pid = false := by
  have nobody : told env notice s = ∅ ↔ ∀ pid ∈ s.listenersOf notice.networkId,
      reportMouseLocationToListener env notice.networkId notice.mouseLocation pid = false := by
    simp [told, Finset.filter_eq_empty_iff]
  rw [← nobody]
  constructor
  · intro speaks
    by_contra none
    obtain ⟨other, reached⟩ := not_or.mp none
    exact other (speaks.reports _ rfl reached)
  · rintro own
    refine ⟨h, fun n _ => .rfl, fun report sent reached => ?_⟩
    obtain rfl := Option.some.inj sent
    exact own.resolve_right reached

theorem event_speaks_iff (h : s.remoteSubscribers ⊆ s.announced) (event : CooperateEvent) :
    EventSpeaks env sender event s ↔ EventNamesSender env sender event s := by
  cases event with
  | dsoftbusSubscribeMouseLocation notice => exact subscribe_speaks_iff h notice
  | dsoftbusUnsubscribeMouseLocation notice => exact unsubscribe_speaks_iff h notice
  | dsoftbusMouseLocation notice => exact location_speaks_iff h notice
  | _ => exact iff_of_true ⟨h, fun _ _ => .rfl, nofun⟩ trivial

theorem speaksForSender_iff {l : MouseLabel} (h : s.remoteSubscribers ⊆ s.announced) :
    s.SpeaksForSender l ↔ s.NamesSender l := by
  by_cases came : ∃ sender packet, l.input = .packet sender packet
  · obtain ⟨sender, packet, came⟩ := came
    have only (sender' : NetworkId) (packet' : NetPacket)
        (here : l.input = .packet sender' packet') : sender' = sender ∧ packet' = packet := by
      simpa using here.symm.trans came
    cases read : DSoftbusWire.onPacket sender packet with
    | none =>
      have same : s.step l = ({}, s) := by simp only [step, came, onPacket, read]
      refine iff_of_true ⟨?_, ?_, ?_⟩ ?_
      · rw [next, same]
        exact h
      · intros
        rw [next, same]
      · intro _ _ _ report sent
        rw [same] at sent
        cases sent
      · intro sender' packet' here event sent
        obtain ⟨rfl, rfl⟩ := only sender' packet' here
        cases read.symm.trans sent
    | some event =>
      have taken : s.step l = onEvent l.env event (announce sender event s) := by
        simp only [step, came, onPacket, read]
      have names : s.NamesSender l ↔ EventNamesSender l.env sender event s := by
        constructor
        · intro named
          exact named sender packet came event read
        · intro named sender' packet' here event' sent
          obtain ⟨rfl, rfl⟩ := only sender' packet' here
          obtain rfl := Option.some.inj (read.symm.trans sent)
          exact named
      rw [names, ← event_speaks_iff h event]
      constructor
      · rintro ⟨subscribers, others, reports⟩
        rw [next, taken] at subscribers
        refine ⟨subscribers, fun n other => ?_, fun report sent => ?_⟩
        · have kept := others sender packet came n other
          rwa [next, taken] at kept
        · rw [← taken] at sent
          exact reports sender packet came report sent
      · rintro ⟨subscribers, others, reports⟩
        refine ⟨?_, fun sender' packet' here n other => ?_, fun sender' packet' here => ?_⟩
        · rwa [next, taken]
        · obtain ⟨rfl, rfl⟩ := only sender' packet' here
          rw [next, taken]
          exact others n other
        · obtain ⟨rfl, rfl⟩ := only sender' packet' here
          rwa [taken]
  · have other (sender : NetworkId) (packet : NetPacket) : l.input ≠ .packet sender packet :=
      fun here => came ⟨sender, packet, here⟩
    refine iff_of_true (speaksForSender_of_not_packet h other) ?_
    intro sender packet here
    exact absurd here (other sender packet)

end Steps

/-- Packets speak only for their sender throughout a run exactly when each names its sender,
where it matters. -/
theorem packets_speak_for_sender_iff (tr : List MouseLabel) :
    EachStep next (fun l s => s.SpeaksForSender l) {} tr ↔
      EachStep next (fun l s => s.NamesSender l) {} tr := by
  refine EachStep.iff_of_invariant (I := fun s => s.remoteSubscribers ⊆ s.announced) ?_ ?_
    (Finset.Subset.refl _)
  · intro l s h named
    exact ((speaksForSender_iff h).mpr named).subscribers
  · intro l s h
    exact speaksForSender_iff h

/-- A packet in which `[2]` subscribes `[3]`. -/
def forgedSubscription : NetPacket :=
  { toStreamBuffer := (Ipc.StreamBuffer.putString [3] {}).putString [1]
    msgId := DSOFTBUS_SUBSCRIBE_MOUSE_LOCATION }

theorem packet_subscribes_other :
    ¬ ∀ tr, EachStep next (fun l s => s.SpeaksForSender l) {} tr := by
  intro h
  let forged : MouseLabel :=
    { env := { localNetworkId := [1] }, input := .packet [2] forgedSubscription }
  have speaks := h [forged] [] forged List.prefix_rfl
  have subscribed := speaks.others [2] forgedSubscription rfl [3] (by decide)
  exact absurd (subscribed.mp (by decide +kernel)) (by decide)

end MouseSharing

end DeviceStatus.Cooperation
