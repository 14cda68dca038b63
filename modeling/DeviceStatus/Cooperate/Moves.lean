import DeviceStatus.Cooperate.Observed

/-!
# The moves of a cooperation

What one event can do to the observed part of a device, as one relation for each state with
a constructor for each outcome and its guards. It is a coarser machine than the code: cursor,
speeds, observers and listeners are gone, and a packet is any packet with the right origin.

## Main definitions

* `StartRequest`, `RemoteStart` — what the variants of an event with and without options have
  in common.
* `Unseen` — what decides a start request beside the observed part.
* `Observed.FreeMove`, `OutMove`, `InMove`, `RelayMove` — the outcomes in each state.
* `Observed.Move` — the outcomes of `StateMachine::OnEvent`.
-/

namespace DeviceStatus.Cooperation

/-- A request of a client to start a cooperation, with or without options. -/
structure StartRequest where
  call : PendingCall
  errCode : Promise

/-- A start message, as its receiver sees it. -/
structure RemoteStart where
  networkId : NetworkId
  originNetworkId : NetworkId
  userId : Int32
  accountId : StdString

/-- The packet that FREE would send for a START request; no other event uses it. -/
def requestPacket (env : Env) (e : CooperateEvent) (m : Cooperate) : DSoftbusPacket :=
  match e with
  | .start n => DSoftbusHandler.startPacket
      (Free.startNotice env n (!env.hasSessionExisted n.remoteNetworkId) m)
  | _ => .stopCooperate

/-- What decides a start request and is not observed. -/
structure Unseen where
  /-- whether the observers allow it -/
  allowed : Bool
  packet : DSoftbusPacket

def unseen (env : Env) (e : CooperateEvent) (m : Cooperate) : Unseen where
  allowed := Context.isAllowCooperate env m
  packet := requestPacket env e m

/-- What `EventManager` keeps of a start request until it is answered. -/
def StartCooperateEvent.call (n : StartCooperateEvent) : PendingCall :=
  ⟨n.pid, n.userData, n.remoteNetworkId⟩

def StartWithOptionsEvent.call (n : StartWithOptionsEvent) : PendingCall :=
  ⟨n.pid, n.userData, n.remoteNetworkId⟩

namespace CooperateEvent

def request? : CooperateEvent → Option StartRequest
  | .start e => some ⟨e.call, e.errCode⟩
  | .withOptionsStart e => some ⟨e.call, e.errCode⟩
  | _ => none

def remoteStart? : CooperateEvent → Option RemoteStart
  | .dsoftbusStartCooperate e => some ⟨e.networkId, e.originNetworkId, e.userId, e.accountId⟩
  | .dsoftbusCooperateWithOptions e =>
      some ⟨e.networkId, e.originNetworkId, e.userId, e.accountId⟩
  | _ => none

/-- The sender and the origin of a message that gives control back. -/
def comeBack? : CooperateEvent → Option (NetworkId × NetworkId)
  | .dsoftbusComeBack e => some (e.networkId, e.originNetworkId)
  | .dsoftbusComeBackWithOptions e => some (e.networkId, e.originNetworkId)
  | _ => none

/-- A message that asks the OUT side to hand over, and whether it is the one with options. -/
def relay? : CooperateEvent → Option (DSoftbusRelayCooperate × Bool)
  | .dsoftbusRelayCooperate e => some (e, false)
  | .dsoftbusRelayCooperateWithOptions e => some (e, true)
  | _ => none

/-- An answer to such a message, and whether it is the one with options. -/
def finished? : CooperateEvent → Option (DSoftbusRelayCooperateFinished × Bool)
  | .dsoftbusRelayCooperateFinished e => some (e, false)
  | .dsoftbusRelayCooperateWithOptionsFinished e => some (e, true)
  | _ => none

/-- A device whose loss the event reports. -/
def lost? : CooperateEvent → Option NetworkId
  | .ddmBoardOffline e => some e.networkId
  | .dsoftbusSessionClosed e => some e.networkId
  | .ddpCooperateSwitchChanged e => if e.normal then none else some e.networkId
  | _ => none

/-- Events that `StateMachine` deals with itself; a board that goes online or offline is
only handed on when that is news. -/
def isBookkeeping : CooperateEvent → Bool
  | .addObserver _ | .removeObserver _ | .registerListener _ | .unregisterListener _
  | .registerHotareaListener _ | .unregisterHotareaListener _ | .getCooperateState _
  | .registerEventListener _ | .unregisterEventListener _ | .ddmBoardOnline _
  | .ddmBoardOffline _ | .dsoftbusSubscribeMouseLocation _
  | .dsoftbusUnsubscribeMouseLocation _ | .dsoftbusReplySubscribeMouseLocation _
  | .dsoftbusReplyUnsubscribeMouseLocation _ | .dsoftbusMouseLocation _
  | .updateVirtualDevIdMap _ => true
  | _ => false

/-- Events that `StateMachine` hands to the state as they are, whatever it does before. -/
def isPassedOn : CooperateEvent → Bool
  | .enable _ | .disable _ | .start _ | .withOptionsStart _ | .inputPointerEvent _
  | .dsoftbusStartCooperate _ | .dsoftbusCooperateWithOptions _ => false
  | _ => true

/-- Mouse input of a device of this host, outside the filtered actions. -/
def isLocalPointer (env : Env) (filtered : List Int32) : CooperateEvent → Bool
  | .inputPointerEvent e =>
      e.sourceType = env.mmi.SOURCE_TYPE_MOUSE && !filtered.contains e.pointerAction &&
        InputEventBuilder.isLocalEvent e
  | _ => false

end CooperateEvent

namespace Observed

/-- The gate of `StateMachine` for start messages. -/
def Gate (env : Env) (o : Observed) (s : RemoteStart) : Prop :=
  StateMachine.checkSameAccount env s.originNetworkId s.userId s.accountId = true ∧
    o.enabled = true

/-- The answer that turns a request down because of a drag. -/
def motionDragAnswer (call : PendingCall) : Output :=
  .answer (EventManager.startNotice call false
    CoordinationErrCode.notAollowCooperateWhenMotionDragging.toInt32)

/-! ## FREE -/

/-- A request in FREE: the peer is set before anything is known of the request's success. -/
def ask (call : PendingCall) (o : Observed) : Observed :=
  (o.bind call.networkId).register call

/-- The request's OUT state is entered and the request answered. -/
def begin (env : Env) (o : Observed) : Observed :=
  ((o.enableInterceptor env).finish true CoordinationErrCode.coordinationOk.toInt32).goto .out

inductive FreeMove (env : Env) (request : DSoftbusPacket) :
    CooperateEvent → Observed → Observed → Prop
  | ignore {e : CooperateEvent} {o : Observed} (hr : e.request? = none)
      (hs : e.remoteStart? = none) : FreeMove env request e o o
  | refuse {e : CooperateEvent} {o : Observed} (r : StartRequest) (hr : e.request? = some r)
      (drag : env.dragState = .motionDragging) :
      FreeMove env request e o ((o.ask r.call).out [motionDragAnswer r.call])
  | noSession {e : CooperateEvent} {o : Observed} (r : StartRequest) (hr : e.request? = some r)
      (drag : env.dragState ≠ .motionDragging)
      (session : env.openSession r.call.networkId ≠ RET_OK) :
      FreeMove env request e o
        ((o.ask r.call).finish false (Free.openSessionErrNum (env.openSession r.call.networkId)))
  | offline {n : StartCooperateEvent} {o : Observed}
      (drag : env.dragState ≠ .motionDragging)
      (session : env.openSession n.remoteNetworkId = RET_OK)
      (online : env.checkDeviceOnline n.remoteNetworkId ≠ RET_OK) :
      FreeMove env request (.start n) o (o.ask n.call)
  | notSent {n : StartCooperateEvent} {o : Observed} (notice : DSoftbusStartCooperate)
      (origin : notice.originNetworkId = env.localNetworkId)
      (hp : request = DSoftbusHandler.startPacket notice)
      (drag : env.dragState ≠ .motionDragging)
      (session : env.openSession n.remoteNetworkId = RET_OK)
      (online : env.checkDeviceOnline n.remoteNetworkId = RET_OK)
      (sent : DSoftbusHandler.sendResult env o.outputs.length n.remoteNetworkId
        (DSoftbusHandler.startPacket notice) ≠ RET_OK) :
      FreeMove env request (.start n) o
        ((o.ask n.call).send env n.remoteNetworkId (DSoftbusHandler.startPacket notice))
  | noInterceptor {n : StartCooperateEvent} {o : Observed} (notice : DSoftbusStartCooperate)
      (origin : notice.originNetworkId = env.localNetworkId)
      (hp : request = DSoftbusHandler.startPacket notice)
      (drag : env.dragState ≠ .motionDragging)
      (session : env.openSession n.remoteNetworkId = RET_OK)
      (online : env.checkDeviceOnline n.remoteNetworkId = RET_OK)
      (sent : DSoftbusHandler.sendResult env o.outputs.length n.remoteNetworkId
        (DSoftbusHandler.startPacket notice) = RET_OK)
      (interceptor : ¬ (0 < o.interceptor ∨ 0 ≤ env.addInterceptor)) :
      FreeMove env request (.start n) o
        (((o.ask n.call).send env n.remoteNetworkId
          (DSoftbusHandler.startPacket notice)).enableInterceptor env)
  | started {n : StartCooperateEvent} {o : Observed} (notice : DSoftbusStartCooperate)
      (origin : notice.originNetworkId = env.localNetworkId)
      (hp : request = DSoftbusHandler.startPacket notice)
      (drag : env.dragState ≠ .motionDragging)
      (session : env.openSession n.remoteNetworkId = RET_OK)
      (online : env.checkDeviceOnline n.remoteNetworkId = RET_OK)
      (sent : DSoftbusHandler.sendResult env o.outputs.length n.remoteNetworkId
        (DSoftbusHandler.startPacket notice) = RET_OK)
      (interceptor : 0 < o.interceptor ∨ 0 ≤ env.addInterceptor) :
      FreeMove env request (.start n) o
        (((o.ask n.call).send env n.remoteNetworkId
          (DSoftbusHandler.startPacket notice)).begin env)
  | startedWithOptions {n : StartWithOptionsEvent} {o : Observed}
      (notice : DSoftbusCooperateOptions)
      (origin : notice.originNetworkId = env.localNetworkId)
      (drag : env.dragState ≠ .motionDragging)
      (session : env.openSession n.remoteNetworkId = RET_OK) :
      FreeMove env request (.withOptionsStart n) o
        (((o.ask n.call).send env n.remoteNetworkId
          (DSoftbusHandler.startWithOptionsPacket notice)).begin env)
  | remoteStart {e : CooperateEvent} {o : Observed} (s : RemoteStart)
      (hs : e.remoteStart? = some s) :
      FreeMove env request e o ((o.bind s.originNetworkId).enableBuilder.goto .in)

/-! ## OUT -/

/-- What ends a cooperation that goes out. -/
def StopsOut (env : Env) (o : Observed) : CooperateEvent → Prop
  | .disable _ | .stop _ | .appClosed _ | .inputHotplugEvent _ => True
  | .ddmBoardOffline n | .dsoftbusSessionClosed n => n.networkId = o.peer
  | .ddpCooperateSwitchChanged n => n.networkId = o.peer ∧ n.normal = false
  | .dsoftbusStartCooperate n => n.networkId ≠ env.localNetworkId ∧ n.networkId = o.peer
  | .dsoftbusCooperateWithOptions n => n.networkId ≠ env.localNetworkId ∧ n.networkId = o.peer
  | .stopAboutVirtualTrackpad _ => env.hasLocalPointerDevice = false
  | _ => False

/-- What OUT passes over. A hot-plug event is passed over or not by device ids that are not
observed. -/
def IgnoredOut (env : Env) (o : Observed) : CooperateEvent → Prop
  | .disable _ | .stop _ | .appClosed _ | .start _ | .withOptionsStart _ => False
  | .ddmBoardOffline n | .dsoftbusSessionClosed n | .dsoftbusStopCooperate n =>
      n.networkId ≠ o.peer
  | .ddpCooperateSwitchChanged n => n.networkId ≠ o.peer ∨ n.normal = true
  | .dsoftbusComeBack n => n.networkId ≠ o.peer
  | .dsoftbusComeBackWithOptions n => n.networkId ≠ o.peer
  | .dsoftbusRelayCooperate n | .dsoftbusRelayCooperateWithOptions n => n.networkId ≠ o.peer
  | .dsoftbusStartCooperate n => n.networkId = env.localNetworkId
  | .dsoftbusCooperateWithOptions n => n.networkId = env.localNetworkId
  | .stopAboutVirtualTrackpad _ => env.hasLocalPointerDevice = true
  | _ => True

/-- The answer to a relay request, of the plain or of the with-options kind. -/
def relayFinish (n : DSoftbusRelayCooperate) (withOptions normal : Bool) : DSoftbusPacket :=
  let resp : DSoftbusRelayCooperateFinished :=
    { targetNetworkId := n.targetNetworkId, uid := n.uid, normal }
  if withOptions then DSoftbusHandler.relayWithOptionsFinishPacket resp
  else DSoftbusHandler.relayFinishPacket resp

inductive OutMove (env : Env) : CooperateEvent → Observed → Observed → Prop
  | ignore {e : CooperateEvent} {o : Observed} (h : IgnoredOut env o e) : OutMove env e o o
  | stop {e : CooperateEvent} {o : Observed} (h : StopsOut env o e) :
      OutMove env e o (o.stopOut env)
  | unplug {n : InputHotplugEvent} {o : Observed} :
      OutMove env (.inputHotplugEvent n) o ((o.stopOut env).stopOut env)
  | refuse {e : CooperateEvent} {o : Observed} (r : StartRequest) (hr : e.request? = some r)
      (drag : env.dragState = .motionDragging) :
      OutMove env e o (o.out [motionDragAnswer r.call])
  | busy {e : CooperateEvent} {o : Observed} (r : StartRequest) (hr : e.request? = some r)
      (drag : env.dragState ≠ .motionDragging) :
      OutMove env e o ((o.register r.call).finish false
        CoordinationErrCode.unexpectedStartCall.toInt32)
  | comeBack {e : CooperateEvent} {o : Observed} (origin : NetworkId)
      (h : e.comeBack? = some (o.peer, origin)) :
      OutMove env e o ((o.disableInterceptor.bind origin).goto .free)
  | remoteStart {e : CooperateEvent} {o : Observed} (s : RemoteStart)
      (hs : e.remoteStart? = some s) (notLocal : s.networkId ≠ env.localNetworkId)
      (notPeer : s.networkId ≠ o.peer) :
      OutMove env e o (((o.disableInterceptor.send env o.peer .stopCooperate).bind
        s.originNetworkId).enableBuilder.goto .in)
  | remoteStop {n : DSoftbusStopCooperate} {o : Observed} (h : n.networkId = o.peer) :
      OutMove env (.dsoftbusStopCooperate n) o (o.disableInterceptor.goto .free)
  | relayFail {e : CooperateEvent} {n : DSoftbusRelayCooperate} {o : Observed}
      (withOptions : Bool) (he : e.relay? = some (n, withOptions)) (h : n.networkId = o.peer)
      (session : env.openSession n.targetNetworkId ≠ RET_OK) :
      OutMove env e o (o.send env o.peer (relayFinish n withOptions false))
  | relay {e : CooperateEvent} {n : DSoftbusRelayCooperate} {o : Observed}
      (withOptions : Bool) (he : e.relay? = some (n, withOptions)) (h : n.networkId = o.peer)
      (session : env.openSession n.targetNetworkId = RET_OK) :
      OutMove env e o
        ((o.send env o.peer (relayFinish n withOptions true)).bind
          n.targetNetworkId).updateInterceptor

/-! ## IN, initial step -/

/-- What ends a cooperation that comes in. -/
def StopsIn (env : Env) (o : Observed) : CooperateEvent → Prop
  | .disable _ | .stop _ | .appClosed _ => True
  | .ddmBoardOffline n | .dsoftbusSessionClosed n => n.networkId = o.peer
  | .ddpCooperateSwitchChanged n => n.networkId = o.peer ∧ n.normal = false
  | .inputPointerEvent n =>
      CooperateEvent.isLocalPointer env (In.Initial.filterPointerActions env)
        (.inputPointerEvent n) = true
  | _ => False

/-- What the initial step passes over. -/
def IgnoredIn (env : Env) (o : Observed) : CooperateEvent → Prop
  | .disable _ | .stop _ | .appClosed _ | .start _ | .withOptionsStart _ => False
  | .ddmBoardOffline n | .dsoftbusSessionClosed n | .dsoftbusStopCooperate n =>
      n.networkId ≠ o.peer
  | .ddpCooperateSwitchChanged n => n.networkId ≠ o.peer ∨ n.normal = true
  | .inputPointerEvent n =>
      CooperateEvent.isLocalPointer env (In.Initial.filterPointerActions env)
        (.inputPointerEvent n) = false
  | .dsoftbusStartCooperate n => n.networkId = o.peer ∨ n.networkId = env.localNetworkId
  | .dsoftbusCooperateWithOptions n => n.networkId = o.peer ∨ n.networkId = env.localNetworkId
  | _ => True

/-- The step `RelayConfirmation` is taken towards the target of the request. -/
def confirm (call : PendingCall) (o : Observed) : Observed :=
  { o.register call with process := call.networkId, inStep := .relayConfirmation }

/-- The answer that the timer of a relay stands for. -/
def relayTimeout (e : CooperateEvent) (peer : NetworkId) : CooperateEvent :=
  match e with
  | .withOptionsStart _ =>
      .dsoftbusRelayCooperateWithOptionsFinished { networkId := peer, normal := false }
  | _ => .dsoftbusRelayCooperateFinished { networkId := peer, normal := false }

/-- The two packets that give control back to `origin`'s peer. -/
def IsComeBack (origin : NetworkId) (e : CooperateEvent) (packet : DSoftbusPacket) : Prop :=
  match e with
  | .start _ => ∃ notice, notice.originNetworkId = origin ∧
      packet = DSoftbusHandler.comeBackPacket notice
  | .withOptionsStart _ => ∃ notice, notice.originNetworkId = origin ∧
      packet = DSoftbusHandler.comeBackWithOptionsPacket notice
  | _ => False

/-- The come back is answered by whether its packet was sent. -/
def comeBackFinish (result : Int32) (o : Observed) : Observed :=
  if result = RET_OK then o.finish true CoordinationErrCode.coordinationOk.toInt32
  else o.finish false CoordinationErrCode.sendPacketFailed.toInt32

inductive InMove (env : Env) : CooperateEvent → Observed → Observed → Prop
  | ignore {e : CooperateEvent} {o : Observed} (h : IgnoredIn env o e) : InMove env e o o
  | stop {e : CooperateEvent} {o : Observed} (h : StopsIn env o e) :
      InMove env e o (o.stopIn env)
  | refuse {e : CooperateEvent} {o : Observed} (r : StartRequest) (hr : e.request? = some r)
      (drag : env.dragState = .motionDragging) :
      InMove env e o (o.out [motionDragAnswer r.call])
  | toLocal {e : CooperateEvent} {o : Observed} (r : StartRequest) (hr : e.request? = some r)
      (drag : env.dragState ≠ .motionDragging) (h : r.call.networkId = env.localNetworkId) :
      InMove env e o (o.finish false CoordinationErrCode.unexpectedStartCall.toInt32)
  | comeBack {e : CooperateEvent} {o : Observed} (r : StartRequest) (packet : DSoftbusPacket)
      (hr : e.request? = some r) (drag : env.dragState ≠ .motionDragging)
      (notLocal : r.call.networkId ≠ env.localNetworkId) (h : r.call.networkId = o.peer)
      (hp : IsComeBack env.localNetworkId e packet) :
      InMove env e o (((((o.register r.call).disableBuilder).send env o.peer packet).comeBackFinish
        (DSoftbusHandler.sendResult env o.outputs.length o.peer packet)).goto .free)
  | relayFail {e : CooperateEvent} {o : Observed} (r : StartRequest) (hr : e.request? = some r)
      (drag : env.dragState ≠ .motionDragging)
      (notLocal : r.call.networkId ≠ env.localNetworkId) (notPeer : r.call.networkId ≠ o.peer)
      (session : env.openSession r.call.networkId ≠ RET_OK) :
      InMove env e o (((o.confirm r.call).finish false
        CoordinationErrCode.coordinationOk.toInt32).reset)
  | relay {e : CooperateEvent} {o : Observed} (r : StartRequest)
      (notice : DSoftbusRelayCooperate) (hr : e.request? = some r)
      (drag : env.dragState ≠ .motionDragging)
      (notLocal : r.call.networkId ≠ env.localNetworkId) (notPeer : r.call.networkId ≠ o.peer)
      (session : env.openSession r.call.networkId = RET_OK)
      (target : notice.targetNetworkId = r.call.networkId) :
      InMove env e o
        ({ (o.confirm r.call).send env o.peer (DSoftbusHandler.relayPacket notice) with
            timerId := env.addTimer }.out
          [.addTimer env.addTimer DEFAULT_TIMEOUT (relayTimeout e o.peer)])
  | remoteStart {e : CooperateEvent} {o : Observed} (s : RemoteStart)
      (hs : e.remoteStart? = some s) (notPeer : s.networkId ≠ o.peer)
      (notLocal : s.networkId ≠ env.localNetworkId) :
      InMove env e o
        ((o.send env o.peer .stopCooperate).bind s.originNetworkId).updateBuilder
  | remoteStop {n : DSoftbusStopCooperate} {o : Observed} (h : n.networkId = o.peer) :
      InMove env (.dsoftbusStopCooperate n) o (o.disableBuilder.goto .free)

/-! ## IN, waiting for the relay -/

/-- What ends cooperation and relay without a word to the client that asked for the relay. -/
def StopsRelay (env : Env) : CooperateEvent → Prop
  | .disable _ | .stop _ => True
  | .inputPointerEvent n => CooperateEvent.isLocalPointer env [] (.inputPointerEvent n) = true
  | _ => False

/-- What ends cooperation and relay and fails the request. -/
def LosesPeer (o : Observed) (e : CooperateEvent) : Prop :=
  (∃ n, e = .appClosed n) ∨ e.lost? = some o.peer

/-- What `RelayConfirmation` passes over. -/
def IgnoredRelay (env : Env) (o : Observed) : CooperateEvent → Prop
  | .disable _ | .stop _ | .appClosed _ => False
  | .ddmBoardOffline n | .dsoftbusSessionClosed n =>
      n.networkId ≠ o.peer ∧ n.networkId ≠ o.process
  | .dsoftbusStopCooperate n => n.networkId ≠ o.peer
  | .ddpCooperateSwitchChanged n =>
      n.normal = true ∨ (n.networkId ≠ o.peer ∧ n.networkId ≠ o.process)
  | .inputPointerEvent n => CooperateEvent.isLocalPointer env [] (.inputPointerEvent n) = false
  | .dsoftbusStartCooperate n => n.networkId = o.peer ∨ n.networkId = env.localNetworkId
  | .dsoftbusCooperateWithOptions n => n.networkId = o.peer ∨ n.networkId = env.localNetworkId
  | .dsoftbusRelayCooperateFinished n | .dsoftbusRelayCooperateWithOptionsFinished n =>
      n.networkId ≠ o.peer
  | _ => True

/-- The start message to the target of a relay, which names the peer as its origin and no
account; it is of the kind of the answer that completes the relay. -/
def IsRelayedStart (origin : NetworkId) (withOptions : Bool) (packet : DSoftbusPacket) : Prop :=
  if withOptions then ∃ notice, notice.originNetworkId = origin ∧ notice.accountId = [] ∧
    packet = DSoftbusHandler.startWithOptionsPacket notice
  else ∃ notice, notice.originNetworkId = origin ∧ notice.accountId = [] ∧
    packet = DSoftbusHandler.startPacket notice

inductive RelayMove (env : Env) : CooperateEvent → Observed → Observed → Prop
  | ignore {e : CooperateEvent} {o : Observed} (h : IgnoredRelay env o e) : RelayMove env e o o
  | stop {e : CooperateEvent} {o : Observed} (h : StopsRelay env e) :
      RelayMove env e o (o.stopIn env).reset
  | lose {e : CooperateEvent} {o : Observed} (h : LosesPeer o e) :
      RelayMove env e o ((o.stopIn env).finish false
        CoordinationErrCode.coordinationOk.toInt32).reset
  | loseTarget {e : CooperateEvent} {o : Observed} (h : e.lost? = some o.process)
      (notPeer : o.process ≠ o.peer) :
      RelayMove env e o (o.finish false CoordinationErrCode.coordinationOk.toInt32).reset
  | crossing {n : DSoftbusStartCooperate} {o : Observed} (notPeer : n.networkId ≠ o.peer)
      (notLocal : n.networkId ≠ env.localNetworkId) (h : n.networkId = o.process) :
      RelayMove env (.dsoftbusStartCooperate n) o
        ((o.out [.event (.dsoftbusStartCooperate n)]).finish false
          CoordinationErrCode.coordinationOk.toInt32).reset
  | crossingWithOptions {n : DSoftbusCooperateOptions} {o : Observed}
      (notPeer : n.networkId ≠ o.peer) (notLocal : n.networkId ≠ env.localNetworkId)
      (h : n.networkId = o.process) :
      RelayMove env (.dsoftbusCooperateWithOptions n) o
        (o.out [.event (.dsoftbusCooperateWithOptions n)]).reset
  | defer {e : CooperateEvent} {o : Observed} (s : RemoteStart) (hs : e.remoteStart? = some s)
      (notPeer : s.networkId ≠ o.peer) (notLocal : s.networkId ≠ env.localNetworkId)
      (notTarget : s.networkId ≠ o.process) :
      RelayMove env e o (o.out [.addTimer env.addTimer DEFAULT_COOLING_TIME e])
  | remoteStop {n : DSoftbusStopCooperate} {o : Observed} (h : n.networkId = o.peer) :
      RelayMove env (.dsoftbusStopCooperate n) o (o.out [.event (.dsoftbusStopCooperate n)]).reset
  | done {e : CooperateEvent} {n : DSoftbusRelayCooperateFinished} {o : Observed}
      (withOptions : Bool) (packet : DSoftbusPacket) (he : e.finished? = some (n, withOptions))
      (h : n.networkId = o.peer) (normal : n.normal = true)
      (hp : IsRelayedStart o.peer withOptions packet) :
      RelayMove env e o
        (((((o.out [.removeTimer o.timerId]).disableBuilder).send env o.process packet).finish true
          CoordinationErrCode.coordinationOk.toInt32).goto .free).reset
  | failed {e : CooperateEvent} {n : DSoftbusRelayCooperateFinished} {o : Observed}
      (withOptions : Bool) (he : e.finished? = some (n, withOptions))
      (h : n.networkId = o.peer) (normal : n.normal = false) :
      RelayMove env e o
        (((o.out [.removeTimer o.timerId]).finish false
          CoordinationErrCode.coordinationOk.toInt32).reset.stopIn env)

/-! ## The state machine -/

/-- What the current state does with an event that is handed to it. -/
def Transfer (env : Env) (request : DSoftbusPacket) (e : CooperateEvent) (o o' : Observed) : Prop :=
  match o.current, o.inStep with
  | .free, _ => FreeMove env request e o o'
  | .out, _ => OutMove env e o o'
  | .in, .initial => InMove env e o o'
  | .in, .relayConfirmation => RelayMove env e o o'

/-- The checks that a start request passes before it is accepted. -/
def TurnedDown (env : Env) (u : Unseen) (networkId : NetworkId) (value : Int32) : Prop :=
  (env.checkSrcIsSameAccount networkId = false ∧ value = COMMON_PERMISSION_CHECK_ERROR) ∨
    (u.allowed = false ∧ value = COMMON_NOT_ALLOWED_DISTRIBUTED)

inductive Move (env : Env) (u : Unseen) : CooperateEvent → Observed → Observed → Prop
  | keep {e : CooperateEvent} {o : Observed} (h : e.isBookkeeping = true) : Move env u e o o
  | pass {e : CooperateEvent} {o o' : Observed} (h : e.isPassedOn = true)
      (ht : Transfer env u.packet e o o') : Move env u e o o'
  | pointer {n : InputPointerEvent} {o o' : Observed} (position : Coordinate)
      (ht : Transfer env u.packet (.inputPointerEvent { n with position }) o o') :
      Move env u (.inputPointerEvent n) o o'
  | enable {n : EnableCooperateEvent} {o o' : Observed}
      (ht : Transfer env u.packet (.enable n) { o with enabled := true } o') :
      Move env u (.enable n) o o'
  | disable {n : DisableCooperateEvent} {o o' : Observed}
      (ht : Transfer env u.packet (.disable n) { o with enabled := false } o') :
      Move env u (.disable n) o o'
  | turnDown {e : CooperateEvent} {o : Observed} (r : StartRequest) (value : Int32)
      (hr : e.request? = some r) (h : TurnedDown env u r.call.networkId value) :
      Move env u e o (o.out [.errCode r.errCode value])
  | accept {e : CooperateEvent} {o o' : Observed} (r : StartRequest)
      (hr : e.request? = some r) (h : env.checkSrcIsSameAccount r.call.networkId = true)
      (allow : u.allowed = true)
      (ht : Transfer env u.packet e (o.out [.errCode r.errCode RET_OK]) o') : Move env u e o o'
  | gateClosed {e : CooperateEvent} {o o' : Observed} (s : RemoteStart)
      (hs : e.remoteStart? = some s) (gate : ¬ Gate env o s)
      (ht : Transfer env u.packet (.stop { isUnchained := true }) o o') : Move env u e o o'
  | gateOpen {e : CooperateEvent} {o o' : Observed} (s : RemoteStart)
      (hs : e.remoteStart? = some s) (gate : Gate env o s)
      (ht : Transfer env u.packet e o o') : Move env u e o o'

end Observed

end DeviceStatus.Cooperation
