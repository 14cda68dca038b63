import DeviceStatus.Cooperate.Replies
import DeviceStatus.Cooperate.Worker

/-!
# Requests of clients and their callbacks

A client sends a request under an id of its own and keeps the callback in `devCooperateEvent_`. The
service answers with a notice that bears this id, at once or when a cooperation has started, and
the client calls the callback and forgets it. Requests of any number of clients, the turns of the
cooperation thread and the reading of notices come in any order; only the lock of a client keeps it
from reading while one of its requests is under way.

## Main definitions

* `CooperateCallbacks` — what `CooperateClient` keeps of its requests.
* `Requests`, `Requests.next` — the service with its clients, one step of any of them.
* `Requests.Sound` — what holds of every state.
-/

namespace DeviceStatus.Cooperation

/-- The client whose request it is. -/
def CooperateEvent.client? : CooperateEvent → Option Client
  | .enable n => some ⟨n.pid, n.userData⟩
  | .disable n => some ⟨n.pid, n.userData⟩
  | .start n => some ⟨n.pid, n.userData⟩
  | .withOptionsStart n => some ⟨n.pid, n.userData⟩
  | .stop n => some ⟨n.pid, n.userData⟩
  | .getCooperateState n => some ⟨n.pid, n.userData⟩
  | _ => none

def Reply.client : Reply → Client
  | .message n => ⟨n.pid, n.userData⟩
  | .state n => ⟨n.pid, n.userData⟩

theorem Answers.client {e : CooperateEvent} {r : Reply} (h : Answers e r) :
    e.client? = some r.client := by
  cases h with
  | start hr success errCode => cases e <;> cases hr <;> rfl
  | _ => rfl

end DeviceStatus.Cooperation

namespace DeviceStatus.Client

open Cooperation Transition.System
open InputEvents (MmiConstants DoubleArithmetic)

/-- A request, before it gets an id. -/
inductive CooperateRequest where
  | enable (tokenId : Int32)
  | disable
  | start (remoteNetworkId : NetworkId) (startDeviceId uid : Int32) (errCode : Promise)
  | startWithOptions (remoteNetworkId : NetworkId) (startDeviceId : Int32)
      (options : CooperateOptions) (errCode : Promise)
  | stop (isUnchained : Bool)
  | getCooperateState (networkId : NetworkId)

/-- `CooperateClient::CooperateEvent`: an empty function is `none`. -/
structure CallbackEvent where
  msgCb : Option ℕ := none
  stateCb : Option ℕ := none

/-- The function that a notice is for. -/
def CallbackEvent.callback (r : Reply) (event : CallbackEvent) : Option ℕ :=
  match r with
  | .message _ => event.msgCb
  | .state _ => event.stateCb

namespace CooperateRequest

/-- What the service sends to the cooperation thread. -/
def event (pid userData : Int32) : CooperateRequest → CooperateEvent
  | enable tokenId => .enable { tokenId, pid, userData }
  | disable => .disable { pid, userData }
  | start remoteNetworkId startDeviceId uid errCode =>
    .start { pid, userData, remoteNetworkId, startDeviceId, errCode, uid }
  | startWithOptions remoteNetworkId startDeviceId options errCode =>
    .withOptionsStart
      { pid, userData, remoteNetworkId, startDeviceId, errCode,
        displayX := options.displayX, displayY := options.displayY,
        displayId := options.displayId }
  | stop isUnchained => .stop { pid, userData, isUnchained }
  | getCooperateState networkId => .getCooperateState { pid, userData, networkId }

def callbackEvent (callback : Option ℕ) : CooperateRequest → CallbackEvent
  | getCooperateState _ => { stateCb := callback }
  | _ => { msgCb := callback }

end CooperateRequest

/-- A request that has not returned yet. -/
structure UnderWay where
  userData : Int32
  event : CallbackEvent
  /-- what `Start` and `StartWithOptions` wait for in the service -/
  promise : Option Promise

structure CooperateCallbacks where
  requestId : Int32 := 0
  devCooperateEvent : Int32 → Option CallbackEvent := fun _ => none
  /-- the request that holds the lock -/
  underWay : Option UnderWay := none

namespace CooperateCallbacks

/-- `GenerateRequestID`, which starts again from 0 when the counter has run over. -/
def generateRequestID (c : CooperateCallbacks) : Int32 × CooperateCallbacks :=
  let id := c.requestId
  if id < 0 then (0, { c with requestId := 1 }) else (id, { c with requestId := id + 1 })

/-- The end of a request: its callback is kept unless the service has refused it. -/
def finish (ret : Int32) (u : UnderWay) (c : CooperateCallbacks) : CooperateCallbacks :=
  if ret ≠ RET_OK then { c with underWay := none }
  else
    { c with
      underWay := none
      devCooperateEvent := Function.update c.devCooperateEvent u.userData (some u.event) }

/-- The callback that a notice is for: `OnCooperateMessageEvent` and `OnCooperateStateEvent`. -/
def callback (r : Reply) (c : CooperateCallbacks) : Option ℕ :=
  (c.devCooperateEvent r.client.userData).bind (·.callback r)

/-- The callback of an id is forgotten when it has been called. -/
def onReply (r : Reply) (c : CooperateCallbacks) : CooperateCallbacks :=
  match c.callback r with
  | some _ =>
    { c with devCooperateEvent := Function.update c.devCooperateEvent r.client.userData none }
  | none => c

end CooperateCallbacks

structure Requests (mmi : MmiConstants) where
  worker : Worker mmi
  clients : Int32 → CooperateCallbacks := fun _ => {}
  /-- the notices in the session of a client that it has not read -/
  session : Int32 → List Reply := fun _ => []
  /-- the requests that have reached the service; a callback goes by the place of its request -/
  asked : List CooperateEvent := []
  /-- the callbacks that have been called, and what they were told -/
  calls : List (ℕ × Reply) := []

inductive RequestsLabel where
  /-- a client sends a request, with a callback or with an empty function -/
  | ask (pid : Int32) (request : CooperateRequest) (callback : Bool)
  /-- a request that the service turns away at its door, or one for a hot area: it uses an id -/
  | useId (pid : Int32)
  /-- the request of a client returns, if what it waits for is there -/
  | finish (pid : Int32)
  /-- an event that is not the request of a client -/
  | post (event : CooperateEvent)
  /-- a turn of the cooperation thread; `taken` are the notices that the sessions take -/
  | loop (env : Env) (taken : Reply → Bool)
  | read (pid : Int32)
  /-- the session of a client is closed -/
  | close (pid : Int32)

namespace RequestsLabel

/-- The step takes an id of the client. -/
def uses (pid : Int32) : RequestsLabel → Bool
  | ask pid' .. | useId pid' => pid' = pid
  | _ => false

/-- No process has the pid 0. -/
def Possible : RequestsLabel → Prop
  | ask pid .. => pid ≠ 0
  | post event => ∀ c ∈ event.client?, c.pid = 0
  | _ => True

end RequestsLabel

namespace Requests

variable {mmi : MmiConstants} (arithmetic : DoubleArithmetic)

def start (mmi : MmiConstants) (settings : InputSettings) : Requests mmi :=
  { worker := Worker.start mmi settings }

/-- What a request gets from the service, which answers before the synchronous task of the request
times out. -/
def ret (u : UnderWay) (s : Requests mmi) : Option Int32 :=
  match u.promise with
  | none => some RET_OK
  | some promise => s.worker.promises.lookup promise

/-- The answers that the next turn of the cooperation thread sends. -/
def replies (env : Env) (w : Worker mmi) : List Reply :=
  match w.received with
  | some (event, _) =>
    if Worker.IsPassed event then (told (step env event w.machine)).replies else []
  | none => []

def setClient (pid : Int32) (c : CooperateCallbacks) (s : Requests mmi) : Requests mmi :=
  { s with clients := Function.update s.clients pid c }

def ask (pid : Int32) (request : CooperateRequest) (callback : Bool) (s : Requests mmi) :
    Requests mmi :=
  let (userData, c) := (s.clients pid).generateRequestID
  let event := request.event pid userData
  let u : UnderWay :=
    { userData, promise := event.request?.map (·.errCode)
      event := request.callbackEvent (if callback then some s.asked.length else none) }
  { s with
    worker := s.worker.next arithmetic (.send event)
    clients := Function.update s.clients pid { c with underWay := some u }
    asked := s.asked ++ [event] }

def read (pid : Int32) (s : Requests mmi) : Requests mmi :=
  match s.session pid with
  | [] => s
  | r :: rest =>
    { s with
      clients := Function.update s.clients pid ((s.clients pid).onReply r)
      session := Function.update s.session pid rest
      calls := s.calls ++ (((s.clients pid).callback r).map fun k => (k, r)).toList }

def next (l : RequestsLabel) (s : Requests mmi) : Requests mmi :=
  match l with
  | .ask pid request callback =>
    match (s.clients pid).underWay with
    | some _ => s
    | none => ask arithmetic pid request callback s
  | .useId pid => s.setClient pid (s.clients pid).generateRequestID.2
  | .finish pid =>
    match (s.clients pid).underWay with
    | none => s
    | some u =>
      match s.ret u with
      | none => s
      | some ret => s.setClient pid ((s.clients pid).finish ret u)
  | .post event => { s with worker := s.worker.next arithmetic (.send event) }
  | .loop env taken =>
    let sent := replies env s.worker
    { s with
      worker := s.worker.next arithmetic (.loop env)
      session := fun pid =>
        s.session pid ++ sent.filter fun r => r.client.pid = pid ∧ taken r }
  | .read pid =>
    match (s.clients pid).underWay with
    | some _ => s
    | none => s.read pid
  | .close pid => { s with session := Function.update s.session pid [] }

/-! ## What holds of every state -/

/-- A request that one of the clients has asked. The service also stops cooperations by itself,
for a caller with pid 0. -/
def Handed (asked : List CooperateEvent) (e : CooperateEvent) : Prop :=
  ∀ c ∈ e.client?, c.pid ≠ 0 → e ∈ asked

/-- Every request has an id of its own, one of those its client has used. -/
structure Numbered (used : Int32 → ℕ) (asked : List CooperateEvent) : Prop where
  client : ∀ e ∈ asked, ∃ pid, ∃ n < used pid, pid ≠ 0 ∧
    e.client? = some ⟨pid, Int32.ofNat n⟩
  distinct : (asked.map CooperateEvent.client?).Nodup

/-- The service waits for requests that have been asked, and answers these. -/
structure Served (asked : List CooperateEvent) (w : Worker mmi) (session : Int32 → List Reply) :
    Prop where
  queue : ∀ e ∈ w.channel.queue, Handed asked e
  machine : (told w.machine).Within (Handed asked)
  session : ∀ pid, ∀ r ∈ session pid, r.client.pid = pid ∧ ∃ e, Handed asked e ∧ Answers e r

/-- The callback in `event` is the one of the request `client`, and has not been called. -/
def Waits (s : Requests mmi) (client : Client) (promise : Promise → Prop)
    (event : CallbackEvent) : Prop :=
  ∀ k, event.msgCb = some k ∨ event.stateCb = some k →
    k ∉ s.calls.map Prod.fst ∧ ∃ e, s.asked[k]? = some e ∧ e.client? = some client ∧
      ∀ q ∈ e.request?, promise q.errCode

/-- The service has accepted the start request that waits for `promise`. -/
def Accepted (s : Requests mmi) (promise : Promise) : Prop :=
  (promise, RET_OK) ∈ s.worker.promises

structure Sound (s : Requests mmi) (used : Int32 → ℕ) : Prop where
  counter : ∀ pid, (s.clients pid).requestId = Int32.ofNat (used pid)
  numbered : Numbered used s.asked
  served : Served s.asked s.worker s.session
  underWay : ∀ pid, ∀ u ∈ (s.clients pid).underWay,
    s.Waits ⟨pid, u.userData⟩ (fun promise => u.promise = some promise) u.event
  kept : ∀ pid userData, ∀ event ∈ (s.clients pid).devCooperateEvent userData,
    s.Waits ⟨pid, userData⟩ s.Accepted event
  once : (s.calls.map Prod.fst).Nodup
  answers : ∀ k r, (k, r) ∈ s.calls →
    ∃ e, s.asked[k]? = some e ∧ Answers e r ∧ ∀ q ∈ e.request?, s.Accepted q.errCode

/-! ### Ids -/

section Ids

variable {used : Int32 → ℕ} {asked : List CooperateEvent} {pid : Int32} {n : ℕ}

theorem generateRequestID_of {c : CooperateCallbacks} (h : c.requestId = Int32.ofNat n)
    (few : n < 2 ^ 31) :
    c.generateRequestID = (Int32.ofNat n, { c with requestId := Int32.ofNat (n + 1) }) := by
  have counts : ¬ Int32.ofNat n < 0 := by
    rw [Int32.lt_iff_toInt_lt, Int32.toInt_ofNat_of_lt few]
    simp
  rw [CooperateCallbacks.generateRequestID, h, if_neg counts, Int32.ofNat_add n 1]
  rfl

theorem ofNat_inj {m : ℕ} (hm : m < 2 ^ 31) (hn : n < 2 ^ 31)
    (h : Int32.ofNat m = Int32.ofNat n) : m = n := by
  have same := congrArg Int32.toInt h
  rw [Int32.toInt_ofNat_of_lt hm, Int32.toInt_ofNat_of_lt hn] at same
  exact_mod_cast same

theorem Numbered.mono (h : Numbered used asked) {used' : Int32 → ℕ}
    (le : ∀ pid, used pid ≤ used' pid) : Numbered used' asked where
  client e he := by
    obtain ⟨pid, n, lt, rest⟩ := h.client e he
    exact ⟨pid, n, lt.trans_le (le pid), rest⟩
  distinct := h.distinct

theorem le_use (used : Int32 → ℕ) (pid pid' : Int32) :
    used pid' ≤ Function.update used pid (used pid + 1) pid' := by
  rcases eq_or_ne pid' pid with rfl | other
  · simp
  · rw [Function.update_of_ne other]

/-- A new request with the next id. -/
theorem Numbered.ask (h : Numbered used asked) (few : used pid < 2 ^ 31) (process : pid ≠ 0)
    {event : CooperateEvent} (client : event.client? = some ⟨pid, Int32.ofNat (used pid)⟩) :
    Numbered (Function.update used pid (used pid + 1)) (asked ++ [event]) where
  client e he := by
    rcases List.mem_append.mp he with old | new
    · exact (h.mono (le_use used pid)).client e old
    · obtain rfl := List.mem_singleton.mp new
      exact ⟨pid, used pid, by simp, process, client⟩
  distinct := by
    rw [List.map_append, List.map_singleton, List.nodup_append]
    refine ⟨h.distinct, List.nodup_singleton _, ?_⟩
    rintro _ old _ new rfl
    obtain ⟨e, he, same⟩ := List.mem_map.mp old
    obtain ⟨pid', n, lt, -, client'⟩ := h.client e he
    rw [List.mem_singleton.mp new, client, client'] at same
    obtain ⟨rfl, id⟩ : pid' = pid ∧ Int32.ofNat n = Int32.ofNat (used pid) := by simpa using same
    exact lt.ne (ofNat_inj (lt.trans few) few id)

/-- Two requests of one client with one id are the same. -/
theorem Numbered.eq (h : Numbered used asked) {e e' : CooperateEvent} (he : e ∈ asked)
    (he' : e' ∈ asked) (same : e.client? = e'.client?) : e = e' :=
  List.inj_on_of_nodup_map h.distinct he he' same

end Ids

/-! ### The service -/

section Service

variable {asked asked' : List CooperateEvent} {w : Worker mmi} {session : Int32 → List Reply}

theorem handed_of_client_none {e : CooperateEvent} (h : e.client? = none) : Handed asked e := by
  intro c hc
  rw [h] at hc
  cases hc

theorem Handed.mono {e : CooperateEvent} (h : Handed asked e) (sub : asked ⊆ asked') :
    Handed asked' e :=
  fun c hc process => sub (h c hc process)

theorem handed_unchain : Handed asked (.stop { isUnchained := true }) := by
  rintro _ ⟨⟩ process
  exact absurd rfl process

theorem within_mono {m : Cooperate} {P Q : CooperateEvent → Prop} (h : (told m).Within P)
    (sub : ∀ e, P e → Q e) : (told m).Within Q where
  start call hc := by
    obtain ⟨e, r, he, rest⟩ := h.start call hc
    exact ⟨e, r, sub e he, rest⟩
  stop call hc := by
    obtain ⟨n, hn, rest⟩ := h.stop call hc
    exact ⟨n, sub _ hn, rest⟩
  replies r hr := by
    obtain ⟨e, he, answers⟩ := h.replies r hr
    exact ⟨e, sub e he, answers⟩

theorem Served.mono (h : Served asked w session) (sub : asked ⊆ asked') :
    Served asked' w session where
  queue e he := (h.queue e he).mono sub
  machine := within_mono h.machine fun _ he => he.mono sub
  session pid r hr := by
    obtain ⟨mine, e, he, answers⟩ := h.session pid r hr
    exact ⟨mine, e, he.mono sub, answers⟩

theorem Served.send (h : Served asked w session) {event : CooperateEvent}
    (new : Handed asked event) : Served asked (w.next arithmetic (.send event)) session where
  queue e he := by
    have sent : (w.channel.send event).2.queue = _ := Utils.Channel.queue_send
    change e ∈ (w.channel.send event).2.queue at he
    rw [sent] at he
    rcases List.mem_append.mp he with old | he
    · exact h.queue e old
    · split at he
      · exact List.mem_singleton.mp he ▸ new
      · cases he
  machine := h.machine
  session := h.session

theorem client_sentBack {env : Env} {event e : CooperateEvent} (h : e ∈ w.sentBack env event) :
    e.client? = none := by
  unfold Worker.sentBack at h
  split at h
  · rcases selfEvents_step h with ⟨deferrable, rfl⟩ | ⟨networkId, rfl⟩
    · cases e <;> first | rfl | cases deferrable
    · rfl
  · cases h

/-- The event of a turn of the loop is handled, for any property of the requests. -/
theorem within_received {P : CooperateEvent → Prop} (machine : (told w.machine).Within P)
    (queue : ∀ e ∈ w.channel.queue, P e) (unchain : P (.stop { isUnchained := true }))
    (env : Env) {event : CooperateEvent} {channel : Utils.Channel CooperateEvent}
    (received : w.received = some (event, channel)) :
    (told (step env event w.machine)).Within P := by
  have waiting : P event := queue event (by
    rw [(Worker.received_spec received).2.1]
    exact List.mem_cons_self)
  exact within_step machine waiting unchain

theorem within_loop {P : CooperateEvent → Prop} (machine : (told w.machine).Within P)
    (queue : ∀ e ∈ w.channel.queue, P e) (unchain : P (.stop { isUnchained := true }))
    (env : Env) : (told (w.next arithmetic (.loop env)).machine).Within P := by
  cases received : w.received with
  | none => simpa [Worker.next, received] using machine
  | some item =>
    obtain ⟨event, channel⟩ := item
    have after : (w.next arithmetic (.loop env)).machine =
        if Worker.IsPassed event then step env event w.machine else w.machine := by
      simp only [Worker.next, received]
      exact (Worker.handle_spec arithmetic env event { w with channel }).2.1
    rw [after]
    split
    · exact within_received machine queue unchain env received
    · exact machine

theorem answers_replies {P : CooperateEvent → Prop} (machine : (told w.machine).Within P)
    (queue : ∀ e ∈ w.channel.queue, P e) (unchain : P (.stop { isUnchained := true }))
    {env : Env} {r : Reply} (h : r ∈ replies env w) : ∃ e, P e ∧ Answers e r := by
  unfold replies at h
  cases received : w.received with
  | none => simp [received] at h
  | some item =>
    obtain ⟨event, channel⟩ := item
    simp only [received] at h
    split at h
    · exact (within_received machine queue unchain env received).replies r h
    · cases h

theorem channel_loop {env : Env} {event : CooperateEvent}
    {channel : Utils.Channel CooperateEvent} (received : w.received = some (event, channel)) :
    (w.next arithmetic (.loop env)).channel = channel.sendAll (w.sentBack env event) := by
  simp only [Worker.next, received]
  exact (Worker.handle_spec arithmetic env event { w with channel }).1

theorem queue_loop {env : Env} {e : CooperateEvent}
    (h : e ∈ (w.next arithmetic (.loop env)).channel.queue) :
    e ∈ w.channel.queue ∨ e.client? = none := by
  cases received : w.received with
  | none => exact .inl (by simpa [Worker.next, received] using h)
  | some item =>
    obtain ⟨event, channel⟩ := item
    rw [channel_loop arithmetic received, Utils.Channel.queue_sendAll] at h
    rcases List.mem_append.mp h with old | back
    · left
      rw [(Worker.received_spec received).2.1]
      exact List.mem_cons_of_mem _ old
    · exact .inr (client_sentBack (Utils.Channel.mem_of_mem_accepted back))

theorem Served.loop (h : Served asked w session) (env : Env) (taken : Reply → Bool) :
    Served asked (w.next arithmetic (.loop env)) fun pid =>
      session pid ++ (replies env w).filter fun r => r.client.pid = pid ∧ taken r where
  queue e he := by
    rcases queue_loop arithmetic he with old | none
    · exact h.queue e old
    · exact handed_of_client_none none
  machine := within_loop arithmetic h.machine h.queue handed_unchain env
  session pid r hr := by
    rcases List.mem_append.mp hr with old | new
    · exact h.session pid r old
    · obtain ⟨sent, mine⟩ := List.mem_filter.mp new
      exact ⟨(of_decide_eq_true mine).1, answers_replies h.machine h.queue handed_unchain sent⟩

/-- Notices that are read or lost. -/
theorem Served.of_subset (h : Served asked w session) {session' : Int32 → List Reply}
    (sub : ∀ pid, session' pid ⊆ session pid) : Served asked w session' where
  queue := h.queue
  machine := h.machine
  session pid r hr := h.session pid r (sub pid hr)

theorem promises_next_subset (l : WorkerLabel) : w.promises ⊆ (w.next arithmetic l).promises := by
  cases l with
  | send event => exact List.Subset.refl _
  | loop env =>
    cases received : w.received with
    | none => simp [Worker.next, received]
    | some item =>
      obtain ⟨event, channel⟩ := item
      simp only [Worker.next, received]
      rw [(Worker.handle_spec arithmetic env event { w with channel }).2.2.2]
      exact List.subset_append_left _ _

end Service

/-! ### The clients -/

section Clients

variable {s s' : Requests mmi} {client : Client} {promise promise' : Promise → Prop}
  {event : CallbackEvent} {used : Int32 → ℕ}

theorem Waits.mono (h : s.Waits client promise event) (asked : s.asked <+: s'.asked)
    (calls : s'.calls = s.calls) (weaken : ∀ p, promise p → promise' p) :
    s'.Waits client promise' event := by
  intro k hk
  obtain ⟨open', e, he, mine, promised⟩ := h k hk
  rw [calls]
  refine ⟨open', e, ?_, mine, fun q hq => weaken _ (promised q hq)⟩
  obtain ⟨lt, rfl⟩ := List.getElem?_eq_some_iff.mp he
  exact List.prefix_iff_getElem?.mp asked k lt

/-- A callback that has been called was the one of another request. -/
theorem Waits.of_calls (h : s.Waits client promise event) {k : ℕ} {r : Reply} {e : CooperateEvent}
    (asked : s'.asked = s.asked) (calls : s'.calls = s.calls ++ [(k, r)])
    (he : s.asked[k]? = some e) (other : e.client? ≠ some client) :
    s'.Waits client promise event := by
  intro k' hk
  obtain ⟨open', e', he', mine, promised⟩ := h k' hk
  rw [calls, asked, List.map_append, List.mem_append, not_or, List.map_singleton,
    List.mem_singleton]
  refine ⟨⟨open', ?_⟩, e', he', mine, promised⟩
  rintro rfl
  rw [he] at he'
  cases he'
  exact other mine

theorem client_event (request : CooperateRequest) (pid userData : Int32) :
    (request.event pid userData).client? = some ⟨pid, userData⟩ := by
  cases request <;> rfl

/-- A request that has just been asked. -/
theorem waits_ask {pid userData : Int32} (request : CooperateRequest) (callback : Bool)
    (asked : s'.asked = s.asked ++ [request.event pid userData])
    (calls : s'.calls = s.calls) (known : ∀ k ∈ s.calls.map Prod.fst, k < s.asked.length) :
    s'.Waits ⟨pid, userData⟩
      (fun promise => (request.event pid userData).request?.map (·.errCode) = some promise)
      (request.callbackEvent (if callback then some s.asked.length else none)) := by
  intro k hk
  obtain rfl : k = s.asked.length := by
    cases request <;> cases callback <;> simp_all [CooperateRequest.callbackEvent]
  rw [calls, asked]
  refine ⟨fun called => (known _ called).ne rfl, _, List.getElem?_concat_length,
    client_event .., ?_⟩
  intro q hq
  rw [Option.mem_def.mp hq]
  rfl

theorem Sound.known (h : s.Sound used) : ∀ k ∈ s.calls.map Prod.fst, k < s.asked.length := by
  intro k hk
  obtain ⟨⟨k, r⟩, called, rfl⟩ := List.mem_map.mp hk
  obtain ⟨e, he, -⟩ := h.answers k r called
  exact (List.getElem?_eq_some_iff.mp he).1

theorem Sound.answers_mono (h : s.Sound used) (asked : s.asked <+: s'.asked)
    (promises : s.worker.promises ⊆ s'.worker.promises) {k : ℕ} {r : Reply}
    (called : (k, r) ∈ s.calls) :
    ∃ e, s'.asked[k]? = some e ∧ Answers e r ∧ ∀ q ∈ e.request?, s'.Accepted q.errCode := by
  obtain ⟨e, he, answers, accepted⟩ := h.answers k r called
  refine ⟨e, ?_, answers, fun q hq => promises (accepted q hq)⟩
  obtain ⟨lt, rfl⟩ := List.getElem?_eq_some_iff.mp he
  exact List.prefix_iff_getElem?.mp asked k lt

theorem Sound.ask (h : s.Sound used) {pid : Int32} (few : used pid < 2 ^ 31) (process : pid ≠ 0)
    (request : CooperateRequest) (callback : Bool) :
    (s.ask arithmetic pid request callback).Sound
      (Function.update used pid (used pid + 1)) := by
  have generated := generateRequestID_of (h.counter pid) few
  have asked : (s.ask arithmetic pid request callback).asked =
      s.asked ++ [request.event pid (Int32.ofNat (used pid))] := by
    simp only [Requests.ask, generated]
  have clients : (s.ask arithmetic pid request callback).clients =
      Function.update s.clients pid
        { s.clients pid with
          requestId := Int32.ofNat (used pid + 1)
          underWay := some
            { userData := Int32.ofNat (used pid)
              event := request.callbackEvent (if callback then some s.asked.length else none)
              promise :=
                (request.event pid (Int32.ofNat (used pid))).request?.map (·.errCode) } } := by
    simp only [Requests.ask, generated]
  have calls : (s.ask arithmetic pid request callback).calls = s.calls := rfl
  have grown : s.asked <+: (s.ask arithmetic pid request callback).asked :=
    asked ▸ List.prefix_append _ _
  have old (client : Client) (promise : Promise → Prop) (event : CallbackEvent)
      (waits : s.Waits client promise event) :
      (s.ask arithmetic pid request callback).Waits client promise event :=
    waits.mono grown calls fun _ => id
  constructor
  case counter =>
    intro pid'
    rw [clients]
    rcases eq_or_ne pid' pid with rfl | other
    · simp
    · simp [other, h.counter pid']
  case numbered =>
    rw [asked]
    exact h.numbered.ask few process (client_event ..)
  case served =>
    have event : (s.ask arithmetic pid request callback).worker = s.worker.next arithmetic
        (.send (request.event pid (Int32.ofNat (used pid)))) := by
      simp only [Requests.ask, generated]
    rw [asked, event]
    apply (h.served.mono (List.subset_append_left _ _)).send
    exact fun _ _ _ => List.mem_append_right _ List.mem_cons_self
  case underWay =>
    intro pid' u hu
    rw [clients] at hu
    rcases eq_or_ne pid' pid with rfl | other
    · rw [Function.update_self] at hu
      cases hu
      exact waits_ask request callback asked calls h.known
    · rw [Function.update_of_ne other] at hu
      exact old _ _ _ (h.underWay pid' u hu)
  case kept =>
    intro pid' userData event hev
    have kept : event ∈ (s.clients pid').devCooperateEvent userData := by
      rw [clients] at hev
      rcases eq_or_ne pid' pid with rfl | other
      · rwa [Function.update_self] at hev
      · rwa [Function.update_of_ne other] at hev
    exact old _ _ _ (h.kept pid' userData event kept)
  case once => exact h.once
  case answers => exact fun k r called => h.answers_mono grown (List.Subset.refl _) called

/-- Steps that neither send a request nor call a callback. -/
theorem Sound.keep (h : s.Sound used) {used' : Int32 → ℕ} (asked : s'.asked = s.asked)
    (calls : s'.calls = s.calls) (served : Served s.asked s'.worker s'.session)
    (promises : s.worker.promises ⊆ s'.worker.promises) (le : ∀ pid, used pid ≤ used' pid)
    (counter : ∀ pid, (s'.clients pid).requestId = Int32.ofNat (used' pid))
    (underWay : ∀ pid, ∀ u ∈ (s'.clients pid).underWay, u ∈ (s.clients pid).underWay)
    (kept : ∀ pid userData, ∀ event ∈ (s'.clients pid).devCooperateEvent userData,
      event ∈ (s.clients pid).devCooperateEvent userData ∨
        ∃ u ∈ (s.clients pid).underWay, u.userData = userData ∧ u.event = event ∧
          ∀ promise, u.promise = some promise → s'.Accepted promise) :
    s'.Sound used' := by
  have same : s.asked <+: s'.asked := asked ▸ List.prefix_rfl
  constructor
  case counter => exact counter
  case numbered => exact asked ▸ h.numbered.mono le
  case served => exact asked ▸ served
  case underWay =>
    intro pid u hu
    exact (h.underWay pid u (underWay pid u hu)).mono same calls fun _ => id
  case kept =>
    intro pid userData event hev
    rcases kept pid userData event hev with old | ⟨u, hu, rfl, rfl, accepted⟩
    · exact (h.kept pid userData event old).mono same calls fun _ hp => promises hp
    · exact (h.underWay pid u hu).mono same calls accepted
  case once => exact calls ▸ h.once
  case answers => exact fun k r called => h.answers_mono same promises (calls ▸ called)

@[simp] theorem clients_setClient_self {pid : Int32} {c : CooperateCallbacks} :
    (s.setClient pid c).clients pid = c :=
  Function.update_self ..

theorem clients_setClient_of_ne {pid pid' : Int32} {c : CooperateCallbacks} (h : pid' ≠ pid) :
    (s.setClient pid c).clients pid' = s.clients pid' :=
  Function.update_of_ne h ..

theorem Sound.useId (h : s.Sound used) {pid : Int32} (few : used pid < 2 ^ 31) :
    (s.setClient pid (s.clients pid).generateRequestID.2).Sound
      (Function.update used pid (used pid + 1)) := by
  rw [generateRequestID_of (h.counter pid) few]
  refine h.keep rfl rfl h.served (List.Subset.refl _) (le_use used pid) ?_ ?_ ?_
  · intro pid'
    rcases eq_or_ne pid' pid with rfl | other
    · simp
    · rw [clients_setClient_of_ne other, Function.update_of_ne other]
      exact h.counter pid'
  · intro pid' u hu
    rcases eq_or_ne pid' pid with rfl | other
    · rwa [clients_setClient_self] at hu
    · rwa [clients_setClient_of_ne other] at hu
  · intro pid' userData event hev
    rcases eq_or_ne pid' pid with rfl | other
    · rw [clients_setClient_self] at hev
      exact .inl hev
    · rw [clients_setClient_of_ne other] at hev
      exact .inl hev

theorem mem_finish {c : CooperateCallbacks} {u : UnderWay} {ret userData : Int32}
    (h : event ∈ (c.finish ret u).devCooperateEvent userData) :
    event ∈ c.devCooperateEvent userData ∨
      ret = RET_OK ∧ u.userData = userData ∧ u.event = event := by
  unfold CooperateCallbacks.finish at h
  split at h
  · exact .inl h
  case isFalse ok =>
    change event ∈ Function.update c.devCooperateEvent u.userData (some u.event) userData at h
    rcases eq_or_ne userData u.userData with rfl | other
    · rw [Function.update_self] at h
      exact .inr ⟨not_not.mp ok, rfl, Option.some_inj.mp h⟩
    · rw [Function.update_of_ne other] at h
      exact .inl h

theorem mem_of_lookup {promises : List (Promise × Int32)} {p : Promise} {value : Int32}
    (h : promises.lookup p = some value) : (p, value) ∈ promises := by
  obtain ⟨before, after, rfl, -⟩ := List.lookup_eq_some_iff.mp h
  exact List.mem_append_right _ List.mem_cons_self

theorem Sound.finish (h : s.Sound used) {pid ret : Int32} {u : UnderWay}
    (hu : (s.clients pid).underWay = some u) (hr : s.ret u = some ret) :
    (s.setClient pid ((s.clients pid).finish ret u)).Sound used := by
  have rest : ((s.clients pid).finish ret u).requestId = (s.clients pid).requestId ∧
      ((s.clients pid).finish ret u).underWay = none := by
    unfold CooperateCallbacks.finish
    split <;> exact ⟨rfl, rfl⟩
  refine h.keep rfl rfl h.served (List.Subset.refl _) (fun _ => le_rfl) ?_ ?_ ?_
  · intro pid'
    rcases eq_or_ne pid' pid with rfl | other
    · rw [clients_setClient_self, rest.1]
      exact h.counter pid'
    · rw [clients_setClient_of_ne other]
      exact h.counter pid'
  · intro pid' u' hu'
    rcases eq_or_ne pid' pid with rfl | other
    · rw [clients_setClient_self, rest.2] at hu'
      cases hu'
    · rwa [clients_setClient_of_ne other] at hu'
  · intro pid' userData event hev
    rcases eq_or_ne pid' pid with rfl | other
    · rw [clients_setClient_self] at hev
      rcases mem_finish hev with old | ⟨rfl, rfl, rfl⟩
      · exact .inl old
      · refine .inr ⟨u, hu, rfl, rfl, fun promise waits => ?_⟩
        rw [Requests.ret, waits] at hr
        exact mem_of_lookup hr
    · rw [clients_setClient_of_ne other] at hev
      exact .inl hev

theorem mem_of_callback {c : CooperateCallbacks} {r : Reply} {k : ℕ} (h : c.callback r = some k) :
    ∃ event ∈ c.devCooperateEvent r.client.userData,
      event.msgCb = some k ∨ event.stateCb = some k := by
  obtain ⟨event, kept, hk⟩ := Option.bind_eq_some_iff.mp h
  cases r with
  | message n => exact ⟨event, kept, .inl hk⟩
  | state n => exact ⟨event, kept, .inr hk⟩

/-- A notice for which there is no callback. -/
theorem read_of_none {pid : Int32} {r : Reply} {rest : List Reply} (hs : s.session pid = r :: rest)
    (h : (s.clients pid).callback r = none) :
    s.read pid = { s with session := Function.update s.session pid rest } := by
  simp [Requests.read, hs, h, CooperateCallbacks.onReply]

theorem read_of_some {pid : Int32} {r : Reply} {rest : List Reply} {k : ℕ}
    (hs : s.session pid = r :: rest) (h : (s.clients pid).callback r = some k) :
    s.read pid =
      { s with
        clients := Function.update s.clients pid
          { s.clients pid with
            devCooperateEvent :=
              Function.update (s.clients pid).devCooperateEvent r.client.userData none }
        session := Function.update s.session pid rest
        calls := s.calls ++ [(k, r)] } := by
  simp [Requests.read, hs, h, CooperateCallbacks.onReply]

/-- Reading takes away callbacks only, among them the one for the notice that is read. -/
theorem clients_read {pid : Int32} {r : Reply} {rest : List Reply} {k : ℕ}
    (hs : s.session pid = r :: rest) (h : (s.clients pid).callback r = some k)
    (mine : r.client.pid = pid) (pid' : Int32) :
    ((s.read pid).clients pid').requestId = (s.clients pid').requestId ∧
      ((s.read pid).clients pid').underWay = (s.clients pid').underWay ∧
      ∀ userData, ∀ event ∈ ((s.read pid).clients pid').devCooperateEvent userData,
        event ∈ (s.clients pid').devCooperateEvent userData ∧ ⟨pid', userData⟩ ≠ r.client := by
  rw [read_of_some hs h]
  rcases eq_or_ne pid' pid with rfl | other
  · simp only [Function.update_self, true_and]
    intro userData event hev
    rcases eq_or_ne userData r.client.userData with rfl | different
    · rw [Function.update_self] at hev
      cases hev
    · rw [Function.update_of_ne different] at hev
      exact ⟨hev, fun same => different (congrArg Client.userData same)⟩
  · simp only [Function.update_of_ne other, true_and]
    intro userData event hev
    exact ⟨hev, fun same => other ((congrArg Client.pid same).trans mine)⟩

theorem Served.read (h : Served s.asked s.worker s.session) {pid : Int32} {r : Reply}
    {rest : List Reply} (hs : s.session pid = r :: rest) :
    Served s.asked s.worker (Function.update s.session pid rest) := by
  apply h.of_subset
  intro pid'
  rcases eq_or_ne pid' pid with rfl | other
  · rw [Function.update_self, hs]
    exact List.subset_cons_self r rest
  · rw [Function.update_of_ne other]
    exact List.Subset.refl _

/-- What a client reads answers the request whose callback it keeps for it. -/
theorem Sound.request_of_callback (h : s.Sound used) {pid : Int32} {r : Reply} {k : ℕ}
    (hr : r ∈ s.session pid) (hk : (s.clients pid).callback r = some k) :
    k ∉ s.calls.map Prod.fst ∧ ∃ e, s.asked[k]? = some e ∧ Answers e r ∧
      ∀ q ∈ e.request?, s.Accepted q.errCode := by
  obtain ⟨event, kept, callback⟩ := mem_of_callback hk
  obtain ⟨open', e, he, client, accepted⟩ := h.kept pid _ event kept k callback
  obtain ⟨mine, e', handed, answers⟩ := h.served.session pid r hr
  have asked : e ∈ s.asked := List.mem_of_getElem? he
  obtain ⟨pid', n, -, process, numbered⟩ := h.numbered.client e asked
  have same : pid = pid' := by
    rw [client] at numbered
    simpa using congrArg (Option.map Client.pid) numbered
  have asked' : e' ∈ s.asked :=
    handed _ answers.client (by rwa [mine, same])
  obtain rfl : e' = e := by
    apply h.numbered.eq asked' asked
    rw [client, answers.client, ← mine]
  exact ⟨open', e', he, answers, accepted⟩

theorem Sound.read (h : s.Sound used) {pid : Int32} (free : (s.clients pid).underWay = none) :
    (s.read pid).Sound used := by
  cases hs : s.session pid with
  | nil =>
    have same : s.read pid = s := by rw [Requests.read, hs]
    rwa [same]
  | cons r rest =>
    cases hk : (s.clients pid).callback r with
    | none =>
      rw [read_of_none hs hk]
      exact h.keep rfl rfl (Served.read h.served hs) (List.Subset.refl _) (fun _ => le_rfl)
        h.counter (fun _ _ => id) fun _ _ _ => .inl
    | some k =>
      obtain ⟨fresh, e, he, answers, accepted⟩ :=
        h.request_of_callback (hs ▸ List.mem_cons_self) hk
      have mine : r.client.pid = pid := (h.served.session pid r (hs ▸ List.mem_cons_self)).1
      have clients := clients_read hs hk mine
      have asked : (s.read pid).asked = s.asked := by rw [read_of_some hs hk]
      have calls : (s.read pid).calls = s.calls ++ [(k, r)] := by rw [read_of_some hs hk]
      have worker : (s.read pid).worker = s.worker := by rw [read_of_some hs hk]
      have accepts : (s.read pid).Accepted = s.Accepted := by
        funext promise
        simp only [Accepted, worker]
      constructor
      case counter => exact fun pid' => (clients pid').1.trans (h.counter pid')
      case numbered => exact asked ▸ h.numbered
      case served =>
        rw [asked, worker, read_of_some hs hk]
        exact Served.read h.served hs
      case underWay =>
        intro pid' u hu
        rw [(clients pid').2.1] at hu
        apply (h.underWay pid' u hu).of_calls asked calls he
        rw [answers.client, Ne, Option.some_inj]
        intro same
        obtain rfl : pid = pid' := mine.symm.trans (congrArg Client.pid same)
        rw [free] at hu
        cases hu
      case kept =>
        intro pid' userData event hev
        obtain ⟨kept, different⟩ := (clients pid').2.2 userData event hev
        have waits := (h.kept pid' userData event kept).of_calls asked calls he
          (by rwa [answers.client, Ne, Option.some_inj, eq_comm])
        rwa [accepts]
      case once =>
        rw [calls, List.map_append, List.nodup_append]
        refine ⟨h.once, List.nodup_singleton k, ?_⟩
        rintro k' old _ new rfl
        rw [List.mem_singleton.mp new] at old
        exact fresh old
      case answers =>
        intro k' r' called
        rw [calls] at called
        rw [asked]
        rcases List.mem_append.mp called with old | new
        · obtain ⟨e', he', answers', accepted'⟩ := h.answers k' r' old
          exact ⟨e', he', answers', by rwa [accepts]⟩
        · cases List.mem_singleton.mp new
          exact ⟨e, he, answers, by rwa [accepts]⟩

/-- Whatever happens, only requests that have been asked are answered. -/
theorem Served.next (h : Served s.asked s.worker s.session) {l : RequestsLabel}
    (possible : l.Possible) :
    Served (Requests.next arithmetic l s).asked (Requests.next arithmetic l s).worker
      (Requests.next arithmetic l s).session := by
  cases l with
  | ask pid request callback =>
    simp only [Requests.next]
    split
    · exact h
    · apply (h.mono (List.subset_append_left _ _)).send arithmetic
      exact fun _ _ _ => List.mem_append_right _ List.mem_cons_self
  | useId pid => exact h
  | finish pid =>
    simp only [Requests.next]
    split
    · exact h
    · split <;> exact h
  | post event => exact h.send arithmetic fun c hc process => absurd (possible c hc) process
  | loop env taken => exact h.loop arithmetic env taken
  | read pid =>
    simp only [Requests.next]
    split
    · exact h
    · cases hs : s.session pid with
      | nil => simpa only [Requests.read, hs] using h
      | cons r rest => simpa only [Requests.read, hs] using Served.read h hs
  | close pid =>
    apply h.of_subset
    intro pid'
    rcases eq_or_ne pid' pid with rfl | other
    · simp [Requests.next]
    · simp [Requests.next, Function.update_of_ne other]

end Clients

/-! ### Runs -/

section Runs

variable {s : Requests mmi} {used : Int32 → ℕ} {l : RequestsLabel}

theorem Sound.next (h : s.Sound used) (possible : l.Possible)
    (few : ∀ pid, l.uses pid → used pid < 2 ^ 31) :
    ∃ used', (∀ pid, used' pid ≤ used pid + if l.uses pid then 1 else 0) ∧
      (Requests.next arithmetic l s).Sound used' := by
  have one (pid pid' : Int32) : Function.update used pid (used pid + 1) pid' ≤
      used pid' + if pid = pid' then 1 else 0 := by
    rcases eq_or_ne pid' pid with rfl | other
    · simp
    · simp [Function.update_of_ne other]
  have none : ∀ pid, used pid ≤ used pid + if l.uses pid then 1 else 0 :=
    fun _ => Nat.le_add_right _ _
  cases l with
  | ask pid request callback =>
    simp only [Requests.next]
    split
    · exact ⟨used, none, h⟩
    · exact ⟨_, by simpa [RequestsLabel.uses] using one pid,
        h.ask arithmetic (few pid (by simp [RequestsLabel.uses])) possible request callback⟩
  | useId pid =>
    exact ⟨_, by simpa [RequestsLabel.uses] using one pid,
      h.useId (few pid (by simp [RequestsLabel.uses]))⟩
  | finish pid =>
    refine ⟨used, none, ?_⟩
    simp only [Requests.next]
    split
    · exact h
    · split
      · exact h
      · exact h.finish ‹_› ‹_›
  | post event =>
    exact ⟨used, none, h.keep rfl rfl (h.served.next arithmetic possible) (List.Subset.refl _)
      (fun _ => le_rfl) h.counter (fun _ _ => id) fun _ _ _ => .inl⟩
  | loop env taken =>
    exact ⟨used, none, h.keep rfl rfl (h.served.next arithmetic possible)
      (promises_next_subset arithmetic (.loop env)) (fun _ => le_rfl) h.counter (fun _ _ => id)
      fun _ _ _ => .inl⟩
  | read pid =>
    refine ⟨used, none, ?_⟩
    simp only [Requests.next]
    split
    · exact h
    · exact h.read ‹_›
  | close pid =>
    exact ⟨used, none, h.keep rfl rfl (h.served.next arithmetic possible) (List.Subset.refl _)
      (fun _ => le_rfl) h.counter (fun _ _ => id) fun _ _ _ => .inl⟩

theorem sound_start (settings : InputSettings) : (start mmi settings).Sound fun _ => 0 where
  counter _ := rfl
  numbered := ⟨by simp [start], by simp [start]⟩
  served :=
    { queue := by simp [start, Worker.start, Utils.Channel.enable]
      machine := ⟨by simp [start, Worker.start, told, fresh],
        by simp [start, Worker.start, told, fresh], by simp [start, Worker.start, told, fresh]⟩
      session := by simp [start] }
  underWay := by simp [start]
  kept := by simp [start]
  once := by simp [start]
  answers := by simp [start]

theorem Sound.runFrom (h : s.Sound used) {tr : List RequestsLabel}
    (possible : ∀ l ∈ tr, l.Possible)
    (few : ∀ pid, used pid + tr.countP (·.uses pid) ≤ 2 ^ 31) :
    ∃ used', (runFrom (Requests.next arithmetic) s tr).Sound used' := by
  induction tr generalizing s used with
  | nil => exact ⟨used, h⟩
  | cons l tr ih =>
    obtain ⟨here, later⟩ := List.forall_mem_cons.mp possible
    obtain ⟨used', le, sound⟩ := h.next arithmetic here fun pid uses => by
      have count := few pid
      rw [List.countP_cons_of_pos uses] at count
      omega
    refine ih sound later fun pid => ?_
    have count := few pid
    rw [List.countP_cons] at count
    have := le pid
    omega

/-- A callback is called at most once, with an answer to its own request; that of a start request
only after the service has accepted the request. -/
theorem callbacks_answer (settings : InputSettings) {tr : List RequestsLabel}
    (possible : ∀ l ∈ tr, l.Possible) (few : ∀ pid, tr.countP (·.uses pid) ≤ 2 ^ 31) :
    let s := Transition.System.runFrom (Requests.next arithmetic) (start mmi settings) tr
    (s.calls.map Prod.fst).Nodup ∧
      ∀ k r, (k, r) ∈ s.calls → ∃ e, s.asked[k]? = some e ∧ Answers e r ∧
        ∀ q ∈ e.request?, s.Accepted q.errCode := by
  obtain ⟨used, sound⟩ := (sound_start settings).runFrom arithmetic possible (by simpa using few)
  exact ⟨sound.once, sound.answers⟩

/-- Process 7 switches cooperation on, and reads the answer. -/
def oneEnable : List RequestsLabel :=
  [.ask 7 (.enable 1) true, .loop (calm [1]) (fun _ => true), .finish 7, .read 7]

theorem possible_oneEnable : ∀ l ∈ oneEnable, l.Possible := by
  simp [oneEnable, RequestsLabel.Possible]

theorem few_oneEnable (pid : Int32) : oneEnable.countP (·.uses pid) ≤ 2 ^ 31 :=
  List.countP_le_length.trans (by decide)

/-- What the process is told. -/
def prepared : Reply :=
  .message { pid := 7, msgId := .coordinationMessage, userData := 0, msg := .prepare }

theorem callbacks_answer_oneEnable :
    ((runFrom (Requests.next .atRest) (start .sample {}) oneEnable).calls.map Prod.fst).Nodup ∧
      ∃ e, (runFrom (Requests.next .atRest) (start .sample {}) oneEnable).asked[0]? = some e ∧
        Answers e prepared := by
  obtain ⟨once, answers⟩ := callbacks_answer .atRest {} possible_oneEnable few_oneEnable
  have called : (0, prepared) ∈
      (runFrom (Requests.next .atRest) (start .sample {}) oneEnable).calls := .head _
  obtain ⟨e, he, answer, -⟩ := answers 0 prepared called
  exact ⟨once, e, he, answer⟩

end Runs

end Requests

end DeviceStatus.Client
