import DeviceStatus.Client.Callbacks
import DeviceStatus.Client.NoticeStream

/-!
# Requests whose notices are bytes

The service and its clients with the bytes of the sockets in place of the notices. Every run in
which the clients keep up with what they are sent is a run of `Requests`, where notices are read as
a whole. So what holds of the callbacks there holds here.

## Main definitions

* `ByteRequests`, `ByteRequests.next` — the service and its clients, one step of any of them.
* `ByteRequests.Smooth` — no byte is lost in a step.
* `ByteRequests.Refines` — the `Requests` that a `ByteRequests` stands for.
-/

namespace DeviceStatus.Client

open Cooperation Transition.System
open InputEvents (MmiConstants DoubleArithmetic)
open Ipc (NetPacket SendAnswer SendingSession)

deriving instance DecidableEq for CooperateStateNotice, Reply

structure ByteRequests (mmi : MmiConstants) where
  worker : Worker mmi
  clients : Int32 → CooperateCallbacks := fun _ => {}
  /-- the socket of a client -/
  stream : Int32 → NoticeStream := fun _ => {}
  asked : List CooperateEvent := []
  calls : List (ℕ × Reply) := []

inductive ByteRequestsLabel where
  | ask (pid : Int32) (request : CooperateRequest) (callback : Bool)
  | useId (pid : Int32)
  | finish (pid : Int32)
  | post (event : CooperateEvent)
  /-- a turn of the cooperation thread, with the answers to the sends of a notice, unless its client
  has no session -/
  | loop (env : Env) (answers : Reply → Option (ℕ → SendAnswer))
  /-- another module sends a packet to the client -/
  | send (pid : Int32) (pkt : NetPacket) (answers : ℕ → SendAnswer)
  /-- a `recv` of the client, when `n` bytes have come -/
  | recv (pid : Int32) (n : ℕ)
  /-- the client handles the next of the packets that it has received -/
  | handle (pid : Int32)
  | close (pid : Int32)

/-- The step takes an id of the client. -/
def ByteRequestsLabel.uses (pid : Int32) : ByteRequestsLabel → Bool
  | ask pid' .. | useId pid' => pid' = pid
  | _ => false

namespace ByteRequests

variable {mmi : MmiConstants} (arithmetic : DoubleArithmetic)

def start (mmi : MmiConstants) (settings : InputSettings) : ByteRequests mmi :=
  { worker := Worker.start mmi settings }

/-- The same with some notices in the sessions instead of the sockets. -/
def noticed (session : Int32 → List Reply) (b : ByteRequests mmi) : Requests mmi :=
  { worker := b.worker, clients := b.clients, session, asked := b.asked, calls := b.calls }

/-- A step that does not touch the sockets. -/
def apart (l : RequestsLabel) (b : ByteRequests mmi) : ByteRequests mmi :=
  let s := Requests.next arithmetic l (b.noticed fun _ => [])
  { b with worker := s.worker, clients := s.clients, asked := s.asked, calls := s.calls }

def setStream (pid : Int32) (stream : NoticeStream) (b : ByteRequests mmi) : ByteRequests mmi :=
  { b with stream := Function.update b.stream pid stream }

/-- The bytes of a notice that its session takes. -/
def taken (answers : Reply → Option (ℕ → SendAnswer)) (r : Reply) : List UInt8 :=
  match answers r with
  | none => []
  | some answers => r.bytes answers

/-- `OnMsgHandler` for the first packet that has arrived, unless its callback has to wait for the
lock. -/
def handle (pid : Int32) (b : ByteRequests mmi) : ByteRequests mmi :=
  match (b.stream pid).arrived with
  | [] => b
  | pkt :: arrived =>
    let handled := b.setStream pid { b.stream pid with arrived }
    match noticeOf pid pkt with
    | none => handled
    | some r =>
      match (b.clients pid).underWay with
      | some _ => b
      | none =>
        { handled with
          clients := Function.update b.clients pid ((b.clients pid).onReply r)
          calls := b.calls ++ (((b.clients pid).callback r).map fun k => (k, r)).toList }

def next (l : ByteRequestsLabel) (b : ByteRequests mmi) : ByteRequests mmi :=
  match l with
  | .ask pid request callback => b.apart arithmetic (.ask pid request callback)
  | .useId pid => b.apart arithmetic (.useId pid)
  | .finish pid => b.apart arithmetic (.finish pid)
  | .post event => b.apart arithmetic (.post event)
  | .loop env answers =>
    let sent := Requests.replies env b.worker
    { b with
      worker := b.worker.next arithmetic (.loop env)
      stream := fun pid =>
        (b.stream pid).push ((sent.filter (·.client.pid = pid)).flatMap (taken answers)) }
  | .send pid pkt answers =>
    b.setStream pid ((b.stream pid).push (SendingSession.sendMsg pkt answers {}).2)
  | .recv pid n => b.setStream pid ((b.stream pid).recv n)
  | .handle pid => b.handle pid
  | .close pid => b.setStream pid {}

/-- A session takes all of a packet or nothing. -/
def Whole (p : Ipc.Packet) (bytes : List UInt8) : Prop := bytes ≠ [] → bytes = p.encode

/-- Nothing is lost in the step, and nothing is asked that a packet cannot bear. No process has the
pid 0. -/
def Smooth (l : ByteRequestsLabel) (b : ByteRequests mmi) : Prop :=
  match l with
  | .ask pid request _ => pid ≠ 0 ∧ ∀ userData, (request.event pid userData).Carries Plain
  | .post event => ∀ c ∈ event.client?, c.pid = 0
  | .loop env answers => ∀ r ∈ Requests.replies env b.worker,
      Whole r.packet.content (taken answers r) ∧ (taken answers r ≠ [] → r.client.pid ≠ 0)
  | .send _ pkt answers =>
    pkt.msgId ≠ MessageId.coordinationMessage.toInt32 ∧
      pkt.msgId ≠ MessageId.coordinationGetState.toInt32 ∧
      Whole pkt.content (SendingSession.sendMsg pkt answers {}).2
  | .recv pid n => (b.stream pid).KeepsUp n
  | _ => True

/-- What the service and the client do for the requests of `pid`: as in `Requests.Attended`, where
the socket takes the answers. -/
def Attended (pid : Int32) (l : ByteRequestsLabel) (b : ByteRequests mmi) : Prop :=
  match l with
  | .ask pid' _ callback => pid' = pid → b.worker.channel.Accepts ∧ callback = true
  | .loop env answers =>
    (∀ r ∈ Requests.replies env b.worker, r.client.pid = pid → taken answers r ≠ []) ∧
      ∀ n channel, b.worker.received = some (.stop n, channel) → Prompt b.worker.machine (.stop n)
  | .close pid' => pid' ≠ pid
  | _ => True

/-- The notices that the sessions take in a turn of the cooperation thread. -/
def shown (env : Env) (answers : Reply → Option (ℕ → SendAnswer)) (b : ByteRequests mmi)
    (r : Reply) : Bool :=
  decide (r ∈ Requests.replies env b.worker → taken answers r ≠ [])

/-- What a step is among notices. -/
def view (l : ByteRequestsLabel) (b : ByteRequests mmi) : Option RequestsLabel :=
  match l with
  | .ask pid request callback => some (.ask pid request callback)
  | .useId pid => some (.useId pid)
  | .finish pid => some (.finish pid)
  | .post event => some (.post event)
  | .loop env answers => some (.loop env (shown env answers b))
  | .handle pid => ((b.stream pid).arrived.head?.bind (noticeOf pid)).map fun _ => .read pid
  | .close pid => some (.close pid)
  | .send .. | .recv .. => none

structure Refines (b : ByteRequests mmi) (session : Int32 → List Reply) : Prop where
  stream : ∀ pid, (b.stream pid).Carries pid (session pid)
  served : Requests.Served b.asked b.worker session
  plain : ∀ e ∈ b.asked, e.Carries Plain

/-! ## Steps -/

section Steps

variable {b : ByteRequests mmi} {session : Int32 → List Reply}

/-- A step that leaves the sessions alone is the same with sockets. -/
theorem Refines.apart (h : b.Refines session) {l : RequestsLabel} (possible : l.Possible)
    (same : Requests.next arithmetic l (b.noticed session) = (b.apart arithmetic l).noticed session)
    (plain : ∀ e ∈ (b.apart arithmetic l).asked, e ∈ b.asked ∨ e.Carries Plain) :
    (b.apart arithmetic l).Refines session where
  stream := h.stream
  served := by
    have served := Requests.Served.next (s := b.noticed session) arithmetic h.served possible
    rwa [same] at served
  plain e he := (plain e he).elim (h.plain e) id

theorem noticed_ask (pid : Int32) (request : CooperateRequest) (callback : Bool) :
    Requests.next arithmetic (.ask pid request callback) (b.noticed session) =
      (b.apart arithmetic (.ask pid request callback)).noticed session := by
  simp only [Requests.next, ByteRequests.apart, noticed]
  split <;> rfl

theorem noticed_finish (pid : Int32) :
    Requests.next arithmetic (.finish pid) (b.noticed session) =
      (b.apart arithmetic (.finish pid)).noticed session := by
  simp only [Requests.next, ByteRequests.apart, noticed]
  split
  · rfl
  · simp only [Requests.ret]
    split <;> rfl

theorem noticed_loop (env : Env) (answers : Reply → Option (ℕ → SendAnswer))
    (taken : Reply → Bool) :
    Requests.next arithmetic (.loop env taken) (b.noticed session) =
      (next arithmetic (.loop env answers) b).noticed fun pid =>
        session pid ++ (Requests.replies env b.worker).filter fun r =>
          r.client.pid = pid ∧ taken r := by
  simp only [Requests.next, next, noticed]

theorem noticed_close (pid : Int32) :
    Requests.next arithmetic (.close pid) (b.noticed session) =
      (next arithmetic (.close pid) b).noticed (Function.update session pid []) := by
  simp only [Requests.next, next, noticed, ByteRequests.setStream]

theorem asked_finish (pid : Int32) : (b.apart arithmetic (.finish pid)).asked = b.asked := by
  simp only [ByteRequests.apart, Requests.next]
  split
  · rfl
  · split <;> rfl

theorem Refines.ask (h : b.Refines session) {pid : Int32} (process : pid ≠ 0)
    {request : CooperateRequest} {callback : Bool}
    (plain : ∀ userData, (request.event pid userData).Carries Plain) :
    (b.apart arithmetic (.ask pid request callback)).Refines session := by
  apply h.apart arithmetic (l := .ask pid request callback) process (noticed_ask ..)
  intro e he
  simp only [ByteRequests.apart, Requests.next] at he
  split at he
  · exact .inl he
  · rcases List.mem_append.mp he with old | new
    · exact .inl old
    · exact .inr (List.mem_singleton.mp new ▸ plain _)

/-- Notices that a session takes can be read. -/
theorem Refines.readable (h : b.Refines session) {env : Env} {r : Reply}
    (hr : r ∈ Requests.replies env b.worker) (process : r.client.pid ≠ 0) : r.Readable := by
  obtain ⟨e, handed, answers⟩ := Requests.answers_replies h.served.machine h.served.queue
    Requests.handed_unchain hr
  exact answers.readable (h.plain e (handed _ answers.client process))

theorem Refines.loop (h : b.Refines session) {env : Env}
    {answers : Reply → Option (ℕ → SendAnswer)} (ok : b.Smooth (.loop env answers)) :
    (next arithmetic (.loop env answers) b).Refines fun pid =>
      session pid ++ (Requests.replies env b.worker).filter fun r =>
        r.client.pid = pid ∧ shown env answers b r where
  stream pid := by
    have whole : ∀ r ∈ (Requests.replies env b.worker).filter (·.client.pid = pid),
        taken answers r ≠ [] → taken answers r = r.packet.content.encode ∧
          Ipc.packetFormat.valid r.packet.content ∧
          noticeOf pid r.packet.content.received = some r := by
      intro r hr some
      obtain ⟨hr, mine⟩ := List.mem_filter.mp hr
      obtain ⟨whole, process⟩ := ok r hr
      have bytes : ∃ answers, r.bytes answers ≠ [] := by
        unfold taken at some
        split at some
        · exact absurd rfl some
        · exact ⟨_, some⟩
      obtain ⟨_, bytes⟩ := bytes
      refine ⟨whole some, (Reply.sends_of_bytes bytes).2, ?_⟩
      rw [← of_decide_eq_true mine]
      exact noticeOf_received (h.readable hr (process some)) bytes
    have sent := (h.stream pid).notices whole
    have same : ((Requests.replies env b.worker).filter (·.client.pid = pid)).filter
          (fun r => taken answers r ≠ []) =
        (Requests.replies env b.worker).filter fun r =>
          r.client.pid = pid ∧ shown env answers b r := by
      rw [List.filter_filter]
      apply List.filter_congr
      intro r hr
      simp [shown, hr, and_comm]
    rwa [same] at sent
  served := h.served.loop arithmetic env (shown env answers b)
  plain := h.plain

/-- A client has read some of what was under way, or nothing. -/
theorem Refines.setStream (h : b.Refines session) {pid : Int32} {stream : NoticeStream}
    {replies : List Reply} (carries : stream.Carries pid replies) (sub : replies ⊆ session pid) :
    (b.setStream pid stream).Refines (Function.update session pid replies) where
  stream pid' := by
    rcases eq_or_ne pid' pid with rfl | other
    · simpa [ByteRequests.setStream] using carries
    · simpa [ByteRequests.setStream, Function.update_of_ne other] using h.stream pid'
  served := by
    apply h.served.of_subset
    intro pid'
    rcases eq_or_ne pid' pid with rfl | other
    · simpa using sub
    · rw [Function.update_of_ne other]
      exact List.Subset.refl _
  plain := h.plain

theorem Refines.transport (h : b.Refines session) {pid : Int32} {stream : NoticeStream}
    (carries : stream.Carries pid (session pid)) : (b.setStream pid stream).Refines session := by
  simpa using h.setStream carries (List.Subset.refl _)

theorem Refines.send (h : b.Refines session) {pid : Int32} {pkt : NetPacket}
    {answers : ℕ → SendAnswer} (ok : b.Smooth (.send pid pkt answers)) :
    (next arithmetic (.send pid pkt answers) b).Refines session := by
  obtain ⟨notMessage, notState, whole⟩ := ok
  apply h.transport
  by_cases silent : (SendingSession.sendMsg pkt answers {}).2 = []
  · simpa [silent, NoticeStream.push] using h.stream pid
  · have valid := SendingSession.valid_of_sendMsg silent
    have other : noticeOf pid pkt.content.received = none := by
      have id : pkt.content.received.msgId = pkt.msgId :=
        congrArg Ipc.Packet.msgId (Ipc.Packet.content_received valid)
      rw [noticeOf, id, if_neg notMessage, if_neg notState]
    have sent := (h.stream pid).packet valid
    rw [other, Option.toList_none, List.append_nil] at sent
    rwa [whole silent]

/-- The notice that is handled is the first of the session. -/
theorem handle_cases (h : b.Refines session) (pid : Int32) :
    (view (.handle pid) b = none ∧ (b.handle pid).noticed session = b.noticed session ∧
        (b.handle pid).Refines session) ∨
      view (.handle pid) b = some (.read pid) ∧ ∃ session',
        Requests.next arithmetic (.read pid) (b.noticed session) = (b.handle pid).noticed session' ∧
          (b.handle pid).Refines session' := by
  obtain ⟨ps, link, valid, replies⟩ := h.stream pid
  cases waits : (b.stream pid).arrived with
  | nil =>
    have same : b.handle pid = b := by simp [handle, waits]
    exact .inl ⟨by simp [view, waits], by rw [same], by rwa [same]⟩
  | cons pkt arrived =>
    rw [waits, List.cons_append] at replies
    cases found : noticeOf pid pkt with
    | none =>
      have after : b.handle pid = b.setStream pid { b.stream pid with arrived } := by
        simp [handle, waits, found]
      rw [List.filterMap_cons_none found] at replies
      refine .inl ⟨by simp [view, waits, found], by rw [after]; rfl, ?_⟩
      rw [after]
      exact h.transport ⟨ps, link, valid, replies⟩
    | some r =>
      rw [List.filterMap_cons_some found] at replies
      refine .inr ⟨by simp [view, waits, found], ?_⟩
      cases locked : (b.clients pid).underWay with
      | some u =>
        have same : b.handle pid = b := by simp [handle, waits, found, locked]
        exact ⟨session, by simp [Requests.next, noticed, locked, same], by rwa [same]⟩
      | none =>
        have after : b.handle pid =
            { b.setStream pid { b.stream pid with arrived } with
              clients := Function.update b.clients pid ((b.clients pid).onReply r)
              calls := b.calls ++ (((b.clients pid).callback r).map fun k => (k, r)).toList } := by
          simp [handle, waits, found, locked]
        have left : NoticeStream.Carries pid
            ((arrived ++ ps.map Ipc.Packet.received).filterMap (noticeOf pid))
            { b.stream pid with arrived } := ⟨ps, link, valid, rfl⟩
        have read := h.setStream left (replies ▸ List.subset_cons_self ..)
        rw [after]
        refine ⟨_, ?_, read.stream, read.served, read.plain⟩
        have free : ((b.noticed session).clients pid).underWay = none := locked
        simp only [Requests.next, free]
        simp [Requests.read, noticed, ← replies, ByteRequests.setStream]

/-- The `Requests` that `b` stands for. -/
def Stands (b : ByteRequests mmi) (s : Requests mmi) : Prop :=
  ∃ session, s = b.noticed session ∧ b.Refines session

/-- `l'` is a step in which the requests are looked after as in `l`. -/
structure Shows (b : ByteRequests mmi) (s : Requests mmi) (l : ByteRequestsLabel)
    (l' : RequestsLabel) : Prop where
  possible : l'.Possible
  attended : ∀ pid, b.Attended pid l → s.Attended pid l'

theorem shows_of_view {l : ByteRequestsLabel} (ok : b.Smooth l) {l' : RequestsLabel}
    (shows : view l b = some l') : b.Shows (b.noticed session) l l' := by
  cases l with
  | ask pid request callback =>
    cases shows
    exact ⟨ok.1, fun _ => id⟩
  | post event =>
    cases shows
    exact ⟨ok, fun _ => id⟩
  | loop env answers =>
    cases shows
    refine ⟨trivial, fun pid attended => ⟨fun r mine => ?_, attended.2⟩⟩
    exact decide_eq_true fun sent => attended.1 r sent mine
  | handle pid =>
    obtain ⟨_, -, rfl⟩ := Option.map_eq_some_iff.mp shows
    exact ⟨trivial, fun _ => id⟩
  | useId pid | finish pid | close pid =>
    cases shows
    exact ⟨trivial, fun _ => id⟩
  | send pid pkt answers => cases shows
  | recv pid n => cases shows

/-- One step: it is the step of `Requests` that it shows, if any. -/
theorem Refines.next (h : b.Refines session) {l : ByteRequestsLabel} (ok : b.Smooth l) :
    (next arithmetic l b).Stands
      (runFrom (Requests.next arithmetic) (b.noticed session) (view l b).toList) := by
  cases l with
  | ask pid request callback => exact ⟨session, noticed_ask .., h.ask arithmetic ok.1 ok.2⟩
  | useId pid => exact ⟨session, rfl, h.apart arithmetic trivial rfl fun _ => .inl⟩
  | finish pid =>
    have same : Requests.next arithmetic (.finish pid) (b.noticed session) =
        (b.apart arithmetic (.finish pid)).noticed session := noticed_finish ..
    refine ⟨session, same, h.apart arithmetic trivial same fun e he => ?_⟩
    rw [asked_finish] at he
    exact .inl he
  | post event => exact ⟨session, rfl, h.apart arithmetic ok rfl fun _ => .inl⟩
  | loop env answers => exact ⟨_, noticed_loop .., h.loop arithmetic ok⟩
  | send pid pkt answers => exact ⟨session, rfl, h.send arithmetic ok⟩
  | recv pid n => exact ⟨session, rfl, h.transport ((h.stream pid).recv ok)⟩
  | handle pid =>
    rcases handle_cases arithmetic h pid with
      ⟨none, same, refines⟩ | ⟨read, session', same, refines⟩
    · rw [none]
      exact ⟨session, same.symm, refines⟩
    · rw [read]
      exact ⟨session', same, refines⟩
  | close pid =>
    exact ⟨_, noticed_close .., h.setStream NoticeStream.carries_new (List.nil_subset _)⟩

end Steps

/-! ## Runs -/

section Runs

theorem stands_start (settings : InputSettings) :
    (start mmi settings).Stands (Requests.start mmi settings) :=
  ⟨fun _ => [], rfl, fun _ => NoticeStream.carries_new,
    (Requests.sound_start settings).served, by simp [start]⟩

/-- What the run of the sockets shows. -/
theorem run_stands (settings : InputSettings) {tr : List ByteRequestsLabel}
    {ok : ByteRequestsLabel → ByteRequests mmi → Prop}
    (ok' : RequestsLabel → Requests mmi → Prop)
    (shows : ∀ l b s l', ok l b → b.Shows s l l' → ok' l' s)
    (smooth : EachStep (next arithmetic) Smooth (start mmi settings) tr)
    (each : EachStep (next arithmetic) ok (start mmi settings) tr) :
    EachStep (Requests.next arithmetic) ok' (Requests.start mmi settings)
        (observe (next arithmetic) view (start mmi settings) tr) ∧
      (runFrom (next arithmetic) (start mmi settings) tr).Stands
        (runFrom (Requests.next arithmetic) (Requests.start mmi settings)
          (observe (next arithmetic) view (start mmi settings) tr)) := by
  have both : EachStep (next arithmetic) (fun l b => b.Smooth l ∧ ok l b) (start mmi settings) tr :=
    fun p l hp => ⟨smooth p l hp, each p l hp⟩
  refine EachStep.observe (R := Stands) ?_ (stands_start settings) both
  rintro l b _ ⟨session, rfl, h⟩ ⟨smooth, holds⟩
  exact ⟨fun l' hl' => shows _ _ _ _ holds (shows_of_view smooth hl'), h.next arithmetic smooth⟩

theorem uses_of_view {l : ByteRequestsLabel} {b : ByteRequests mmi} {l' : RequestsLabel}
    (shows : view l b = some l') (pid : Int32) : l'.uses pid = l.uses pid := by
  cases l with
  | handle pid' =>
    obtain ⟨_, -, rfl⟩ := Option.map_eq_some_iff.mp shows
    rfl
  | send pid' pkt answers => cases shows
  | recv pid' n => cases shows
  | _ =>
    cases shows
    rfl

theorem few_observe {s : ByteRequests mmi} {tr : List ByteRequestsLabel}
    (few : ∀ pid, tr.countP (·.uses pid) ≤ 2 ^ 31) (pid : Int32) :
    (observe (next arithmetic) view s tr).countP (·.uses pid) ≤ 2 ^ 31 := by
  refine le_trans (countP_observe_le (p := (·.uses pid)) ?_ s tr) (few pid)
  intro l b l' shows uses
  rwa [← uses_of_view shows]

/-- The run of `Requests` that the sockets show. -/
theorem run_requests (settings : InputSettings) {tr : List ByteRequestsLabel}
    (smooth : EachStep (next arithmetic) Smooth (start mmi settings) tr) :
    ∃ tr' session, (∀ l ∈ tr', RequestsLabel.Possible l) ∧
      ((∀ pid, tr.countP (·.uses pid) ≤ 2 ^ 31) → ∀ pid, tr'.countP (·.uses pid) ≤ 2 ^ 31) ∧
      (∀ pid, EachStep (next arithmetic) (Attended pid) (start mmi settings) tr →
        EachStep (Requests.next arithmetic) (Requests.Attended pid)
          (Requests.start mmi settings) tr') ∧
      runFrom (Requests.next arithmetic) (Requests.start mmi settings) tr' =
        (runFrom (next arithmetic) (start mmi settings) tr).noticed session ∧
      (runFrom (next arithmetic) (start mmi settings) tr).Refines session := by
  obtain ⟨possible, session, same, h⟩ := run_stands arithmetic settings
    (fun l _ => l.Possible) (fun _ _ _ _ _ shows => shows.possible) smooth smooth
  refine ⟨_, session, possible.forall_mem, few_observe arithmetic,
    fun pid attended => ?_, same, h⟩
  exact (run_stands arithmetic settings _ (fun _ _ _ _ ok shows => shows.attended pid ok) smooth
    attended).1

/-- The sockets carry what the sessions hold in a run of `Requests`. -/
theorem refines_requests (settings : InputSettings) {tr : List ByteRequestsLabel}
    (smooth : EachStep (next arithmetic) Smooth (start mmi settings) tr) :
    let b := runFrom (next arithmetic) (start mmi settings) tr
    ∃ tr' s, (∀ l ∈ tr', RequestsLabel.Possible l) ∧
      s = runFrom (Requests.next arithmetic) (Requests.start mmi settings) tr' ∧
      s.worker = b.worker ∧ s.clients = b.clients ∧ s.asked = b.asked ∧ s.calls = b.calls ∧
        ∀ pid, (b.stream pid).Carries pid (s.session pid) := by
  obtain ⟨tr', session, possible, -, -, same, h⟩ := run_requests arithmetic settings smooth
  exact ⟨tr', _, possible, same.symm, rfl, rfl, rfl, rfl, h.stream⟩

/-- A callback is called at most once, with an answer to its own request. When all has come in and
been handled, the callback of every request that is not a start has been called, unless the request
waits in the channel. -/
theorem callbacks_drained (settings : InputSettings) {tr : List ByteRequestsLabel}
    (smooth : EachStep (next arithmetic) Smooth (start mmi settings) tr)
    (few : ∀ pid, tr.countP (·.uses pid) ≤ 2 ^ 31) :
    let b := runFrom (next arithmetic) (start mmi settings) tr
    (b.calls.map Prod.fst).Nodup ∧
      (∀ k r, (k, r) ∈ b.calls → ∃ e, b.asked[k]? = some e ∧ Answers e r) ∧
      ∀ pid, EachStep (next arithmetic) (Attended pid) (start mmi settings) tr →
        (b.stream pid).wire = [] → (b.stream pid).arrived = [] →
        ∀ k e userData, b.asked[k]? = some e → e.client? = some ⟨pid, userData⟩ →
          e.request? = none → e ∈ b.worker.channel.queue ∨ k ∈ b.calls.map Prod.fst := by
  intro b
  obtain ⟨tr', session, possible, few', attended', same, h⟩ :=
    run_requests arithmetic settings smooth
  have few' : ∀ pid, 0 + tr'.countP (·.uses pid) ≤ 2 ^ 31 := by simpa using few' few
  have initial : (Requests.start mmi settings).Sound fun _ => 0 := Requests.sound_start settings
  obtain ⟨used, sound⟩ := initial.runFrom arithmetic possible few'
  rw [same] at sound
  refine ⟨sound.once, fun k r called => ?_, fun pid attended wire arrived => ?_⟩
  · obtain ⟨e, he, answers, -⟩ := sound.answers k r called
    exact ⟨e, he, answers⟩
  · have idle : (Requests.start mmi settings).Live pid := Requests.live_start settings
    have live := idle.runFrom arithmetic initial possible few' (attended' pid attended)
    rw [same] at live
    intro k e userData he client hr
    by_cases called : k ∈ b.calls.map Prod.fst
    · exact .inr called
    · refine (live.pending k e userData he client hr called).service.imp_right ?_
      rintro ⟨r, hr, -⟩
      have empty : session pid = [] := (h.stream pid).done wire arrived
      change r ∈ session pid at hr
      rw [empty] at hr
      cases hr

/-- Process 7 switches cooperation on, and gets the answer in two pieces. -/
def carriedEnable : List ByteRequestsLabel :=
  [.ask 7 (.enable 1) true, .loop (calm [1]) (fun _ => some fun _ => .count 100), .finish 7,
    .recv 7 10, .recv 7 100, .handle 7]

theorem replies_carriedEnable :
    Requests.replies (calm [1]) (next .atRest (.ask 7 (.enable 1) true) (start .sample {})).worker =
      [Requests.prepared] := by
  decide +kernel

theorem smooth_carriedEnable :
    EachStep (next .atRest) Smooth (start .sample {}) carriedEnable := by
  refine .cons ?_ (.cons ?_ (.cons trivial (.cons ?_ (.cons ?_ (.cons trivial .nil)))))
  · refine ⟨by decide, fun userData networkId h => ?_⟩
    cases h
  · intro r hr
    rw [replies_carriedEnable, List.mem_singleton] at hr
    subst hr
    exact ⟨fun _ => by decide +kernel, fun _ => by decide⟩
  · exact ⟨by decide +kernel, by decide +kernel⟩
  · exact ⟨by decide +kernel, by decide +kernel⟩

theorem few_carriedEnable (pid : Int32) : carriedEnable.countP (·.uses pid) ≤ 2 ^ 31 :=
  List.countP_le_length.trans (by decide)

theorem attended_carriedEnable :
    EachStep (next .atRest) (Attended 7) (start .sample {}) carriedEnable := by
  refine .cons (fun _ => ⟨by decide, rfl⟩) (.cons ⟨fun r hr _ => ?_, ?_⟩ ?_)
  · rw [replies_carriedEnable, List.mem_singleton] at hr
    subst hr
    decide +kernel
  · rintro n channel ⟨⟩
  · exact .cons trivial (.cons trivial (.cons trivial (.cons trivial .nil)))

theorem refines_requests_carriedEnable :
    ∃ tr', (∀ l ∈ tr', RequestsLabel.Possible l) ∧
      (runFrom (Requests.next .atRest) (Requests.start .sample {}) tr').calls =
        [(0, Requests.prepared)] := by
  obtain ⟨tr', s, possible, rfl, -, -, -, calls, -⟩ :=
    refines_requests .atRest {} smooth_carriedEnable
  refine ⟨tr', possible, calls.trans ?_⟩
  decide +kernel

theorem callbacks_drained_carriedEnable :
    0 ∈ (runFrom (next .atRest) (start .sample {}) carriedEnable).calls.map Prod.fst := by
  have asked : (runFrom (next .atRest) (start .sample {}) carriedEnable).asked[0]?.map
      (fun e => (e.client?, e.request?.isNone)) = some (some ⟨7, 0⟩, true) := by
    decide +kernel
  obtain ⟨e, asked, is⟩ := Option.map_eq_some_iff.mp asked
  obtain ⟨client, request⟩ := Prod.mk.inj is
  have handled :
      (runFrom (next .atRest) (start .sample {}) carriedEnable).worker.channel.queue = [] := by
    refine List.length_eq_zero_iff.mp ?_
    decide +kernel
  have called := (callbacks_drained .atRest {} smooth_carriedEnable few_carriedEnable).2.2 7
    attended_carriedEnable (by decide +kernel) ?_ 0 e 0 asked client
    (Option.isNone_iff_eq_none.mp request)
  · simpa [handled] using called
  · refine List.length_eq_zero_iff.mp ?_
    decide +kernel

end Runs

end ByteRequests

end DeviceStatus.Client
