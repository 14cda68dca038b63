import DeviceStatus.Client.Requests

/-!
# No callback is left out

Every request but a start has one notice for an answer, which finds its callback. For a client whose
session stays open and for whose requests the channel has room, a request waits in the channel, its
answer waits in the session, or its callback has been called.

## Main definitions

* `Requests.Attended` — the steps that look after the requests of a client.
* `Requests.Live` — where the requests of such a client are.
-/

namespace DeviceStatus.Client.Requests

open Cooperation Transition.System
open InputEvents (MmiConstants DoubleArithmetic)

variable {mmi : MmiConstants} (arithmetic : DoubleArithmetic)

/-- What the service and the client do for the requests of `pid`: the channel has room for them, the
session stays open, and no stop is handled while a relay is being confirmed. -/
def Attended (pid : Int32) (l : RequestsLabel) (s : Requests mmi) : Prop :=
  match l with
  | .ask pid' _ callback => pid' = pid → s.worker.channel.Accepts ∧ callback = true
  | .loop _ taken => (∀ r, r.client.pid = pid → taken r = true) ∧
      ∀ n channel, s.worker.received = some (.stop n, channel) → Prompt s.worker.machine (.stop n)
  | .close pid' => pid' ≠ pid
  | _ => True

/-- The callback in `event` is called with any answer to `e`. -/
def IsFor (k : ℕ) (e : CooperateEvent) (event : CallbackEvent) : Prop :=
  ∀ r, Answers e r → event.callback r = some k

/-- Where the request `k`, whose callback has not been called, is. -/
structure Pending (pid : Int32) (s : Requests mmi) (k : ℕ) (e : CooperateEvent)
    (userData : Int32) : Prop where
  service : e ∈ s.worker.channel.queue ∨ ∃ r ∈ s.session pid, Answers e r
  client : ∃ event, IsFor k e event ∧
    ((s.clients pid).underWay = some { userData, event, promise := none } ∨
      (s.clients pid).devCooperateEvent userData = some event)

structure Live (s : Requests mmi) (pid : Int32) : Prop where
  pending : ∀ k e userData, s.asked[k]? = some e → e.client? = some ⟨pid, userData⟩ →
    e.request? = none → k ∉ s.calls.map Prod.fst → s.Pending pid k e userData
  underWay : ∀ u ∈ (s.clients pid).underWay, ∃ k e, s.asked[k]? = some e ∧
    e.client? = some ⟨pid, u.userData⟩ ∧ IsFor k e u.event

section Live

variable {s s' : Requests mmi} {used : Int32 → ℕ} {pid : Int32}

theorem isFor_event (request : CooperateRequest) (pid userData : Int32) (k : ℕ) :
    IsFor k (request.event pid userData) (request.callbackEvent (some k)) := by
  intro r h
  generalize event : request.event pid userData = e at h
  cases h with
  | start hr =>
    subst event
    cases request <;> first | rfl | cases hr
  | enable | disable | stop | getCooperateState =>
    cases request <;> cases event
    rfl

/-- Requests with one id are one request. -/
theorem Numbered.index_eq {asked : List CooperateEvent} (h : Numbered used asked) {k k' : ℕ}
    {e e' : CooperateEvent} (he : asked[k]? = some e) (he' : asked[k']? = some e')
    (same : e.client? = e'.client?) : k = k' := by
  obtain ⟨lt, rfl⟩ := List.getElem?_eq_some_iff.mp he
  obtain ⟨lt', rfl⟩ := List.getElem?_eq_some_iff.mp he'
  have inj := List.nodup_iff_injective_get.mp h.distinct
  have := @inj ⟨k, by simpa using lt⟩ ⟨k', by simpa using lt'⟩ (by simpa using same)
  exact congrArg Fin.val this

/-- A request that is not a start is answered in the turn that handles it. -/
theorem answered_loop {w : Worker mmi} {env : Env} {e : CooperateEvent} {client : Client}
    (client_eq : e.client? = some client) (hr : e.request? = none)
    (prompt : ∀ n channel, w.received = some (.stop n, channel) → Prompt w.machine (.stop n))
    {channel : Utils.Channel CooperateEvent} (received : w.received = some (e, channel)) :
    ∃ r ∈ replies env w, Answers e r := by
  have prompt : Prompt w.machine e := by
    cases e with
    | enable | disable | getCooperateState => trivial
    | stop n => exact prompt n channel received
    | start | withOptionsStart => cases hr
    | _ => cases client_eq
  have passed : Worker.IsPassed e = true := by
    cases e <;> first | rfl | cases client_eq
  simp only [replies, received, passed, if_true]
  exact answers_step env prompt

theorem mem_queue_send {w : Worker mmi} {e event : CooperateEvent} (h : e ∈ w.channel.queue) :
    e ∈ (w.next arithmetic (.send event)).channel.queue := by
  change e ∈ (w.channel.send event).2.queue
  rw [Utils.Channel.queue_send]
  exact List.mem_append_left _ h

/-- Steps that leave the client with its callbacks alone. -/
theorem Pending.keep {k : ℕ} {e : CooperateEvent} {userData : Int32}
    (h : s.Pending pid k e userData)
    (service : e ∈ s.worker.channel.queue →
      e ∈ s'.worker.channel.queue ∨ ∃ r ∈ s'.session pid, Answers e r)
    (session : s.session pid ⊆ s'.session pid)
    (underWay : (s'.clients pid).underWay = (s.clients pid).underWay)
    (kept : (s'.clients pid).devCooperateEvent = (s.clients pid).devCooperateEvent) :
    s'.Pending pid k e userData where
  service := by
    rcases h.service with waits | ⟨r, hr, answers⟩
    · exact service waits
    · exact .inr ⟨r, session hr, answers⟩
  client := by
    rw [underWay, kept]
    exact h.client

theorem Live.ask (h : s.Live pid) (sound : s.Sound used) {pid' : Int32}
    (few : used pid' < 2 ^ 31) (free : (s.clients pid').underWay = none)
    (request : CooperateRequest) (callback : Bool)
    (attended : pid' = pid → s.worker.channel.Accepts ∧ callback = true) :
    (s.ask arithmetic pid' request callback).Live pid := by
  have generated := generateRequestID_of (sound.counter pid') few
  have old {k e} (he : (s.asked ++ [request.event pid' (Int32.ofNat (used pid'))])[k]? = some e) :
      s.asked[k]? = some e ∨
        k = s.asked.length ∧ e = request.event pid' (Int32.ofNat (used pid')) := by
    rcases Nat.lt_or_ge k s.asked.length with lt | le
    · rw [List.getElem?_append_left lt] at he
      exact .inl he
    · obtain ⟨lt, rfl⟩ := List.getElem?_eq_some_iff.mp he
      rw [List.length_append, List.length_singleton] at lt
      obtain rfl : k = s.asked.length := by omega
      exact .inr ⟨rfl, by simp⟩
  rcases eq_or_ne pid' pid with rfl | other
  · obtain ⟨accepts, rfl⟩ := attended rfl
    simp only [Requests.ask, generated, if_true]
    constructor
    case pending =>
      intro k e userData he client hr open'
      rcases old he with before | ⟨rfl, rfl⟩
      · have pending := h.pending k e userData before client hr open'
        refine ⟨pending.service.imp_left (mem_queue_send arithmetic), ?_⟩
        obtain ⟨event, isFor, place⟩ := pending.client
        refine ⟨event, isFor, .inr ?_⟩
        rw [free] at place
        simpa using place
      · obtain rfl : Int32.ofNat (used pid') = userData := by simpa [client_event] using client
        refine ⟨.inl ?_, _, isFor_event request pid' _ _, .inl ?_⟩
        · change _ ∈ (s.worker.channel.send _).2.queue
          rw [(Utils.Channel.send_of_accepts accepts).2]
          exact List.mem_append_right _ List.mem_cons_self
        · simp [hr]
    case underWay =>
      intro u hu
      simp only [Function.update_self, Option.mem_def, Option.some_inj] at hu
      subst hu
      exact ⟨_, _, List.getElem?_concat_length, client_event ..,
        isFor_event request pid' _ s.asked.length⟩
  · simp only [Requests.ask, generated]
    constructor
    case pending =>
      intro k e userData he client hr open'
      rcases old he with before | ⟨rfl, rfl⟩
      · exact (h.pending k e userData before client hr open').keep
          (fun waits => .inl (mem_queue_send arithmetic waits)) (List.Subset.refl _)
          (by simp [Function.update_of_ne other.symm]) (by simp [Function.update_of_ne other.symm])
      · rw [client_event] at client
        cases client
        exact absurd rfl other
    case underWay =>
      intro u hu
      simp only [Function.update_of_ne other.symm] at hu
      obtain ⟨k, e, he, rest⟩ := h.underWay u hu
      have lt := (List.getElem?_eq_some_iff.mp he).1
      exact ⟨k, e, by rwa [List.getElem?_append_left lt], rest⟩

/-- Steps that send no request. -/
theorem Live.keep (h : s.Live pid) (asked : s'.asked = s.asked)
    (underWay : ∀ u ∈ (s'.clients pid).underWay, u ∈ (s.clients pid).underWay)
    (pending : ∀ k e userData, s.asked[k]? = some e → e.client? = some ⟨pid, userData⟩ →
      e.request? = none → k ∉ s'.calls.map Prod.fst →
      k ∉ s.calls.map Prod.fst ∧
        (s.Pending pid k e userData → s'.Pending pid k e userData)) : s'.Live pid where
  pending k e userData he client hr open' := by
    rw [asked] at he
    obtain ⟨before, keeps⟩ := pending k e userData he client hr open'
    exact keeps (h.pending k e userData he client hr before)
  underWay u hu := by
    rw [asked]
    exact h.underWay u (underWay u hu)

theorem Live.finish (h : s.Live pid) (sound : s.Sound used) {pid' ret : Int32} {u : UnderWay}
    (hu : (s.clients pid').underWay = some u) (hr : s.ret u = some ret) :
    (s.setClient pid' ((s.clients pid').finish ret u)).Live pid := by
  rcases eq_or_ne pid pid' with rfl | other
  · have gone : ((s.clients pid).finish ret u).underWay = none := by
      unfold CooperateCallbacks.finish
      split <;> rfl
    refine h.keep rfl (fun u hu => ?_) fun k e userData he client hrq open' => ⟨open', fun p => ?_⟩
    · rw [clients_setClient_self, gone] at hu
      cases hu
    refine ⟨p.service, ?_⟩
    rw [clients_setClient_self, CooperateCallbacks.finish]
    obtain ⟨event, isFor, place | place⟩ := p.client
    · obtain rfl : _ = u := Option.some_inj.mp (place.symm.trans hu)
      obtain rfl : RET_OK = ret := Option.some_inj.mp hr
      exact ⟨event, isFor, .inr (by simp)⟩
    · split
      · exact ⟨event, isFor, .inr place⟩
      · obtain ⟨k', e', he', client', isFor'⟩ := h.underWay u hu
        rcases eq_or_ne userData u.userData with rfl | different
        · obtain rfl := sound.numbered.index_eq he he' (client.trans client'.symm)
          obtain rfl : e = e' := Option.some_inj.mp (he.symm.trans he')
          exact ⟨u.event, isFor', .inr (Function.update_self ..)⟩
        · exact ⟨event, isFor, .inr ((Function.update_of_ne different ..).trans place)⟩
  · have same := clients_setClient_of_ne (s := s) (c := (s.clients pid').finish ret u) other
    refine h.keep rfl (fun u hu => same ▸ hu) fun k e userData _ _ _ open' => ⟨open', fun p => ?_⟩
    exact p.keep .inl (List.Subset.refl _) (congrArg _ same) (congrArg _ same)

theorem Live.loop (h : s.Live pid) {env : Env} {taken : Reply → Bool}
    (attended : s.Attended pid (.loop env taken)) :
    (next arithmetic (.loop env taken) s).Live pid := by
  refine h.keep rfl (fun _ => id) fun k e userData _ client hr open' => ⟨open', fun p => ?_⟩
  refine p.keep (fun waits => ?_) (List.subset_append_left _ _) rfl rfl
  obtain ⟨taken, prompt⟩ := attended
  cases received : s.worker.received with
  | none => exact .inl (by simpa [Requests.next, Worker.next, received] using waits)
  | some item =>
    obtain ⟨event, channel⟩ := item
    rw [(Worker.received_spec received).2.1] at waits
    rcases List.mem_cons.mp waits with rfl | later
    · obtain ⟨r, sent, answers⟩ := answered_loop client hr prompt received
      have mine : r.client.pid = pid :=
        congrArg Client.pid (Option.some_inj.mp (answers.client.symm.trans client))
      refine .inr ⟨r, List.mem_append_right _ ?_, answers⟩
      exact List.mem_filter.mpr ⟨sent, decide_eq_true ⟨mine, taken r mine⟩⟩
    · left
      change e ∈ (s.worker.next arithmetic (.loop env)).channel.queue
      rw [channel_loop arithmetic received, Utils.Channel.queue_sendAll]
      exact List.mem_append_left _ later

/-- The answer to a pending request finds its callback. -/
theorem Pending.callback_of_answers {k : ℕ} {e : CooperateEvent} {userData : Int32}
    (h : s.Pending pid k e userData) (free : (s.clients pid).underWay = none)
    (client : e.client? = some ⟨pid, userData⟩) {r : Reply} (answers : Answers e r) :
    (s.clients pid).callback r = some k := by
  obtain ⟨event, isFor, place | place⟩ := h.client
  · rw [free] at place
    cases place
  · have mine : r.client = ⟨pid, userData⟩ :=
      Option.some_inj.mp (answers.client.symm.trans client)
    rw [CooperateCallbacks.callback, mine, place]
    exact isFor r answers

theorem Live.read (h : s.Live pid) (sound : s.Sound used) {pid' : Int32}
    (free : (s.clients pid').underWay = none) : (s.read pid').Live pid := by
  cases hs : s.session pid' with
  | nil =>
    have same : s.read pid' = s := by rw [Requests.read, hs]
    rwa [same]
  | cons r rest =>
    have tail {k e userData} (p : s.Pending pid k e userData)
        (unread : pid = pid' → ¬ Answers e r) :
        e ∈ s.worker.channel.queue ∨
          ∃ r' ∈ Function.update s.session pid' rest pid, Answers e r' := by
      apply p.service.imp_right
      rintro ⟨r', hr', answers⟩
      refine ⟨r', ?_, answers⟩
      rcases eq_or_ne pid pid' with rfl | other
      · rw [hs] at hr'
        rw [Function.update_self]
        refine (List.mem_cons.mp hr').resolve_left ?_
        rintro rfl
        exact unread rfl answers
      · rwa [Function.update_of_ne other]
    cases hk : (s.clients pid').callback r with
    | none =>
      rw [read_of_none hs hk]
      refine h.keep rfl (fun _ => id) fun k e userData _ client _ open' => ⟨open', fun p => ?_⟩
      refine ⟨tail p ?_, p.client⟩
      rintro rfl answers
      rw [p.callback_of_answers free client answers] at hk
      cases hk
    | some k₂ =>
      obtain ⟨-, e₂, he₂, answers₂, -⟩ := sound.request_of_callback (hs ▸ List.mem_cons_self) hk
      have mine : r.client.pid = pid' := (sound.served.session pid' r (hs ▸ List.mem_cons_self)).1
      rw [read_of_some hs hk]
      refine h.keep rfl (fun u hu => ?_) fun k e userData he client _ open' => ?_
      · rcases eq_or_ne pid pid' with rfl | other
        · simpa using hu
        · simpa [other] using hu
      rw [List.map_append, List.mem_append, not_or, List.map_singleton, List.mem_singleton] at open'
      refine ⟨open'.1, fun p => ⟨tail p ?_, ?_⟩⟩
      · rintro rfl answers
        rw [p.callback_of_answers free client answers] at hk
        exact open'.2 (Option.some_inj.mp hk)
      · obtain ⟨event, isFor, place⟩ := p.client
        refine ⟨event, isFor, ?_⟩
        rcases eq_or_ne pid pid' with rfl | other
        · simp only [Function.update_self]
          refine place.imp id fun kept => ?_
          rcases eq_or_ne userData r.client.userData with rfl | different
          · have same : e.client? = e₂.client? := by rw [client, answers₂.client, ← mine]
            exact absurd (sound.numbered.index_eq he he₂ same) open'.2
          · exact (Function.update_of_ne different ..).trans kept
        · simpa only [Function.update_of_ne other] using place

theorem rest_generateRequestID (c : CooperateCallbacks) :
    c.generateRequestID.2.underWay = c.underWay ∧
      c.generateRequestID.2.devCooperateEvent = c.devCooperateEvent := by
  simp only [CooperateCallbacks.generateRequestID]
  split <;> exact ⟨rfl, rfl⟩

theorem Live.next (h : s.Live pid) (sound : s.Sound used) {l : RequestsLabel}
    (few : ∀ pid, l.uses pid → used pid < 2 ^ 31) (attended : s.Attended pid l) :
    (Requests.next arithmetic l s).Live pid := by
  cases l with
  | ask pid' request callback =>
    simp only [Requests.next]
    split
    · exact h
    · exact h.ask arithmetic sound (few pid' (by simp [RequestsLabel.uses])) ‹_› request callback
        attended
  | useId pid' =>
    have same : ((Requests.next arithmetic (.useId pid') s).clients pid).underWay =
          (s.clients pid).underWay ∧
        ((Requests.next arithmetic (.useId pid') s).clients pid).devCooperateEvent =
          (s.clients pid).devCooperateEvent := by
      simp only [Requests.next]
      rcases eq_or_ne pid pid' with rfl | other
      · rw [clients_setClient_self]
        exact rest_generateRequestID _
      · rw [clients_setClient_of_ne other]
        exact ⟨rfl, rfl⟩
    refine h.keep rfl (fun u hu => same.1 ▸ hu) fun k e userData _ _ _ open' =>
      ⟨open', fun p => ?_⟩
    exact p.keep .inl (List.Subset.refl _) same.1 same.2
  | finish pid' =>
    simp only [Requests.next]
    split
    · exact h
    · split
      · exact h
      · exact h.finish sound ‹_› ‹_›
  | post event =>
    refine h.keep rfl (fun _ => id) fun k e userData _ _ _ open' => ⟨open', fun p => ?_⟩
    exact p.keep (fun waits => .inl (mem_queue_send arithmetic waits)) (List.Subset.refl _) rfl rfl
  | loop env taken => exact h.loop arithmetic attended
  | read pid' =>
    simp only [Requests.next]
    split
    · exact h
    · exact h.read sound ‹_›
  | close pid' =>
    refine h.keep rfl (fun _ => id) fun k e userData _ _ _ open' => ⟨open', fun p => ?_⟩
    have same : (Requests.next arithmetic (.close pid') s).session pid = s.session pid :=
      Function.update_of_ne (Ne.symm attended) ..
    exact p.keep .inl (same ▸ List.Subset.refl _) rfl rfl

theorem live_start (settings : InputSettings) : (start mmi settings).Live pid :=
  ⟨by simp [start], by simp [start]⟩

theorem Live.runFrom (h : s.Live pid) (sound : s.Sound used) {tr : List RequestsLabel}
    (possible : ∀ l ∈ tr, l.Possible)
    (few : ∀ pid, used pid + tr.countP (·.uses pid) ≤ 2 ^ 31)
    (attended : EachStep (Requests.next arithmetic) (Attended pid) s tr) :
    (runFrom (Requests.next arithmetic) s tr).Live pid := by
  induction tr generalizing s used with
  | nil => exact h
  | cons l tr ih =>
    obtain ⟨here, later⟩ := List.forall_mem_cons.mp possible
    have room : ∀ pid, l.uses pid → used pid < 2 ^ 31 := fun pid uses => by
      have count := few pid
      rw [List.countP_cons_of_pos uses] at count
      omega
    obtain ⟨used', le, sound'⟩ := sound.next arithmetic here room
    refine ih (h.next arithmetic sound room attended.head) sound' later (fun pid => ?_)
      attended.tail
    have count := few pid
    rw [List.countP_cons] at count
    have := le pid
    omega

/-- The callback of a request that is not a start has been called, unless the request waits in the
channel or its answer in the session. -/
theorem callbacks_called (settings : InputSettings) {tr : List RequestsLabel}
    (possible : ∀ l ∈ tr, l.Possible) (few : ∀ pid, tr.countP (·.uses pid) ≤ 2 ^ 31)
    (attended : EachStep (Requests.next arithmetic) (Attended pid) (start mmi settings) tr) :
    let s := runFrom (Requests.next arithmetic) (start mmi settings) tr
    ∀ k e userData, s.asked[k]? = some e → e.client? = some ⟨pid, userData⟩ → e.request? = none →
      k ∈ s.calls.map Prod.fst ∨ e ∈ s.worker.channel.queue ∨
        ∃ r ∈ s.session pid, Answers e r := by
  intro s k e userData he client hr
  have live : s.Live pid := (live_start settings).runFrom arithmetic (sound_start settings) possible
    (by simpa using few) attended
  by_cases called : k ∈ s.calls.map Prod.fst
  · exact .inl called
  · exact .inr (live.pending k e userData he client hr called).service

theorem attended_oneEnable :
    EachStep (Requests.next .atRest) (Attended 7) (start .sample {}) oneEnable := by
  refine .cons (fun _ => ⟨by decide, rfl⟩) (.cons ⟨fun _ _ => rfl, ?_⟩ ?_)
  · rintro n channel ⟨⟩
  · exact .cons trivial (.cons trivial .nil)

theorem callbacks_called_oneEnable :
    0 ∈ (runFrom (Requests.next .atRest) (start .sample {}) oneEnable).calls.map Prod.fst := by
  have asked : (runFrom (Requests.next .atRest) (start .sample {}) oneEnable).asked[0]? =
      some (.enable { tokenId := 1, pid := 7, userData := 0 }) := rfl
  have handled :
      (runFrom (Requests.next .atRest) (start .sample {}) oneEnable).worker.channel.queue = [] :=
    rfl
  have read : (runFrom (Requests.next .atRest) (start .sample {}) oneEnable).session 7 = [] := rfl
  have called := callbacks_called .atRest {} possible_oneEnable few_oneEnable attended_oneEnable
    0 _ 0 asked rfl rfl
  simpa [handled, read] using called

end Live

end DeviceStatus.Client.Requests
