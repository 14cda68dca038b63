import DeviceStatus.Cooperate.EnableBalance
import DeviceStatus.Cooperate.MouseSharing

/-!
# The deaths of clients

An observer of application states reports the death of the one client whose pid it holds, which
each of several requests overwrites. The listeners that a client leaves behind are kept by three
components, and go only when its death is reported.

## Main definitions

* `Clients`, `Clients.next` — the device, the listeners in all three components and what was asked.
* `WatchRequest`, `Watched` — the requests that choose the client to watch, and who is watched.
* `Clients.DeathNoticed` — what is expected of the death of a client.
-/

namespace DeviceStatus.Cooperation

open Transition.System

/-- A request that changes whose death is reported. -/
inductive WatchRequest where
  /-- an ENABLE that finds the application manager, with the client if its observer was
  registered -/
  | enable (pid : Option Int32)
  /-- START, WITH_OPTIONS_START or GET_COOPERATE_STATE, while there is an observer -/
  | update (pid : Int32)
  /-- a DISABLE that finds the application manager -/
  | disable
  deriving DecidableEq

def WatchRequest.pid : WatchRequest → Option Int32
  | .enable pid => pid
  | .update pid => some pid
  | .disable => none

/-- The client of the last request. -/
def lastWatched (requests : List WatchRequest) : Option Int32 :=
  requests.getLast?.bind WatchRequest.pid

/-- The client made the last request before an ENABLE. -/
def Superseded (pid : Int32) (requests : List WatchRequest) : Prop :=
  ∃ earlier request enabled later,
    requests = earlier ++ request :: .enable enabled :: later ∧ request.pid = some pid

/-- The client made the last request of all, or the last before an ENABLE. -/
def Watched (pid : Int32) (requests : List WatchRequest) : Prop :=
  Superseded pid requests ∨ lastWatched requests = some pid

/-- What an event makes of the observer, `observed` telling whether there is one. -/
def CooperateEvent.watchRequest? (env : Env) (observed : Bool) :
    CooperateEvent → Option WatchRequest
  | .enable event =>
      if env.getAppMgr then
        some (.enable (if env.registerApplicationStateObserver then some event.pid else none))
      else none
  | .disable _ => if env.getAppMgr then some .disable else none
  | .start event =>
      if env.checkSrcIsSameAccount event.remoteNetworkId && observed then some (.update event.pid)
      else none
  | .withOptionsStart event =>
      if env.checkSrcIsSameAccount event.remoteNetworkId && observed then some (.update event.pid)
      else none
  | .getCooperateState event => if observed then some (.update event.pid) else none
  | _ => none

/-- The client whose request an event is, for those that start a cooperation. -/
def CooperateEvent.startPid? : CooperateEvent → Option Int32
  | .start event => some event.pid
  | .withOptionsStart event => some event.pid
  | _ => none

/-- The answers of the surroundings to the machine and to `MouseLocation`. -/
structure Surroundings where
  env : Env
  mouse : MouseEnv

/-- `callbacks_` of `HotArea`, and what a call makes of it. -/
def HotArea.take (callbacks : Finset Int32) : Call → Finset Int32
  | .hotAreaAddListener event => insert event.pid callbacks
  | .hotAreaRemoveListener event => callbacks.erase event.pid
  | .hotAreaOnClientDied event => callbacks.erase event.pid
  | _ => callbacks

def MouseSharing.take (env : MouseEnv) (s : MouseSharing) : Call → MouseSharing
  | .mouseLocationAddListener event => s.addListener env event
  | .mouseLocationRemoveListener event => s.removeListener env event
  | .mouseLocationOnClientDied event => s.onClientDied event
  | .mouseLocationOnSoftbusSessionClosed event => s.onSoftbusSessionClosed event
  | _ => s

structure Clients where
  enabling : Enabling := {}
  hotArea : Finset Int32 := ∅
  mouse : MouseSharing := {}
  /-- the client that started the cooperation in which the device is OUT -/
  starter : Option Int32 := none
  requests : List WatchRequest := []

namespace Clients

/-- An event is handled, or a process dies. The observers report to the channel, and the reports
are handled one after the other. -/
inductive Label where
  | event (w : Surroundings) (event : CooperateEvent)
  | died (pid : Int32) (w : ℕ → Surroundings)

def handle (w : Surroundings) (event : CooperateEvent) (s : Clients) : Clients :=
  let enabling := s.enabling.next (w.env, event)
  let calls := (registered enabling.machine).calls
  { enabling
    hotArea := calls.foldl HotArea.take s.hotArea
    mouse := calls.foldl (MouseSharing.take w.mouse) s.mouse
    starter :=
      if enabling.machine.machine.current ≠ .out then none
      else if s.enabling.machine.machine.current = .out then s.starter
      else event.startPid?
    requests := s.requests ++
      (event.watchRequest? w.env s.enabling.machine.machine.appStateObserver.isSome).toList }

/-- `OnProcessDied` of every observer that is registered. -/
def reports (pid : Int32) (s : Clients) : List CooperateEvent :=
  (s.enabling.watched.filter (· = pid)).map fun clientPid => .appClosed { pid := clientPid }

def handleAll (w : ℕ → Surroundings) : List CooperateEvent → Clients → Clients
  | [], s => s
  | event :: events, s => handleAll w events (s.handle (w events.length) event)

def next (l : Label) (s : Clients) : Clients :=
  match l with
  | .event w event => s.handle w event
  | .died pid w => s.handleAll w (s.reports pid)

/-- A process has a listener in one of the components. -/
def Listens (pid : Int32) (s : Clients) : Prop :=
  (∃ listener ∈ s.enabling.machine.context.eventMgr.listeners, listener.pid = pid) ∨
    pid ∈ s.hotArea ∨ pid ∈ s.mouse.localListeners ∨
    ∃ networkId, pid ∈ s.mouse.listenersOf networkId

/-- A process has a listener, or has started the cooperation in progress. -/
def IsRegistered (pid : Int32) (s : Clients) : Prop :=
  s.Listens pid ∨ s.starter = some pid

/-- The death of a process that is registered is reported, and its listeners go. -/
def DeathNoticed (l : Label) (s : Clients) : Prop :=
  ∀ pid w, l = .died pid w → s.enabling.machine.machine.isCooperateEnable = true →
    s.IsRegistered pid →
      .appClosed { pid } ∈ s.reports pid ∧ ¬ (s.next l).Listens pid

/-- A process that is registered when it dies has made the last of the requests, or the last
before an ENABLE. -/
def DiesWatched (l : Label) (s : Clients) : Prop :=
  ∀ pid w, l = .died pid w → s.enabling.machine.machine.isCooperateEnable = true →
    s.IsRegistered pid → Watched pid s.requests

/-- The observers watch whom the requests say. -/
structure Tracked (s : Clients) : Prop where
  retained : ∀ pid, pid ∈ s.enabling.registrars.retained ↔ Superseded pid s.requests
  current : s.enabling.machine.machine.appStateObserver = lastWatched s.requests
  /-- one listener for each process -/
  listeners : (s.enabling.machine.context.eventMgr.listeners.map (·.pid)).Nodup

end Clients

section Requests

variable {pid : Int32} {requests : List WatchRequest} {request : WatchRequest}

theorem lastWatched_append (requests : List WatchRequest) (request : WatchRequest) :
    lastWatched (requests ++ [request]) = request.pid := by
  simp [lastWatched]

theorem superseded_append : Superseded pid (requests ++ [request]) ↔
    Superseded pid requests ∨
      (∃ enabled, request = .enable enabled) ∧ lastWatched requests = some pid := by
  constructor
  · rintro ⟨earlier, last, enabled, later, split, made⟩
    induction later using List.reverseRecOn with
    | nil =>
      right
      have split : requests ++ [request] = (earlier ++ [last]) ++ [.enable enabled] := by
        simpa using split
      obtain ⟨rfl, rfl⟩ := List.append_inj' split rfl |>.imp id (List.singleton_inj.mp)
      exact ⟨⟨enabled, rfl⟩, by simpa [lastWatched] using made⟩
    | append_singleton later x _ =>
      left
      have split : requests ++ [request] =
          (earlier ++ last :: .enable enabled :: later) ++ [x] := by
        simpa using split
      obtain ⟨rfl, -⟩ := List.append_inj' split rfl
      exact ⟨earlier, last, enabled, later, rfl, made⟩
  · rintro (⟨earlier, last, enabled, later, rfl, made⟩ | ⟨⟨enabled, rfl⟩, last⟩)
    · exact ⟨earlier, last, enabled, later ++ [request], by simp, made⟩
    · obtain ⟨request, ends, made⟩ := Option.bind_eq_some_iff.mp last
      obtain ⟨earlier, rfl⟩ := List.getLast?_eq_some_iff.mp ends
      exact ⟨earlier, request, enabled, [], by simp, made⟩

end Requests

namespace Enabling

variable {l : Stimulus} {s : Enabling}

theorem takeAll_append (watched : Option Int32) (calls calls' : List Call) (g : Registrars) :
    g.takeAll watched (calls ++ calls') = (g.takeAll watched calls).takeAll watched calls' :=
  List.foldl_append

/-- Only the registration of an observer of application states gives one up. -/
theorem retained_takeAll {watched : Option Int32} {calls : List Call} {g : Registrars}
    (none : ∀ c ∈ calls, ∀ names, c ≠ .registerApplicationStateObserver names) :
    (g.takeAll watched calls).retained = g.retained := by
  induction calls generalizing g with
  | nil => rfl
  | cons c calls ih =>
    obtain ⟨here, later⟩ := List.forall_mem_cons.mp none
    refine (ih later).trans ?_
    unfold Registrars.take
    split <;> try rfl
    · split <;> rfl
    · split <;> rfl
    · split <;> rfl
    · exact absurd rfl (here _)

/-- An ENABLE gives up the observer that there is, still registered, unless it does not find the
application manager. -/
theorem retained_enable {event : EnableCooperateEvent} (enable : l.2 = .enable event) :
    (s.next l).registrars.retained = s.registrars.retained ++
      if l.1.getAppMgr then s.machine.machine.appStateObserver.toList else [] := by
  let rest : List Call :=
    (if 0 ≤ (registered s.machine).monitorId then [] else [.addMonitor l.1.addMonitor]) ++
      ((if 0 ≤ (registered s.machine).preMonitorId then [] else
        [.addPreMonitor l.1.addPreMonitor]) ++ [.registerDevListener])
  have others : ∀ c ∈ rest, ∀ names, c ≠ .registerApplicationStateObserver names := by grind
  rw [registrars_next, registered_next, enable, Cooperation.Registered.onEvent,
    Cooperation.Registered.calls_enable, takeAll_append, takeAll_append, takeAll_append,
    retained_takeAll others]
  cases l.1.getAppMgr <;> simp [Registrars.takeAll, Registrars.take]

theorem retained_disable {event : DisableCooperateEvent} (disable : l.2 = .disable event) :
    (s.next l).registrars.retained = s.registrars.retained := by
  rw [registrars_next, registered_next, disable, Cooperation.Registered.onEvent,
    Cooperation.Registered.calls_disable]
  apply retained_takeAll
  grind

theorem retained_other (enable : ∀ event, l.2 ≠ .enable event)
    (disable : ∀ event, l.2 ≠ .disable event) :
    (s.next l).registrars.retained = s.registrars.retained := by
  rw [registrars_next, registered_next]
  exact congrArg Registrars.retained (sameRegistrations_onEvent enable disable _ _).2

/-- The observer watches the client of the request, if the event is one. -/
theorem appStateObserver_next : (s.next l).machine.machine.appStateObserver =
    match l.2.watchRequest? l.1 s.machine.machine.appStateObserver.isSome with
    | some request => request.pid
    | none => s.machine.machine.appStateObserver := by
  have after := congrArg Cooperation.Registered.appStateObserver (registered_next (l := l) (s := s))
  have before : (registered s.machine).appStateObserver = s.machine.machine.appStateObserver := rfl
  refine after.trans ?_
  rcases l with ⟨env, e⟩
  cases e with
  | enable event =>
    refine (Cooperation.Registered.appStateObserver_enable ..).trans ?_
    simp only [CooperateEvent.watchRequest?]
    cases env.getAppMgr <;> rfl
  | disable event =>
    refine (Cooperation.Registered.appStateObserver_disable _).trans ?_
    simp only [CooperateEvent.watchRequest?]
    cases env.getAppMgr <;> rfl
  | start event =>
    simp only [Cooperation.Registered.onEvent, CooperateEvent.watchRequest?]
    cases env.checkSrcIsSameAccount event.remoteNetworkId <;>
      cases watching : s.machine.machine.appStateObserver <;>
      simp [Cooperation.Registered.updateApplicationStateObserver, before, watching,
        WatchRequest.pid]
  | withOptionsStart event =>
    simp only [Cooperation.Registered.onEvent, CooperateEvent.watchRequest?]
    cases env.checkSrcIsSameAccount event.remoteNetworkId <;>
      cases watching : s.machine.machine.appStateObserver <;>
      simp [Cooperation.Registered.updateApplicationStateObserver, before, watching,
        WatchRequest.pid]
  | getCooperateState event =>
    simp only [Cooperation.Registered.onEvent, CooperateEvent.watchRequest?]
    cases watching : s.machine.machine.appStateObserver <;>
      simp [Cooperation.Registered.updateApplicationStateObserver, before, watching,
        WatchRequest.pid]
  | _ => rfl

end Enabling

namespace Clients

variable {s : Clients} {w : Surroundings} {event : CooperateEvent} {pid : Int32}

theorem requests_handle : (s.handle w event).requests = s.requests ++
    (event.watchRequest? w.env s.enabling.machine.machine.appStateObserver.isSome).toList := rfl

/-- The requests that are no ENABLE supersede nobody. -/
theorem superseded_of_not_enable (enable : ∀ e, event ≠ .enable e) (observed : Bool) :
    Superseded pid (s.requests ++ (event.watchRequest? w.env observed).toList) ↔
      Superseded pid s.requests := by
  have other : ∀ enabled, event.watchRequest? w.env observed ≠ some (.enable enabled) := by
    intro enabled
    cases event with
    | enable e => exact absurd rfl (enable e)
    | _ => simp [CooperateEvent.watchRequest?]
  cases made : event.watchRequest? w.env observed with
  | none => simp
  | some request =>
    rw [made] at other
    simp only [Option.toList_some, superseded_append, or_iff_left_iff_imp, and_imp]
    rintro ⟨enabled, rfl⟩
    exact absurd rfl (other enabled)

theorem Tracked.handle (h : s.Tracked) : (s.handle w event).Tracked := by
  constructor
  · intro pid
    by_cases enable : ∃ e, event = .enable e
    · obtain ⟨e, rfl⟩ := enable
      have gave := Enabling.retained_enable (l := (w.env, .enable e)) (s := s.enabling) rfl
      have last : pid ∈ s.enabling.machine.machine.appStateObserver.toList ↔
          lastWatched s.requests = some pid := by
        rw [h.current, Option.mem_toList]
      change pid ∈ (s.enabling.next (w.env, .enable e)).registrars.retained ↔ _
      rw [gave, requests_handle]
      cases appMgr : w.env.getAppMgr with
      | false => simp [CooperateEvent.watchRequest?, appMgr, h.retained]
      | true =>
        simp only [CooperateEvent.watchRequest?, appMgr, if_true, List.mem_append, h.retained, last,
          Option.toList_some, superseded_append]
        simp
    · push Not at enable
      have kept : (s.enabling.next (w.env, event)).registrars.retained =
          s.enabling.registrars.retained := by
        by_cases disable : ∃ e, event = .disable e
        · obtain ⟨e, rfl⟩ := disable
          exact Enabling.retained_disable rfl
        · push Not at disable
          exact Enabling.retained_other enable disable
      change pid ∈ (s.enabling.next (w.env, event)).registrars.retained ↔ _
      rw [kept, h.retained, requests_handle, superseded_of_not_enable enable]
  · have after := Enabling.appStateObserver_next (l := (w.env, event)) (s := s.enabling)
    refine after.trans ?_
    rw [requests_handle]
    cases event.watchRequest? w.env s.enabling.machine.machine.appStateObserver.isSome with
    | none => simpa using h.current
    | some request => exact (lastWatched_append ..).symm
  · exact nodup_listeners_step h.listeners _

theorem Tracked.handleAll (h : s.Tracked) (w : ℕ → Surroundings) (events : List CooperateEvent) :
    (s.handleAll w events).Tracked := by
  induction events generalizing s with
  | nil => exact h
  | cons event events ih => exact ih h.handle

theorem Tracked.next (h : s.Tracked) (l : Label) : (s.next l).Tracked := by
  cases l with
  | event w event => exact h.handle
  | died pid w => exact h.handleAll w _

/-- The reports of a death are those of the observers that watch the process. -/
theorem appClosed_mem_reports (h : s.Tracked) :
    .appClosed { pid } ∈ s.reports pid ↔ Watched pid s.requests := by
  have watched : pid ∈ s.enabling.watched ↔ Watched pid s.requests := by
    rw [Enabling.watched, List.mem_append, h.retained, h.current, Option.mem_toList,
      Watched]
  rw [← watched, reports, List.mem_map]
  constructor
  · rintro ⟨clientPid, found, -⟩
    obtain ⟨watching, here⟩ := List.mem_filter.mp found
    obtain rfl : clientPid = pid := by simpa using here
    exact watching
  · intro mem
    exact ⟨pid, List.mem_filter.mpr ⟨mem, by simp⟩, rfl⟩

theorem eq_appClosed_of_mem_reports (mem : event ∈ s.reports pid) : event = .appClosed { pid } := by
  obtain ⟨clientPid, found, rfl⟩ := List.mem_map.mp mem
  obtain ⟨-, here⟩ := List.mem_filter.mp found
  obtain rfl : clientPid = pid := by simpa using here
  rfl

/-- Taking the first element with a key out leaves none, when the keys differ. -/
theorem key_ne_of_mem_eraseP {α : Type} {key : α → Int32} {l : List α} {a : α}
    (h : (l.map key).Nodup) (mem : a ∈ l.eraseP (key · = pid)) : key a ≠ pid := by
  induction l with
  | nil => cases mem
  | cons b l ih =>
    obtain ⟨fresh, rest⟩ := List.nodup_cons.mp h
    by_cases here : key b = pid
    · rw [List.eraseP_cons_of_pos (by simpa using here)] at mem
      rintro rfl
      exact fresh (here ▸ List.mem_map_of_mem mem)
    · rw [List.eraseP_cons_of_neg (by simpa using here)] at mem
      rcases List.mem_cons.mp mem with rfl | mem
      · exact here
      · exact ih rest mem

/-- `OnClientDied` of the three components takes all listeners of the process away. -/
theorem not_listens_appClosed (h : s.Tracked) :
    ¬ (s.handle w (.appClosed { pid })).Listens pid := by
  have after := Enabling.registered_next (l := (w.env, .appClosed { pid })) (s := s.enabling)
  have calls : (registered (s.enabling.next (w.env, .appClosed { pid })).machine).calls =
      [.hotAreaOnClientDied { pid }, .mouseLocationOnClientDied { pid }] := by
    rw [after]
    rfl
  have listeners : (s.handle w (.appClosed { pid })).enabling.machine.context.eventMgr.listeners =
      s.enabling.machine.context.eventMgr.listeners.eraseP (·.pid = pid) :=
    congrArg Cooperation.Registered.listeners after
  have hotArea : (s.handle w (.appClosed { pid })).hotArea = s.hotArea.erase pid := by
    simp only [handle, calls]
    rfl
  have mouse : (s.handle w (.appClosed { pid })).mouse = s.mouse.onClientDied { pid } := by
    simp only [handle, calls]
    rfl
  rintro (⟨listener, mem, own⟩ | mem | mem | ⟨networkId, mem⟩)
  · rw [listeners] at mem
    exact key_ne_of_mem_eraseP h.listeners mem own
  · rw [hotArea] at mem
    exact absurd mem (Finset.notMem_erase _ _)
  · rw [mouse] at mem
    exact absurd mem (Finset.notMem_erase _ _)
  · rw [mouse] at mem
    simp only [MouseSharing.listenersOf, MouseSharing.onClientDied] at mem
    cases there : s.mouse.listeners networkId with
    | none => simp [there] at mem
    | some pids =>
      simp only [there, Option.bind_some, MouseLocation.getD_entry] at mem
      exact absurd mem (Finset.notMem_erase _ _)

/-- When reports of a death have been handled, no listener of the process is left. -/
theorem not_listens_handleAll (h : s.Tracked) (w : ℕ → Surroundings)
    {events : List CooperateEvent} (some : events ≠ [])
    (own : ∀ event ∈ events, event = .appClosed { pid }) :
    ¬ (s.handleAll w events).Listens pid := by
  induction events generalizing s with
  | nil => exact absurd rfl some
  | cons event events ih =>
    obtain ⟨rfl, later⟩ := List.forall_mem_cons.mp own
    cases events with
    | nil => exact not_listens_appClosed h
    | cons second events => exact ih h.handle (List.cons_ne_nil _ _) later

theorem deathNoticed_iff (h : s.Tracked) {l : Label} : s.DeathNoticed l ↔ s.DiesWatched l := by
  constructor
  · intro noticed pid w died enabled concerned
    exact (appClosed_mem_reports h).mp (noticed pid w died enabled concerned).1
  · rintro watched pid w rfl enabled concerned
    have reported := (appClosed_mem_reports h).mpr (watched pid w rfl enabled concerned)
    refine ⟨reported, not_listens_handleAll h w (List.ne_nil_of_mem reported) ?_⟩
    intro event mem
    exact eq_appClosed_of_mem_reports mem

/-- The device before its first event. -/
def start (settings : InputSettings) : Clients := { enabling := Enabling.start settings }

theorem tracked_start (settings : InputSettings) : (start settings).Tracked where
  retained pid := by
    refine iff_of_false (List.not_mem_nil) ?_
    rintro ⟨earlier, request, enabled, later, split, -⟩
    simp [start] at split
  current := rfl
  listeners := List.nodup_nil

end Clients

end DeviceStatus.Cooperation
