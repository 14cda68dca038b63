import DeviceStatus.Cooperate.Invariants
import DeviceStatus.Cooperate.Registered

/-!
# What is registered while cooperation is enabled

`EnableCooperate` registers five things and `DisableCooperate` removes them. The two monitors are
known by their ids, and none is added while there is one; the observers of common events and of
application states are known by the last object alone, and device listeners are not counted.

## Main definitions

* `Registrars`, `Registrars.take` — what the services have been told, one call after the other.
* `Enabling`, `Enabling.next` — the device and those services.
* `Enabling.Balanced` — one registration of each kind at most, and none after DISABLE.
-/

namespace DeviceStatus.Cooperation

open Transition.System

/-- The registrations with the services outside; an observer of common events is known by the
number of those made before. -/
structure Registrars where
  commonEventObservers : List ℕ := []
  /-- `observer_` -/
  observer : Option ℕ := none
  created : ℕ := 0
  monitors : List Int32 := []
  preMonitors : List Int32 := []
  devListeners : ℕ := 0
  /-- the clients that are watched by an observer of application states which is no longer
  `appStateObserver_` but has not been unregistered -/
  retained : List Int32 := []

namespace Registrars

/-- A call, made while `watched` is the client of `appStateObserver_`. `UnregisterDevListener` is
for all listeners. -/
def take (watched : Option Int32) (r : Registrars) : Call → Registrars
  | .addCommonEventObserver =>
      { r with
        commonEventObservers := r.commonEventObservers ++ [r.created]
        observer := some r.created
        created := r.created + 1 }
  | .removeCommonEventObserver =>
      match r.observer with
      | none => r
      | some observer =>
        { r with commonEventObservers := r.commonEventObservers.erase observer }
  | .addMonitor monitorId =>
      if monitorId < 0 then r else { r with monitors := r.monitors ++ [monitorId] }
  | .removeMonitor monitorId => { r with monitors := r.monitors.erase monitorId }
  | .addPreMonitor preMonitorId =>
      if preMonitorId < 0 then r else { r with preMonitors := r.preMonitors ++ [preMonitorId] }
  | .removePreMonitor preMonitorId => { r with preMonitors := r.preMonitors.erase preMonitorId }
  | .registerDevListener => { r with devListeners := r.devListeners + 1 }
  | .unregisterDevListener => { r with devListeners := 0 }
  | .registerApplicationStateObserver _ => { r with retained := r.retained ++ watched.toList }
  | _ => r

def takeAll (watched : Option Int32) (calls : List Call) (r : Registrars) : Registrars :=
  calls.foldl (take watched) r

end Registrars

/-- The device and the services that it registers with. -/
structure Enabling where
  machine : Cooperate := {}
  registrars : Registrars := {}

namespace Enabling

def next (l : Stimulus) (s : Enabling) : Enabling :=
  let machine := Cooperation.next l s.machine
  { machine
    registrars := s.registrars.takeAll s.machine.machine.appStateObserver
      (registered machine).calls }

/-- The clients that the observers of application states watch. -/
def watched (s : Enabling) : List Int32 :=
  s.registrars.retained ++ s.machine.machine.appStateObserver.toList

/-- At most one registration of each kind. -/
structure AtMostOne (s : Enabling) : Prop where
  commonEvents : s.registrars.commonEventObservers.length ≤ 1
  applicationStates : s.watched.length ≤ 1
  monitors : s.registrars.monitors.length ≤ 1
  preMonitors : s.registrars.preMonitors.length ≤ 1
  devListeners : s.registrars.devListeners ≤ 1

/-- Nothing is registered. -/
structure NothingLeft (s : Enabling) : Prop where
  commonEvents : s.registrars.commonEventObservers = []
  applicationStates : s.watched = []
  monitors : s.registrars.monitors = []
  preMonitors : s.registrars.preMonitors = []
  devListeners : s.registrars.devListeners = 0

/-- A step leaves one registration of each kind at most, and DISABLE none. -/
structure Balanced (l : Stimulus) (s : Enabling) : Prop where
  atMostOne : (s.next l).AtMostOne
  disabled : ∀ event, l.2 = .disable event → (s.next l).NothingLeft

/-- ENABLE comes only when cooperation is not enabled, and the application manager is there when
an ENABLE is taken back. -/
structure EnabledOnce (l : Stimulus) (s : Enabling) : Prop where
  off : ∀ event, l.2 = .enable event → s.machine.machine.isCooperateEnable = false
  takenBack : ∀ event, l.2 = .disable event → s.machine.machine.isCooperateEnable = true →
    l.1.getAppMgr = true

/-- The services register what they are asked to at an ENABLE. -/
structure Registers (l : Stimulus) : Prop where
  monitor : 0 ≤ l.1.addMonitor
  preMonitor : 0 ≤ l.1.addPreMonitor
  getAppMgr : ∀ event, l.2 = .enable event → l.1.getAppMgr = true
  applicationState : l.1.registerApplicationStateObserver = true

/-- What the services know is what the machine remembers. -/
structure InStep (r : Registered) (g : Registrars) : Prop where
  enabled : r.isCooperateEnable = true →
    (∃ observer, g.commonEventObservers = [observer] ∧ g.observer = some observer) ∧
    r.appStateObserver.isSome ∧ (0 ≤ r.monitorId ∧ g.monitors = [r.monitorId]) ∧
    (0 ≤ r.preMonitorId ∧ g.preMonitors = [r.preMonitorId]) ∧ g.devListeners = 1
  disabled : r.isCooperateEnable = false →
    g.commonEventObservers = [] ∧ r.appStateObserver = none ∧
    (r.monitorId < 0 ∧ g.monitors = []) ∧ (r.preMonitorId < 0 ∧ g.preMonitors = []) ∧
    g.devListeners = 0
  retained : g.retained = []

section Steps

variable {env : Env} {r : Registered} {g : Registrars} {names : List StdString}

/-- ENABLE while cooperation is not enabled makes the five registrations. -/
theorem enable_of_disabled (h : InStep r g) (off : r.isCooperateEnable = false)
    {event : EnableCooperateEvent} (registers : Registers (env, .enable event)) :
    ({ r with calls := [] } : Registered).enable env event names =
      { monitorId := env.addMonitor, preMonitorId := env.addPreMonitor
        appStateObserver := some event.pid, isCooperateEnable := true, listeners := r.listeners
        calls := [.addCommonEventObserver, .registerApplicationStateObserver names,
          .addMonitor env.addMonitor, .addPreMonitor env.addPreMonitor,
          .registerDevListener] } := by
  obtain ⟨-, -, ⟨monitor, -⟩, ⟨preMonitor, -⟩, -⟩ := h.disabled off
  have appMgr : env.getAppMgr = true := registers.getAppMgr event rfl
  have registered : env.registerApplicationStateObserver = true := registers.applicationState
  simp [Registered.enable, Registered.registerApplicationStateObserver, Registered.addMonitor,
    Registered.addPreMonitor, Registered.log, appMgr, registered, Int32.not_le.mpr monitor,
    Int32.not_le.mpr preMonitor]

/-- ENABLE while cooperation is enabled adds no monitors. -/
theorem enable_of_enabled (h : InStep r g) (on : r.isCooperateEnable = true)
    (event : EnableCooperateEvent) :
    (({ r with calls := [] } : Registered).enable env event names).calls =
      .addCommonEventObserver ::
        ((if env.getAppMgr then [.registerApplicationStateObserver names] else []) ++
          [.registerDevListener]) := by
  obtain ⟨-, -, ⟨monitor, -⟩, ⟨preMonitor, -⟩, -⟩ := h.enabled on
  simp [Registered.calls_enable, monitor, preMonitor]

theorem disable_of_enabled (h : InStep r g) (on : r.isCooperateEnable = true)
    (appMgr : env.getAppMgr = true) :
    ({ r with calls := [] } : Registered).disable env =
      { monitorId := -1, preMonitorId := -1, appStateObserver := none, isCooperateEnable := false
        listeners := r.listeners
        calls := [.removeCommonEventObserver, .unregisterApplicationStateObserver,
          .removeMonitor r.monitorId, .removePreMonitor r.preMonitorId,
          .unregisterDevListener] } := by
  obtain ⟨-, watching, ⟨monitor, -⟩, ⟨preMonitor, -⟩, -⟩ := h.enabled on
  obtain ⟨pid, watching⟩ := Option.isSome_iff_exists.mp watching
  simp [Registered.disable, Registered.unregisterApplicationStateObserver,
    Registered.removeMonitor, Registered.removePreMonitor, Registered.log, watching, appMgr,
    Int32.not_lt.mpr monitor, Int32.not_lt.mpr preMonitor]

theorem disable_of_disabled (h : InStep r g) (off : r.isCooperateEnable = false) :
    ({ r with calls := [] } : Registered).disable env =
      { r with calls := [.removeCommonEventObserver, .unregisterDevListener] } := by
  obtain ⟨-, unwatched, ⟨monitor, -⟩, ⟨preMonitor, -⟩, -⟩ := h.disabled off
  simp [Registered.disable, Registered.unregisterApplicationStateObserver,
    Registered.removeMonitor, Registered.removePreMonitor, Registered.log, unwatched, monitor,
    preMonitor, off]

/-- What the other events leave alone. -/
structure SameRegistrations (r r' : Registered) : Prop where
  monitorId : r'.monitorId = r.monitorId
  preMonitorId : r'.preMonitorId = r.preMonitorId
  appStateObserver : r'.appStateObserver.isSome = r.appStateObserver.isSome
  isCooperateEnable : r'.isCooperateEnable = r.isCooperateEnable

theorem sameRegistrations_onEvent {e : CooperateEvent} (enable : ∀ event, e ≠ .enable event)
    (disable : ∀ event, e ≠ .disable event) (watched : Option Int32) (g : Registrars) :
    SameRegistrations r (({ r with calls := [] } : Registered).onEvent env names e) ∧
      g.takeAll watched (({ r with calls := [] } : Registered).onEvent env names e).calls = g := by
  have updated (pid : Int32) : SameRegistrations r
      (({ r with calls := [] } : Registered).updateApplicationStateObserver pid) :=
    ⟨rfl, rfl, by simp [Registered.updateApplicationStateObserver], rfl⟩
  cases e with
  | enable event => exact absurd rfl (enable event)
  | disable event => exact absurd rfl (disable event)
  | start event =>
    simp only [Registered.onEvent]
    split
    · exact ⟨updated event.pid, rfl⟩
    · exact ⟨⟨rfl, rfl, rfl, rfl⟩, rfl⟩
  | withOptionsStart event =>
    simp only [Registered.onEvent]
    split
    · exact ⟨updated event.pid, rfl⟩
    · exact ⟨⟨rfl, rfl, rfl, rfl⟩, rfl⟩
  | getCooperateState event => exact ⟨updated event.pid, rfl⟩
  | _ => exact ⟨⟨rfl, rfl, rfl, rfl⟩, rfl⟩

end Steps

section Runs

variable {l : Stimulus} {s : Enabling}

theorem registered_next : registered (s.next l).machine =
    ({ registered s.machine with calls := [] } : Registered).onEvent l.1
      s.machine.machine.clientBundleNames l.2 :=
  registered_onEvent l.1 { s.machine with effects := [] } l.2

theorem registrars_next : (s.next l).registrars =
    s.registrars.takeAll s.machine.machine.appStateObserver
      (registered (s.next l).machine).calls := rfl

theorem watched_eq (s : Enabling) :
    s.watched = s.registrars.retained ++ (registered s.machine).appStateObserver.toList := rfl

/-- What is in step is at most one of each kind. -/
theorem atMostOne_of_inStep (h : InStep (registered s.machine) s.registrars) : s.AtMostOne := by
  cases enabled : (registered s.machine).isCooperateEnable with
  | true =>
    obtain ⟨⟨observer, commonEvents, -⟩, watching, ⟨-, monitors⟩, ⟨-, preMonitors⟩, devListeners⟩ :=
      h.enabled enabled
    obtain ⟨pid, watching⟩ := Option.isSome_iff_exists.mp watching
    constructor
    · simp [commonEvents]
    · simp [watched_eq, h.retained, watching]
    · simp [monitors]
    · simp [preMonitors]
    · simp [devListeners]
  | false =>
    obtain ⟨commonEvents, watching, ⟨-, monitors⟩, ⟨-, preMonitors⟩, devListeners⟩ :=
      h.disabled enabled
    constructor
    · simp [commonEvents]
    · simp [watched_eq, h.retained, watching]
    · simp [monitors]
    · simp [preMonitors]
    · simp [devListeners]

theorem nothingLeft_of_disabled (h : InStep (registered s.machine) s.registrars)
    (off : (registered s.machine).isCooperateEnable = false) : s.NothingLeft := by
  obtain ⟨commonEvents, watching, ⟨-, monitors⟩, ⟨-, preMonitors⟩, devListeners⟩ := h.disabled off
  exact ⟨commonEvents, by simp [watched_eq, h.retained, watching], monitors, preMonitors,
    devListeners⟩

theorem inStep_enable (h : InStep (registered s.machine) s.registrars)
    (registers : Registers l) {event : EnableCooperateEvent} (enable : l.2 = .enable event)
    (off : (registered s.machine).isCooperateEnable = false) :
    InStep (registered (s.next l).machine) (s.next l).registrars := by
  obtain ⟨commonEvents, unwatched, ⟨-, monitors⟩, ⟨-, preMonitors⟩, devListeners⟩ := h.disabled off
  have unwatched : s.machine.machine.appStateObserver = none := unwatched
  have after := registered_next (l := l) (s := s)
  have registers' : Registers (l.1, .enable event) := enable ▸ registers
  rw [enable, Registered.onEvent, enable_of_disabled h off registers'] at after
  rw [registrars_next, after]
  refine ⟨fun _ => ?_, fun off => by contradiction, ?_⟩
  · simp [Registrars.takeAll, Registrars.take, commonEvents, unwatched, monitors, preMonitors,
      devListeners, Int32.not_lt.mpr registers.monitor, Int32.not_lt.mpr registers.preMonitor,
      registers.monitor, registers.preMonitor]
  · simp [Registrars.takeAll, Registrars.take, unwatched, h.retained,
      Int32.not_lt.mpr registers.monitor, Int32.not_lt.mpr registers.preMonitor]

/-- A second ENABLE leaves two observers of common events. -/
theorem not_atMostOne_enable (h : InStep (registered s.machine) s.registrars)
    {event : EnableCooperateEvent} (enable : l.2 = .enable event)
    (on : (registered s.machine).isCooperateEnable = true) : ¬ (s.next l).AtMostOne := by
  obtain ⟨⟨observer, commonEvents, -⟩, -⟩ := h.enabled on
  intro one
  have one := one.commonEvents
  rw [registrars_next, registered_next, enable, Registered.onEvent,
    enable_of_enabled h on event] at one
  cases appMgr : l.1.getAppMgr <;>
    simp [Registrars.takeAll, Registrars.take, commonEvents, appMgr] at one

/-- Without the application manager the observer of application states stays. -/
theorem not_nothingLeft_disable (h : InStep (registered s.machine) s.registrars)
    {event : DisableCooperateEvent} (disable : l.2 = .disable event)
    (on : (registered s.machine).isCooperateEnable = true) (appMgr : l.1.getAppMgr = false) :
    ¬ (s.next l).NothingLeft := by
  obtain ⟨-, watching, -⟩ := h.enabled on
  obtain ⟨pid, watching⟩ := Option.isSome_iff_exists.mp watching
  have after := congrArg Registered.appStateObserver (registered_next (l := l) (s := s))
  rw [disable, Registered.onEvent, Registered.appStateObserver_disable, appMgr] at after
  have kept : (registered (s.next l).machine).appStateObserver = some pid := after.trans watching
  intro left
  have none := left.applicationStates
  rw [watched_eq, kept] at none
  simp at none

theorem inStep_disable (h : InStep (registered s.machine) s.registrars)
    {event : DisableCooperateEvent} (disable : l.2 = .disable event)
    (appMgr : (registered s.machine).isCooperateEnable = true → l.1.getAppMgr = true) :
    InStep (registered (s.next l).machine) (s.next l).registrars ∧
      (registered (s.next l).machine).isCooperateEnable = false := by
  have after := registered_next (l := l) (s := s)
  rw [disable, Registered.onEvent] at after
  cases enabled : (registered s.machine).isCooperateEnable with
  | true =>
    obtain ⟨⟨observer, commonEvents, handle⟩, -, ⟨-, monitors⟩, ⟨-, preMonitors⟩, -⟩ :=
      h.enabled enabled
    rw [disable_of_enabled h enabled (appMgr enabled)] at after
    rw [registrars_next, after]
    refine ⟨⟨fun on => by contradiction, fun _ => ?_, ?_⟩, rfl⟩
    · simp [Registrars.takeAll, Registrars.take, commonEvents, handle, monitors, preMonitors]
    · simp [Registrars.takeAll, Registrars.take, handle, h.retained]
  | false =>
    obtain ⟨commonEvents, unwatched, monitors, preMonitors, -⟩ := h.disabled enabled
    rw [disable_of_disabled h enabled] at after
    rw [registrars_next, after]
    refine ⟨⟨fun on => by simp [enabled] at on, fun _ => ?_, ?_⟩, enabled⟩
    · cases handle : s.registrars.observer <;>
        simp [Registrars.takeAll, Registrars.take, commonEvents, unwatched, monitors,
          preMonitors, handle]
    · cases handle : s.registrars.observer <;>
        simp [Registrars.takeAll, Registrars.take, handle, h.retained]

theorem inStep_other (h : InStep (registered s.machine) s.registrars)
    (enable : ∀ event, l.2 ≠ .enable event) (disable : ∀ event, l.2 ≠ .disable event) :
    InStep (registered (s.next l).machine) (s.next l).registrars := by
  obtain ⟨⟨monitorId, preMonitorId, watching, enabled⟩, taken⟩ :=
    @sameRegistrations_onEvent l.1 (registered s.machine) s.machine.machine.clientBundleNames l.2
      enable disable s.machine.machine.appStateObserver s.registrars
  rw [registrars_next, registered_next, taken]
  refine ⟨fun on => ?_, fun off => ?_, h.retained⟩
  · rw [enabled] at on
    obtain ⟨commonEvents, watched, monitors, preMonitors, devListeners⟩ := h.enabled on
    exact ⟨commonEvents, by rw [watching, watched], by rw [monitorId]; exact monitors,
      by rw [preMonitorId]; exact preMonitors, devListeners⟩
  · rw [enabled] at off
    obtain ⟨commonEvents, unwatched, monitors, preMonitors, devListeners⟩ := h.disabled off
    refine ⟨commonEvents, ?_, by rw [monitorId]; exact monitors,
      by rw [preMonitorId]; exact preMonitors, devListeners⟩
    rw [← Option.not_isSome_iff_eq_none, watching, unwatched]
    simp

theorem inStep_next (registers : Registers l)
    (h : InStep (registered s.machine) s.registrars) (once : s.EnabledOnce l) :
    InStep (registered (s.next l).machine) (s.next l).registrars := by
  by_cases enable : ∃ event, l.2 = .enable event
  · obtain ⟨event, enable⟩ := enable
    exact inStep_enable h registers enable (once.off event enable)
  · by_cases disable : ∃ event, l.2 = .disable event
    · obtain ⟨event, disable⟩ := disable
      exact (inStep_disable h disable (once.takenBack event disable)).1
    · push Not at enable disable
      exact inStep_other h enable disable

theorem balanced_iff (registers : Registers l)
    (h : InStep (registered s.machine) s.registrars) : s.Balanced l ↔ s.EnabledOnce l := by
  constructor
  · intro balanced
    constructor
    · intro event enable
      by_contra on
      have on : (registered s.machine).isCooperateEnable = true := Bool.not_eq_false _ ▸ on
      exact not_atMostOne_enable h enable on balanced.atMostOne
    · intro event disable on
      by_contra absent
      exact not_nothingLeft_disable h disable on (Bool.not_eq_true _ ▸ absent)
        (balanced.disabled event disable)
  · intro once
    refine ⟨atMostOne_of_inStep (inStep_next registers h once), fun event disable => ?_⟩
    obtain ⟨after, off⟩ := inStep_disable h disable (once.takenBack event disable)
    exact nothingLeft_of_disabled after off

end Runs

/-- The device before its first event. -/
def start (settings : InputSettings) : Enabling := { machine := fresh settings }

theorem inStep_start (settings : InputSettings) :
    InStep (registered (start settings).machine) (start settings).registrars where
  enabled on := by contradiction
  disabled _ := by
    have negative : (-1 : Int32) < 0 := by decide
    exact ⟨rfl, rfl, ⟨negative, rfl⟩, ⟨negative, rfl⟩, rfl⟩
  retained := rfl

/-- ENABLE, from one client and then from another. -/
def enabledTwice : List Stimulus :=
  [({ localNetworkId := [1] }, .enable { tokenId := 0, pid := 7, userData := 0 }),
    ({ localNetworkId := [1] }, .enable { tokenId := 0, pid := 8, userData := 0 })]

theorem enabledTwice_registers : ∀ l ∈ enabledTwice, Registers l := by
  intro l mem
  simp only [enabledTwice, List.mem_cons, List.not_mem_nil, or_false] at mem
  rcases mem with rfl | rfl <;> exact ⟨by decide, by decide, fun _ _ => rfl, rfl⟩

end Enabling

end DeviceStatus.Cooperation
