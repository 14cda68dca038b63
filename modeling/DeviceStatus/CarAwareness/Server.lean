import DeviceStatus.Library.Transition
import Mathlib.Algebra.BigOperators.Group.Finset.Basic
import Mathlib.Data.Fintype.Basic

/-!
# Subscriptions to car awareness

The clients of a feature are kept under one lock and its algorithm under another. The first client
of a feature is listed before the algorithm is started, and taken back when the start fails. One
death recipient is registered with the callback of a client for each feature it subscribes to.

## Main definitions

* `CarAwarenessServer`, `CarAwarenessServer.next` — the clients, the algorithms and the calls in
  progress, one critical section.
* `CarAwarenessServer.Matching` — what is expected when no call is in progress.
* `CarAwarenessServer.Undisturbed` — the sections that do not get in each other's way.
-/

namespace DeviceStatus.CarAwareness

open Transition.System

inductive Feature where
  | spatialMotion
  | realTimeWeather
  | refueling
  | spatialPoint
  | spatialGesture
  | carStatus
  | carCfg
  | habitRecommendation
  deriving DecidableEq

instance : Fintype Feature where
  elems := {.spatialMotion, .realTimeWeather, .refueling, .spatialPoint, .spatialGesture,
    .carStatus, .carCfg, .habitRecommendation}
  complete feature := by cases feature <;> decide

/-- `FEATURE_TYPE_TO_NAME`. -/
def featureTypeToName : List (Int32 × Feature) :=
  [(101, .spatialMotion), (102, .realTimeWeather), (103, .refueling), (201, .spatialPoint),
    (202, .spatialGesture), (203, .carStatus), (204, .carCfg), (205, .habitRecommendation)]

inductive Permission where
  | spatialAction
  | weather
  | energyRefill
  deriving DecidableEq

structure CallingContext where
  pid : ℕ
  /-- `CheckSystemCall` -/
  system : Bool
  granted : Permission → Bool

inductive Result where
  | retOk
  | retErr
  | commonPermissionCheckError
  | commonNotSystemApp
  | carAwarenessSpecificErr
  deriving DecidableEq

def checkPermission (context : CallingContext) (permission : Permission) : Result :=
  if context.granted permission then .retOk else .commonPermissionCheckError

def checkSubPermissionByType (context : CallingContext) (type : Int32) : Result :=
  if type ≥ 200 then if context.system then .retOk else .commonNotSystemApp
  else if context.system then .retOk
  else if type = 101 then checkPermission context .spatialAction
  else if type = 102 then checkPermission context .weather
  else if type = 103 then checkPermission context .energyRefill
  else .carAwarenessSpecificErr

/-- `CarAwarenessClientInfo`, with the call that listed the client. -/
structure ClientInfo where
  pid : ℕ
  /-- the remote object of the callback -/
  cb : ℕ
  call : ℕ
  deriving DecidableEq

/-- A call between its critical sections. -/
structure Pending where
  feature : Feature
  pid : ℕ
  /-- the algorithm could not be started, the client is to be taken back -/
  failed : Bool := false
  deriving DecidableEq

structure CarAwarenessServer where
  /-- a feature without a client has no entry -/
  callbacks : Feature → List ClientInfo := fun _ => []
  /-- the features whose algorithm is subscribed -/
  running : Finset Feature := ∅
  pending : ℕ → Option Pending := fun _ => none
  calls : ℕ := 0
  /-- how often `deathRecipient_` is registered with a remote object -/
  recipients : ℕ → ℕ := fun _ => 0
  dead : Finset ℕ := ∅
  /-- the deaths that are reported and not handled yet -/
  notices : Finset ℕ := ∅
  /-- the call by which a client has subscribed, if the call did not fail and the client has neither
  unsubscribed nor died since -/
  subscribed : Feature → ℕ → Option ℕ := fun _ _ => none

namespace CarAwarenessServer

inductive Label where
  /-- the first section of `SubscribeCapability`, `linked` telling whether the death recipient of a
  living object is registered -/
  | subscribeCapability (context : CallingContext) (type : Int32) (cb : ℕ) (linked : Bool)
  | subscribeAlgo (call : ℕ) (started : Bool)
  /-- the section after a failed start -/
  | takeBack (call : ℕ)
  | unSubscribeCapability (context : CallingContext) (type : Int32)
  | died (cb : ℕ)
  | onCarAwarenessCallbackDied (cb : ℕ)

/-- Registering the recipient again counts, or does nothing. -/
def link (counted : Bool) (n : ℕ) : ℕ := if counted then n + 1 else 1

def unlink (counted : Bool) (n : ℕ) : ℕ := if counted then n - 1 else 0

/-- The clients of a feature become others. -/
def setCallbacks (feature : Feature) (clients : List ClientInfo) (s : CarAwarenessServer) :
    Feature → List ClientInfo :=
  fun f => if f = feature then clients else s.callbacks f

def setSubscribed (feature : Feature) (pid : ℕ) (call : Option ℕ) (s : CarAwarenessServer) :
    Feature → ℕ → Option ℕ :=
  fun f p => if f = feature ∧ p = pid then call else s.subscribed f p

def setPending (call : ℕ) (p : Option Pending) (s : CarAwarenessServer) : ℕ → Option Pending :=
  fun c => if c = call then p else s.pending c

/-- `AddClientToCallbacks`. -/
def addClientToCallbacks (counted : Bool) (feature : Feature) (info : ClientInfo) (linked : Bool)
    (s : CarAwarenessServer) : Result × CarAwarenessServer :=
  if ∃ client ∈ s.callbacks feature, client.pid = info.pid then (.retErr, s)
  else if linked = false ∨ info.cb ∈ s.dead then (.retErr, s)
  else
    (.retOk,
      { s with
        callbacks := s.setCallbacks feature (s.callbacks feature ++ [info])
        recipients := fun cb =>
          if cb = info.cb then link counted (s.recipients cb) else s.recipients cb
        subscribed := s.setSubscribed feature info.pid (some info.call) })

/-- The result, unless the call goes on to start the algorithm. -/
def subscribeCapability (counted : Bool) (context : CallingContext) (type : Int32) (cb : ℕ)
    (linked : Bool) (s : CarAwarenessServer) : Option Result × CarAwarenessServer :=
  if checkSubPermissionByType context type ≠ .retOk then
    (some (checkSubPermissionByType context type), s)
  else match featureTypeToName.lookup type with
    | none => (some .carAwarenessSpecificErr, s)
    | some feature =>
      let first := s.callbacks feature = []
      let info := { pid := context.pid, cb, call := s.calls }
      let (result, s) := s.addClientToCallbacks counted feature info linked
      if first ∧ result = .retOk then
        (none,
          { s with
            calls := s.calls + 1
            pending := s.setPending s.calls (some { feature, pid := context.pid }) })
      else (some result, { s with calls := s.calls + 1 })

/-- `SubscribeAlgo`. -/
def subscribeAlgo (call : ℕ) (started : Bool) (s : CarAwarenessServer) : CarAwarenessServer :=
  match s.pending call with
  | some { feature, pid, failed := false } =>
    if started then
      { s with running := insert feature s.running, pending := s.setPending call none }
    else { s with pending := s.setPending call (some { feature, pid, failed := true }) }
  | _ => s

/-- `EraseCallback`, with `UnSubscribeAlgo` for the last client. -/
def eraseCallback (counted : Bool) (feature : Feature) (pid : ℕ) (s : CarAwarenessServer) :
    CarAwarenessServer :=
  if s.callbacks feature = [] then s
  else
    let gone := (s.callbacks feature).filter (·.pid = pid)
    let rest := (s.callbacks feature).filter (·.pid ≠ pid)
    { s with
      callbacks := s.setCallbacks feature rest
      recipients := gone.foldl (fun recipients client cb =>
        if cb = client.cb then unlink counted (recipients cb) else recipients cb) s.recipients
      running := if rest = [] then s.running.erase feature else s.running }

def takeBack (counted : Bool) (call : ℕ) (s : CarAwarenessServer) : CarAwarenessServer :=
  match s.pending call with
  | some { feature, pid, failed := true } =>
    { s.eraseCallback counted feature pid with
      pending := s.setPending call none
      subscribed :=
        if s.subscribed feature pid = some call then s.setSubscribed feature pid none
        else s.subscribed }
  | _ => s

def unSubscribeCapability (counted : Bool) (context : CallingContext) (type : Int32)
    (s : CarAwarenessServer) : CarAwarenessServer :=
  if checkSubPermissionByType context type ≠ .retOk then s
  else match featureTypeToName.lookup type with
    | none => s
    | some feature =>
      { s.eraseCallback counted feature context.pid with
        subscribed := s.setSubscribed feature context.pid none }

/-- A remote object dies; its death is reported if a recipient is registered. -/
def died (cb : ℕ) (s : CarAwarenessServer) : CarAwarenessServer :=
  { s with
    dead := insert cb s.dead
    notices := if cb ∉ s.dead ∧ 0 < s.recipients cb then insert cb s.notices else s.notices
    subscribed := fun feature pid =>
      if ∃ client ∈ s.callbacks feature, client.pid = pid ∧ client.cb = cb then none
      else s.subscribed feature pid }

def onCarAwarenessCallbackDied (counted : Bool) (cb : ℕ) (s : CarAwarenessServer) :
    CarAwarenessServer :=
  if cb ∈ s.notices then
    let rest := fun feature => (s.callbacks feature).filter (·.cb ≠ cb)
    { s with
      callbacks := rest
      running := s.running.filter fun feature => s.callbacks feature = [] ∨ rest feature ≠ []
      recipients := fun other =>
        if other = cb then unlink counted (s.recipients other) else s.recipients other
      notices := s.notices.erase cb }
  else s

def next (counted : Bool) : Label → CarAwarenessServer → CarAwarenessServer
  | .subscribeCapability context type cb linked, s =>
    (s.subscribeCapability counted context type cb linked).2
  | .subscribeAlgo call started, s => s.subscribeAlgo call started
  | .takeBack call, s => s.takeBack counted call
  | .unSubscribeCapability context type, s => s.unSubscribeCapability counted context type
  | .died cb, s => s.died cb
  | .onCarAwarenessCallbackDied cb, s => s.onCarAwarenessCallbackDied counted cb

/-- No call is in progress. -/
def Quiet (s : CarAwarenessServer) : Prop := (∀ call, s.pending call = none) ∧ s.notices = ∅

/-- An algorithm runs exactly if its feature has clients, every client that has subscribed is
listed, and no callback of a dead client is. -/
structure Matching (s : CarAwarenessServer) : Prop where
  running : ∀ feature, feature ∈ s.running ↔ s.callbacks feature ≠ []
  listed : ∀ feature pid, s.subscribed feature pid ≠ none →
    ∃ client ∈ s.callbacks feature, client.pid = pid
  alive : ∀ feature, ∀ client ∈ s.callbacks feature, client.cb ∉ s.dead

/-- The callback that a client leaves with a feature is not in use elsewhere, or its registrations
are counted. -/
def Unshared (counted : Bool) (feature : Feature) (pid : ℕ) (s : CarAwarenessServer) : Prop :=
  counted = true ∨ ∀ client ∈ s.callbacks feature, client.pid = pid →
    ∀ f, ∀ other ∈ s.callbacks f, other.cb = client.cb → f = feature ∧ other.pid = pid

/-- An algorithm is started while its feature has clients; a call that takes its client back finds
no entry of a later call of that client, and leaves other clients behind only if the algorithm is
running or about to be started by another call; callbacks in use elsewhere are not unlinked. -/
def Undisturbed (counted : Bool) (l : Label) (s : CarAwarenessServer) : Prop :=
  match l with
  | .subscribeAlgo call true => ∀ p, s.pending call = some p → s.callbacks p.feature ≠ []
  | .takeBack call => ∀ p, s.pending call = some p → p.failed = true →
    (∀ client ∈ s.callbacks p.feature, client.pid = p.pid → client.call = call) ∧
    ((∃ client ∈ s.callbacks p.feature, client.pid ≠ p.pid) → p.feature ∈ s.running ∨
      ∃ other q, other ≠ call ∧ s.pending other = some q ∧ q.feature = p.feature) ∧
    s.Unshared counted p.feature p.pid
  | .unSubscribeCapability context type => ∀ feature, featureTypeToName.lookup type = some feature →
    s.Unshared counted feature context.pid
  | _ => True

/-! ### What a step keeps -/

/-- How often a callback is listed. -/
def uses (callbacks : Feature → List ClientInfo) (cb : ℕ) : ℕ :=
  ∑ feature, (callbacks feature).countP (·.cb = cb)

/-- The registrations with a callback suffice for its uses. -/
def Enough (counted : Bool) (uses recipients : ℕ) : Prop :=
  if counted then uses ≤ recipients else 0 < uses → 0 < recipients

structure Good (counted : Bool) (s : CarAwarenessServer) : Prop where
  clients : ∀ feature ∈ s.running, s.callbacks feature ≠ []
  algorithm : ∀ feature, s.callbacks feature ≠ [] → feature ∈ s.running ∨
    ∃ call p, s.pending call = some p ∧ p.feature = feature
  fresh : ∀ call, s.calls ≤ call → s.pending call = none
  listed : ∀ feature pid call, s.subscribed feature pid = some call →
    ∃ client ∈ s.callbacks feature, client.pid = pid ∧ client.call = call ∧ client.cb ∉ s.dead
  noticed : ∀ feature, ∀ client ∈ s.callbacks feature, client.cb ∈ s.dead → client.cb ∈ s.notices
  late : s.notices ⊆ s.dead
  linked : ∀ cb ∉ s.dead, Enough counted (uses s.callbacks cb) (s.recipients cb)

variable {counted : Bool} {s : CarAwarenessServer} {feature : Feature} {pid call cb : ℕ}

theorem good_start : Good counted {} := by
  constructor <;> simp [Enough, uses]

theorem Good.matching (h : s.Good counted) (quiet : s.Quiet) : s.Matching := by
  obtain ⟨none, handled⟩ := quiet
  constructor
  · intro feature
    refine ⟨h.clients feature, fun some => ?_⟩
    obtain runs | ⟨call, p, pending, -⟩ := h.algorithm feature some
    · exact runs
    · simp [none] at pending
  · intro feature pid subscribed
    obtain ⟨call, eq⟩ := Option.ne_none_iff_exists'.mp subscribed
    obtain ⟨client, mem, same, -⟩ := h.listed feature pid call eq
    exact ⟨client, mem, same⟩
  · intro feature client mem dead
    have notice := h.noticed feature client mem dead
    simp [handled] at notice

theorem uses_setCallbacks (feature : Feature) (clients : List ClientInfo) (s : CarAwarenessServer)
    (cb : ℕ) : uses (s.setCallbacks feature clients) cb + (s.callbacks feature).countP (·.cb = cb) =
      uses s.callbacks cb + clients.countP (·.cb = cb) := by
  have before := Finset.add_sum_erase Finset.univ
    (fun f => (s.callbacks f).countP (·.cb = cb)) (Finset.mem_univ feature)
  have after := Finset.add_sum_erase Finset.univ
    (fun f => (s.setCallbacks feature clients f).countP (·.cb = cb)) (Finset.mem_univ feature)
  have others : ∑ f ∈ Finset.univ.erase feature,
      (s.setCallbacks feature clients f).countP (·.cb = cb) =
      ∑ f ∈ Finset.univ.erase feature, (s.callbacks f).countP (·.cb = cb) := by
    refine Finset.sum_congr rfl fun f other => ?_
    simp [setCallbacks, Finset.ne_of_mem_erase other]
  simp only [setCallbacks, if_true] at after others
  simp only [uses, setCallbacks]
  omega

theorem uses_pos_iff {callbacks : Feature → List ClientInfo} :
    0 < uses callbacks cb ↔ ∃ feature, ∃ client ∈ callbacks feature, client.cb = cb := by
  simp only [uses, Nat.pos_iff_ne_zero, ne_eq, Finset.sum_eq_zero_iff, Finset.mem_univ,
    true_implies, not_forall, List.countP_eq_zero, decide_eq_true_eq, exists_prop, not_not]

/-- What the registrations of those who go leave. -/
theorem unlink_gone (gone : List ClientInfo) (recipients : ℕ → ℕ) (cb : ℕ) :
    gone.foldl (fun recipients client cb =>
        if cb = client.cb then unlink counted (recipients cb) else recipients cb) recipients cb =
      if counted then recipients cb - gone.countP (·.cb = cb)
      else if ∃ client ∈ gone, client.cb = cb then 0 else recipients cb := by
  induction gone generalizing recipients with
  | nil => simp
  | cons client gone ih =>
    rw [List.foldl_cons, ih]
    cases counted with
    | true =>
      simp only [unlink, if_true, List.countP_cons, decide_eq_true_eq, eq_comm (a := cb)]
      split <;> omega
    | false =>
      by_cases later : ∃ client ∈ gone, client.cb = cb
      · simp [later]
      · simp [unlink, later, eq_comm (a := cb)]

theorem setCallbacks_ne {f : Feature} (clients : List ClientInfo) (other : f ≠ feature) :
    s.setCallbacks feature clients f = s.callbacks f :=
  if_neg other

theorem eraseCallback_callbacks (counted : Bool) (feature : Feature) (pid : ℕ)
    (s : CarAwarenessServer) : (s.eraseCallback counted feature pid).callbacks =
      s.setCallbacks feature ((s.callbacks feature).filter (·.pid ≠ pid)) := by
  unfold eraseCallback
  split
  next none =>
    funext f
    by_cases same : f = feature
    · simp [same, setCallbacks, none]
    · simp [setCallbacks, same]
  next => rfl

theorem eraseCallback_running (counted : Bool) (feature : Feature) (pid : ℕ)
    (s : CarAwarenessServer) (f : Feature) :
    f ∈ (s.eraseCallback counted feature pid).running ↔
      f ∈ s.running ∧ (f = feature → s.callbacks f = [] ∨
        (s.callbacks f).filter (·.pid ≠ pid) ≠ []) := by
  unfold eraseCallback
  grind

theorem eraseCallback_recipients (counted : Bool) (feature : Feature) (pid : ℕ)
    (s : CarAwarenessServer) (cb : ℕ) :
    (s.eraseCallback counted feature pid).recipients cb =
      if counted then
        s.recipients cb - ((s.callbacks feature).filter (·.pid = pid)).countP (·.cb = cb)
      else if ∃ client ∈ s.callbacks feature, client.pid = pid ∧ client.cb = cb then 0
      else s.recipients cb := by
  unfold eraseCallback
  split
  next none => simp [none]
  next => simp only [unlink_gone, List.mem_filter, decide_eq_true_eq, and_assoc]

@[simp] theorem eraseCallback_dead :
    (s.eraseCallback counted feature pid).dead = s.dead := by
  unfold eraseCallback
  split <;> rfl

@[simp] theorem eraseCallback_notices :
    (s.eraseCallback counted feature pid).notices = s.notices := by
  unfold eraseCallback
  split <;> rfl

@[simp] theorem eraseCallback_calls :
    (s.eraseCallback counted feature pid).calls = s.calls := by
  unfold eraseCallback
  split <;> rfl

@[simp] theorem eraseCallback_pending :
    (s.eraseCallback counted feature pid).pending = s.pending := by
  unfold eraseCallback
  split <;> rfl

/-- Callbacks that are not unlinked elsewhere keep enough registrations. -/
theorem Good.enough_erase (h : s.Good counted) (unshared : s.Unshared counted feature pid)
    (alive : cb ∉ s.dead) : Enough counted
      (uses (s.setCallbacks feature ((s.callbacks feature).filter (·.pid ≠ pid))) cb)
      ((s.eraseCallback counted feature pid).recipients cb) := by
  have before := h.linked cb alive
  rw [eraseCallback_recipients]
  cases counted with
  | true =>
    have count := uses_setCallbacks feature ((s.callbacks feature).filter (·.pid ≠ pid)) s cb
    have parts := List.countP_eq_countP_filter_add (s.callbacks feature) (·.cb = cb) (·.pid = pid)
    simp only [Enough, if_true] at before ⊢
    simp only [decide_not] at count ⊢
    omega
  | false =>
    have apart := unshared.resolve_left nofun
    simp only [Enough, Bool.false_eq_true, if_false] at before ⊢
    intro used
    obtain ⟨f, client, mem, rfl⟩ := uses_pos_iff.mp used
    have was : client ∈ s.callbacks f ∧ (f = feature → client.pid ≠ pid) := by
      unfold setCallbacks at mem
      grind
    rw [if_neg]
    · exact before (uses_pos_iff.mpr ⟨f, client, was.1, rfl⟩)
    · rintro ⟨gone, memGone, leaves, eq⟩
      obtain ⟨same, samePid⟩ := apart gone memGone leaves f client was.1 eq.symm
      exact was.2 same samePid

/-- The state after a client is listed. -/
def list (counted : Bool) (feature : Feature) (info : ClientInfo) (s : CarAwarenessServer) :
    CarAwarenessServer :=
  { s with
    callbacks := s.setCallbacks feature (s.callbacks feature ++ [info])
    recipients := fun cb =>
      if cb = info.cb then link counted (s.recipients cb) else s.recipients cb
    subscribed := s.setSubscribed feature info.pid (some info.call)
    calls := s.calls + 1
    pending :=
      if s.callbacks feature = [] then
        s.setPending s.calls (some { feature, pid := info.pid })
      else s.pending }

theorem subscribeCapability_cases (counted : Bool) (context : CallingContext) (type : Int32)
    (cb : ℕ) (linked : Bool) (s : CarAwarenessServer) :
    (s.subscribeCapability counted context type cb linked).2 = s ∨
    (s.subscribeCapability counted context type cb linked).2 = { s with calls := s.calls + 1 } ∨
    ∃ feature, cb ∉ s.dead ∧ (s.subscribeCapability counted context type cb linked).2 =
      s.list counted feature { pid := context.pid, cb, call := s.calls } := by
  unfold subscribeCapability
  split
  · exact .inl rfl
  · split
    · exact .inl rfl
    next feature _ =>
      right
      by_cases twice : ∃ client ∈ s.callbacks feature, client.pid = context.pid
      · left
        simp [addClientToCallbacks, twice]
      · by_cases refused : linked = false ∨ cb ∈ s.dead
        · left
          simp [addClientToCallbacks, twice, refused]
        · right
          have add : s.addClientToCallbacks counted feature
              { pid := context.pid, cb, call := s.calls } linked = _ :=
            (if_neg twice).trans (if_neg refused)
          refine ⟨feature, fun dead => refused (.inr dead), ?_⟩
          simp only [add, and_true, list]
          split <;> rfl

theorem list_pending (counted : Bool) (info : ClientInfo) (call : ℕ) :
    (s.list counted feature info).pending call =
      if s.callbacks feature = [] ∧ call = s.calls then some { feature, pid := info.pid }
      else s.pending call := by
  unfold list
  by_cases first : s.callbacks feature = []
  · simp [first, setPending]
  · simp [first]

theorem enough_link {used recipients : ℕ} (h : Enough counted used recipients) :
    Enough counted (used + 1) (link counted recipients) := by
  cases counted <;> simp_all [Enough, link]

/-- A client that is listed is registered once more. -/
theorem Good.enough_list (h : s.Good counted) (info : ClientInfo) (living : cb ∉ s.dead) :
    Enough counted (uses (s.list counted feature info).callbacks cb)
      ((s.list counted feature info).recipients cb) := by
  have before := h.linked cb living
  have count := uses_setCallbacks feature (s.callbacks feature ++ [info]) s cb
  simp only [List.countP_append, List.countP_singleton, decide_eq_true_eq] at count
  simp only [CarAwarenessServer.list]
  by_cases same : cb = info.cb
  · rw [if_pos same]
    rw [if_pos same.symm] at count
    rw [show uses _ cb = uses s.callbacks cb + 1 by omega]
    exact enough_link before
  · rw [if_neg same]
    rw [if_neg (Ne.symm same)] at count
    rw [show uses _ cb = uses s.callbacks cb by omega]
    exact before

theorem Good.list (h : s.Good counted) {info : ClientInfo} (alive : info.cb ∉ s.dead)
    (call : info.call = s.calls) : (s.list counted feature info).Good counted := by
  have grows (f : Feature) : s.callbacks f ⊆ (s.list counted feature info).callbacks f := by
    by_cases same : f = feature
    · simp [CarAwarenessServer.list, setCallbacks, same]
    · simp [CarAwarenessServer.list, setCallbacks, same]
  have mem (f : Feature) (client : ClientInfo)
      (mem : client ∈ (s.list counted feature info).callbacks f) :
      client ∈ s.callbacks f ∨ client = info := by
    simp only [CarAwarenessServer.list, setCallbacks] at mem
    grind
  constructor
  · intro f runs none
    exact h.clients f runs (List.subset_nil.mp (none ▸ grows f))
  · intro f some
    by_cases first : s.callbacks f = []
    · have same : f = feature := by
        by_contra other
        exact some ((setCallbacks_ne _ other).trans first)
      subst same
      exact .inr ⟨s.calls, _, by rw [list_pending, if_pos ⟨first, rfl⟩], rfl⟩
    · refine (h.algorithm f first).imp_right fun ⟨other, p, pending, same⟩ => ?_
      refine ⟨other, p, ?_, same⟩
      rw [list_pending, if_neg, pending]
      rintro ⟨-, rfl⟩
      simp [h.fresh s.calls le_rfl] at pending
  · intro later le
    have later_ne : later ≠ s.calls := (Nat.lt_of_succ_le le).ne'
    rw [list_pending, if_neg fun new => later_ne new.2]
    exact h.fresh later (Nat.le_of_succ_le le)
  · intro f p other subscribed
    by_cases new : f = feature ∧ p = info.pid
    · obtain ⟨rfl, rfl⟩ := new
      have same : some info.call = some other := by
        simpa [CarAwarenessServer.list, setSubscribed] using subscribed
      exact ⟨info, by simp [CarAwarenessServer.list, setCallbacks], rfl, by simpa using same, alive⟩
    · have before : s.subscribed f p = some other := by
        simpa [CarAwarenessServer.list, setSubscribed, new] using subscribed
      obtain ⟨client, inList, rest⟩ := h.listed f p other before
      exact ⟨client, grows f inList, rest⟩
  · intro f client inList dead
    obtain before | rfl := mem f client inList
    · exact h.noticed f client before dead
    · exact absurd dead alive
  · exact h.late
  · exact fun cb living => h.enough_list info living

theorem Good.subscribeCapability (h : s.Good counted) (context : CallingContext) (type : Int32)
    (cb : ℕ) (linked : Bool) :
    (s.subscribeCapability counted context type cb linked).2.Good counted := by
  obtain eq | eq | ⟨feature, alive, eq⟩ :=
    subscribeCapability_cases counted context type cb linked s
  · rw [eq]
    exact h
  · rw [eq]
    exact { h with fresh := fun call le => h.fresh call (Nat.le_of_succ_le le) }
  · rw [eq]
    exact h.list alive rfl

/-- Nothing that is done for one feature ends the start of another one. -/
theorem starts_setPending {p : Pending} {q : Option Pending} {f : Feature}
    (pending : s.pending call = some p) (other : f ≠ p.feature)
    (starts : ∃ call r, s.pending call = some r ∧ r.feature = f) :
    ∃ later r, s.setPending call q later = some r ∧ r.feature = f := by
  obtain ⟨later, r, eq, rfl⟩ := starts
  refine ⟨later, r, (if_neg ?_).trans eq, rfl⟩
  rintro rfl
  exact other (congrArg Pending.feature (Option.some.inj (eq.symm.trans pending)))

theorem Good.fresh_setPending (h : s.Good counted) {p : Pending}
    (pending : s.pending call = some p) (q : Option Pending) (later : ℕ) (le : s.calls ≤ later) :
    s.setPending call q later = none := by
  have none := h.fresh later le
  refine (if_neg ?_).trans none
  rintro rfl
  simp [none] at pending

theorem Good.subscribeAlgo (h : s.Good counted) (started : Bool)
    (ok : s.Undisturbed counted (.subscribeAlgo call started)) :
    (s.subscribeAlgo call started).Good counted := by
  unfold CarAwarenessServer.subscribeAlgo
  split
  next feature pid pending =>
    have fresh (q : Option Pending) := h.fresh_setPending pending q
    cases started with
    | true =>
      refine { h with clients := ?_, algorithm := ?_, fresh := fresh none }
      · intro f runs
        obtain rfl | before := Finset.mem_insert.mp runs
        · exact ok _ pending
        · exact h.clients f before
      · intro f some
        by_cases same : f = feature
        · exact .inl (same ▸ Finset.mem_insert_self f _)
        · exact (h.algorithm f some).imp Finset.mem_insert_of_mem (starts_setPending pending same)
    | false =>
      refine { h with algorithm := ?_, fresh := fresh _ }
      intro f some
      by_cases same : f = feature
      · subst same
        exact .inr ⟨call, _, if_pos rfl, rfl⟩
      · exact (h.algorithm f some).imp_right (starts_setPending pending same)
  next => exact h

/-- What is kept when a client is erased whose subscription is forgotten too. -/
theorem Good.eraseCallback (h : s.Good counted) (unshared : s.Unshared counted feature pid)
    (pending : ℕ → Option Pending) (subscribed : Feature → ℕ → Option ℕ)
    (fresh : ∀ call, s.calls ≤ call → pending call = none)
    (algorithm : ∀ f, (f = feature → ∃ client ∈ s.callbacks f, client.pid ≠ pid) →
      s.callbacks f ≠ [] → f ∈ s.running ∨ ∃ call p, pending call = some p ∧ p.feature = f)
    (forgotten : ∀ f p call, subscribed f p = some call →
      s.subscribed f p = some call ∧ (f = feature → p = pid →
        ∀ client ∈ s.callbacks f, client.pid = pid → client.call ≠ call)) :
    Good counted { s.eraseCallback counted feature pid with pending, subscribed } := by
  have mem (f : Feature) (client : ClientInfo) :
      client ∈ (s.eraseCallback counted feature pid).callbacks f ↔
        client ∈ s.callbacks f ∧ (f = feature → client.pid ≠ pid) := by
    rw [eraseCallback_callbacks]
    unfold setCallbacks
    grind
  constructor
  · intro f runs
    obtain ⟨before, rest⟩ := (eraseCallback_running _ _ _ _ _).mp runs
    have some := h.clients f before
    simp only [eraseCallback_callbacks, setCallbacks]
    split
    next same => exact same ▸ (rest same).resolve_left some
    next => exact some
  · intro f some
    obtain ⟨client, inList⟩ := List.exists_mem_of_ne_nil _ some
    obtain ⟨before, stays⟩ := (mem f client).mp inList
    refine (algorithm f (fun same => ⟨client, before, stays same⟩)
      (List.ne_nil_of_mem before)).imp_left fun runs => ?_
    refine (eraseCallback_running _ _ _ _ _).mpr ⟨runs, fun same => .inr ?_⟩
    exact List.ne_nil_of_mem (List.mem_filter.mpr ⟨before, by simpa using stays same⟩)
  · simpa using fresh
  · intro f p call new
    obtain ⟨before, gone⟩ := forgotten f p call new
    obtain ⟨client, inList, rfl, rfl, alive⟩ := h.listed f p call before
    refine ⟨client, (mem f client).mpr ⟨inList, fun same eq => ?_⟩, rfl, rfl, by simpa using alive⟩
    exact gone same eq client inList eq rfl
  · intro f client inList dead
    rw [eraseCallback_dead] at dead
    simpa using h.noticed f client ((mem f client).mp inList).1 dead
  · simpa using h.late
  · intro cb alive
    rw [eraseCallback_dead] at alive
    simp only [eraseCallback_callbacks]
    exact h.enough_erase unshared alive

theorem Good.takeBack (h : s.Good counted) (ok : s.Undisturbed counted (.takeBack call)) :
    (s.takeBack counted call).Good counted := by
  unfold CarAwarenessServer.takeBack
  split
  next feature pid pending =>
    obtain ⟨own, others, unshared⟩ := ok _ pending rfl
    apply h.eraseCallback unshared
    · exact h.fresh_setPending pending none
    · intro f rest some
      by_cases same : f = feature
      · subst same
        refine (others (rest rfl)).imp_right fun ⟨other, q, ne, eq, of⟩ => ?_
        exact ⟨other, q, (if_neg ne).trans eq, of⟩
      · exact (h.algorithm f some).imp_right (starts_setPending pending same)
    · intro f p later new
      split at new
      next => unfold setSubscribed at new; grind
      next => grind
  next => exact h

theorem Good.unSubscribeCapability (h : s.Good counted) (context : CallingContext) (type : Int32)
    (ok : s.Undisturbed counted (.unSubscribeCapability context type)) :
    (s.unSubscribeCapability counted context type).Good counted := by
  unfold CarAwarenessServer.unSubscribeCapability
  split
  · exact h
  · split
    · exact h
    next feature lookup =>
      have erased := h.eraseCallback (ok feature lookup) s.pending
        (s.setSubscribed feature context.pid none) h.fresh
        (fun f _ some => h.algorithm f some) (by unfold setSubscribed; grind)
      simpa using erased

theorem Good.died (h : s.Good counted) (cb : ℕ) : (s.died cb).Good counted := by
  refine { h with listed := ?_, noticed := ?_, late := ?_, linked := ?_ }
  · intro feature pid call subscribed
    simp only [CarAwarenessServer.died] at subscribed ⊢
    split at subscribed
    next => exact absurd subscribed nofun
    next others =>
      obtain ⟨client, inList, rfl, same, alive⟩ := h.listed feature pid call subscribed
      refine ⟨client, inList, rfl, same, Finset.mem_insert.not.mpr ?_⟩
      rintro (rfl | dead)
      · exact others ⟨client, inList, rfl, rfl⟩
      · exact alive dead
  · intro feature client inList dead
    simp only [CarAwarenessServer.died] at dead ⊢
    by_cases before : client.cb ∈ s.dead
    · have notice := h.noticed feature client inList before
      split
      · exact Finset.mem_insert_of_mem notice
      · exact notice
    · -- the callback that dies now is in use, so its recipient is registered
      obtain rfl := (Finset.mem_insert.mp dead).resolve_right before
      have used : 0 < uses s.callbacks client.cb := uses_pos_iff.mpr ⟨_, client, inList, rfl⟩
      have linked := h.linked client.cb before
      have registered : 0 < s.recipients client.cb := by
        unfold Enough at linked
        grind
      rw [if_pos ⟨before, registered⟩]
      exact Finset.mem_insert_self _ _
  · have late := h.late
    simp only [CarAwarenessServer.died]
    split
    · exact Finset.insert_subset_insert _ late
    · exact late.trans (Finset.subset_insert _ _)
  · exact fun other alive => h.linked other fun dead => alive (Finset.mem_insert_of_mem dead)

theorem Good.onCarAwarenessCallbackDied (h : s.Good counted) (cb : ℕ) :
    (s.onCarAwarenessCallbackDied counted cb).Good counted := by
  unfold CarAwarenessServer.onCarAwarenessCallbackDied
  split
  next notice =>
    have dead := h.late notice
    constructor
    · intro f runs
      obtain ⟨before, rest⟩ := Finset.mem_filter.mp runs
      exact rest.resolve_left (h.clients f before)
    · intro f some
      obtain ⟨client, inList⟩ := List.exists_mem_of_ne_nil _ some
      have before := List.ne_nil_of_mem (List.mem_filter.mp inList).1
      exact (h.algorithm f before).imp_left fun runs => Finset.mem_filter.mpr ⟨runs, .inr some⟩
    · exact h.fresh
    · intro f p call subscribed
      obtain ⟨client, inList, rfl, rfl, alive⟩ := h.listed f p call subscribed
      have other : client.cb ≠ cb := fun same => alive (same ▸ dead)
      exact ⟨client, List.mem_filter.mpr ⟨inList, by simpa using other⟩, rfl, rfl, alive⟩
    · intro f client inList isDead
      obtain ⟨before, other⟩ := List.mem_filter.mp inList
      exact Finset.mem_erase.mpr ⟨by simpa using other, h.noticed f client before isDead⟩
    · exact (Finset.erase_subset _ _).trans h.late
    · intro other alive
      have ne : other ≠ cb := fun same => alive (same ▸ dead)
      have same : uses (fun f => (s.callbacks f).filter (·.cb ≠ cb)) other =
          uses s.callbacks other := by
        refine Finset.sum_congr rfl fun f _ => ?_
        rw [List.countP_filter]
        refine List.countP_congr fun client _ => ?_
        simp only [ne_eq, decide_not, Bool.and_eq_true, decide_eq_true_eq, Bool.not_eq_true',
          decide_eq_false_iff_not, and_iff_left_iff_imp]
        exact fun eq => eq ▸ ne
      rw [same]
      simpa [ne] using h.linked other alive
  next => exact h

theorem Good.next (l : Label) (s : CarAwarenessServer) (h : s.Good counted)
    (ok : s.Undisturbed counted l) : (next counted l s).Good counted := by
  cases l with
  | subscribeCapability context type cb linked => exact h.subscribeCapability context type cb linked
  | subscribeAlgo call started => exact h.subscribeAlgo started ok
  | takeBack call => exact h.takeBack ok
  | unSubscribeCapability context type => exact h.unSubscribeCapability context type ok
  | died cb => exact h.died cb
  | onCarAwarenessCallbackDied cb => exact h.onCarAwarenessCallbackDied cb

/-- In every run whose sections do not get in each other's way, clients and algorithms match
whenever no call is in progress. -/
theorem matching_of_undisturbed (counted : Bool) (tr : List Label)
    (run : EachStep (next counted) (Undisturbed counted) {} tr)
    (quiet : (runFrom (next counted) {} tr).Quiet) : (runFrom (next counted) {} tr).Matching :=
  (run.invariant (Good.next) good_start).matching quiet

def systemApp (pid : ℕ) : CallingContext where
  pid
  system := true
  granted := fun _ => false

/-- A second client joins, the first one leaves, and the second one dies. -/
def sharing : List Label :=
  [.subscribeCapability (systemApp 1) 203 1 true, .subscribeAlgo 0 true,
    .subscribeCapability (systemApp 2) 203 2 true, .unSubscribeCapability (systemApp 1) 203,
    .died 2, .onCarAwarenessCallbackDied 2]

theorem matching_sharing : (runFrom (next true) {} sharing).Matching := by
  refine matching_of_undisturbed true sharing ?_ ⟨fun call => ?_, by decide +kernel⟩
  · refine .cons trivial (.cons ?_ (.cons trivial (.cons ?_ (.cons trivial (.cons trivial .nil)))))
    · rintro p ⟨⟩
      decide
    · exact fun _ _ => .inl rfl
  · by_cases first : call = 0
    · subst first; rfl
    · exact (if_neg first).trans (if_neg first)

/-- A client joins before the algorithm of the first one fails to start. -/
def joining : List Label :=
  [.subscribeCapability (systemApp 1) 203 1 true, .subscribeCapability (systemApp 2) 203 2 true,
    .subscribeAlgo 0 false, .takeBack 0]

/-- A client unsubscribes before its algorithm is started. -/
def leaving : List Label :=
  [.subscribeCapability (systemApp 1) 203 1 true, .unSubscribeCapability (systemApp 1) 203,
    .subscribeAlgo 0 true]

/-- The second client is left without an algorithm, and the algorithm without a client. -/
theorem clients_without_algorithm :
    ((runFrom (next true) {} joining).Quiet ∧ ¬ (runFrom (next true) {} joining).Matching) ∧
    (runFrom (next true) {} leaving).Quiet ∧ ¬ (runFrom (next true) {} leaving).Matching := by
  refine ⟨⟨⟨fun call => ?_, by decide⟩, fun matching => ?_⟩,
    ⟨fun call => ?_, by decide⟩, fun matching => ?_⟩
  · by_cases first : call = 0
    · subst first; rfl
    · exact (if_neg first).trans ((if_neg first).trans (if_neg first))
  · have running := (matching.running .carStatus).mpr (by decide +kernel)
    exact absurd running (by decide +kernel)
  · by_cases first : call = 0
    · subst first; rfl
    · exact (if_neg first).trans (if_neg first)
  · have clients := (matching.running .carStatus).mp (by decide +kernel)
    exact absurd clients (by decide +kernel)

end CarAwarenessServer

end DeviceStatus.CarAwareness
