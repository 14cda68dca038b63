import DeviceStatus.Library.Transition
import Mathlib.Data.Int.Notation
import Mathlib.Logic.Function.Basic

/-!
# Algorithms that share the accelerometer

Three algorithms are handed the samples of one sensor. The manager counts for each algorithm how
often it is enabled, subscribes the sensor whenever one is enabled, and unsubscribes it whenever
one is switched off. Samples wait in a list for the thread that hands them on; it takes a sample
off the list and hands it on in two steps, each under a lock of its own.

## Main definitions

* `AlgoMgr`, `AlgoMgr.enable`, `AlgoMgr.disable`, `AlgoMgr.next` — the manager with the sensor data
  below it.
* `AlgoMgr.pending` — the samples that have not been handed on.
* `AlgoMgr.Served` — what the algorithms can rely on.
* `AlgoMgr.Alone` — an algorithm is switched off only as the last one, and none is switched on or
  off while samples are pending.
-/

namespace DeviceStatus.Service

open Transition.System

variable {Sample : Type*}

inductive AlgoType where
  | absoluteStill
  | horizontalPosition
  | verticalPosition
  deriving DecidableEq

inductive AlgoResult where
  | retOk
  | retErr
  deriving DecidableEq

/-- `AlgoMgr` with `SensorDataCallback`. -/
structure AlgoMgr (Sample : Type*) where
  /-- `still_`, `horizontalPosition_` and `verticalPosition_` are there -/
  algorithms : AlgoType → Bool := fun _ => false
  callAlgoNums : AlgoType → Option ℤ := fun _ => none
  algoMap : AlgoType → Bool := fun _ => false
  /-- `user_.callback` is set -/
  user : Bool := false
  accelDataList : List Sample := []
  /-- the sample that `HandleSensorEvent` has taken off the list and not yet handed on -/
  acclData : Option Sample := none
  /-- the accelerometer is subscribed -/
  accelerometer : Bool := false
  /-- how much more often an algorithm was enabled than disabled since it was last off -/
  enabled : AlgoType → ℕ := fun _ => 0
  /-- the valid samples that arrived while an algorithm was enabled -/
  arrived : AlgoType → List Sample := fun _ => []
  handed : AlgoType → List Sample := fun _ => []

namespace AlgoMgr

inductive Label (Sample : Type*) where
  | enable (type : AlgoType)
  | disable (type : AlgoType)
  /-- the accelerometer takes a sample -/
  | sample (data : Sample)
  /-- `PopData` in a round of `AlgorithmLoop` -/
  | popData
  /-- `NotifyCallback` in this round -/
  | notifyCallback

def registerCallbackSensor (s : AlgoMgr Sample) : AlgoMgr Sample :=
  { s with user := true, accelerometer := true }

def unregisterCallbackSensor (s : AlgoMgr Sample) : AlgoMgr Sample :=
  if s.user then { s with accelerometer := false } else s

/-- An algorithm is created, and its `Init` subscribes it. -/
def create (type : AlgoType) (s : AlgoMgr Sample) : AlgoMgr Sample :=
  { s with
    algorithms := Function.update s.algorithms type true
    algoMap := Function.update s.algoMap type true
    callAlgoNums := Function.update s.callAlgoNums type (some 0) }

def enable (type : AlgoType) (s : AlgoMgr Sample) : AlgoResult × AlgoMgr Sample :=
  let s := s.registerCallbackSensor
  let s := if s.algorithms type then s else s.create type
  (.retOk,
    { s with
      callAlgoNums :=
        Function.update s.callAlgoNums type (some ((s.callAlgoNums type).getD 0 + 1))
      enabled := Function.update s.enabled type (s.enabled type + 1) })

def disable (type : AlgoType) (s : AlgoMgr Sample) : AlgoResult × AlgoMgr Sample :=
  let count := (s.callAlgoNums type).getD 0 - 1
  let s := { s with
    callAlgoNums := Function.update s.callAlgoNums type (some count)
    enabled := Function.update s.enabled type (s.enabled type - 1) }
  if count ≠ 0 then (.retErr, s)
  else
    let s :=
      if s.algorithms type then
        { s with
          algoMap := Function.update s.algoMap type false
          algorithms := Function.update s.algorithms type false }
      else s
    (.retOk,
      { s with callAlgoNums := Function.update s.callAlgoNums type none }.unregisterCallbackSensor)

/-- A sample, passed to `PushData` if the accelerometer is subscribed. -/
def pushData (valid : Sample → Bool) (data : Sample) (s : AlgoMgr Sample) : AlgoMgr Sample :=
  if valid data then
    { s with
      accelDataList := if s.accelerometer then s.accelDataList ++ [data] else s.accelDataList
      arrived := fun type =>
        if 0 < s.enabled type then s.arrived type ++ [data] else s.arrived type }
  else s

/-- `HandleSensorEvent` takes the first sample, under `dataMutex_`. -/
def popData (s : AlgoMgr Sample) : AlgoMgr Sample :=
  match s.acclData, s.accelDataList with
  | none, data :: rest => { s with accelDataList := rest, acclData := some data }
  | _, _ => s

/-- `HandleSensorEvent` hands the sample on, under `callbackMutex_`; `SetData` of an algorithm
checks it again. -/
def notifyCallback (valid : Sample → Bool) (s : AlgoMgr Sample) : AlgoMgr Sample :=
  match s.acclData with
  | none => s
  | some data =>
    { s with
      acclData := none
      handed := fun type =>
        if s.algoMap type ∧ valid data then s.handed type ++ [data] else s.handed type }

def next (valid : Sample → Bool) : Label Sample → AlgoMgr Sample → AlgoMgr Sample
  | .enable type, s => (s.enable type).2
  | .disable type, s => (s.disable type).2
  | .sample data, s => s.pushData valid data
  | .popData, s => s.popData
  | .notifyCallback, s => s.notifyCallback valid

/-- What the manager keeps about an algorithm, and whether the sensor below it is subscribed. -/
def part (type : AlgoType) (s : AlgoMgr Sample) : Bool × Option ℤ × Bool × Bool :=
  (s.algorithms type, s.callAlgoNums type, s.algoMap type, s.accelerometer)

/-- Enabling and disabling an algorithm has the effect that it has in another state. -/
structure SameEffect (type : AlgoType) (s t : AlgoMgr Sample) : Prop where
  enable : (s.enable type).1 = (t.enable type).1
  enabled : (s.enable type).2.part type = (t.enable type).2.part type
  disable : ((s.enable type).2.disable type).1 = ((t.enable type).2.disable type).1
  disabled : ((s.enable type).2.disable type).2.part type =
    ((t.enable type).2.disable type).2.part type

/-- The sample in the hands of the thread and those on the list. -/
def pending (s : AlgoMgr Sample) : List Sample :=
  s.acclData.toList ++ s.accelDataList

/-- The samples that an enabled algorithm is still to be handed. -/
def waiting (type : AlgoType) (s : AlgoMgr Sample) : List Sample :=
  if 0 < s.enabled type then s.pending else []

/-- The accelerometer is subscribed exactly if some algorithm is enabled; an algorithm is handed
the samples that arrive while it is enabled and no others; one that is off can be used as at the
first time. -/
structure Served (s : AlgoMgr Sample) : Prop where
  accelerometer : s.accelerometer = true ↔ ∃ type, 0 < s.enabled type
  handed : ∀ type, s.handed type ++ s.waiting type = s.arrived type
  again : ∀ type, s.enabled type = 0 → s.SameEffect type {}

/-- An algorithm is switched off only when no other one is enabled, and no sample is pending when
one is switched on or off. -/
def Alone (l : Label Sample) (s : AlgoMgr Sample) : Prop :=
  match l with
  | .enable type => s.enabled type = 0 → s.pending = []
  | .disable type => s.enabled type = 1 →
    (∀ other, other ≠ type → s.enabled other = 0) ∧ s.pending = []
  | _ => True

/-! ### What a step keeps -/

structure Good (valid : Sample → Bool) (s : AlgoMgr Sample) : Prop where
  on : ∀ type, 0 < s.enabled type →
    s.algorithms type = true ∧ s.algoMap type = true ∧ s.callAlgoNums type = some ↑(s.enabled type)
  off : ∀ type, s.enabled type = 0 →
    s.algorithms type = false ∧ s.algoMap type = false ∧ (s.callAlgoNums type).getD 0 ≤ 0
  user : (∃ type, 0 < s.enabled type) → s.user = true
  valid : ∀ data ∈ s.pending, valid data = true

variable {valid : Sample → Bool} {s : AlgoMgr Sample} {type : AlgoType}

theorem good_start (valid : Sample → Bool) : Good valid ({} : AlgoMgr Sample) := by
  constructor <;> simp [pending]

/-- Enabling an algorithm that is off leaves nothing of its past. -/
theorem enable_of_off (type : AlgoType) (off : s.algorithms type = false) :
    (s.enable type).2 =
      { s.create type with
        user := true
        accelerometer := true
        callAlgoNums := Function.update s.callAlgoNums type (some 1)
        enabled := Function.update s.enabled type (s.enabled type + 1) } := by
  simp [enable, registerCallbackSensor, create, off]

theorem enable_of_on (on : s.algorithms type = true)
    (count : s.callAlgoNums type = some ↑(s.enabled type)) :
    (s.enable type).2 =
      { s with
        user := true
        accelerometer := true
        callAlgoNums := Function.update s.callAlgoNums type (some ↑(s.enabled type + 1))
        enabled := Function.update s.enabled type (s.enabled type + 1) } := by
  simp [enable, registerCallbackSensor, on, count]

/-- A call of `Disable` that leaves the algorithm as it is. -/
theorem disable_of_ne (ne : (s.callAlgoNums type).getD 0 - 1 ≠ 0) :
    s.disable type = (.retErr,
      { s with
        callAlgoNums :=
          Function.update s.callAlgoNums type (some ((s.callAlgoNums type).getD 0 - 1))
        enabled := Function.update s.enabled type (s.enabled type - 1) }) := by
  simp [disable, ne]

/-- A call of `Disable` that switches the algorithm and the sensor off. -/
theorem disable_of_one (type : AlgoType) (on : s.algorithms type = true) (user : s.user = true)
    (count : s.callAlgoNums type = some 1) :
    s.disable type = (.retOk,
      { s with
        algorithms := Function.update s.algorithms type false
        algoMap := Function.update s.algoMap type false
        callAlgoNums := Function.update s.callAlgoNums type none
        enabled := Function.update s.enabled type (s.enabled type - 1)
        accelerometer := false }) := by
  simp [disable, unregisterCallbackSensor, on, user, count]

/-- A step that concerns one algorithm. -/
theorem Good.change (h : s.Good valid) (type : AlgoType) {t : AlgoMgr Sample}
    (others : ∀ other ≠ type, t.algorithms other = s.algorithms other ∧
      t.algoMap other = s.algoMap other ∧ t.callAlgoNums other = s.callAlgoNums other ∧
      t.enabled other = s.enabled other)
    (on : 0 < t.enabled type → t.algorithms type = true ∧ t.algoMap type = true ∧
      t.callAlgoNums type = some ↑(t.enabled type))
    (off : t.enabled type = 0 → t.algorithms type = false ∧ t.algoMap type = false ∧
      (t.callAlgoNums type).getD 0 ≤ 0)
    (user : t.user = s.user ∧ t.enabled type ≤ s.enabled type ∨ t.user = true)
    (pending : t.pending = s.pending) : t.Good valid := by
  refine ⟨fun other pos => ?_, fun other zero => ?_, fun ⟨other, pos⟩ => ?_, pending ▸ h.valid⟩
  · by_cases same : other = type
    · subst same
      exact on pos
    · obtain ⟨algorithm, map, count, enabled⟩ := others other same
      rw [algorithm, map, count, enabled]
      exact h.on other (enabled ▸ pos)
  · by_cases same : other = type
    · subst same
      exact off zero
    · obtain ⟨algorithm, map, count, enabled⟩ := others other same
      rw [algorithm, map, count]
      exact h.off other (enabled ▸ zero)
  · obtain ⟨same, le⟩ | set := user
    · rw [same]
      refine h.user ⟨other, ?_⟩
      by_cases same : other = type
      · subst same
        omega
      · exact (others other same).2.2.2 ▸ pos
    · exact set

theorem Good.enable (h : s.Good valid) (type : AlgoType) : (s.enable type).2.Good valid := by
  obtain zero | pos := Nat.eq_zero_or_pos (s.enabled type)
  · obtain ⟨off, -, -⟩ := h.off type zero
    rw [enable_of_off type off]
    apply h.change type
    · intro other ne
      simp [create, ne]
    · simp [create, zero]
    · simp
    · exact .inr rfl
    · rfl
  · obtain ⟨on, subscribed, count⟩ := h.on type pos
    rw [enable_of_on on count]
    apply h.change type
    · intro other ne
      simp [ne]
    · simp [on, subscribed]
    · simp
    · exact .inr rfl
    · rfl

/-- The calls of `Disable` by what they find. -/
theorem Good.disable_cases (h : s.Good valid) (type : AlgoType) :
    (s.enabled type = 1 ∧ (s.disable type).2 =
      { s with
        algorithms := Function.update s.algorithms type false
        algoMap := Function.update s.algoMap type false
        callAlgoNums := Function.update s.callAlgoNums type none
        enabled := Function.update s.enabled type 0
        accelerometer := false }) ∨
    (s.enabled type ≠ 1 ∧ (s.disable type).2 =
      { s with
        callAlgoNums :=
          Function.update s.callAlgoNums type (some ((s.callAlgoNums type).getD 0 - 1))
        enabled := Function.update s.enabled type (s.enabled type - 1) }) := by
  by_cases one : s.enabled type = 1
  · have pos : 0 < s.enabled type := by omega
    obtain ⟨on, -, count⟩ := h.on type pos
    have off := disable_of_one type on (h.user ⟨type, pos⟩) (by simpa [one] using count)
    exact .inl ⟨one, by simp [off, one]⟩
  · have ne : (s.callAlgoNums type).getD 0 - 1 ≠ 0 := by
      obtain zero | pos := Nat.eq_zero_or_pos (s.enabled type)
      · obtain ⟨-, -, count⟩ := h.off type zero
        omega
      · obtain ⟨-, -, count⟩ := h.on type pos
        rw [count, Option.getD_some]
        omega
    exact .inr ⟨one, by rw [disable_of_ne ne]⟩

theorem Good.disable (h : s.Good valid) (type : AlgoType) : (s.disable type).2.Good valid := by
  obtain ⟨-, eq⟩ | ⟨one, eq⟩ := h.disable_cases type
  · rw [eq]
    apply h.change type
    · intro other ne
      simp [ne]
    · simp
    · simp
    · exact .inl ⟨rfl, by simp⟩
    · rfl
  · rw [eq]
    apply h.change type
    · intro other ne
      simp [ne]
    · intro pos
      simp only [Function.update_self] at pos ⊢
      obtain ⟨on, subscribed, count⟩ := h.on type (by omega)
      refine ⟨on, subscribed, ?_⟩
      rw [count, Option.getD_some]
      congr 1
      omega
    · intro zero
      simp only [Function.update_self] at zero ⊢
      obtain ⟨off, subscribed, count⟩ := h.off type (by omega)
      refine ⟨off, subscribed, ?_⟩
      rw [Option.getD_some]
      omega
    · exact .inl ⟨rfl, by simp⟩
    · rfl

theorem pending_pushData (valid : Sample → Bool) (data : Sample) (s : AlgoMgr Sample) :
    (s.pushData valid data).pending =
      if valid data ∧ s.accelerometer then s.pending ++ [data] else s.pending := by
  unfold AlgoMgr.pushData pending
  cases valid data <;> cases s.accelerometer <;> simp

@[simp]
theorem pending_popData (s : AlgoMgr Sample) : s.popData.pending = s.pending := by
  obtain ⟨-, -, -, -, list, data⟩ := s
  cases data with
  | some data => rfl
  | none => cases list <;> rfl

theorem popData_frame (s : AlgoMgr Sample) : s.popData =
    { s with accelDataList := s.popData.accelDataList, acclData := s.popData.acclData } := by
  unfold popData
  split <;> rfl

theorem Good.pushData (h : s.Good valid) (data : Sample) : (s.pushData valid data).Good valid := by
  have rest : ∀ other ∈ (s.pushData valid data).pending, valid other = true := by
    intro other mem
    rw [pending_pushData] at mem
    split at mem
    next ok =>
      obtain before | rfl := List.mem_append.mp mem |>.imp_right List.mem_singleton.mp
      · exact h.valid other before
      · exact ok.1
    next => exact h.valid other mem
  unfold AlgoMgr.pushData at rest ⊢
  split at rest
  next ok =>
    rw [if_pos ok]
    exact ⟨h.on, h.off, h.user, rest⟩
  next invalid =>
    rw [if_neg invalid]
    exact h

theorem Good.popData (h : s.Good valid) : s.popData.Good valid := by
  have rest : ∀ data ∈ s.popData.pending, valid data = true := by
    rw [pending_popData]
    exact h.valid
  rw [popData_frame] at rest ⊢
  exact ⟨h.on, h.off, h.user, rest⟩

theorem Good.notifyCallback (h : s.Good valid) : (s.notifyCallback valid).Good valid := by
  unfold AlgoMgr.notifyCallback
  split
  next => exact h
  next data =>
    exact ⟨h.on, h.off, h.user, fun other mem =>
      h.valid other (List.mem_append_right _ mem)⟩

theorem Good.next (l : Label Sample) (s : AlgoMgr Sample) (h : s.Good valid) :
    (next valid l s).Good valid := by
  cases l with
  | enable type => exact h.enable type
  | disable type => exact h.disable type
  | sample data => exact h.pushData data
  | popData => exact h.popData
  | notifyCallback => exact h.notifyCallback

/-! ### What the algorithms are served -/

theorem Good.sameEffect (h : s.Good valid) (type : AlgoType) (zero : s.enabled type = 0) :
    s.SameEffect type {} := by
  obtain ⟨off, -, -⟩ := h.off type zero
  have once := enable_of_off type off
  have first := enable_of_off (s := ({} : AlgoMgr Sample)) type rfl
  have after := disable_of_one (s := (s.enable type).2) type (by simp [once, create])
    (by simp [once]) (by simp [once])
  have firstAfter := disable_of_one (s := (({} : AlgoMgr Sample).enable type).2) type
    (by simp [first, create]) (by simp [first]) (by simp [first])
  constructor
  · rfl
  · simp [once, first, part, create]
  · rw [after, firstAfter]
  · simp [after, firstAfter, part]

/-- What `Enable` does apart from the algorithm itself. -/
theorem enable_frame (type : AlgoType) (s : AlgoMgr Sample) :
    (s.enable type).2.accelerometer = true ∧
    (s.enable type).2.pending = s.pending ∧
    (s.enable type).2.enabled = Function.update s.enabled type (s.enabled type + 1) ∧
    (s.enable type).2.arrived = s.arrived ∧ (s.enable type).2.handed = s.handed := by
  unfold enable
  cases on : s.algorithms type <;> simp [registerCallbackSensor, create, on, pending]

theorem Good.enable_served_iff (h : s.Good valid) (served : s.Served) (type : AlgoType) :
    (s.enable type).2.Served ↔ (s.enabled type = 0 → s.pending = []) := by
  obtain ⟨accelerometer, list, enabled, arrived, handed⟩ := enable_frame type s
  have before := served.handed type
  constructor
  · intro after zero
    have now := after.handed type
    simp only [waiting, list, enabled, arrived, handed, Function.update_self, Nat.succ_pos,
      if_true] at now
    simpa [waiting, zero, ← now] using before
  · intro empty
    refine ⟨?_, fun t => ?_, fun t => (h.enable type).sameEffect t⟩
    · exact iff_of_true accelerometer ⟨type, by simp [enabled]⟩
    · have same := served.handed t
      simp only [waiting, list, enabled, arrived, handed, Function.update_apply]
      split
      next is =>
        subst is
        rw [if_pos (Nat.succ_pos _)]
        obtain zero | pos := Nat.eq_zero_or_pos (s.enabled t)
        · simpa [waiting, zero, empty zero] using same
        · simpa [waiting, pos] using same
      next => exact same

theorem Good.disable_served_iff (h : s.Good valid) (served : s.Served) (type : AlgoType) :
    (s.disable type).2.Served ↔ (s.enabled type = 1 →
      (∀ other, other ≠ type → s.enabled other = 0) ∧ s.pending = []) := by
  have again := (h.disable type).sameEffect
  obtain ⟨one, eq⟩ | ⟨more, eq⟩ := h.disable_cases type
  · have before := served.handed type
    rw [eq] at again ⊢
    constructor
    · rintro ⟨accelerometer, handed, -⟩ -
      constructor
      · intro other ne
        by_contra on
        have off := accelerometer.mpr ⟨other, by simpa [ne] using Nat.pos_of_ne_zero on⟩
        exact absurd off nofun
      · have now := handed type
        simp only [waiting, Function.update_self, Nat.lt_irrefl, if_false, List.append_nil] at now
        simpa [waiting, one, now] using before
    · intro alone
      obtain ⟨others, empty⟩ := alone one
      refine ⟨iff_of_false nofun ?_, fun t => ?_, again⟩
      · rintro ⟨t, on⟩
        by_cases same : t = type
        · simp [same] at on
        · simp [same, others t same] at on
      · have before := served.handed t
        change s.handed t ++ (if 0 < Function.update s.enabled type 0 t then s.pending else []) = _
        simpa [waiting, empty] using before
  · rw [eq] at again ⊢
    have same (t : AlgoType) : 0 < Function.update s.enabled type (s.enabled type - 1) t ↔
        0 < s.enabled t := by
      rw [Function.update_apply]
      split
      next is => subst is; omega
      next => rfl
    refine iff_of_true ⟨?_, fun t => ?_, again⟩ fun one => absurd one more
    · simpa only [same] using served.accelerometer
    · have before := served.handed t
      simp only [waiting, same] at before ⊢
      exact before

theorem Good.pushData_served (h : s.Good valid) (served : s.Served) (data : Sample) :
    (s.pushData valid data).Served := by
  have again := (h.pushData data).sameEffect
  have pending := pending_pushData valid data s
  unfold AlgoMgr.pushData at again pending ⊢
  split at again
  next ok =>
    rw [if_pos ok] at pending ⊢
    refine ⟨served.accelerometer, fun t => ?_, again⟩
    have before := served.handed t
    by_cases on : 0 < s.enabled t
    · have active := served.accelerometer.mpr ⟨t, on⟩
      have both : valid data = true ∧ s.accelerometer = true := ⟨ok, active⟩
      rw [if_pos both] at pending
      rw [waiting, if_pos on] at before
      rw [waiting, if_pos on, pending]
      simp only [on, if_true, ← before, List.append_assoc]
    · simpa [waiting, on] using before
  next invalid =>
    rw [if_neg invalid]
    exact served

theorem Good.popData_served (h : s.Good valid) (served : s.Served) : s.popData.Served := by
  have again := h.popData.sameEffect
  have pending := pending_popData s
  rw [popData_frame] at again pending ⊢
  refine ⟨served.accelerometer, fun t => ?_, again⟩
  simpa only [waiting, pending] using served.handed t

theorem Good.notifyCallback_served (h : s.Good valid) (served : s.Served) :
    (s.notifyCallback valid).Served := by
  have again := h.notifyCallback.sameEffect
  unfold AlgoMgr.notifyCallback at again ⊢
  cases inHand : s.acclData with
  | none => exact served
  | some data =>
    simp only [inHand] at again ⊢
    refine ⟨served.accelerometer, fun t => ?_, again⟩
    have before := served.handed t
    have ok := h.valid data (by simp [pending, inHand])
    obtain zero | pos := Nat.eq_zero_or_pos (s.enabled t)
    · obtain ⟨-, unsubscribed, -⟩ := h.off t zero
      simpa [waiting, zero, unsubscribed] using before
    · obtain ⟨-, subscribed, -⟩ := h.on t pos
      simpa [waiting, pending, pos, subscribed, ok, inHand] using before

theorem served_start : ({} : AlgoMgr Sample).Served := by
  refine ⟨by simp, fun type => rfl, fun type zero => ?_⟩
  exact (good_start fun _ => true).sameEffect type zero

theorem Good.served_iff (l : Label Sample) (h : s.Good valid) (served : s.Served) :
    (AlgoMgr.next valid l s).Served ↔ s.Alone l := by
  cases l with
  | enable type => exact h.enable_served_iff served type
  | disable type => exact h.disable_served_iff served type
  | sample data => exact iff_of_true (h.pushData_served served data) trivial
  | popData => exact iff_of_true (h.popData_served served) trivial
  | notifyCallback => exact iff_of_true (h.notifyCallback_served served) trivial

/-- The algorithms are served in every state of a run exactly if each step leaves the others
alone. -/
theorem served_iff_alone (valid : Sample → Bool) (tr : List (Label Sample)) :
    EachStep (next valid) (fun l s => (next valid l s).Served) {} tr ↔
      EachStep (next valid) Alone {} tr := by
  apply EachStep.iff_of_invariant (I := fun s => s.Good valid ∧ s.Served)
  · exact fun l s ⟨h, served⟩ ok => ⟨h.next l s, (h.served_iff l served).mpr ok⟩
  · exact fun l s ⟨h, served⟩ => h.served_iff l served
  · exact ⟨good_start valid, served_start⟩

/-- The second algorithm is switched off, and the first one gets no samples any more. -/
theorem shared_sensor_off : ¬ EachStep (next fun _ => true)
    (fun l s => (next (fun _ => true) l s).Served) ({} : AlgoMgr ℕ)
    [.enable .absoluteStill, .enable .horizontalPosition, .disable .horizontalPosition] := by
  intro run
  have active := run.tail.tail.head.accelerometer.mpr ⟨.absoluteStill, by decide⟩
  exact absurd active (by decide)

end AlgoMgr

end DeviceStatus.Service
