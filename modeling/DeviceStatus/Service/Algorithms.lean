import DeviceStatus.Library.Debounce
import DeviceStatus.Service.AlgoMgr
import DeviceStatus.Service.MsdpClient

/-!
# The algorithms on the accelerometer

Each of the three algorithms decides of a sample whether the device is still, horizontal or
vertical in it. Five such samples in a row are reported once, and so is the first sample that is
not one of them. An algorithm without a callback counts, but it neither reports nor remembers that
it would have.

## Main definitions

* `AccelData.setData`, `AlgoType.judge` — what an algorithm makes of one sample.
* `Algo.executeOperation` — its counter and its state.
* `Algorithms`, `Algorithms.next` — the manager, the three algorithms and what they report.
* `Algorithms.Debounced` — the state and the reports of an algorithm as the samples have them.
-/

namespace DeviceStatus.Service

open Transition.System Debounce

structure AccelData where
  x : Float32
  y : Float32
  z : Float32

/-- `algoPara_`, without the values that `ExecuteOperation` computes from these. -/
structure AlgoPara where
  x : Float32
  y : Float32
  z : Float32

namespace AccelData

/-- A value beyond `ACC_VALID_THRHD`. -/
def exceeds (value : Float32) : Bool :=
  value.abs.toFloat > 160.0

/-- The check that `PushData` and `SetData` make. -/
def valid (data : AccelData) : Bool :=
  !(exceeds data.x || exceeds data.y || exceeds data.z)

def setData (data : AccelData) : Option AlgoPara :=
  if data.valid then some { x := data.y, y := data.x, z := -data.z } else none

end AccelData

namespace AlgoPara

def resultantAcc (p : AlgoPara) : Float :=
  (p.x * p.x + p.y * p.y + p.z * p.z).sqrt.toFloat

/-- `ANGLE_180_DEGREE / PI`. -/
def degrees : Float := 180.0 / 3.141592653589793

def pitch (p : AlgoPara) : Float :=
  (-p.y.atan2 p.z).toFloat * degrees

def roll (p : AlgoPara) : Float :=
  (p.x.atan2 p.z).toFloat * degrees

def within (low up angle : Float) : Bool :=
  low < angle.abs && angle.abs < up

end AlgoPara

namespace AlgoType

/-- The test of `ExecuteOperation`; `AlgoVertical` passes over samples without direction. -/
def judge (type : AlgoType) (p : AlgoPara) : Option Bool :=
  match type with
  | .absoluteStill => some (7.0 < p.resultantAcc && p.resultantAcc < 11.0)
  | .horizontalPosition =>
    some (AlgoPara.within 160.0 180.1 p.pitch && AlgoPara.within 160.0 180.1 p.roll ||
      AlgoPara.within 0.0 5.0 p.pitch && AlgoPara.within 0.0 5.0 p.roll)
  | .verticalPosition =>
    if p.y.abs ≤ 1e-6 ∧ p.z.abs ≤ 1e-6 then none
    else some (AlgoPara.within 80.0 110.0 p.pitch || AlgoPara.within 80.0 110.0 p.roll)

/-- What an algorithm reads in a sample, if it goes as far as its test. -/
def reading (type : AlgoType) (data : AccelData) : Option Bool :=
  data.setData.bind type.judge

def readings (type : AlgoType) (samples : List AccelData) : List Bool :=
  samples.filterMap type.reading

def deviceType : AlgoType → DeviceType
  | .absoluteStill => .absoluteStill
  | .horizontalPosition => .horizontalPosition
  | .verticalPosition => .verticalPosition

end AlgoType

inductive AlgoState where
  | unknown
  | still
  | unstill
  | horizontal
  | nonHorizontal
  | vertical
  | nonVertical
  deriving DecidableEq

namespace AlgoType

def entered : AlgoType → AlgoState
  | .absoluteStill => .still
  | .horizontalPosition => .horizontal
  | .verticalPosition => .vertical

def left : AlgoType → AlgoState
  | .absoluteStill => .unstill
  | .horizontalPosition => .nonHorizontal
  | .verticalPosition => .nonVertical

end AlgoType

/-- `VALID_TIME_THRESHOLD / ACC_SAMPLE_PERIOD`. -/
def counterThreshold : ℕ := 500 / 100

structure Algo where
  state : AlgoState := .unknown
  counter : ℤ := counterThreshold
  /-- `callback_` is set -/
  callback : Bool := false

/-- `reportInfo_`, as far as it is set. -/
abbrev AlgoReport := DeviceType × OnChangedValue

namespace Algo

def updateStateAndReport (value : OnChangedValue) (state : AlgoState) (type : DeviceType)
    (a : Algo) : Algo × List AlgoReport :=
  if a.callback then ({ a with state }, [(type, value)]) else (a, [])

/-- `ExecuteOperation` after its test. -/
def executeOperation (type : AlgoType) (inside : Bool) (a : Algo) : Algo × List AlgoReport :=
  if inside then
    if a.state = type.entered then (a, [])
    else if a.counter - 1 = 0 then
      { a with counter := counterThreshold }.updateStateAndReport .enter type.entered
        type.deviceType
    else ({ a with counter := a.counter - 1 }, [])
  else if a.state = type.left then ({ a with counter := counterThreshold }, [])
  else
    { a with counter := counterThreshold }.updateStateAndReport .exit type.left type.deviceType

def startAlgorithm (type : AlgoType) (data : AccelData) (a : Algo) : Algo × List AlgoReport :=
  match data.setData with
  | none => (a, [])
  | some p =>
    match type.judge p with
    | none => (a, [])
    | some inside => a.executeOperation type inside

end Algo

/-- `AlgoMgr` with its algorithms, and what happened to each since it was created. -/
structure Algorithms where
  mgr : AlgoMgr AccelData := {}
  algoType : Option AlgoType := none
  algos : AlgoType → Algo := fun _ => {}
  reported : AlgoType → List AlgoReport := fun _ => []
  /-- the samples that the algorithm was handed while it had no callback -/
  unheard : AlgoType → List AccelData := fun _ => []
  /-- the samples that it was handed with its callback -/
  heard : AlgoType → List AccelData := fun _ => []
  /-- the valid samples that arrived -/
  arrived : AlgoType → List AccelData := fun _ => []

namespace Algorithms

inductive Label where
  | mgr (l : AlgoMgr.Label AccelData)
  | registerCallback

/-- `Enable` makes an algorithm that it does not find. -/
def create (type : AlgoType) (s : Algorithms) : Algorithms :=
  { s with
    algos := Function.update s.algos type {}
    reported := Function.update s.reported type []
    unheard := Function.update s.unheard type []
    heard := Function.update s.heard type []
    arrived := Function.update s.arrived type [] }

/-- `RegisterCallback`, for the algorithm that was enabled last. -/
def registerCallback (s : Algorithms) : Algorithms :=
  match s.algoType with
  | none => s
  | some type =>
    if s.mgr.algorithms type then
      { s with algos := Function.update s.algos type { s.algos type with callback := true } }
    else s

/-- `NotifyCallback`. -/
def notifyCallback (data : AccelData) (s : Algorithms) : Algorithms :=
  { s with
    algos := fun type =>
      if s.mgr.algoMap type then ((s.algos type).startAlgorithm type data).1 else s.algos type
    reported := fun type =>
      if s.mgr.algoMap type then
        s.reported type ++ ((s.algos type).startAlgorithm type data).2
      else s.reported type
    unheard := fun type =>
      if s.mgr.algoMap type ∧ (s.algos type).callback = false then s.unheard type ++ [data]
      else s.unheard type
    heard := fun type =>
      if s.mgr.algoMap type ∧ (s.algos type).callback then s.heard type ++ [data]
      else s.heard type }

/-- What an operation of the manager does to the algorithms. -/
def around (l : AlgoMgr.Label AccelData) (s : Algorithms) : Algorithms :=
  match l with
  | .enable type =>
    { if s.mgr.algorithms type then s else s.create type with algoType := some type }
  | .disable _ => s
  | .sample data =>
    { s with
      arrived := fun type =>
        if s.mgr.algorithms type ∧ data.valid then s.arrived type ++ [data] else s.arrived type }
  | .popData => s
  | .notifyCallback =>
    match s.mgr.acclData with
    | none => s
    | some data => s.notifyCallback data

def next : Label → Algorithms → Algorithms
  | .mgr l, s => { s.around l with mgr := AlgoMgr.next AccelData.valid l s.mgr }
  | .registerCallback, s => s.registerCallback

/-- The manager is used for one algorithm at a time, and none is switched on or off while samples
are pending, see `AlgoMgr.Alone`. -/
def Alone (l : Label) (s : Algorithms) : Prop :=
  match l with
  | .mgr l => s.mgr.Alone l
  | .registerCallback => True

end Algorithms

namespace AlgoType

/-- The state for a level that was entered, left or neither. -/
def stateOf (type : AlgoType) : Option Bool → AlgoState
  | none => .unknown
  | some true => type.entered
  | some false => type.left

def reportOf (type : AlgoType) : Bool → AlgoReport
  | true => (type.deviceType, .enter)
  | false => (type.deviceType, .exit)

end AlgoType

namespace Algorithms

/-- The level that an algorithm is to find in readings, if it has counted before. -/
def levelOf (type : AlgoType) (before : List AccelData) (readings : List Bool) : Option Bool :=
  level counterThreshold (held 0 (type.readings before) % counterThreshold) readings

/-- The state is the level of the samples, and the reports are the changes of the level. -/
structure Debounced (type : AlgoType) (s : Algorithms) : Prop where
  state : (s.algos type).state =
    type.stateOf (levelOf type (s.unheard type) (type.readings (s.heard type)))
  reported : s.reported type =
    (changes (levelOf type (s.unheard type)) (type.readings (s.heard type))).map type.reportOf

/-- Each sample that has arrived for an algorithm was handed to it or is pending. -/
def Complete (type : AlgoType) (s : Algorithms) : Prop :=
  s.unheard type ++ s.heard type ++ s.mgr.pending = s.arrived type

end Algorithms

/-! ### One reading -/

theorem counterThreshold_pos : 0 < counterThreshold := by decide

namespace AlgoType

variable {type : AlgoType} {found : Option Bool}

theorem stateOf_eq_entered_iff : type.stateOf found = type.entered ↔ found = some true := by
  cases type <;> rcases found with _ | _ | _ <;> simp [stateOf, entered, left]

theorem stateOf_eq_left_iff : type.stateOf found = type.left ↔ found = some false := by
  cases type <;> rcases found with _ | _ | _ <;> simp [stateOf, entered, left]

theorem readings_concat (type : AlgoType) (samples : List AccelData) (data : AccelData) :
    type.readings (samples ++ [data]) = type.readings samples ++ (type.reading data).toList := by
  cases reads : type.reading data <;> simp [readings, reads]

end AlgoType

namespace Algo

variable {type : AlgoType} {k : ℕ} {l : List Bool} {inside : Bool} {a : Algo}

theorem startAlgorithm_eq (type : AlgoType) (data : AccelData) (a : Algo) :
    a.startAlgorithm type data =
      match type.reading data with
      | none => (a, [])
      | some inside => a.executeOperation type inside := by
  unfold startAlgorithm AlgoType.reading
  cases data.setData with
  | none => rfl
  | some p => cases judged : type.judge p <;> simp [judged]

/-- An algorithm without a callback starts to count anew when it would have reported. -/
structure Silent (l : List Bool) (a : Algo) : Prop where
  callback : a.callback = false
  state : a.state = .unknown
  counter : a.counter = counterThreshold - (held 0 l % counterThreshold : ℕ)

/-- An algorithm that had counted to `k` when it got its callback. -/
structure Tracks (type : AlgoType) (k : ℕ) (l : List Bool) (a : Algo) : Prop where
  callback : a.callback = true
  state : a.state = type.stateOf (level counterThreshold k l)
  counter : a.counter =
    if counterThreshold ≤ held k l then (counterThreshold : ℤ)
    else counterThreshold - (held k l : ℕ)

theorem silent_new : ({} : Algo).Silent [] where
  callback := rfl
  state := rfl
  counter := by simp

theorem Silent.register (h : a.Silent l) (type : AlgoType) :
    Tracks type (held 0 l % counterThreshold) [] { a with callback := true } where
  callback := rfl
  state := by
    rw [level_nil (Nat.mod_lt _ counterThreshold_pos)]
    exact h.state
  counter := by
    have few := Nat.mod_lt (held 0 l) counterThreshold_pos
    rw [held_nil, if_neg (by omega)]
    exact h.counter

theorem Silent.executeOperation (h : a.Silent l) (type : AlgoType) (inside : Bool) :
    (a.executeOperation type inside).1.Silent (l ++ [inside]) ∧
      (a.executeOperation type inside).2 = [] := by
  have fresh (state : type.entered = .unknown ∨ type.left = .unknown) : False := by
    cases type <;> simp [AlgoType.entered, AlgoType.left] at state
  have not_entered : a.state ≠ type.entered := fun same => fresh (.inl (same ▸ h.state))
  have not_left : a.state ≠ type.left := fun same => fresh (.inr (same ▸ h.state))
  cases inside with
  | false =>
    simp only [Algo.executeOperation, Bool.false_eq_true, if_false, not_left, updateStateAndReport,
      h.callback]
    exact ⟨⟨rfl, h.state, by simp [held_concat]⟩, trivial⟩
  | true =>
    have five : counterThreshold = 5 := rfl
    have counter := h.counter
    rw [five] at counter
    simp only [Algo.executeOperation, if_true, not_entered, if_false, updateStateAndReport,
      h.callback, Bool.false_eq_true]
    split
    next last =>
      have wraps : (held 0 l + 1) % counterThreshold = 0 := by
        rw [five]
        omega
      exact ⟨⟨rfl, h.state, by simp [held_concat, wraps]⟩, rfl⟩
    next more =>
      refine ⟨⟨rfl, h.state, ?_⟩, rfl⟩
      simp only [held_concat, if_true, five]
      omega

theorem Tracks.executeOperation (h : a.Tracks type k l) (inside : Bool) :
    (a.executeOperation type inside).1.Tracks type k (l ++ [inside]) ∧
      (a.executeOperation type inside).2 =
        (if level counterThreshold k l = level counterThreshold k (l ++ [inside]) then []
          else (level counterThreshold k (l ++ [inside])).toList).map type.reportOf := by
  have counter := h.counter
  have pos := counterThreshold_pos
  have entered_iff : a.state = type.entered ↔ counterThreshold ≤ held k l := by
    rw [h.state, AlgoType.stateOf_eq_entered_iff, level_eq_entered_iff]
  cases inside with
  | false =>
    have now := level_concat_outside (k := k) pos l
    have left_iff : a.state = type.left ↔ level counterThreshold k l = some false := by
      rw [h.state, AlgoType.stateOf_eq_left_iff]
    by_cases left : a.state = type.left
    · have before := left_iff.mp left
      simp only [Algo.executeOperation, Bool.false_eq_true, if_false, left, if_true]
      refine ⟨⟨h.callback, ?_, ?_⟩, ?_⟩
      · rw [now]
        rfl
      · simp [held_concat]
      · simp [now, before]
    · have before : level counterThreshold k l ≠ some false := fun same => left (left_iff.mpr same)
      simp only [Algo.executeOperation, Bool.false_eq_true, if_false, left, updateStateAndReport,
        h.callback, if_true]
      refine ⟨⟨rfl, ?_, ?_⟩, ?_⟩
      · rw [now]
        rfl
      · simp [held_concat]
      · simp [now, before, AlgoType.reportOf]
  | true =>
    by_cases entered : counterThreshold ≤ held k l
    · have now := level_concat_of_entered entered
      have before := level_eq_entered_iff.mpr entered
      have more : counterThreshold ≤ held k l + 1 := by omega
      simp only [Algo.executeOperation, if_true, entered_iff.mpr entered]
      refine ⟨⟨h.callback, ?_, ?_⟩, ?_⟩
      · rw [h.state, now, before]
      · simpa [held_concat, more, entered] using counter
      · simp [now, before]
    · have ne : a.state ≠ type.entered := fun same => entered (entered_iff.mp same)
      rw [if_neg entered] at counter
      by_cases last : held k l + 1 = counterThreshold
      · have now := level_concat_of_last last
        have before : level counterThreshold k l ≠ some true := fun same =>
          entered (level_eq_entered_iff.mp same)
        have zero : a.counter - 1 = 0 := by omega
        simp only [Algo.executeOperation, if_true, ne, if_false, zero, updateStateAndReport,
          h.callback]
        refine ⟨⟨rfl, ?_, ?_⟩, ?_⟩
        · rw [now]
          rfl
        · simp [held_concat, last]
        · simp [now, before, AlgoType.reportOf]
      · have few : held k l + 1 < counterThreshold := by omega
        have now := level_concat_of_few few
        have more : a.counter - 1 ≠ 0 := by omega
        simp only [Algo.executeOperation, if_true, ne, if_false, more]
        refine ⟨⟨h.callback, ?_, ?_⟩, ?_⟩
        · rw [h.state, now]
        · simp only [held_concat, if_true, if_neg (Nat.not_le.mpr few)]
          omega
        · simp [now]

theorem Silent.startAlgorithm {samples : List AccelData} (h : a.Silent (type.readings samples))
    (data : AccelData) :
    (a.startAlgorithm type data).1.Silent (type.readings (samples ++ [data])) ∧
      (a.startAlgorithm type data).2 = [] := by
  rw [startAlgorithm_eq, AlgoType.readings_concat]
  cases type.reading data with
  | none => exact ⟨by simpa using h, rfl⟩
  | some inside => exact h.executeOperation type inside

theorem Tracks.startAlgorithm {samples : List AccelData}
    (h : a.Tracks type k (type.readings samples)) (data : AccelData) :
    (a.startAlgorithm type data).1.Tracks type k (type.readings (samples ++ [data])) ∧
      (changes (level counterThreshold k) (type.readings samples)).map type.reportOf ++
          (a.startAlgorithm type data).2 =
        (changes (level counterThreshold k) (type.readings (samples ++ [data]))).map
          type.reportOf := by
  rw [startAlgorithm_eq, AlgoType.readings_concat]
  cases type.reading data with
  | none => exact ⟨by simpa using h, by simp⟩
  | some inside =>
    obtain ⟨tracks, reports⟩ := h.executeOperation inside
    refine ⟨tracks, ?_⟩
    rw [Option.toList_some, changes_concat, List.map_append]
    exact congrArg _ reports

end Algo

/-! ### All samples -/

namespace Algorithms

variable {s : Algorithms} {type : AlgoType}

/-- What holds of an algorithm that is there: how far it has counted, and, in a run that uses one
algorithm at a time, where the samples are that have arrived. -/
structure Runs (type : AlgoType) (s : Algorithms) : Prop where
  silent : (s.algos type).callback = false →
    (s.algos type).Silent (type.readings (s.unheard type)) ∧ s.heard type = [] ∧
      s.reported type = []
  tracks : (s.algos type).callback = true →
    (s.algos type).Tracks type (held 0 (type.readings (s.unheard type)) % counterThreshold)
      (type.readings (s.heard type)) ∧
    s.reported type =
      (changes (levelOf type (s.unheard type)) (type.readings (s.heard type))).map type.reportOf

theorem Runs.debounced (h : s.Runs type) : s.Debounced type := by
  cases callback : (s.algos type).callback with
  | false =>
    obtain ⟨silent, heard, reported⟩ := h.silent callback
    have unknown : levelOf type (s.unheard type) [] = none :=
      level_nil (Nat.mod_lt _ counterThreshold_pos)
    constructor
    · rw [heard, silent.state]
      exact (congrArg type.stateOf unknown).symm
    · rw [heard, reported]
      rfl
  | true =>
    obtain ⟨tracks, reported⟩ := h.tracks callback
    exact ⟨tracks.state, reported⟩

theorem runs_create (type : AlgoType) (s : Algorithms) : (s.create type).Runs type := by
  constructor
  · simp [create, Algo.silent_new, AlgoType.readings]
  · simp [create]

/-- The algorithm is not concerned. -/
theorem Runs.of_eq (h : s.Runs type) {t : Algorithms} (algos : t.algos type = s.algos type)
    (reported : t.reported type = s.reported type) (unheard : t.unheard type = s.unheard type)
    (heard : t.heard type = s.heard type) : t.Runs type := by
  constructor
  · rw [algos, reported, unheard, heard]
    exact h.silent
  · rw [algos, reported, unheard, heard]
    exact h.tracks

theorem Runs.registerCallback (h : s.Runs type) : s.registerCallback.Runs type := by
  unfold Algorithms.registerCallback
  cases last : s.algoType with
  | none => exact h
  | some other =>
    dsimp only
    split
    next =>
      by_cases same : other = type
      · subst same
        cases callback : (s.algos other).callback with
        | true =>
          have update :
              Function.update s.algos other { s.algos other with callback := true } other =
                s.algos other := by
            rw [Function.update_self, ← callback]
          exact h.of_eq update rfl rfl rfl
        | false =>
          obtain ⟨silent, heard, reported⟩ := h.silent callback
          constructor
          · simp
          · intro _
            simp only [Function.update_self, heard, reported]
            exact ⟨silent.register other, rfl⟩
      · exact h.of_eq (Function.update_of_ne (Ne.symm same) _ _) rfl rfl rfl
    next => exact h

/-- A sample that the algorithm is handed. -/
theorem Runs.notifyCallback (h : s.Runs type) (data : AccelData) :
    (s.notifyCallback data).Runs type := by
  by_cases subscribed : s.mgr.algoMap type = true
  · cases callback : (s.algos type).callback with
    | false =>
      obtain ⟨silent, heard, reported⟩ := h.silent callback
      obtain ⟨still, nothing⟩ := silent.startAlgorithm data
      constructor
      · simp [Algorithms.notifyCallback, subscribed, callback, heard, reported, nothing, still]
      · simp [Algorithms.notifyCallback, subscribed, still.callback]
    | true =>
      obtain ⟨tracks, reported⟩ := h.tracks callback
      obtain ⟨still, more⟩ := tracks.startAlgorithm data
      constructor
      · simp [Algorithms.notifyCallback, subscribed, still.callback]
      · intro _
        simp only [Algorithms.notifyCallback, subscribed, callback, if_true, reported, and_self,
          Bool.true_eq_false, and_false, if_false]
        exact ⟨still, more⟩
  · exact h.of_eq (by simp [Algorithms.notifyCallback, subscribed])
      (by simp [Algorithms.notifyCallback, subscribed])
      (by simp [Algorithms.notifyCallback, subscribed])
      (by simp [Algorithms.notifyCallback, subscribed])

@[simp]
theorem next_mgr (l : AlgoMgr.Label AccelData) (s : Algorithms) :
    (next (.mgr l) s).mgr = AlgoMgr.next AccelData.valid l s.mgr := rfl

theorem next_registerCallback (s : Algorithms) : next .registerCallback s = s.registerCallback :=
  rfl

@[simp]
theorem registerCallback_mgr (s : Algorithms) : s.registerCallback.mgr = s.mgr := by
  unfold Algorithms.registerCallback
  split
  · rfl
  · split <;> rfl

theorem sample_algorithms (data : AccelData) (m : AlgoMgr AccelData) :
    (AlgoMgr.next AccelData.valid (.sample data) m).algorithms = m.algorithms := by
  simp only [AlgoMgr.next, AlgoMgr.pushData]
  split <;> rfl

theorem popData_algorithms (m : AlgoMgr AccelData) :
    (AlgoMgr.next AccelData.valid .popData m).algorithms = m.algorithms := by
  rw [AlgoMgr.next, AlgoMgr.popData_frame]

theorem notifyCallback_algorithms (m : AlgoMgr AccelData) :
    (AlgoMgr.next AccelData.valid .notifyCallback m).algorithms = m.algorithms := by
  simp only [AlgoMgr.next, AlgoMgr.notifyCallback]
  split <;> rfl

/-- The invariant of all runs. -/
structure Good (s : Algorithms) : Prop where
  mgr : s.mgr.Good AccelData.valid
  runs : ∀ type, s.mgr.algorithms type = true → s.Runs type

theorem good_start : ({} : Algorithms).Good where
  mgr := AlgoMgr.good_start AccelData.valid
  runs := by simp

/-- The algorithms that are there are enabled and subscribed. -/
theorem Good.on (h : s.Good) (on : s.mgr.algorithms type = true) :
    0 < s.mgr.enabled type ∧ s.mgr.algoMap type = true := by
  obtain zero | pos := Nat.eq_zero_or_pos (s.mgr.enabled type)
  · obtain ⟨off, -, -⟩ := h.mgr.off type zero
    exact absurd on (by simp [off])
  · exact ⟨pos, (h.mgr.on type pos).2.1⟩

/-- An operation of the manager makes no algorithm but the one that it enables. -/
theorem Good.algorithms_of_next (h : s.Good) {l : AlgoMgr.Label AccelData}
    (on : (AlgoMgr.next AccelData.valid l s.mgr).algorithms type = true) :
    s.mgr.algorithms type = true ∨
      s.mgr.algorithms type = false ∧ l = .enable type := by
  cases before : s.mgr.algorithms type with
  | true => exact .inl rfl
  | false =>
    refine .inr ⟨rfl, ?_⟩
    cases l with
    | enable other =>
      by_cases same : other = type
      · rw [same]
      · cases made : s.mgr.algorithms other <;>
          simp [AlgoMgr.next, AlgoMgr.enable, AlgoMgr.registerCallbackSensor, AlgoMgr.create, made,
            before, Ne.symm same] at on
    | disable other =>
      obtain ⟨-, eq⟩ | ⟨-, eq⟩ := h.mgr.disable_cases other
      · by_cases same : type = other <;> simp [AlgoMgr.next, eq, same, before] at on
      · simp [AlgoMgr.next, eq, before] at on
    | sample data => exact absurd on (by simp [sample_algorithms, before])
    | popData => exact absurd on (by simp [popData_algorithms, before])
    | notifyCallback => exact absurd on (by simp [notifyCallback_algorithms, before])

theorem Good.algorithms_of_other (h : s.Good) {l : AlgoMgr.Label AccelData}
    (on : (AlgoMgr.next AccelData.valid l s.mgr).algorithms type = true)
    (other : l ≠ .enable type) : s.mgr.algorithms type = true :=
  (h.algorithms_of_next on).resolve_right fun made => other made.2

theorem Runs.around (l : AlgoMgr.Label AccelData) (h : s.mgr.algorithms type = true → s.Runs type)
    (on : s.mgr.algorithms type = true ∨ s.mgr.algorithms type = false ∧ l = .enable type) :
    (s.around l).Runs type := by
  obtain on | ⟨off, rfl⟩ := on
  · have runs := h on
    cases l with
    | enable other =>
      unfold Algorithms.around
      dsimp only
      split
      next => exact runs.of_eq rfl rfl rfl rfl
      next made =>
        have ne : type ≠ other := fun same => made (same ▸ on)
        apply runs.of_eq <;> simp [create, ne]
    | disable other => exact runs
    | sample data => exact runs.of_eq rfl rfl rfl rfl
    | popData => exact runs
    | notifyCallback =>
      unfold Algorithms.around
      dsimp only
      split
      · exact runs
      · exact runs.notifyCallback _
  · have made := runs_create type s
    unfold Algorithms.around
    simp only [off, Bool.false_eq_true, if_false]
    exact made.of_eq rfl rfl rfl rfl

theorem Good.next (l : Label) (s : Algorithms) (h : s.Good) : (next l s).Good := by
  cases l with
  | registerCallback =>
    have mgr := registerCallback_mgr s
    exact ⟨mgr ▸ h.mgr, fun type on => (h.runs type (mgr ▸ on)).registerCallback⟩
  | mgr l =>
    refine ⟨h.mgr.next l s.mgr, fun type on => ?_⟩
    have runs := Runs.around l (h.runs type) (h.algorithms_of_next on)
    exact runs.of_eq rfl rfl rfl rfl

/-- What a run that uses one algorithm at a time keeps besides. -/
structure Served (s : Algorithms) : Prop where
  mgr : s.mgr.Served
  complete : ∀ type, s.mgr.algorithms type = true → s.Complete type

theorem served_start : ({} : Algorithms).Served where
  mgr := AlgoMgr.served_start
  complete := by simp

theorem Good.enable_complete (h : s.Good) (served : s.Served) (other : AlgoType)
    (alone : s.mgr.Alone (.enable other))
    (on : (AlgoMgr.next AccelData.valid (.enable other) s.mgr).algorithms type = true) :
    (Algorithms.next (.mgr (.enable other)) s).Complete type := by
  have list := (AlgoMgr.enable_frame other s.mgr).2.1
  have before := h.algorithms_of_next on
  simp only [Complete, Algorithms.next, around, AlgoMgr.next, list]
  cases made : s.mgr.algorithms other with
  | true =>
    obtain on | ⟨off, same⟩ := before
    · simpa [Complete, made] using served.complete type on
    · obtain rfl : other = type := by simpa using same
      exact absurd made (by simp [off])
  | false =>
    obtain there | ⟨off, same⟩ := before
    · have ne : type ≠ other := fun same => absurd there (by simp [same, made])
      simpa [Complete, made, create, ne] using served.complete type there
    · obtain rfl : other = type := by simpa using same
      have zero : s.mgr.enabled other = 0 := by
        by_contra pos
        have there := (h.mgr.on other (Nat.pos_of_ne_zero pos)).1
        exact absurd there (by simp [off])
      simp [create, alone zero]

theorem Good.sample_complete (h : s.Good) (served : s.Served) (data : AccelData)
    (on : s.mgr.algorithms type = true) :
    (Algorithms.next (.mgr (.sample data)) s).Complete type := by
  have before := served.complete type on
  unfold Complete at before ⊢
  have active := served.mgr.accelerometer.mpr ⟨type, (h.on on).1⟩
  by_cases valid : data.valid = true
  · simp [Algorithms.next, around, AlgoMgr.next, AlgoMgr.pushData, AlgoMgr.pending, on, active,
      valid, ← before]
  · simpa [Algorithms.next, around, AlgoMgr.next, AlgoMgr.pushData, on, valid] using before

theorem Good.notifyCallback_complete (h : s.Good) (served : s.Served)
    (on : s.mgr.algorithms type = true) :
    (Algorithms.next (.mgr .notifyCallback) s).Complete type := by
  have before := served.complete type on
  unfold Complete at before ⊢
  have subscribed := (h.on on).2
  cases inHand : s.mgr.acclData with
  | none =>
    simpa [Algorithms.next, around, AlgoMgr.next, AlgoMgr.notifyCallback, inHand] using before
  | some data =>
    rw [AlgoMgr.pending, inHand] at before
    cases callback : (s.algos type).callback with
    | false =>
      have heard := ((h.runs type on).silent callback).2.1
      simpa [Algorithms.next, around, AlgoMgr.next, AlgoMgr.notifyCallback, AlgoMgr.pending, inHand,
        notifyCallback, callback, subscribed, heard] using before
    | true =>
      simpa [Algorithms.next, around, AlgoMgr.next, AlgoMgr.notifyCallback, AlgoMgr.pending, inHand,
        notifyCallback, callback, subscribed] using before

/-- An operation that leaves the others alone. -/
theorem Good.next_served (l : Label) (h : s.Good) (served : s.Served) (alone : s.Alone l) :
    (Algorithms.next l s).Served := by
  cases l with
  | registerCallback =>
    simp only [Algorithms.next, Algorithms.registerCallback]
    split
    · exact served
    · split
      · exact ⟨served.mgr, served.complete⟩
      · exact served
  | mgr l =>
    refine ⟨(h.mgr.served_iff l served.mgr).mpr alone, fun type on => ?_⟩
    cases l with
    | enable other => exact h.enable_complete served other alone on
    | disable other =>
      have before := served.complete type (h.algorithms_of_other on (by simp))
      obtain ⟨-, eq⟩ | ⟨-, eq⟩ := h.mgr.disable_cases other
      · simpa [Complete, Algorithms.next, around, AlgoMgr.next, AlgoMgr.pending, eq] using before
      · simpa [Complete, Algorithms.next, around, AlgoMgr.next, AlgoMgr.pending, eq] using before
    | sample data => exact h.sample_complete served data (h.algorithms_of_other on (by simp))
    | popData =>
      have before := served.complete type (h.algorithms_of_other on (by simp))
      simpa [Complete, Algorithms.next, around, AlgoMgr.next] using before
    | notifyCallback => exact h.notifyCallback_complete served (h.algorithms_of_other on (by simp))

/-- In every run, the state of an algorithm is the level of the samples that it was handed, and it
reports each change of this level once. If one algorithm is used at a time and no sample is pending
at a switch, these are the samples that arrive while it is enabled. -/
theorem run_debounced (tr : List Label) {type : AlgoType}
    (on : (runFrom next {} tr).mgr.algorithms type = true) :
    (runFrom next {} tr).Debounced type ∧
      (EachStep next Alone {} tr → (runFrom next {} tr).Complete type) := by
  have good : (runFrom next {} tr).Good := runFrom_invariant Good.next good_start tr
  refine ⟨(good.runs type on).debounced, fun alone => ?_⟩
  have both : (runFrom next {} tr).Good ∧ (runFrom next {} tr).Served := by
    apply alone.invariant (I := fun s => s.Good ∧ s.Served)
    · exact fun l s ⟨h, served⟩ alone => ⟨h.next l s, h.next_served l served alone⟩
    · exact ⟨good_start, served_start⟩
  exact both.2.complete type on

/-- The device lies on a table, and the first sample is handed on when the callback has come. -/
def lying : List Label :=
  [.mgr (.enable .absoluteStill), .mgr (.sample { x := 0.0, y := 0.0, z := 9.8 }), .mgr .popData,
    .registerCallback, .mgr (.sample { x := 0.1, y := 0.0, z := 9.8 }), .mgr .notifyCallback,
    .mgr .popData, .mgr .notifyCallback]

theorem run_debounced_lying : (runFrom next {} lying).Debounced .absoluteStill ∧
    (runFrom next {} lying).Complete .absoluteStill := by
  have alone : EachStep next Alone {} lying := by
    refine .cons (fun _ => rfl) (.cons trivial (.cons trivial (.cons trivial ?_)))
    exact .cons trivial (.cons trivial (.cons trivial (.cons trivial .nil)))
  have on : (runFrom next {} lying).mgr.algorithms .absoluteStill = true := by
    have enabled : (AlgoMgr.next AccelData.valid (.enable .absoluteStill) {}).algorithms
        .absoluteStill = true := rfl
    simpa only [lying, runFrom, List.foldl_cons, List.foldl_nil, next_mgr, next_registerCallback,
      registerCallback_mgr, sample_algorithms, popData_algorithms, notifyCallback_algorithms] using
      enabled
  obtain ⟨debounced, complete⟩ := run_debounced lying on
  exact ⟨debounced, complete alone⟩

end Algorithms

end DeviceStatus.Service
