import DeviceStatus.Library.Transition
import Mathlib.Data.Int.Notation
import Mathlib.Logic.Function.Basic
import Mathlib.Tactic.SplitIfs

/-!
# The posture of the device

`GetDevicePostureDataSync` starts the rotation vector sensor, waits on a condition variable and
converts the sample in the cache. The cache is shared by all calls and is never emptied, and the
wait ends at its timeout, at a notification or for no reason.

## Main definitions

* `PostureServer`, `PostureServer.next` — the cache and the calls, one section under the lock at a
  time.
* `PostureServer.Measured` — a call answers with a sample that has come since it started.
* `PostureServer.InTime` — a sample has come since the call started, or none has ever come.
-/

namespace DeviceStatus.Stationary

open Transition.System

variable {Sample Posture : Type*}

/-- What the sensor service hands to `OnReceivedData`. -/
structure SensorEvent (Sample : Type*) where
  sensorTypeId : ℤ
  data : Option Sample

/-- The number that the sensor framework gives the sensor. -/
def SENSOR_TYPE_ID_ROTATION_VECTOR : ℤ := 259

/-- What a call returns. -/
inductive PostureReply (Posture : Type*) where
  | noSystemApi
  | noSupport
  | retErr
  | retOk (data : Posture)
  deriving DecidableEq

/-- How far a call is. Each stage keeps the number of samples that had come when the sensor was
started. -/
inductive PostureCall where
  | sensing (start : ℕ)
  | waiting (start : ℕ)
  deriving DecidableEq

inductive PostureStep (Sample : Type*) where
  /-- a new call, up to the start of the sensor -/
  | start (call : ℕ) (systemCalling isSupportedSensor : Bool)
  /-- the call takes the lock and waits -/
  | wait (call : ℕ)
  /-- the wait of the call ends -/
  | wake (call : ℕ)
  | receive (event : Option (SensorEvent Sample))

structure PostureServer (Sample Posture : Type*) where
  cacheRotVecData : Option Sample := none
  calls : ℕ → Option PostureCall := fun _ => none
  /-- the samples that have come -/
  received : List Sample := []
  /-- what the last step returned, and from which call -/
  reply : Option (ℕ × PostureReply Posture) := none

namespace PostureServer

variable (transQuaternionsToZXYRot : Sample → Posture)

def onReceivedData (event : Option (SensorEvent Sample)) (s : PostureServer Sample Posture) :
    PostureServer Sample Posture :=
  match event with
  | none => s
  | some event =>
    if event.sensorTypeId = SENSOR_TYPE_ID_ROTATION_VECTOR then
      match event.data with
      | none => s
      | some data => { s with cacheRotVecData := some data, received := s.received ++ [data] }
    else s

/-- `GetDevicePostureDataSync` before it takes the lock. -/
def startSensor (call : ℕ) (systemCalling isSupportedSensor : Bool)
    (s : PostureServer Sample Posture) : PostureServer Sample Posture :=
  if s.calls call ≠ none then s
  else if !systemCalling then { s with reply := some (call, .noSystemApi) }
  else if !isSupportedSensor then { s with reply := some (call, .noSupport) }
  else { s with calls := Function.update s.calls call (some (.sensing s.received.length)) }

def waitFor (call : ℕ) (s : PostureServer Sample Posture) : PostureServer Sample Posture :=
  match s.calls call with
  | some (.sensing start) =>
    { s with calls := Function.update s.calls call (some (.waiting start)) }
  | _ => s

/-- `GetDevicePostureDataSync` after the wait. -/
def convert (call : ℕ) (s : PostureServer Sample Posture) : PostureServer Sample Posture :=
  match s.calls call with
  | some (.waiting _) =>
    let reply :=
      match s.cacheRotVecData with
      | none => .retErr
      | some data => .retOk (transQuaternionsToZXYRot data)
    { s with calls := Function.update s.calls call none, reply := some (call, reply) }
  | _ => s

def next (step : PostureStep Sample) (s : PostureServer Sample Posture) :
    PostureServer Sample Posture :=
  let s := { s with reply := none }
  match step with
  | .start call systemCalling isSupportedSensor =>
    s.startSensor call systemCalling isSupportedSensor
  | .wait call => s.waitFor call
  | .wake call => s.convert transQuaternionsToZXYRot call
  | .receive event => s.onReceivedData event

/-- A call whose wait ends answers with a sample that has come since it started the sensor, and
does not fail if there is one. -/
def Measured (step : PostureStep Sample) (s : PostureServer Sample Posture) : Prop :=
  ∀ call start, step = .wake call → s.calls call = some (.waiting start) →
    (∀ data, (s.next transQuaternionsToZXYRot step).reply = some (call, .retOk data) →
      ∃ sample ∈ s.received.drop start, data = transQuaternionsToZXYRot sample) ∧
    (s.received.drop start ≠ [] →
      (s.next transQuaternionsToZXYRot step).reply ≠ some (call, .retErr))

/-- When the wait of a call ends, a sample has come since the call started the sensor, or none has
ever come. -/
def InTime (step : PostureStep Sample) (s : PostureServer Sample Posture) : Prop :=
  ∀ call start, step = .wake call → s.calls call = some (.waiting start) →
    s.received.drop start ≠ [] ∨ s.received = []

/-- The cache has the last sample. -/
def Cached (s : PostureServer Sample Posture) : Prop := s.cacheRotVecData = s.received.getLast?

variable {transQuaternionsToZXYRot} {s : PostureServer Sample Posture}

theorem Cached.onReceivedData (h : s.Cached) (event : Option (SensorEvent Sample)) :
    (s.onReceivedData event).Cached := by
  unfold PostureServer.onReceivedData
  split
  · exact h
  · split_ifs
    · split
      · exact h
      · exact (List.getLast?_concat ..).symm
    · exact h

theorem Cached.next (h : s.Cached) (step : PostureStep Sample) :
    (s.next transQuaternionsToZXYRot step).Cached := by
  cases step with
  | start call systemCalling isSupportedSensor =>
    simp only [PostureServer.next, startSensor]
    split_ifs <;> exact h
  | wait call =>
    simp only [PostureServer.next, waitFor]
    split <;> exact h
  | wake call =>
    simp only [PostureServer.next, convert]
    split <;> exact h
  | receive event => exact Cached.onReceivedData (s := { s with reply := none }) h event

/-- What a call returns when its wait ends. -/
theorem Cached.reply_wake (h : s.Cached) {call start : ℕ}
    (waiting : s.calls call = some (.waiting start)) :
    (s.next transQuaternionsToZXYRot (.wake call)).reply =
      some (call, s.received.getLast?.elim .retErr fun data =>
        .retOk (transQuaternionsToZXYRot data)) := by
  rw [← show s.cacheRotVecData = s.received.getLast? from h]
  cases cached : s.cacheRotVecData <;> simp [PostureServer.next, convert, waiting, cached]

/-- The last sample has come since the call started, if any has. -/
theorem getLast?_mem_drop {received : List Sample} {start : ℕ} (some : received.drop start ≠ []) :
    ∃ sample ∈ received.drop start, received.getLast? = .some sample := by
  obtain ⟨sample, last⟩ := Option.ne_none_iff_exists'.mp (List.getLast?_eq_none_iff.not.mpr some)
  refine ⟨sample, List.mem_of_getLast? last, ?_⟩
  rw [List.getLast?_drop] at last
  split_ifs at last
  exact last

theorem Cached.measured_iff (h : s.Cached) (step : PostureStep Sample) :
    Measured transQuaternionsToZXYRot step s ↔ InTime step s := by
  constructor
  · intro measured call start isWake waiting
    subst isWake
    obtain ⟨own, -⟩ := measured call start rfl waiting
    rw [h.reply_wake waiting] at own
    by_contra stale
    obtain ⟨nothing, some⟩ := not_or.mp stale
    rw [not_not] at nothing
    cases last : s.received.getLast? with
    | none => exact some (List.getLast?_eq_none_iff.mp last)
    | some sample =>
      obtain ⟨other, mem, -⟩ := own _ (by rw [last]; rfl)
      rw [nothing] at mem
      cases mem
  · intro inTime call start isWake waiting
    subst isWake
    rw [h.reply_wake waiting]
    rcases inTime call start rfl waiting with some | none
    · obtain ⟨sample, mem, last⟩ := getLast?_mem_drop some
      rw [last]
      refine ⟨fun data same => ⟨sample, mem, ?_⟩, fun _ => by simp⟩
      simpa [eq_comm] using same
    · rw [none]
      simp

/-- Every answer is from its own measurement exactly in the runs in which no wait ends without a
sample of its own while an older one is cached. -/
theorem posture_measured_iff (steps : List (PostureStep Sample)) :
    EachStep (next transQuaternionsToZXYRot) (Measured transQuaternionsToZXYRot)
        ({} : PostureServer Sample Posture) steps ↔
      EachStep (next transQuaternionsToZXYRot) InTime {} steps :=
  EachStep.iff_of_invariant (I := Cached) (fun step _ h _ => h.next step)
    (fun step _ h => h.measured_iff step) rfl

/-- The second call waits until its timeout and answers with the sample of the first. -/
theorem posture_stale :
    ¬ ∀ steps : List (PostureStep ℕ),
      EachStep (next id) (Measured id) ({} : PostureServer ℕ ℕ) steps := by
  intro h
  let sample : SensorEvent ℕ := { sensorTypeId := SENSOR_TYPE_ID_ROTATION_VECTOR, data := some 7 }
  let before : List (PostureStep ℕ) :=
    [.start 0 true true, .wait 0, .receive (some sample), .wake 0, .start 1 true true, .wait 1]
  have measured := h (before ++ [.wake 1]) before (.wake 1) List.prefix_rfl
  obtain ⟨own, -⟩ := measured 1 1 rfl (by decide)
  obtain ⟨other, mem, -⟩ := own 7 (by decide)
  cases mem

end PostureServer

end DeviceStatus.Stationary
