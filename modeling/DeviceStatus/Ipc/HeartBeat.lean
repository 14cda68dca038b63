import DeviceStatus.Ipc.DSoftbusAdapter
import Mathlib.Data.List.Count

/-!
# Heartbeats

A heartbeat to a peer is a packet and a delayed task that sends the next one, as long as the
state of the peer is on. Stopping turns the state off and leaves the posted task where it is; a
start that comes before the task has run posts a second one, and both go on. A call and the run of a
task are one step each.

## Main definitions

* `HeartBeating`, `HeartBeating.next` — the adapter with its heartbeats.
* `HeartBeating.UniqueChains` — one chain for a peer, that a stop ends.
* `HeartBeating.StartsAlone` — no chain is started beside a posted task.
-/

namespace DeviceStatus.Ipc

open Std (ExtTreeMap)
open Transition.System

def DSOFTBUS_HEART_BEAT_PACKET : MessageId := 26
def HEART_BEAT_SIZE_BYTE : Nat := 28

/-- `char heartBeatContent[HEART_BEAT_SIZE_BYTE] { 'a' }`. -/
def heartBeatContent : List UInt8 := 97 :: List.replicate (HEART_BEAT_SIZE_BYTE - 1) 0

structure HeartBeating extends DSoftbusAdapterImpl where
  eventHandler : Bool := false
  heartBeatPacket : NetPacket := .ofId DSOFTBUS_HEART_BEAT_PACKET
  heartBeatStates : ExtTreeMap NetworkId Bool := ∅
  /-- the peers of the delayed tasks, in the order in which the tasks were posted -/
  tasks : List NetworkId := []

local instance networkId_lawfulBEq : LawfulBEq NetworkId := inferInstance

/-- What the softbus and the event handler answer to a beat. -/
structure Beat where
  sendBytes : Int32 := 0
  postTask : Bool := true

namespace HeartBeating

def updateHeartBeatState (networkId : NetworkId) (state : Bool) (h : HeartBeating) :
    HeartBeating :=
  { h with heartBeatStates := h.heartBeatStates.insert networkId state }

def getHeartBeatState (networkId : NetworkId) (h : HeartBeating) : Bool :=
  (h.heartBeatStates[networkId]?).getD false

/-- `InitHeartBeat`; `created` tells whether an event runner could be made. -/
def initHeartBeat (created : Bool) (h : HeartBeating) : HeartBeating :=
  { h with
    eventHandler := h.eventHandler || created
    heartBeatPacket := (h.heartBeatPacket.write heartBeatContent).2 }

def keepHeartBeating (networkId : NetworkId) (beat : Beat) (h : HeartBeating) :
    Int32 × HeartBeating :=
  let (ret, adapter) := h.toDSoftbusAdapterImpl.sendPacket networkId h.heartBeatPacket
    beat.sendBytes
  let h := { h with toDSoftbusAdapterImpl := adapter }
  if ret ≠ RET_OK then (RET_ERR, h.updateHeartBeatState networkId false)
  else if h.eventHandler = false then (RET_ERR, h)
  else if beat.postTask = false then (RET_ERR, h.updateHeartBeatState networkId false)
  else (RET_OK, { h with tasks := h.tasks ++ [networkId] })

def startHeartBeat (networkId : NetworkId) (beat : Beat) (h : HeartBeating) : HeartBeating :=
  if h.getHeartBeatState networkId then h
  else
    let (ret, h) := h.keepHeartBeating networkId beat
    if ret ≠ RET_OK then h.updateHeartBeatState networkId false
    else h.updateHeartBeatState networkId true

def stopHeartBeat (networkId : NetworkId) (h : HeartBeating) : HeartBeating :=
  h.updateHeartBeatState networkId false

/-- The task that a beat posts. -/
def task (networkId : NetworkId) (beat : Beat) (h : HeartBeating) : HeartBeating :=
  if h.getHeartBeatState networkId then (h.keepHeartBeating networkId beat).2
  else h.updateHeartBeatState networkId false

/-- A posted task for the peer runs, if there is one. -/
def fire (networkId : NetworkId) (beat : Beat) (h : HeartBeating) : HeartBeating :=
  if networkId ∈ h.tasks then task networkId beat { h with tasks := h.tasks.erase networkId }
  else h

end HeartBeating

inductive HeartBeatEvent where
  | session (event : SessionEvent)
  | initHeartBeat (created : Bool)
  | startHeartBeat (networkId : NetworkId) (beat : Beat)
  | stopHeartBeat (networkId : NetworkId)
  | fire (networkId : NetworkId) (beat : Beat)

namespace HeartBeating

def next (event : HeartBeatEvent) (h : HeartBeating) : HeartBeating :=
  match event with
  | .session event => { h with toDSoftbusAdapterImpl := h.toDSoftbusAdapterImpl.next event }
  | .initHeartBeat created => h.initHeartBeat created
  | .startHeartBeat networkId beat => h.startHeartBeat networkId beat
  | .stopHeartBeat networkId => h.stopHeartBeat networkId
  | .fire networkId beat => h.fire networkId beat

/-! ## What a run of tasks may do -/

/-- The runs of a task for the peer in one step. -/
def ran (networkId : NetworkId) (event : HeartBeatEvent) (h : HeartBeating) : ℕ :=
  match event with
  | .fire n _ => if n = networkId ∧ n ∈ h.tasks then 1 else 0
  | _ => 0

/-- A task for the peer that runs is gone afterwards, and posts none. -/
def PostsNothing (networkId : NetworkId) (event : HeartBeatEvent) (h : HeartBeating) : Prop :=
  ∀ beat, event = .fire networkId beat → (next event h).tasks = h.tasks.erase networkId

/-- For every peer: at any time at most one task is posted; after a stop, as long as no start
comes, at most one task runs, and it posts nothing. -/
structure UniqueChains (events : List HeartBeatEvent) : Prop where
  posted : ∀ p, p <+: events → ∀ n, (runFrom next {} p).tasks.count n ≤ 1
  stopped : ∀ n p q, events = p ++ .stopHeartBeat n :: q →
    (∀ beat, .startHeartBeat n beat ∉ q) →
    total next (ran n) (runFrom next {} (p ++ [.stopHeartBeat n])) q ≤ 1 ∧
      EachStep next (PostsNothing n) (runFrom next {} (p ++ [.stopHeartBeat n])) q

/-- A beat to the peer is sent and posts its task. -/
structure CanBeat (networkId : NetworkId) (beat : Beat) (h : HeartBeating) : Prop where
  connected : 0 ≤ h.findConnection networkId
  fits : (DSoftbusAdapter.sendPacket h.heartBeatPacket).isSome
  sent : beat.sendBytes = SOFTBUS_OK
  handled : h.eventHandler = true
  posted : beat.postTask = true

/-- A start that gets through finds no task of the peer still posted. -/
def StartsAlone (event : HeartBeatEvent) (h : HeartBeating) : Prop :=
  match event with
  | .startHeartBeat networkId beat =>
      h.getHeartBeatState networkId = false → CanBeat networkId beat h → networkId ∉ h.tasks
  | _ => True

variable {h : HeartBeating} {n m : NetworkId} {beat : Beat}

@[simp] theorem tasks_update (state : Bool) :
    (h.updateHeartBeatState n state).tasks = h.tasks := rfl

@[simp] theorem getHeartBeatState_update (state : Bool) :
    (h.updateHeartBeatState n state).getHeartBeatState m =
      if m = n then state else h.getHeartBeatState m := by
  grind [getHeartBeatState, updateHeartBeatState]

theorem sendPacket_eq_ok : (h.toDSoftbusAdapterImpl.sendPacket n h.heartBeatPacket
      beat.sendBytes).1 = RET_OK ↔
    0 ≤ h.findConnection n ∧ (DSoftbusAdapter.sendPacket h.heartBeatPacket).isSome ∧
      beat.sendBytes = SOFTBUS_OK := by
  have differ : RET_ERR ≠ RET_OK := by decide
  have order : h.findConnection n < 0 ↔ ¬ 0 ≤ h.findConnection n := Int32.not_le.symm
  cases data : DSoftbusAdapter.sendPacket h.heartBeatPacket <;>
    grind [DSoftbusAdapterImpl.sendPacket]

/-- What a beat does: it posts its task when it gets through, and turns no state on. -/
theorem keepHeartBeating_of_canBeat (ok : CanBeat n beat h) :
    (h.keepHeartBeating n beat).1 = RET_OK ∧
      (h.keepHeartBeating n beat).2.tasks = h.tasks ++ [n] := by
  have sent := sendPacket_eq_ok.mpr ⟨ok.connected, ok.fits, ok.sent⟩
  have handled := ok.handled
  have posted := ok.posted
  simp [keepHeartBeating, sent, handled, posted]

theorem keepHeartBeating_of_not (fails : ¬ CanBeat n beat h) :
    (h.keepHeartBeating n beat).1 ≠ RET_OK ∧
      (h.keepHeartBeating n beat).2.tasks = h.tasks := by
  have differ : RET_ERR ≠ RET_OK := by decide
  by_cases sent :
      (h.toDSoftbusAdapterImpl.sendPacket n h.heartBeatPacket beat.sendBytes).1 = RET_OK
  · obtain ⟨connected, fits, sent'⟩ := sendPacket_eq_ok.mp sent
    have refused : h.eventHandler = true → beat.postTask = false := by
      intro handled
      by_contra posted
      exact fails ⟨connected, fits, sent', handled, by simpa using posted⟩
    cases handled : h.eventHandler with
    | false => simp [keepHeartBeating, sent, handled, differ]
    | true => simp [keepHeartBeating, sent, handled, refused handled, differ]
  · simp [keepHeartBeating, sent, differ]

theorem getHeartBeatState_keep (off : h.getHeartBeatState m = false) :
    (h.keepHeartBeating n beat).2.getHeartBeatState m = false := by
  have same (adapter : DSoftbusAdapterImpl) :
      getHeartBeatState m { h with toDSoftbusAdapterImpl := adapter } = false := off
  unfold keepHeartBeating
  dsimp only
  split_ifs
  · simp [same]
  · exact off
  · simp [same]
  · exact off

/-! ## The tasks after a step -/

open Classical in
/-- A start posts a task when the heartbeat is off and the beat gets through. -/
theorem tasks_startHeartBeat :
    (h.startHeartBeat n beat).tasks =
      if h.getHeartBeatState n = false ∧ CanBeat n beat h then h.tasks ++ [n] else h.tasks := by
  by_cases off : h.getHeartBeatState n = false
  · by_cases ok : CanBeat n beat h
    · obtain ⟨done, tasks⟩ := keepHeartBeating_of_canBeat ok
      simp [startHeartBeat, off, ok, done, tasks]
    · obtain ⟨failed, tasks⟩ := keepHeartBeating_of_not ok
      simp [startHeartBeat, off, ok, failed, tasks]
  · simp [startHeartBeat, off]

/-- A task that runs posts at most one, for its own peer. -/
theorem tasks_task :
    (h.task n beat).tasks = h.tasks ∨ (h.task n beat).tasks = h.tasks ++ [n] := by
  by_cases on : h.getHeartBeatState n = true
  · by_cases ok : CanBeat n beat h
    · exact .inr (by simp [task, on, keepHeartBeating_of_canBeat ok])
    · exact .inl (by simp [task, on, keepHeartBeating_of_not ok])
  · exact .inl (by simp [task, on])

theorem count_fire_le : (h.fire n beat).tasks.count m ≤ h.tasks.count m := by
  by_cases mem : n ∈ h.tasks
  · have present := List.count_pos_iff.mpr mem
    obtain same | more := @tasks_task { h with tasks := h.tasks.erase n } n beat
    all_goals
      rw [fire, if_pos mem]
      grind
  · simp [fire, mem]

/-- When the heartbeat is off, a task that runs posts none. -/
theorem tasks_fire_of_off (off : h.getHeartBeatState n = false) :
    (h.fire n beat).tasks = h.tasks.erase n := by
  by_cases mem : n ∈ h.tasks
  · have off' : getHeartBeatState n { h with tasks := h.tasks.erase n } = false := off
    simp [fire, mem, task, off']
  · rw [fire, if_neg mem, List.erase_of_not_mem mem]

theorem getHeartBeatState_fire (off : h.getHeartBeatState m = false) :
    (h.fire n beat).getHeartBeatState m = false := by
  have off' : getHeartBeatState m { h with tasks := h.tasks.erase n } = false := off
  by_cases mem : n ∈ h.tasks
  · by_cases on : getHeartBeatState n { h with tasks := h.tasks.erase n } = true
    · simp [fire, mem, task, on, getHeartBeatState_keep off']
    · simp [fire, mem, task, on, off']
  · simpa [fire, mem] using off

/-! ## Chains -/

/-- One task at most for every peer. -/
def OneTask (h : HeartBeating) : Prop := ∀ n, h.tasks.count n ≤ 1

theorem OneTask.next (one : OneTask h) {event : HeartBeatEvent} (alone : StartsAlone event h) :
    OneTask (next event h) := by
  intro m
  have before := one m
  cases event with
  | session event => exact before
  | initHeartBeat created => exact before
  | startHeartBeat n beat =>
    change (h.startHeartBeat n beat).tasks.count m ≤ 1
    rw [tasks_startHeartBeat]
    split_ifs with starts
    · have absent := List.count_eq_zero.mpr (alone starts.1 starts.2)
      grind
    · exact before
  | stopHeartBeat n => exact before
  | fire n beat => exact count_fire_le.trans before

/-- A start beside a posted task makes two. -/
theorem StartsAlone.of_oneTask {event : HeartBeatEvent}
    (one : OneTask (HeartBeating.next event h)) : StartsAlone event h := by
  cases event with
  | startHeartBeat n beat =>
    intro off ok mem
    have count : (h.startHeartBeat n beat).tasks.count n ≤ 1 := one n
    have present := List.count_pos_iff.mpr mem
    rw [tasks_startHeartBeat, if_pos ⟨off, ok⟩] at count
    grind
  | _ => trivial

/-- While nobody starts the heartbeat of a peer, it stays off. -/
theorem off_next {event : HeartBeatEvent} (off : h.getHeartBeatState n = false)
    (quiet : ∀ beat, event ≠ .startHeartBeat n beat) :
    (next event h).getHeartBeatState n = false := by
  cases event with
  | session event => exact off
  | initHeartBeat created => exact off
  | startHeartBeat m beat =>
    have other : n ≠ m := fun eq => quiet beat (by rw [eq])
    have kept := @getHeartBeatState_keep h m n beat off
    simp only [next, startHeartBeat]
    split_ifs
    · exact off
    · simp [other, kept]
    · simp [other, kept]
  | stopHeartBeat m => simp [next, stopHeartBeat, off]
  | fire m beat => exact getHeartBeatState_fire off

/-- A step in which a task of another peer runs, or none, keeps the tasks of the peer. -/
theorem count_next {event : HeartBeatEvent} (off : h.getHeartBeatState n = false)
    (quiet : ∀ beat, event ≠ .startHeartBeat n beat) :
    ran n event h + (next event h).tasks.count n = h.tasks.count n := by
  cases event with
  | session event => exact Nat.zero_add _
  | initHeartBeat created => exact Nat.zero_add _
  | startHeartBeat m beat =>
    have other : n ≠ m := fun eq => quiet beat (by rw [eq])
    change 0 + (h.startHeartBeat m beat).tasks.count n = h.tasks.count n
    rw [tasks_startHeartBeat]
    grind
  | stopHeartBeat m => exact Nat.zero_add _
  | fire m beat =>
    change ran n (.fire m beat) h + (h.fire m beat).tasks.count n = h.tasks.count n
    by_cases peer : m = n
    · subst peer
      rw [tasks_fire_of_off off]
      by_cases mem : m ∈ h.tasks
      · have present := List.count_pos_iff.mpr mem
        simp only [ran, mem, and_self, if_true, List.count_erase_self]
        omega
      · simp [ran, mem, List.erase_of_not_mem mem]
    · by_cases mem : m ∈ h.tasks
      · obtain same | more := @tasks_task { h with tasks := h.tasks.erase m } m beat
        all_goals
          rw [fire, if_pos mem]
          grind [ran]
      · simp [ran, peer, fire, mem]

/-- While the heartbeat of a peer is off and nobody starts it, the tasks for the peer run off:
each run takes one away. By induction on the run. -/
theorem runs_off (events : List HeartBeatEvent) (off : h.getHeartBeatState n = false)
    (quiet : ∀ beat, .startHeartBeat n beat ∉ events) :
    total next (ran n) h events + (runFrom next h events).tasks.count n = h.tasks.count n ∧
      EachStep next (PostsNothing n) h events := by
  induction events generalizing h with
  | nil => exact ⟨by simp [total, runFrom], .nil⟩
  | cons event events ih =>
    have now : ∀ beat, event ≠ .startHeartBeat n beat := by
      rintro beat rfl
      exact quiet beat List.mem_cons_self
    have later : ∀ beat, .startHeartBeat n beat ∉ events := by
      intro beat mem
      exact quiet beat (List.mem_cons_of_mem event mem)
    have posts : PostsNothing n event h := by
      rintro beat rfl
      exact tasks_fire_of_off off
    have count := count_next off now
    obtain ⟨counts, each⟩ := ih (off_next off now) later
    refine ⟨?_, .cons posts each⟩
    rw [runFrom] at counts
    rw [total, runFrom, List.foldl_cons]
    omega

theorem off_stopHeartBeat : (next (.stopHeartBeat n) h).getHeartBeatState n = false := by
  simp [next, stopHeartBeat]

theorem oneTask_start : OneTask {} := by
  intro n
  simp

/-- The chains of a run are unique exactly when no start gets through while a task of its peer is
still posted. -/
theorem uniqueChains_iff_startsAlone (events : List HeartBeatEvent) :
    UniqueChains events ↔ EachStep next StartsAlone {} events := by
  constructor
  · intro unique p event hp
    apply StartsAlone.of_oneTask
    intro n
    have posted := unique.posted (p ++ [event]) hp n
    rwa [runFrom_append] at posted
  · intro alone
    have one (p : List HeartBeatEvent) (hp : p <+: events) : OneTask (runFrom next {} p) :=
      EachStep.invariant (fun event h keep ok => OneTask.next keep ok) oneTask_start
        (alone.of_prefix hp)
    refine ⟨one, ?_⟩
    intro n p q split quiet
    have stopped : p ++ [.stopHeartBeat n] <+: events := ⟨q, by simp [split]⟩
    have off : (runFrom next {} (p ++ [.stopHeartBeat n])).getHeartBeatState n = false := by
      rw [runFrom_append]
      exact off_stopHeartBeat
    obtain ⟨counts, each⟩ := runs_off q off quiet
    have bound := one _ stopped n
    exact ⟨by omega, each⟩

/-- A peer is connected, its heartbeat starts, stops and starts again. -/
def restart : List HeartBeatEvent :=
  [.initHeartBeat true, .session (.openSession [97] { socket := 1 }),
    .startHeartBeat [97] {}, .stopHeartBeat [97], .startHeartBeat [97] {}]

/-- Two tasks are posted after the restart. -/
theorem restart_twoTasks : ¬ UniqueChains restart := by
  intro unique
  have posted := unique.posted restart List.prefix_rfl [97]
  revert posted
  decide +kernel

end HeartBeating

end DeviceStatus.Ipc
