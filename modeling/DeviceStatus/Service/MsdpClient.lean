import Mathlib.Data.Fintype.Basic
import Mathlib.Logic.Function.Basic

/-!
# The msdp client

The client loads two libraries, one with the algorithms of three types and one that mocks all
types, and counts for each type how often it was initialised with either.

## Main definitions

* `DeviceType`, `ActivityEvent`, `OnChangedValue` — what subscribers ask for and are told.
* `MsdpClient`, `MsdpClient.initMsdpImpl`, `MsdpClient.disable` — the client.
* `MsdpClient.Enabled` — a type is counted by the client.
-/

namespace DeviceStatus.Service

/-- `Type`, with all numbers outside of the enumeration as `invalid`. -/
inductive DeviceType where
  | absoluteStill
  | horizontalPosition
  | verticalPosition
  | still
  | relativeStill
  | carBluetooth
  | lidOpen
  | stand
  | invalid
  deriving DecidableEq

instance : Fintype DeviceType where
  elems := {.absoluteStill, .horizontalPosition, .verticalPosition, .still, .relativeStill,
    .carBluetooth, .lidOpen, .stand, .invalid}
  complete type := by cases type <;> decide

inductive ActivityEvent where
  | enter
  | exit
  | enterExit
  | invalid
  deriving DecidableEq

inductive OnChangedValue where
  | enter
  | exit
  | invalid
  deriving DecidableEq

/-- What a library is found to be when it is loaded. -/
inductive Library where
  | missing
  /-- without `Create` or `Destroy` -/
  | incomplete
  | complete
  deriving DecidableEq

/-- What the libraries and the mutex answer to one call. -/
structure MsdpEnv where
  algo : Library := .complete
  mock : Library := .complete
  /-- whether a thread gets past a mutex that it already holds -/
  relock : Bool := false
  createAlgo : Bool := true
  createMock : Bool := true
  /-- whether `Enable` of the algorithm library succeeds -/
  enableAlgo : Bool := true
  deriving DecidableEq

structure MsdpAlgoHandle where
  handle : Bool := false
  pAlgorithm : Bool := false
  deriving DecidableEq

namespace MsdpAlgoHandle

/-- `LoadAlgoLibrary` and `LoadMockLibrary`; a library that is incomplete is closed again, with
`RET_OK`. -/
def load (library : Library) (h : MsdpAlgoHandle) : Option MsdpAlgoHandle :=
  if h.handle then some h
  else match library with
    | .missing => none
    | .incomplete => some {}
    | .complete => some { h with handle := true }

/-- `GetAlgoInst` and `GetMockInst`. -/
def instance? (create : Bool) (h : MsdpAlgoHandle) : MsdpAlgoHandle × Bool :=
  if h.handle = false then (h, false)
  else if h.pAlgorithm then (h, true)
  else ({ h with pAlgorithm := create }, create)

end MsdpAlgoHandle

/-- A map from types to counters. They are `uint32_t` in the source and do not come to `2 ^ 32`: a
type is initialised fewer times than that. -/
abbrev CallCounts := DeviceType → Option ℕ

namespace CallCounts

def init : CallCounts := fun type => if type = .invalid then none else some 0

/-- A counter that is missing starts at 0. -/
def increment (type : DeviceType) (counts : CallCounts) : CallCounts :=
  Function.update counts type (some (match counts type with | none => 0 | some n => n + 1))

/-- A type with a counter that is not 0. -/
def Positive (type : DeviceType) (counts : CallCounts) : Prop :=
  ∃ n, counts type = some (n + 1)

end CallCounts

structure MsdpClient where
  algoHandle : MsdpAlgoHandle := {}
  mockHandle : MsdpAlgoHandle := {}
  iAlgo : Bool := false
  iMock : Bool := false
  algoCallCounts : CallCounts := CallCounts.init
  mockCallCounts : CallCounts := CallCounts.init
  /-- whether there is a `callBacksMgr_` -/
  callBacksMgr : Bool := false

namespace MsdpClient

/-- How `InitMsdpImpl` ends. -/
inductive Outcome where
  | retOk (c : MsdpClient)
  | retErr (c : MsdpClient)
  | hangs (c : MsdpClient)

def getAlgoAbility : DeviceType → Bool
  | .absoluteStill | .horizontalPosition | .verticalPosition => true
  | _ => false

/-- `StartAlgo` calls `GetAlgoInst` while it holds the mutex that `GetAlgoInst` locks. -/
def algoHandleOf (env : MsdpEnv) (type : DeviceType) (c : MsdpClient) : Outcome :=
  if getAlgoAbility type = false then .retErr c
  else match c.algoHandle.load env.algo with
    | none => .retErr c
    | some algoHandle =>
      if env.relock = false then .hangs { c with algoHandle }
      else
        let (algoHandle, iAlgo) := algoHandle.instance? env.createAlgo
        let c := { c with algoHandle, iAlgo }
        if iAlgo = false ∨ env.enableAlgo = false then .retErr c
        else .retOk { c with algoCallCounts := c.algoCallCounts.increment type }

/-- `GetMockInst` resets the counter when it creates the instance. -/
def mockHandleOf (env : MsdpEnv) (type : DeviceType) (c : MsdpClient) : Outcome :=
  if type = .invalid then .retErr c
  else match c.mockHandle.load env.mock with
    | none => .retErr c
    | some loaded =>
      let (mockHandle, iMock) := loaded.instance? env.createMock
      let mockCallCounts :=
        if loaded.handle ∧ loaded.pAlgorithm = false then
          Function.update c.mockCallCounts type (some 0)
        else c.mockCallCounts
      let c := { c with mockHandle, iMock, mockCallCounts }
      if iMock = false then .retErr c
      else .retOk { c with mockCallCounts := c.mockCallCounts.increment type }

def initMsdpImpl (sensor : Bool) (env : MsdpEnv) (type : DeviceType) (c : MsdpClient) : Outcome :=
  if sensor then
    match c.algoHandleOf env type with
    | .retErr c => c.mockHandleOf env type
    | outcome => outcome
  else c.mockHandleOf env type

/-- The log at the end of `AlgoDisable` puts the erased counter back, at 0. -/
def algoDisable (sensor : Bool) (type : DeviceType) (c : MsdpClient) : MsdpClient × Bool :=
  if sensor = false ∨ c.iAlgo = false ∨ c.algoCallCounts type = none then (c, false)
  else
    let erased := Function.update c.algoCallCounts type none
    let c :=
      if ∀ type, erased type = none then
        { c with algoHandle := {}, iAlgo := false, callBacksMgr := false }
      else c
    ({ c with algoCallCounts := Function.update erased type (some 0) }, true)

/-- A counter that is erased is decremented nevertheless, in freed memory. -/
def mockDisable (type : DeviceType) (c : MsdpClient) : MsdpClient × Bool :=
  if c.iMock = false then (c, false)
  else match c.mockCallCounts type with
    | none => (c, false)
    | some 0 =>
      let erased := Function.update c.mockCallCounts type none
      if ∀ type, erased type = none then
        ({ c with
            mockCallCounts := erased, mockHandle := {}, iMock := false
            callBacksMgr := false }, true)
      else ({ c with mockCallCounts := erased }, true)
    | some (n + 1) =>
      ({ c with mockCallCounts := Function.update c.mockCallCounts type (some n) }, true)

def disable (sensor : Bool) (type : DeviceType) (c : MsdpClient) : MsdpClient × Bool :=
  let (c, ok) := c.algoDisable sensor type
  if ok then (c, true) else c.mockDisable type

/-- The client counts a type with one of the libraries. -/
def Enabled (type : DeviceType) (c : MsdpClient) : Prop :=
  c.algoCallCounts.Positive type ∨ c.mockCallCounts.Positive type

/-- A type is counted once where the client looks for it when it is disabled. -/
def CountedOnce (sensor : Bool) (type : DeviceType) (c : MsdpClient) : Prop :=
  if sensor ∧ c.iAlgo then c.mockCallCounts type = some 0 else c.mockCallCounts type = some 1

structure Valid (sensor : Bool) (c : MsdpClient) : Prop where
  algo : c.iAlgo = true → c.algoHandle = { handle := true, pAlgorithm := true }
  mock : c.iMock = true → c.mockHandle = { handle := true, pAlgorithm := true }
  fresh : c.mockHandle.pAlgorithm = false → ∀ type, ¬ c.mockCallCounts.Positive type
  created : c.mockHandle.pAlgorithm = true → c.mockHandle.handle = true
  algoCounts : ∀ type, c.algoCallCounts.Positive type → sensor = true ∧ c.iAlgo = true
  mockCounts : ∀ type, c.mockCallCounts.Positive type → c.iMock = true
  counters : ∀ type, type ≠ .invalid →
    c.algoCallCounts type ≠ none ∧ c.mockCallCounts type ≠ none

/-- The types that another client counts are those of this one, but for one type. -/
def AgreeOff (type : DeviceType) (c c' : MsdpClient) : Prop :=
  ∀ other, other ≠ type → (c'.Enabled other ↔ c.Enabled other)

def Outcome.client : Outcome → MsdpClient
  | .retOk c => c
  | .retErr c => c
  | .hangs c => c

/-- What `InitMsdpImpl` does to a client: only one that ends well changes what is counted. -/
structure Outcome.Spec (sensor : Bool) (type : DeviceType) (c : MsdpClient) (o : Outcome) :
    Prop where
  valid : o.client.Valid sensor
  off : AgreeOff type c o.client
  callBacksMgr : o.client.callBacksMgr = c.callBacksMgr
  retOk : ∀ c', o = .retOk c' → c'.Enabled type
  same : (∀ c', o ≠ .retOk c') → (o.client.Enabled type ↔ c.Enabled type)

end MsdpClient

namespace CallCounts

variable {counts : CallCounts} {type other : DeviceType}

theorem positive_increment_self (counter : counts type ≠ none) :
    (counts.increment type).Positive type := by
  obtain ⟨n, hn⟩ := Option.ne_none_iff_exists'.mp counter
  exact ⟨n, by simp [increment, hn]⟩

theorem positive_update_other {n : Option ℕ} (h : other ≠ type) :
    Positive other (Function.update counts type n) ↔ counts.Positive other := by
  simp [Positive, h]

theorem positive_increment_other (h : other ≠ type) :
    (counts.increment type).Positive other ↔ counts.Positive other :=
  positive_update_other h

theorem increment_ne_none (h : counts other ≠ none) : counts.increment type other ≠ none := by
  unfold increment
  by_cases same : other = type
  · simp [same]
  · simpa [same] using h

variable {created : Prop} [Decidable created]

/-- Counters that are all 0 before a reset are so after it. -/
theorem positive_reset (first : created → ∀ other, ¬ counts.Positive other) (other : DeviceType) :
    Positive other (if created then Function.update counts type (some 0) else counts) ↔
      counts.Positive other := by
  split
  next new =>
    have zero := first new other
    by_cases same : other = type
    · subst same
      simpa [Positive] using zero
    · exact positive_update_other same
  next => rfl

theorem reset_ne_none (h : counts other ≠ none) :
    (if created then Function.update counts type (some 0) else counts) other ≠ none := by
  split
  next =>
    by_cases same : other = type
    · simp [same]
    · simpa [same] using h
  next => exact h

end CallCounts

namespace MsdpAlgoHandle

variable {library : Library} {h h' : MsdpAlgoHandle} {create known known' : Bool}

theorem pAlgorithm_of_load (created : h.pAlgorithm = true → h.handle = true)
    (load : h.load library = some h') :
    h'.pAlgorithm = h.pAlgorithm ∧ (h'.pAlgorithm = true → h'.handle = true) := by
  simp only [MsdpAlgoHandle.load] at load
  grind

/-- An instance that is there stays there. -/
theorem owned_of_load (owned : known = true → h = { handle := true, pAlgorithm := true })
    (load : h.load library = some h') (isKnown : known = true) :
    h' = { handle := true, pAlgorithm := true } := by
  rw [owned isKnown] at load
  exact (Option.some.inj load).symm

theorem owned_of_instance? (got : h.instance? create = (h', true)) :
    h' = { handle := true, pAlgorithm := true } := by
  obtain ⟨handle, pAlgorithm⟩ := h
  simp only [MsdpAlgoHandle.instance?] at got
  grind

theorem known_of_instance? (owned : known = true → h = { handle := true, pAlgorithm := true })
    (got : h.instance? create = (h', known')) (isKnown : known = true) : known' = true := by
  rw [owned isKnown] at got
  exact (congrArg Prod.snd got).symm

theorem pAlgorithm_of_instance? (created : h.pAlgorithm = true → h.handle = true)
    (got : h.instance? create = (h', known)) :
    (h'.pAlgorithm = true → h'.handle = true) ∧
      (h'.pAlgorithm = false → h.pAlgorithm = false) := by
  simp only [MsdpAlgoHandle.instance?] at got
  grind

end MsdpAlgoHandle

namespace MsdpClient

variable {sensor : Bool} {env : MsdpEnv} {type : DeviceType} {c : MsdpClient}

theorem valid_init (sensor : Bool) : Valid sensor {} where
  algo := by simp
  mock := by simp
  fresh := by simp [CallCounts.Positive, CallCounts.init]
  created := by simp
  algoCounts := by simp [CallCounts.Positive, CallCounts.init]
  mockCounts := by simp [CallCounts.Positive, CallCounts.init]
  counters := by simp [CallCounts.init]

/-- An outcome that leaves the counters alone. -/
theorem Outcome.Spec.of_counts {o : Outcome} (valid : o.client.Valid sensor)
    (positive : ∀ other, o.client.Enabled other ↔ c.Enabled other)
    (callBacksMgr : o.client.callBacksMgr = c.callBacksMgr) (failed : ∀ c', o ≠ .retOk c') :
    o.Spec sensor type c where
  valid := valid
  off := fun other _ => positive other
  callBacksMgr := callBacksMgr
  retOk := fun c' h => absurd h (failed c')
  same := fun _ => positive type

/-- An outcome that counts one type. -/
theorem Outcome.Spec.of_enabled {c' : MsdpClient} (valid : c'.Valid sensor)
    (off : AgreeOff type c c') (callBacksMgr : c'.callBacksMgr = c.callBacksMgr)
    (enabled : c'.Enabled type) : (Outcome.retOk c').Spec sensor type c where
  valid := valid
  off := off
  callBacksMgr := callBacksMgr
  retOk := by rintro _ ⟨⟩; exact enabled
  same := fun h => absurd rfl (h c')

theorem algoHandleOf_spec (valid : c.Valid sensor) (isSensor : sensor = true) :
    (c.algoHandleOf env type).Spec sensor type c := by
  have unchanged : (Outcome.retErr c).Spec sensor type c :=
    .of_counts valid (fun _ => Iff.rfl) rfl nofun
  unfold algoHandleOf
  split
  next => exact unchanged
  next able =>
  have known : type ≠ .invalid := by rintro rfl; simp [getAlgoAbility] at able
  split
  next => exact unchanged
  next algoHandle loaded =>
  have kept := MsdpAlgoHandle.owned_of_load valid.algo loaded
  split
  next =>
    refine .of_counts ?_ (fun _ => Iff.rfl) rfl nofun
    exact ⟨kept, valid.mock, valid.fresh, valid.created, valid.algoCounts, valid.mockCounts,
      valid.counters⟩
  next =>
  obtain ⟨handle, got⟩ : ∃ handle, algoHandle.instance? env.createAlgo = handle := ⟨_, rfl⟩
  obtain ⟨algoHandle', iAlgo⟩ := handle
  have owner : iAlgo = true → algoHandle' = { handle := true, pAlgorithm := true } := by
    rintro rfl
    exact MsdpAlgoHandle.owned_of_instance? got
  have stays := MsdpAlgoHandle.known_of_instance? kept got
  have algoCounts : ∀ type, c.algoCallCounts.Positive type → sensor = true ∧ iAlgo = true :=
    fun type h => ⟨isSensor, stays (valid.algoCounts type h).2⟩
  simp only [got]
  split
  next =>
    refine .of_counts ?_ (fun _ => Iff.rfl) rfl nofun
    exact ⟨owner, valid.mock, valid.fresh, valid.created, algoCounts, valid.mockCounts,
      valid.counters⟩
  next started =>
    have isAlgo : iAlgo = true := by simpa using (not_or.mp started).1
    refine .of_enabled ⟨owner, valid.mock, valid.fresh, valid.created,
      fun _ _ => ⟨isSensor, isAlgo⟩, valid.mockCounts, ?_⟩ ?_ rfl (.inl ?_)
    · intro other h
      exact ⟨CallCounts.increment_ne_none (valid.counters other h).1, (valid.counters other h).2⟩
    · intro other h
      simp only [Enabled, CallCounts.positive_increment_other h]
    · exact CallCounts.positive_increment_self (valid.counters type known).1

theorem mockHandleOf_spec (valid : c.Valid sensor) :
    (c.mockHandleOf env type).Spec sensor type c := by
  have unchanged : (Outcome.retErr c).Spec sensor type c :=
    .of_counts valid (fun _ => Iff.rfl) rfl nofun
  unfold mockHandleOf
  split
  next => exact unchanged
  next known =>
  split
  next => exact unchanged
  next loaded load =>
  have kept := MsdpAlgoHandle.owned_of_load valid.mock load
  obtain ⟨older, created⟩ := MsdpAlgoHandle.pAlgorithm_of_load valid.created load
  obtain ⟨handle, got⟩ : ∃ handle, loaded.instance? env.createMock = handle := ⟨_, rfl⟩
  obtain ⟨mockHandle, iMock⟩ := handle
  have owner : iMock = true → mockHandle = { handle := true, pAlgorithm := true } := by
    rintro rfl
    exact MsdpAlgoHandle.owned_of_instance? got
  have stays := MsdpAlgoHandle.known_of_instance? kept got
  have instanced := MsdpAlgoHandle.pAlgorithm_of_instance? created got
  obtain ⟨counts, reset⟩ : ∃ counts : CallCounts, (if loaded.handle ∧ loaded.pAlgorithm = false then
      Function.update c.mockCallCounts type (some 0) else c.mockCallCounts) = counts := ⟨_, rfl⟩
  have positive : ∀ other, counts.Positive other ↔ c.mockCallCounts.Positive other := by
    subst reset
    exact CallCounts.positive_reset fun first => valid.fresh (older ▸ first.2)
  have counters : ∀ other, other ≠ .invalid → counts other ≠ none := by
    subst reset
    exact fun other h => CallCounts.reset_ne_none (valid.counters other h).2
  simp only [got, reset]
  split
  next =>
    refine .of_counts ⟨valid.algo, owner, ?_, instanced.1, valid.algoCounts, ?_, ?_⟩ ?_ rfl nofun
    · intro none other h
      exact valid.fresh (older ▸ instanced.2 none) other ((positive other).mp h)
    · intro other h
      exact stays (valid.mockCounts other ((positive other).mp h))
    · intro other h
      exact ⟨(valid.counters other h).1, counters other h⟩
    · intro other
      simp only [Enabled, Outcome.client, positive]
  next started =>
    have isMock : iMock = true := by simpa using started
    refine .of_enabled ⟨valid.algo, owner, ?_, instanced.1, valid.algoCounts,
      fun _ _ => isMock, ?_⟩ ?_ rfl (.inr ?_)
    · intro none
      simp [owner isMock] at none
    · intro other h
      exact ⟨(valid.counters other h).1, CallCounts.increment_ne_none (counters other h)⟩
    · intro other h
      simp only [Enabled, CallCounts.positive_increment_other h, positive]
    · exact CallCounts.positive_increment_self (counters type known)

/-- A second try after one that failed. -/
theorem Outcome.Spec.trans {c' : MsdpClient} {o : Outcome}
    (failed : (Outcome.retErr c').Spec sensor type c) (h : o.Spec sensor type c') :
    o.Spec sensor type c where
  valid := h.valid
  off := fun other ne => (h.off other ne).trans (failed.off other ne)
  callBacksMgr := h.callBacksMgr.trans failed.callBacksMgr
  retOk := h.retOk
  same := fun none => (h.same none).trans (failed.same nofun)

theorem initMsdpImpl_spec (valid : c.Valid sensor) :
    (c.initMsdpImpl sensor env type).Spec sensor type c := by
  unfold initMsdpImpl
  split
  next isSensor =>
    have algo : (c.algoHandleOf env type).Spec sensor type c :=
      algoHandleOf_spec valid isSensor
    split
    next c' failed =>
      rw [failed] at algo
      exact algo.trans (mockHandleOf_spec algo.valid)
    next => exact algo
  next => exact mockHandleOf_spec valid

/-- The counters never run out, so a library is never closed by `AlgoDisable`. -/
theorem erased_nonempty {counts : CallCounts}
    (counters : ∀ type, type ≠ .invalid → counts type ≠ none) (type : DeviceType) :
    ¬ ∀ other, Function.update counts type none other = none := by
  intro h
  by_cases still : type = .still
  · exact counters .stand (by decide) (by simpa [still] using h .stand)
  · exact counters .still (by decide) (by simpa [Ne.symm still] using h .still)

theorem disable_of_iAlgo (valid : c.Valid sensor) (known : type ≠ .invalid)
    (h : sensor = true ∧ c.iAlgo = true) :
    c.disable sensor type =
      ({ c with algoCallCounts := Function.update c.algoCallCounts type (some 0) }, true) := by
  have counter := (valid.counters type known).1
  have others := erased_nonempty (fun type h => (valid.counters type h).1) type
  simp [disable, algoDisable, h, counter, others]

theorem disable_of_mock {n : ℕ} (h : ¬ (sensor = true ∧ c.iAlgo = true)) (isMock : c.iMock = true)
    (counted : c.mockCallCounts type = some (n + 1)) :
    c.disable sensor type =
      ({ c with mockCallCounts := Function.update c.mockCallCounts type (some n) }, true) := by
  have off : c.algoDisable sensor type = (c, false) := by
    simp only [algoDisable]
    grind
  simp [disable, off, mockDisable, isMock, counted]

theorem disable_spec (valid : c.Valid sensor) (known : type ≠ .invalid)
    (enabled : c.Enabled type) :
    (¬ (c.disable sensor type).1.Enabled type ↔ c.CountedOnce sensor type) ∧
      (c.CountedOnce sensor type → (c.disable sensor type).1.Valid sensor ∧
        AgreeOff type c (c.disable sensor type).1 ∧
        (c.disable sensor type).1.callBacksMgr = c.callBacksMgr) := by
  by_cases isAlgo : sensor = true ∧ c.iAlgo = true
  · have counter := (valid.counters type known).2
    rw [disable_of_iAlgo valid known isAlgo, CountedOnce, if_pos isAlgo]
    refine ⟨?_, fun _ => ⟨⟨valid.algo, valid.mock, valid.fresh, valid.created,
      fun _ _ => isAlgo, valid.mockCounts, ?_⟩, ?_, rfl⟩⟩
    · obtain ⟨n, hn⟩ := Option.ne_none_iff_exists'.mp counter
      cases n <;> simp [Enabled, CallCounts.Positive, hn]
    · intro other h
      have := valid.counters other h
      simp only [Function.update_apply]
      grind
    · intro other h
      simp only [Enabled, CallCounts.positive_update_other h]
  · have noAlgo : ∀ type, ¬ c.algoCallCounts.Positive type := fun type h =>
      isAlgo (valid.algoCounts type h)
    obtain ⟨n, counted⟩ := enabled.resolve_left (noAlgo type)
    have isMock := valid.mockCounts type ⟨n, counted⟩
    rw [disable_of_mock isAlgo isMock counted, CountedOnce, if_neg isAlgo, counted]
    refine ⟨?_, fun _ => ⟨⟨valid.algo, valid.mock, ?_, valid.created, valid.algoCounts,
      fun _ _ => isMock, ?_⟩, ?_, rfl⟩⟩
    · simp only [Enabled, noAlgo, false_or]
      cases n <;> simp [CallCounts.Positive]
    · intro none
      exact absurd ⟨n, counted⟩ (valid.fresh none type)
    · intro other h
      have := valid.counters other h
      simp only [Function.update_apply]
      grind
    · intro other h
      simp only [Enabled, CallCounts.positive_update_other h]

end MsdpClient

end DeviceStatus.Service
