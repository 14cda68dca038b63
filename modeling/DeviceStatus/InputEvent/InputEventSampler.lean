import DeviceStatus.InputEvent.RoundTrip
import DeviceStatus.Library.Transition

/-!
# The input event sampler

`InputEventSampler` merges the moves of a mouse until one of them, or another event of the mouse,
is handed on. What has been merged so far is kept in two prefix sums. The sampler is part of the
interceptor and outlives its sessions: what is pending at the end of one session is handed over
in the next one. Events of the touch pad pass by the prefix sums.

## Main definitions

* `InputEventSampler`, `Interception` — the sampler, and the sessions of its interceptor.
* `Interception.Lossless` — a step loses no motion and leaks none.
* `Interception.Clean` — a session starts with nothing pending, and what passes by the sums or
  is added to them finds nothing there, or room.
-/

namespace DeviceStatus.InputEvents

open Transition.System

def idealEventIntervalMS : Int := 4
def expiredIntervalMS : Int := 24

/-- Actions and tool types of the input service, which is not part of the repository. -/
structure SamplerCodes where
  POINTER_ACTION_MOVE : Int32
  POINTER_ACTION_PULL_MOVE : Int32
  POINTER_ACTION_ENTER_WINDOW : Int32
  POINTER_ACTION_LEAVE_WINDOW : Int32
  POINTER_ACTION_PULL_IN_WINDOW : Int32
  POINTER_ACTION_PULL_OUT_WINDOW : Int32
  TOOL_TYPE_TOUCHPAD : Int32

/-- `filterPointerActions_`. -/
def SamplerCodes.filterPointerActions (codes : SamplerCodes) : List Int32 :=
  [codes.POINTER_ACTION_ENTER_WINDOW, codes.POINTER_ACTION_LEAVE_WINDOW,
    codes.POINTER_ACTION_PULL_IN_WINDOW, codes.POINTER_ACTION_PULL_OUT_WINDOW]

/-- The steady clock counts nanoseconds. -/
abbrev TimePoint := Int

/-- `duration_cast` to milliseconds. -/
def milliseconds (duration : Int) : Int := duration.tdiv 1000000

/-- What the clock says at the places where a call reads it. -/
structure ClockReadings where
  isRawEventsExpired : TimePoint
  isAggregationIntervalMatched : TimePoint
  isDurationMatched : TimePoint
  /-- when the event is queued, or the aggregation noted -/
  stamp : TimePoint

variable {mmi : MmiConstants}

structure RawEvent (mmi : MmiConstants) where
  pointerEvent : PointerEvent mmi
  rcvdTimeStamp : TimePoint

structure InputEventSampler (mmi : MmiConstants) where
  pointerEventHandler : Bool := false
  rawEvents : List (RawEvent mmi) := []
  sampledEvents : List (PointerEvent mmi) := []
  aggregationTimeStamp : TimePoint := 0
  prefixRawDxSum : Int32 := 0
  prefixRawDySum : Int32 := 0

namespace InputEventSampler

variable (codes : SamplerCodes)

def setPointerEventHandler (s : InputEventSampler mmi) : InputEventSampler mmi :=
  { s with pointerEventHandler := true }

def isSkipNeeded (event : PointerEvent mmi) : Bool :=
  event.pointerAction ∈ codes.filterPointerActions

def isTouchPadEvent (event : PointerEvent mmi) : Bool :=
  match event.getPointerItem event.pointerId with
  | none => false
  | some item => item.toolType = codes.TOOL_TYPE_TOUCHPAD

def isSpecialEvent (event : PointerEvent mmi) : Bool :=
  event.pointerAction ≠ codes.POINTER_ACTION_MOVE ∧
    event.pointerAction ≠ codes.POINTER_ACTION_PULL_MOVE

def isDurationMatched (now : TimePoint) (s : InputEventSampler mmi) : Bool :=
  match s.rawEvents.head? with
  | none => false
  | some headEvent => idealEventIntervalMS ≤ milliseconds (now - headEvent.rcvdTimeStamp)

def isRawEventsExpired (now : TimePoint) (s : InputEventSampler mmi) : Bool :=
  match s.rawEvents.getLast? with
  | none => false
  | some lastEvent => expiredIntervalMS < milliseconds (now - lastEvent.rcvdTimeStamp)

def isAggregationIntervalMatched (now : TimePoint) (s : InputEventSampler mmi) : Bool :=
  idealEventIntervalMS ≤ milliseconds (now - s.aggregationTimeStamp)

def clearRawEvents (s : InputEventSampler mmi) : InputEventSampler mmi :=
  { s with rawEvents := [] }

/-- `AggregateRawEvents`; `now` is when the aggregation is noted. -/
def aggregateRawEvents (event : PointerEvent mmi) (now : TimePoint) (s : InputEventSampler mmi) :
    InputEventSampler mmi :=
  match event.getPointerItem event.pointerId with
  | none => s
  | some item =>
    let aggregatedItem := { item with
      rawDx := s.prefixRawDxSum + item.rawDx, rawDy := s.prefixRawDySum + item.rawDy }
    -- `UpdatePointerItem`: the item takes the place of the one of its pointer
    { s with
      sampledEvents := s.sampledEvents ++ [event.addPointerItem aggregatedItem]
      rawEvents := []
      aggregationTimeStamp := now
      prefixRawDxSum := 0
      prefixRawDySum := 0 }

def handleTouchPadEvent (event : PointerEvent mmi) (s : InputEventSampler mmi) :
    InputEventSampler mmi :=
  { s with sampledEvents := s.sampledEvents ++ [event] }

def handleMouseEvent (event : PointerEvent mmi) (clock : ClockReadings)
    (s : InputEventSampler mmi) : InputEventSampler mmi :=
  if isSpecialEvent codes event ||
      s.isAggregationIntervalMatched clock.isAggregationIntervalMatched ||
      s.isDurationMatched clock.isDurationMatched then
    s.aggregateRawEvents event clock.stamp
  else
    match event.getPointerItem event.pointerId with
    | none => s
    | some item =>
      { s with
        prefixRawDxSum := s.prefixRawDxSum + item.rawDx
        prefixRawDySum := s.prefixRawDySum + item.rawDy
        rawEvents := s.rawEvents ++ [{ pointerEvent := event, rcvdTimeStamp := clock.stamp }] }

/-- `OnDownSampledEvent`, with what the handler is given. -/
def onDownSampledEvent (s : InputEventSampler mmi) :
    List (PointerEvent mmi) × InputEventSampler mmi :=
  if s.pointerEventHandler then (s.sampledEvents, { s with sampledEvents := [] })
  else ([], { s with sampledEvents := s.sampledEvents.tail })

/-- `OnPointerEvent`, with what the handler is given. -/
def onPointerEvent (event : PointerEvent mmi) (clock : ClockReadings)
    (s : InputEventSampler mmi) : List (PointerEvent mmi) × InputEventSampler mmi :=
  if isSkipNeeded codes event then ([], s)
  else
    let s := if s.isRawEventsExpired clock.isRawEventsExpired then s.clearRawEvents else s
    let s :=
      if isTouchPadEvent codes event then s.handleTouchPadEvent event
      else s.handleMouseEvent codes event clock
    s.onDownSampledEvent

end InputEventSampler

open InputEventSampler

/-- The interceptor with its sampler. What has been received and handed over in the present
session is ghost. -/
structure Interception (mmi : MmiConstants) where
  sampler : InputEventSampler mmi := {}
  /-- whether `interceptorId_` is that of an interceptor -/
  intercepting : Bool := false
  received : List (PointerEvent mmi) := []
  handed : List (PointerEvent mmi) := []

inductive InterceptionStep (mmi : MmiConstants) where
  /-- `Enable`; `added` tells whether `AddInterceptor` succeeds -/
  | enable (added : Bool)
  | disable
  | pointerEvent (event : PointerEvent mmi) (clock : ClockReadings)

/-- The two axes of a mouse. -/
inductive RawAxis where
  | x | y
  deriving DecidableEq

namespace RawAxis

def raw : RawAxis → PointerItem → Int32
  | x, item => item.rawDx
  | y, item => item.rawDy

def pending : RawAxis → InputEventSampler mmi → Int32
  | x, s => s.prefixRawDxSum
  | y, s => s.prefixRawDySum

end RawAxis

namespace Interception

variable (codes : SamplerCodes)

/-- An event that is not filtered and has a valid pointer item. -/
def Accepted (event : PointerEvent mmi) : Prop :=
  isSkipNeeded codes event = false ∧ (event.getPointerItem event.pointerId).isSome

instance (event : PointerEvent mmi) : Decidable (Accepted codes event) :=
  inferInstanceAs (Decidable (_ ∧ _))

def next (step : InterceptionStep mmi) (i : Interception mmi) : Interception mmi :=
  match step with
  | .enable added =>
    if i.intercepting then i
    else
      let i := { i with sampler := i.sampler.setPointerEventHandler }
      if added then { i with intercepting := true, received := [], handed := [] } else i
  | .disable => { i with intercepting := false }
  | .pointerEvent event clock =>
    if i.intercepting then
      let (handed, sampler) := i.sampler.onPointerEvent codes event clock
      { i with
        sampler
        received := if Accepted codes event then i.received ++ [event] else i.received
        handed := i.handed ++ handed }
    else i

/-! ## What is lost or leaked -/

/-- The raw motion of an event, if it is one of the mouse. -/
def mouseMotion (axis : RawAxis) (event : PointerEvent mmi) : Int :=
  match event.getPointerItem event.pointerId with
  | none => 0
  | some item => if item.toolType = codes.TOOL_TYPE_TOUCHPAD then 0 else (axis.raw item).toInt

def motionSum (axis : RawAxis) (events : List (PointerEvent mmi)) : Int :=
  (events.map (mouseMotion codes axis)).sum

/-- What the mouse has moved in the session has been handed over or is pending. -/
def Conserved (i : Interception mmi) : Prop :=
  ∀ axis, motionSum codes axis i.handed + (axis.pending i.sampler).toInt =
    motionSum codes axis i.received

/-- The event has been handed over after the others, with all the motion that was pending. -/
def HandedOver (event : PointerEvent mmi) (i i' : Interception mmi) : Prop :=
  ∃ item item' event', event.getPointerItem event.pointerId = some item ∧
    i'.handed = i.handed ++ [event'] ∧ event'.toInputEvent = event.toInputEvent ∧
    event'.pointerAction = event.pointerAction ∧
    event'.getPointerItem event'.pointerId = some item' ∧
    ∀ axis : RawAxis, (axis.raw item').toInt =
      (axis.pending i.sampler).toInt + (axis.raw item).toInt

/-- No motion is lost or comes from another session, and an event that is no move is handed over
at once. -/
structure Lossless (step : InterceptionStep mmi) (i : Interception mmi) : Prop where
  conserved : Conserved codes (next codes step i)
  special : ∀ event clock, step = .pointerEvent event clock → i.intercepting = true →
    Accepted codes event → isSpecialEvent codes event = true →
      HandedOver event i (next codes step i)

/-- Nothing is pending. -/
def Idle (s : InputEventSampler mmi) : Prop := ∀ axis : RawAxis, axis.pending s = 0

/-- The sum is an `int32_t`. -/
def Fits (a b : Int32) : Prop :=
  -2 ^ 31 ≤ a.toInt + b.toInt ∧ a.toInt + b.toInt < 2 ^ 31

/-- A session starts with nothing pending; and an accepted event finds nothing pending if it is
one of the touch pad other than a move, and room for its motion if it is one of the mouse. -/
def Clean (step : InterceptionStep mmi) (i : Interception mmi) : Prop :=
  match step with
  | .enable added => i.intercepting = false → added = true → Idle i.sampler
  | .disable => True
  | .pointerEvent event _ =>
    i.intercepting = true → Accepted codes event →
      if isTouchPadEvent codes event then isSpecialEvent codes event = true → Idle i.sampler
      else ∀ item, event.getPointerItem event.pointerId = some item →
        ∀ axis : RawAxis, Fits (axis.pending i.sampler) (axis.raw item)

end Interception

/-! ## Sums of raw displacements -/

theorem Interception.toInt_add_eq_iff_fits (a b : Int32) :
    (a + b).toInt = a.toInt + b.toInt ↔ Interception.Fits a b := by
  rw [Int32.toInt_add, Int.bmod_eq_emod, Interception.Fits]
  split <;> omega

namespace RawAxis

@[simp] theorem pending_clearRawEvents (axis : RawAxis) (s : InputEventSampler mmi) :
    axis.pending s.clearRawEvents = axis.pending s := by
  cases axis <;> rfl

@[simp] theorem pending_setPointerEventHandler (axis : RawAxis) (s : InputEventSampler mmi) :
    axis.pending s.setPointerEventHandler = axis.pending s := by
  cases axis <;> rfl

theorem pending_sampledEvents (axis : RawAxis) (s : InputEventSampler mmi)
    (events : List (PointerEvent mmi)) :
    axis.pending { s with sampledEvents := events } = axis.pending s := by
  cases axis <;> rfl

end RawAxis

/-! ## What the operations of the sampler do -/

namespace PointerEvent

theorem getPointerItem_pointerId {event : PointerEvent mmi} {pointerId : Int32}
    {item : PointerItem} (found : event.getPointerItem pointerId = some item) :
    item.pointerId = pointerId := by
  simpa using List.find?_some found

theorem mem_addPointerItem (event : PointerEvent mmi) (item : PointerItem) :
    item ∈ (event.addPointerItem item).pointers := by
  unfold addPointerItem
  split
  next known =>
    obtain ⟨old, mem, same⟩ := List.mem_map.mp known
    exact List.mem_map.mpr ⟨old, mem, if_pos same⟩
  next => simp

@[simp] theorem pointerId_addPointerItem (event : PointerEvent mmi) (item : PointerItem) :
    (event.addPointerItem item).pointerId = event.pointerId := by
  unfold addPointerItem
  split <;> rfl

@[simp] theorem pointerAction_addPointerItem (event : PointerEvent mmi) (item : PointerItem) :
    (event.addPointerItem item).pointerAction = event.pointerAction := by
  unfold addPointerItem
  split <;> rfl

@[simp] theorem toInputEvent_addPointerItem (event : PointerEvent mmi) (item : PointerItem) :
    (event.addPointerItem item).toInputEvent = event.toInputEvent := by
  unfold addPointerItem
  split <;> rfl

end PointerEvent

namespace InputEventSampler

variable {codes : SamplerCodes} {event : PointerEvent mmi} {item : PointerItem}
  {s : InputEventSampler mmi}

/-- The item with the motion that was pending. -/
def withPending (s : InputEventSampler mmi) (item : PointerItem) : PointerItem :=
  { item with
    rawDx := s.prefixRawDxSum + item.rawDx
    rawDy := s.prefixRawDySum + item.rawDy }

theorem raw_withPending (axis : RawAxis) :
    axis.raw (s.withPending item) = axis.pending s + axis.raw item := by
  cases axis <;> rfl

/-- The event finds the item of its pointer replaced. -/
theorem getPointerItem_withPending (found : event.getPointerItem event.pointerId = some item) :
    (event.addPointerItem (s.withPending item)).getPointerItem event.pointerId =
      some (s.withPending item) := by
  have same : item.pointerId = event.pointerId := PointerEvent.getPointerItem_pointerId found
  rw [← same]
  exact PointerEvent.getPointerItem_of_mem (event.mem_addPointerItem (s.withPending item))

/-- A mouse event is handed on with all that is pending, or its motion becomes pending. -/
theorem handleMouseEvent_cases (codes : SamplerCodes) (clock : ClockReadings)
    (s : InputEventSampler mmi) (found : event.getPointerItem event.pointerId = some item) :
    ((s.handleMouseEvent codes event clock).sampledEvents =
        s.sampledEvents ++ [event.addPointerItem (s.withPending item)] ∧
      ∀ axis : RawAxis, axis.pending (s.handleMouseEvent codes event clock) = 0) ∨
    (isSpecialEvent codes event = false ∧
      (s.handleMouseEvent codes event clock).sampledEvents = s.sampledEvents ∧
      ∀ axis : RawAxis, axis.pending (s.handleMouseEvent codes event clock) =
        axis.pending s + axis.raw item) := by
  unfold handleMouseEvent
  split
  next =>
    left
    rw [aggregateRawEvents, found]
    exact ⟨rfl, fun axis => by cases axis <;> rfl⟩
  next kept =>
    right
    rw [found]
    refine ⟨?_, rfl, fun axis => by cases axis <;> rfl⟩
    simp only [Bool.or_eq_true, not_or, Bool.not_eq_true] at kept
    exact kept.1.1

theorem handleMouseEvent_of_none (clock : ClockReadings)
    (missing : event.getPointerItem event.pointerId = none) :
    s.handleMouseEvent codes event clock = s := by
  unfold handleMouseEvent
  split
  · rw [aggregateRawEvents, missing]
  · rw [missing]

theorem isTouchPadEvent_of_none (missing : event.getPointerItem event.pointerId = none) :
    isTouchPadEvent codes event = false := by
  rw [isTouchPadEvent, missing]

theorem isTouchPadEvent_of_some (found : event.getPointerItem event.pointerId = some item) :
    isTouchPadEvent codes event = decide (item.toolType = codes.TOOL_TYPE_TOUCHPAD) := by
  rw [isTouchPadEvent, found]

@[simp] theorem handleMouseEvent_pointerEventHandler (clock : ClockReadings) :
    (s.handleMouseEvent codes event clock).pointerEventHandler = s.pointerEventHandler := by
  unfold handleMouseEvent aggregateRawEvents
  split <;> split <;> rfl

/-- Between two events nothing waits to be handed over. -/
structure Ready (s : InputEventSampler mmi) : Prop where
  queue : s.sampledEvents = []
  handler : s.pointerEventHandler = true

/-- The first step of `OnPointerEvent`. -/
def clearExpired (now : TimePoint) (s : InputEventSampler mmi) : InputEventSampler mmi :=
  if s.isRawEventsExpired now then s.clearRawEvents else s

@[simp] theorem pending_clearExpired (axis : RawAxis) (now : TimePoint) :
    axis.pending (s.clearExpired now) = axis.pending s := by
  unfold clearExpired
  split <;> simp

theorem Ready.clearExpired (ready : s.Ready) (now : TimePoint) : (s.clearExpired now).Ready := by
  unfold InputEventSampler.clearExpired
  split
  · exact ⟨ready.queue, ready.handler⟩
  · exact ready

theorem withPending_clearExpired (now : TimePoint) (item : PointerItem) :
    (s.clearExpired now).withPending item = s.withPending item := by
  unfold InputEventSampler.clearExpired
  split <;> rfl

/-- What has been queued is handed over. -/
theorem onPointerEvent_eq (clock : ClockReadings) (ready : s.Ready)
    (kept : isSkipNeeded codes event = false) :
    s.onPointerEvent codes event clock =
      let s := s.clearExpired clock.isRawEventsExpired
      let s := if isTouchPadEvent codes event then s.handleTouchPadEvent event
        else s.handleMouseEvent codes event clock
      (s.sampledEvents, { s with sampledEvents := [] }) := by
  have handler := (ready.clearExpired clock.isRawEventsExpired).handler
  rw [onPointerEvent, kept]
  simp only [Bool.false_eq_true, if_false, onDownSampledEvent]
  rw [← InputEventSampler.clearExpired, if_pos]
  split
  · exact handler
  · simpa using handler

theorem onPointerEvent_of_touchPad (clock : ClockReadings) (ready : s.Ready)
    (kept : isSkipNeeded codes event = false) (touch : isTouchPadEvent codes event = true) :
    (s.onPointerEvent codes event clock).1 = [event] ∧
      ∀ axis : RawAxis, axis.pending (s.onPointerEvent codes event clock).2 = axis.pending s := by
  rw [onPointerEvent_eq clock ready kept, touch]
  simp only [if_true, handleTouchPadEvent, RawAxis.pending_sampledEvents, pending_clearExpired,
    (ready.clearExpired _).queue, List.nil_append, implies_true, and_self]

theorem onPointerEvent_of_mouse (clock : ClockReadings) (ready : s.Ready)
    (kept : isSkipNeeded codes event = false) (mouse : isTouchPadEvent codes event = false)
    (found : event.getPointerItem event.pointerId = some item) :
    ((s.onPointerEvent codes event clock).1 = [event.addPointerItem (s.withPending item)] ∧
      ∀ axis : RawAxis, axis.pending (s.onPointerEvent codes event clock).2 = 0) ∨
    (isSpecialEvent codes event = false ∧ (s.onPointerEvent codes event clock).1 = [] ∧
      ∀ axis : RawAxis, axis.pending (s.onPointerEvent codes event clock).2 =
        axis.pending s + axis.raw item) := by
  rw [onPointerEvent_eq clock ready kept, mouse]
  have queue := (ready.clearExpired clock.isRawEventsExpired).queue
  simp only [Bool.false_eq_true, if_false, RawAxis.pending_sampledEvents]
  obtain ⟨handed, none⟩ | ⟨move, kept, more⟩ :=
    handleMouseEvent_cases codes clock (s.clearExpired clock.isRawEventsExpired) found
  · left
    rw [queue, withPending_clearExpired] at handed
    exact ⟨handed, none⟩
  · right
    simp only [pending_clearExpired] at more
    exact ⟨move, kept.trans queue, more⟩

/-- An event that is filtered or has no valid item changes nothing that counts. -/
theorem onPointerEvent_of_refused (clock : ClockReadings) (ready : s.Ready)
    (refused : ¬ Interception.Accepted codes event) :
    (s.onPointerEvent codes event clock).1 = [] ∧
      ∀ axis : RawAxis, axis.pending (s.onPointerEvent codes event clock).2 = axis.pending s := by
  by_cases skipped : isSkipNeeded codes event = true
  · rw [onPointerEvent, skipped]
    exact ⟨rfl, fun _ => rfl⟩
  · have kept : isSkipNeeded codes event = false := by simpa using skipped
    have missing : event.getPointerItem event.pointerId = none := by
      by_contra present
      exact refused ⟨kept, Option.isSome_iff_ne_none.mpr present⟩
    rw [onPointerEvent_eq clock ready kept, isTouchPadEvent_of_none missing]
    simp only [Bool.false_eq_true, if_false, handleMouseEvent_of_none clock missing]
    refine ⟨(ready.clearExpired _).queue, fun axis => ?_⟩
    exact (axis.pending_sampledEvents _ _).trans (pending_clearExpired axis _)

theorem Ready.onPointerEvent (ready : s.Ready) (codes : SamplerCodes) (event : PointerEvent mmi)
    (clock : ClockReadings) :
    (s.onPointerEvent codes event clock).2.Ready := by
  by_cases skipped : isSkipNeeded codes event = true
  · rw [InputEventSampler.onPointerEvent, skipped]
    exact ready
  · have handler := (ready.clearExpired clock.isRawEventsExpired).handler
    rw [onPointerEvent_eq clock ready (by simpa using skipped)]
    constructor
    · rfl
    · simp only
      split
      · exact handler
      · simpa using handler

end InputEventSampler

/-! ## Runs -/

namespace Interception

section Motion

variable {codes : SamplerCodes} {event : PointerEvent mmi} {item : PointerItem}

@[simp] theorem motionSum_nil (axis : RawAxis) :
    motionSum codes axis ([] : List (PointerEvent mmi)) = 0 := rfl

@[simp] theorem motionSum_append (axis : RawAxis) (events events' : List (PointerEvent mmi)) :
    motionSum codes axis (events ++ events') =
      motionSum codes axis events + motionSum codes axis events' := by
  simp [motionSum]

@[simp] theorem motionSum_singleton (axis : RawAxis) (event : PointerEvent mmi) :
    motionSum codes axis [event] = mouseMotion codes axis event := by
  simp [motionSum]

theorem mouseMotion_of_touchPad (axis : RawAxis) (touch : isTouchPadEvent codes event = true) :
    mouseMotion codes axis event = 0 := by
  unfold isTouchPadEvent at touch
  unfold mouseMotion
  split at touch
  · simp at touch
  · exact if_pos (by simpa using touch)

theorem mouseMotion_of_mouse (axis : RawAxis) (mouse : isTouchPadEvent codes event = false)
    (found : event.getPointerItem event.pointerId = some item) :
    mouseMotion codes axis event = (axis.raw item).toInt := by
  rw [isTouchPadEvent_of_some found, decide_eq_false_iff_not] at mouse
  unfold mouseMotion
  rw [found]
  exact if_neg mouse

/-- An event that carries what is pending is one of the mouse still. -/
theorem mouseMotion_withPending (axis : RawAxis) (s : InputEventSampler mmi)
    (mouse : isTouchPadEvent codes event = false)
    (found : event.getPointerItem event.pointerId = some item) :
    mouseMotion codes axis (event.addPointerItem (s.withPending item)) =
      (axis.pending s + axis.raw item).toInt := by
  rw [isTouchPadEvent_of_some found, decide_eq_false_iff_not] at mouse
  unfold mouseMotion
  rw [PointerEvent.pointerId_addPointerItem, getPointerItem_withPending found]
  simp only
  rw [if_neg (show (s.withPending item).toolType ≠ _ from mouse), raw_withPending]

end Motion

variable {codes : SamplerCodes} {i : Interception mmi}

/-- What every clean run keeps. -/
structure Sound (codes : SamplerCodes) (i : Interception mmi) : Prop where
  queue : i.sampler.sampledEvents = []
  handler : i.intercepting = true → i.sampler.pointerEventHandler = true
  conserved : Conserved codes i

theorem Sound.ready (sound : Sound codes i) (on : i.intercepting = true) : i.sampler.Ready :=
  ⟨sound.queue, sound.handler on⟩

theorem sound_start : Sound codes ({} : Interception mmi) where
  queue := rfl
  handler := by simp
  conserved := fun axis => by cases axis <;> rfl

theorem idle_iff (s : InputEventSampler mmi) :
    Idle s ↔ ∀ axis : RawAxis, (axis.pending s).toInt = 0 :=
  forall_congr' fun axis => by rw [← Int32.toInt_zero, Int32.toInt_inj]

/-- A session loses nothing at its start if nothing is left from the one before. -/
theorem lossless_enable_iff (sound : Sound codes i) (added : Bool) :
    Lossless codes (.enable added) i ↔ Clean codes (.enable added) i := by
  have special : ∀ event clock, InterceptionStep.enable added = .pointerEvent event clock →
      i.intercepting = true → Accepted codes event → isSpecialEvent codes event = true →
        HandedOver event i (next codes (.enable added) i) := by
    intro event clock other
    cases other
  have reduce : Lossless codes (.enable added) i ↔
      Conserved codes (next codes (.enable added) i) :=
    ⟨Lossless.conserved, fun h => ⟨h, special⟩⟩
  rw [reduce, Clean, next]
  split
  next on => simpa [on] using sound.conserved
  next off =>
    cases added
    · simpa [Conserved] using sound.conserved
    · simp [off, Conserved, idle_iff]

/-- What a step owes when an event is sampled. -/
theorem conserved_pointerEvent_iff (sound : Sound codes i) (on : i.intercepting = true)
    (event : PointerEvent mmi) (clock : ClockReadings) :
    Conserved codes (next codes (.pointerEvent event clock) i) ↔
      ∀ axis, motionSum codes axis (i.sampler.onPointerEvent codes event clock).1 +
          (axis.pending (i.sampler.onPointerEvent codes event clock).2).toInt =
        (axis.pending i.sampler).toInt +
          if Accepted codes event then mouseMotion codes axis event else 0 := by
  refine forall_congr' fun axis => ?_
  have before := sound.conserved axis
  simp only [next, on, if_true, motionSum_append]
  split
  · rw [motionSum_append, motionSum_singleton]
    omega
  · omega

theorem lossless_of_conserved (event : PointerEvent mmi) (clock : ClockReadings)
    (conserved : Conserved codes (next codes (.pointerEvent event clock) i))
    (special : i.intercepting = true → Accepted codes event →
      isSpecialEvent codes event = true →
        HandedOver event i (next codes (.pointerEvent event clock) i)) :
    Lossless codes (.pointerEvent event clock) i := by
  refine ⟨conserved, ?_⟩
  rintro _ _ ⟨rfl, rfl⟩
  exact special

section Accepted

variable {event : PointerEvent mmi} {item : PointerItem}

/-- An event of the touch pad leaves what is pending where it is. -/
theorem conserved_touchPad (sound : Sound codes i) (on : i.intercepting = true)
    (clock : ClockReadings) (accepted : Accepted codes event)
    (touch : isTouchPadEvent codes event = true) :
    Conserved codes (next codes (.pointerEvent event clock) i) := by
  obtain ⟨handed, pending⟩ := onPointerEvent_of_touchPad clock (sound.ready on)
    accepted.1 touch
  rw [conserved_pointerEvent_iff sound on]
  intro axis
  rw [handed, pending, motionSum_singleton, mouseMotion_of_touchPad axis touch]
  simp

/-- So it carries all that is pending if that is nothing. -/
theorem handedOver_touchPad_iff (sound : Sound codes i) (on : i.intercepting = true)
    (clock : ClockReadings) (accepted : Accepted codes event)
    (touch : isTouchPadEvent codes event = true) :
    HandedOver event i (next codes (.pointerEvent event clock) i) ↔ Idle i.sampler := by
  obtain ⟨handed, -⟩ := onPointerEvent_of_touchPad clock (sound.ready on) accepted.1 touch
  rw [idle_iff]
  constructor
  · rintro ⟨item, item', event', found, last, -, -, found', carries⟩ axis
    simp only [next, on, if_true, handed, List.append_cancel_left_eq, List.cons.injEq,
      and_true] at last
    subst last
    obtain rfl : item = item' := by simpa [found] using found'
    have := carries axis
    omega
  · intro idle
    obtain ⟨item, found⟩ := Option.isSome_iff_exists.mp accepted.2
    refine ⟨item, item, event, found, ?_, rfl, rfl, found, fun axis => ?_⟩
    · simp [next, on, handed]
    · rw [idle axis, zero_add]

theorem lossless_touchPad_iff (sound : Sound codes i) (on : i.intercepting = true)
    (clock : ClockReadings) (accepted : Accepted codes event)
    (touch : isTouchPadEvent codes event = true) :
    Lossless codes (.pointerEvent event clock) i ↔
      (isSpecialEvent codes event = true → Idle i.sampler) := by
  have conserved := conserved_touchPad sound on clock accepted touch
  rw [← handedOver_touchPad_iff sound on clock accepted touch]
  constructor
  · intro lossless special
    exact lossless.special event clock rfl on accepted special
  · intro handed
    exact lossless_of_conserved event clock conserved fun _ _ => handed

/-- A mouse event is added to what is pending, whether it is handed over or not. -/
theorem conserved_mouse_iff (sound : Sound codes i) (on : i.intercepting = true)
    (clock : ClockReadings) (accepted : Accepted codes event)
    (mouse : isTouchPadEvent codes event = false)
    (found : event.getPointerItem event.pointerId = some item) :
    Conserved codes (next codes (.pointerEvent event clock) i) ↔
      ∀ axis : RawAxis, Fits (axis.pending i.sampler) (axis.raw item) := by
  rw [conserved_pointerEvent_iff sound on]
  refine forall_congr' fun axis => ?_
  rw [if_pos accepted, mouseMotion_of_mouse axis mouse found, ← toInt_add_eq_iff_fits]
  obtain ⟨handed, pending⟩ | ⟨-, handed, pending⟩ :=
    onPointerEvent_of_mouse clock (sound.ready on) accepted.1 mouse found
  · rw [handed, pending, motionSum_singleton, mouseMotion_withPending axis _ mouse found]
    simp
  · rw [handed, pending, motionSum_nil, zero_add]

/-- When it is no move, it is handed over with all that is pending. -/
theorem handedOver_mouse (sound : Sound codes i) (on : i.intercepting = true)
    (clock : ClockReadings) (accepted : Accepted codes event)
    (mouse : isTouchPadEvent codes event = false)
    (found : event.getPointerItem event.pointerId = some item)
    (fits : ∀ axis : RawAxis, Fits (axis.pending i.sampler) (axis.raw item))
    (special : isSpecialEvent codes event = true) :
    HandedOver event i (next codes (.pointerEvent event clock) i) := by
  obtain ⟨handed, -⟩ | ⟨move, -⟩ :=
    onPointerEvent_of_mouse clock (sound.ready on) accepted.1 mouse found
  · refine ⟨item, i.sampler.withPending item, event.addPointerItem (i.sampler.withPending item),
      found, ?_, by simp, by simp, ?_, fun axis => ?_⟩
    · simp [next, on, handed]
    · rw [PointerEvent.pointerId_addPointerItem, getPointerItem_withPending found]
    · rw [raw_withPending, (toInt_add_eq_iff_fits _ _).mpr (fits axis)]
  · rw [move] at special
    cases special

theorem lossless_mouse_iff (sound : Sound codes i) (on : i.intercepting = true)
    (clock : ClockReadings) (accepted : Accepted codes event)
    (mouse : isTouchPadEvent codes event = false)
    (found : event.getPointerItem event.pointerId = some item) :
    Lossless codes (.pointerEvent event clock) i ↔
      ∀ axis : RawAxis, Fits (axis.pending i.sampler) (axis.raw item) := by
  have conserved := conserved_mouse_iff sound on clock accepted mouse found
  constructor
  · intro lossless
    exact conserved.mp lossless.conserved
  · intro fits
    exact lossless_of_conserved event clock (conserved.mpr fits) fun _ _ =>
      handedOver_mouse sound on clock accepted mouse found fits

end Accepted

theorem lossless_pointerEvent_iff (sound : Sound codes i) (event : PointerEvent mmi)
    (clock : ClockReadings) :
    Lossless codes (.pointerEvent event clock) i ↔ Clean codes (.pointerEvent event clock) i := by
  rw [Clean]
  by_cases on : i.intercepting = true
  swap
  · refine iff_of_true (lossless_of_conserved event clock ?_ fun on' => absurd on' on)
      fun on' => absurd on' on
    simpa [next, on] using sound.conserved
  by_cases accepted : Accepted codes event
  swap
  · refine iff_of_true (lossless_of_conserved event clock ?_ fun _ h => absurd h accepted)
      fun _ h => absurd h accepted
    obtain ⟨handed, pending⟩ :=
      onPointerEvent_of_refused clock (sound.ready on) accepted
    rw [conserved_pointerEvent_iff sound on]
    intro axis
    simp [handed, pending, accepted]
  simp only [on, accepted, true_imp_iff]
  split
  next touch => exact lossless_touchPad_iff sound on clock accepted touch
  next mouse =>
    obtain ⟨item, found⟩ := Option.isSome_iff_exists.mp accepted.2
    rw [lossless_mouse_iff sound on clock accepted (by simpa using mouse) found]
    simp [found]

theorem lossless_iff_clean (sound : Sound codes i) (step : InterceptionStep mmi) :
    Lossless codes step i ↔ Clean codes step i := by
  cases step with
  | enable added => exact lossless_enable_iff sound added
  | disable =>
    refine iff_of_true ⟨sound.conserved, ?_⟩ trivial
    rintro _ _ ⟨⟩
  | pointerEvent event clock => exact lossless_pointerEvent_iff sound event clock

theorem Sound.next (sound : Sound codes i) (step : InterceptionStep mmi)
    (clean : Clean codes step i) : Sound codes (next codes step i) := by
  have conserved := ((lossless_iff_clean sound step).mpr clean).conserved
  cases step with
  | enable added =>
    refine ⟨?_, ?_, conserved⟩
    · by_cases on : i.intercepting = true <;> cases added <;>
        simpa [Interception.next, on, setPointerEventHandler] using sound.queue
    · by_cases on : i.intercepting = true
      · simpa [Interception.next, on] using sound.handler on
      · cases added <;> simp [Interception.next, on, setPointerEventHandler]
  | disable => exact ⟨sound.queue, by simp [Interception.next], conserved⟩
  | pointerEvent event clock =>
    by_cases on : i.intercepting = true
    · have ready := (sound.ready on).onPointerEvent codes event clock
      refine ⟨?_, fun _ => ?_, conserved⟩
      · simpa [Interception.next, on] using ready.queue
      · simpa [Interception.next, on] using ready.handler
    · simpa [Interception.next, on] using sound

/-- Sampling is lossless as long as every step is clean, in any order of the steps and whatever
the clock says. -/
theorem eachStep_lossless_iff_clean (codes : SamplerCodes)
    (steps : List (InterceptionStep mmi)) :
    EachStep (next codes) (Lossless codes) {} steps ↔
      EachStep (next codes) (Clean codes) {} steps :=
  EachStep.iff_of_invariant (fun step _ sound => Sound.next sound step)
    (fun step _ sound => lossless_iff_clean sound step) sound_start

/-- The codes of the sample. -/
def sampleCodes : SamplerCodes where
  POINTER_ACTION_MOVE := 5
  POINTER_ACTION_PULL_MOVE := 9
  POINTER_ACTION_ENTER_WINDOW := 11
  POINTER_ACTION_LEAVE_WINDOW := 12
  POINTER_ACTION_PULL_IN_WINDOW := 14
  POINTER_ACTION_PULL_OUT_WINDOW := 15
  TOOL_TYPE_TOUCHPAD := 9

/-- A mouse moves to the right. -/
def moveRight : PointerEvent .sample :=
  { pointerAction := 5, pointers := [{ rawDx := 3 }], distinct := List.nodup_singleton _ }

/-- The mouse moves twice within a millisecond before its session is ended, and another session
is started. -/
def twoSessions : List (InterceptionStep .sample) :=
  [.enable true,
    .pointerEvent moveRight ⟨10000000000, 10000000000, 10000000000, 10000000000⟩,
    .pointerEvent moveRight ⟨10001000000, 10001000000, 10001000000, 10001000000⟩,
    .disable, .enable true]

/-- The second move is pending when the first session ends, and in the second session still. -/
theorem twoSessions_not_lossless :
    ¬ EachStep (next sampleCodes) (Lossless sampleCodes) {} twoSessions := by
  intro lossless
  have second := lossless (twoSessions.take 4) (.enable true) (by simp [twoSessions])
  have x := second.conserved .x
  revert x
  decide +kernel

end Interception

end DeviceStatus.InputEvents
