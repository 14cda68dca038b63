import DeviceStatus.InputEvent.Events
import DeviceStatus.Ipc.Codec

/-!
# Serialization of pointer events

`InputEventSerialization` for pointer events. A serializer returns whether it ended with
`RET_OK`, and the buffer of the packet; a deserializer also returns the event that it has
filled. Variables that the source leaves uninitialized are parameters.
-/

namespace DeviceStatus.InputEvents

open Bytes Ipc Ipc.StreamBuffer

def MAX_N_PRESSED_BUTTONS : Nat := 10
def MAX_N_PRESSED_KEYS : Nat := 10
def MAX_N_POINTER_ITEMS : Nat := 10

/-- What uninitialized variables hold. -/
structure Uninitialized (platform : Platform) where
  /-- the inner item that is filled for a pointer: its padding -/
  innerItem : Int32 → InnerPointerItem
  sensorTime : UInt64
  nPressed : SizeT platform
  nPointers : SizeT platform

/-! ## What every input event has -/

def serializeInputEvent (eventType : Int32) (event : InputEvent) (pkt : StreamBuffer) :
    Bool × StreamBuffer :=
  let pkt := ((pkt.put eventType).put event.id).put event.actionTime
  let pkt := ((pkt.put event.action).put event.actionStartTime).put event.sensorInputTime
  let pkt := (pkt.put event.deviceId).put event.targetDisplayId
  let pkt := ((pkt.put event.targetWindowId).put event.agentWindowId).put event.flag
  pkt.checked

def deserializeInputEvent (sensorTime : UInt64) (event : InputEvent) (pkt : StreamBuffer) :
    Bool × InputEvent × StreamBuffer :=
  let (tField, pkt) := pkt.get (0 : Int32)
  let (tField, pkt) := pkt.get tField
  let event := { event with id := tField }
  let (rField, pkt) := pkt.get (0 : Int64)
  let event := { event with actionTime := rField }
  let (tField, pkt) := pkt.get tField
  let event := { event with action := tField }
  let (rField, pkt) := pkt.get rField
  let event := { event with actionStartTime := rField }
  let (sensorTime, pkt) := pkt.get sensorTime
  let event := { event with sensorInputTime := sensorTime }
  let (tField, pkt) := pkt.get tField
  let event := { event with deviceId := tField }
  let (tField, pkt) := pkt.get tField
  let event := { event with targetDisplayId := tField }
  let (tField, pkt) := pkt.get tField
  let event := { event with targetWindowId := tField }
  let (tField, pkt) := pkt.get tField
  let event := { event with agentWindowId := tField }
  let (tFlag, pkt) := pkt.get (0 : UInt32)
  if pkt.chkRWError then (false, event, pkt)
  else (true, { event with flag := event.flag ||| tFlag }, pkt)

section PointerEvent

variable {mmi : MmiConstants} {platform : Platform}

namespace PointerEvent

/-- `PointerEvent::Create`. -/
def create (mmi : MmiConstants) : PointerEvent mmi := {}

/-- `GetAxes`: one bit for each axis with a value. -/
def getAxes (event : PointerEvent mmi) : UInt32 :=
  .ofBitVec ((BitVec.ofBoolListLE
    ((List.finRange mmi.AXIS_TYPE_MAX).map fun i => (event.axisValues i).isSome)).setWidth 32)

/-- `HasAxis(axes, axis)`. -/
def hasAxis (axes : UInt32) (i : Nat) : Bool := axes.toBitVec.getLsbD i

def setAxisValue (i : Fin mmi.AXIS_TYPE_MAX) (axisValue : Double) (event : PointerEvent mmi) :
    PointerEvent mmi :=
  { event with axisValues := Function.update event.axisValues i (some axisValue) }

def setButtonPressed (buttonId : Int32) (event : PointerEvent mmi) : PointerEvent mmi :=
  { event with pressedButtons := insert buttonId event.pressedButtons }

def getPointerIds (event : PointerEvent mmi) : List Int32 :=
  event.pointers.map PointerItem.pointerId

def getPointerItem (pointerId : Int32) (event : PointerEvent mmi) : Option PointerItem :=
  event.pointers.find? fun item => item.pointerId = pointerId

/-- An item takes the place of the one that its pointer has already. -/
def addPointerItem (item : PointerItem) (event : PointerEvent mmi) : PointerEvent mmi :=
  if h : item.pointerId ∈ event.getPointerIds then
    { event with
      pointers := event.pointers.map fun old =>
        if old.pointerId = item.pointerId then item else old
      distinct := by
        have same : (event.pointers.map fun old =>
            if old.pointerId = item.pointerId then item else old).map PointerItem.pointerId =
              event.pointers.map PointerItem.pointerId := by
          rw [List.map_map]
          refine List.map_congr_left fun old _ => ?_
          by_cases eq : old.pointerId = item.pointerId <;> simp [eq]
        rw [same]
        exact event.distinct }
  else
    { event with
      pointers := event.pointers ++ [item]
      distinct := by
        rw [List.map_append, List.nodup_append]
        refine ⟨event.distinct, by simp, ?_⟩
        rintro a ha b hb rfl
        obtain rfl : a = item.pointerId := by simpa using hb
        exact h ha }

end PointerEvent

/-! ## Serializers -/

def serializeBaseInfo (event : PointerEvent mmi) (pkt : StreamBuffer) : Bool × StreamBuffer :=
  let pkt := ((pkt.put event.pointerAction).put event.pointerId).put event.sourceType
  let pkt := ((pkt.put event.buttonId).put event.fingerCount).put event.zOrder
  pkt.checked

/-- The body of the loop of `SerializeAxes`. -/
def putAxisValue (event : PointerEvent mmi) (pkt : StreamBuffer) (i : Fin mmi.AXIS_TYPE_MAX) :
    StreamBuffer :=
  match event.axisValues i with
  | some axisValue => pkt.put axisValue
  | none => pkt

def serializeAxes (event : PointerEvent mmi) (pkt : StreamBuffer) : Bool × StreamBuffer :=
  let pkt := pkt.put event.getAxes
  let pkt := (List.finRange mmi.AXIS_TYPE_MAX).foldl (putAxisValue event) pkt
  pkt.checked

def serializePressedButtons (platform : Platform) (event : PointerEvent mmi)
    (pkt : StreamBuffer) : Bool × StreamBuffer :=
  let pressedBtns := event.pressedButtons.sort (· ≤ ·)
  if MAX_N_PRESSED_BUTTONS < pressedBtns.length then (false, pkt)
  else
    let pkt := pkt.put (SizeT.ofNat platform pressedBtns.length)
    (pkt.putAll pressedBtns).checked

def serializePointerItem (innerItem : InnerPointerItem) (item : PointerItem)
    (pkt : StreamBuffer) : Bool × StreamBuffer :=
  (pkt.put (InnerPointerItem.ofItem item innerItem)).checked

/-- The loop of `SerializePointers`. -/
def serializePointerItems (innerItem : Int32 → InnerPointerItem) (event : PointerEvent mmi) :
    List Int32 → StreamBuffer → Bool × StreamBuffer
  | [], pkt => (true, pkt)
  | pointerId :: pointerIds, pkt =>
    match event.getPointerItem pointerId with
    | none => (false, pkt)
    | some item =>
      andThen (serializePointerItem (innerItem pointerId) item pkt)
        (serializePointerItems innerItem event pointerIds)

def serializePointers (innerItem : Int32 → InnerPointerItem) (platform : Platform)
    (event : PointerEvent mmi) (pkt : StreamBuffer) : Bool × StreamBuffer :=
  let pointerIds := event.getPointerIds
  let pkt := pkt.put (SizeT.ofNat platform pointerIds.length)
  andThen (serializePointerItems innerItem event pointerIds pkt) checked

def serializePressedKeys (platform : Platform) (event : PointerEvent mmi) (pkt : StreamBuffer) :
    Bool × StreamBuffer :=
  let pkt := pkt.put (SizeT.ofNat platform event.pressedKeys.length)
  (pkt.putAll event.pressedKeys).checked

def serializeBuffer (platform : Platform) (event : PointerEvent mmi) (pkt : StreamBuffer) :
    Bool × StreamBuffer :=
  if mmi.MAX_BUFFER_SIZE < event.buffer.length then (false, pkt)
  else
    let pkt := pkt.put (SizeT.ofNat platform event.buffer.length)
    (pkt.putAll event.buffer).checked

def serializeInterceptorTime (interceptorTime : Int64) (pkt : StreamBuffer) :
    Bool × StreamBuffer :=
  (pkt.put interceptorTime).checked

def serializeScrollRows (event : PointerEvent mmi) (pkt : StreamBuffer) : Bool × StreamBuffer :=
  (pkt.put event.scrollRows).checked

/-- `Marshalling`. -/
def marshalling (innerItem : Int32 → InnerPointerItem) (platform : Platform)
    (event : PointerEvent mmi) (interceptorTime : Int64) (pkt : StreamBuffer) :
    Bool × StreamBuffer :=
  andThen (serializeInputEvent mmi.EVENT_TYPE_POINTER event.toInputEvent pkt) fun pkt =>
  andThen (serializeBaseInfo event pkt) fun pkt =>
  andThen (serializeAxes event pkt) fun pkt =>
  andThen (serializePressedButtons platform event pkt) fun pkt =>
  andThen (serializePointers innerItem platform event pkt) fun pkt =>
  andThen (serializePressedKeys platform event pkt) fun pkt =>
  andThen (serializeBuffer platform event pkt) fun pkt =>
  andThen (serializeInterceptorTime interceptorTime pkt) fun pkt =>
  serializeScrollRows event pkt

/-! ## Deserializers -/

def deserializeBaseInfo (event : PointerEvent mmi) (pkt : StreamBuffer) :
    Bool × PointerEvent mmi × StreamBuffer :=
  let (pointerAction, pkt) := pkt.get (0 : Int32)
  let (pointerId, pkt) := pkt.get (0 : Int32)
  let (sourceType, pkt) := pkt.get (0 : Int32)
  let (buttonId, pkt) := pkt.get (0 : Int32)
  let (fingerCount, pkt) := pkt.get (0 : Int32)
  let (zOrder, pkt) := pkt.get (0 : Single)
  if pkt.chkRWError then (false, event, pkt)
  else
    (true,
      { event with pointerAction, pointerId, sourceType, buttonId, fingerCount, zOrder }, pkt)

/-- The loop of `DeserializeAxes`. -/
def deserializeAxisValues (axes : UInt32) :
    List (Fin mmi.AXIS_TYPE_MAX) → Double → PointerEvent mmi → StreamBuffer →
      PointerEvent mmi × StreamBuffer
  | [], _, event, pkt => (event, pkt)
  | i :: is, axisValue, event, pkt =>
    if PointerEvent.hasAxis axes i then
      let (axisValue, pkt) := pkt.get axisValue
      deserializeAxisValues axes is axisValue (event.setAxisValue i axisValue) pkt
    else deserializeAxisValues axes is axisValue event pkt

def deserializeAxes (event : PointerEvent mmi) (pkt : StreamBuffer) :
    Bool × PointerEvent mmi × StreamBuffer :=
  let (axes, pkt) := pkt.get (0 : UInt32)
  let (event, pkt) := deserializeAxisValues axes (List.finRange _) 0 event pkt
  (!pkt.chkRWError, event, pkt)

def deserializePressedButtons (nPressed : SizeT platform) (event : PointerEvent mmi)
    (pkt : StreamBuffer) : Bool × PointerEvent mmi × StreamBuffer :=
  let (nPressed, pkt) := pkt.get nPressed
  if MAX_N_PRESSED_BUTTONS < nPressed.toNat then (false, event, pkt)
  else
    let (btnIds, pkt) := pkt.getAll nPressed.toNat (0 : Int32)
    let event := btnIds.foldl (fun event btnId => event.setButtonPressed btnId) event
    (!pkt.chkRWError, event, pkt)

def deserializePointerItem (innerItem : InnerPointerItem) (pkt : StreamBuffer) :
    Bool × PointerItem × StreamBuffer :=
  let (innerItem, pkt) := pkt.get innerItem
  (!pkt.chkRWError, innerItem.toItem, pkt)

/-- The loop of `DeserializePointers`. -/
def deserializePointerItems (innerItem : InnerPointerItem) :
    Nat → PointerEvent mmi → StreamBuffer → Bool × PointerEvent mmi × StreamBuffer
  | 0, event, pkt => (!pkt.chkRWError, event, pkt)
  | n + 1, event, pkt =>
    match deserializePointerItem innerItem pkt with
    | (false, _, pkt) => (false, event, pkt)
    | (true, item, pkt) =>
      deserializePointerItems innerItem n (event.addPointerItem item) pkt

def deserializePointers (innerItem : InnerPointerItem) (nPointers : SizeT platform)
    (event : PointerEvent mmi) (pkt : StreamBuffer) : Bool × PointerEvent mmi × StreamBuffer :=
  let (nPointers, pkt) := pkt.get nPointers
  if MAX_N_POINTER_ITEMS < nPointers.toNat then (false, event, pkt)
  else deserializePointerItems innerItem nPointers.toNat event pkt

def deserializePressedKeys (platform : Platform) (event : PointerEvent mmi)
    (pkt : StreamBuffer) : Bool × PointerEvent mmi × StreamBuffer :=
  let (nPressed, pkt) := pkt.get (SizeT.ofNat platform 0)
  if MAX_N_PRESSED_KEYS < nPressed.toNat then (false, event, pkt)
  else
    let (pressedKeys, pkt) := pkt.getAll nPressed.toNat (0 : Int32)
    if pkt.chkRWError then (false, event, pkt)
    else (true, { event with pressedKeys }, pkt)

def deserializeBuffer (platform : Platform) (event : PointerEvent mmi) (pkt : StreamBuffer) :
    Bool × PointerEvent mmi × StreamBuffer :=
  let (bufSize, pkt) := pkt.get (SizeT.ofNat platform 0)
  if mmi.MAX_BUFFER_SIZE < bufSize.toNat then (false, event, pkt)
  else
    let (buffer, pkt) := pkt.getAll bufSize.toNat (0 : UInt8)
    if pkt.chkRWError then (false, event, pkt)
    else (true, { event with buffer }, pkt)

/-- `DeserializeInterceptorTime`; its caller goes on whether it succeeds or not. -/
def deserializeInterceptorTime (interceptorTime : Int64) (pkt : StreamBuffer) :
    Int64 × StreamBuffer :=
  let (interceptorTime, pkt) := pkt.get interceptorTime
  if pkt.chkRWError then (-1, pkt) else (interceptorTime, pkt)

/-- `DeserializeScrollRows`; its caller goes on whether it succeeds or not. -/
def deserializeScrollRows (event : PointerEvent mmi) (pkt : StreamBuffer) :
    PointerEvent mmi × StreamBuffer :=
  let (scrollRows, pkt) := pkt.get (-1 : Int32)
  if pkt.chkRWError then (event, pkt) else ({ event with scrollRows }, pkt)

/-- What a deserializer has filled and read so far. -/
structure Filled (mmi : MmiConstants) where
  event : PointerEvent mmi
  interceptorTime : Int64
  pkt : StreamBuffer

/-- A step of `Unmarshalling`, which returns unless the step has succeeded. -/
def andFill (interceptorTime : Int64) (r : Bool × PointerEvent mmi × StreamBuffer)
    (f : PointerEvent mmi → StreamBuffer → Bool × Filled mmi) : Bool × Filled mmi :=
  match r with
  | (false, event, pkt) => (false, { event, interceptorTime, pkt })
  | (true, event, pkt) => f event pkt

theorem andFill_of_true {interceptorTime : Int64} {r : Bool × PointerEvent mmi × StreamBuffer}
    {event : PointerEvent mmi} {pkt : StreamBuffer} (h : r = (true, event, pkt))
    (f : PointerEvent mmi → StreamBuffer → Bool × Filled mmi) :
    andFill interceptorTime r f = f event pkt := by
  rw [h, andFill]

theorem andFill_of_false {interceptorTime : Int64} {r : Bool × PointerEvent mmi × StreamBuffer}
    (h : r.1 = false) (f : PointerEvent mmi → StreamBuffer → Bool × Filled mmi) :
    (andFill interceptorTime r f).1 = false := by
  obtain ⟨ok, event, pkt⟩ := r
  obtain rfl : ok = false := h
  rw [andFill]

/-- `Unmarshalling` to `event` and `interceptorTime`. -/
def unmarshalling (uninitialized : Uninitialized platform) (pkt : StreamBuffer)
    (event : PointerEvent mmi) (interceptorTime : Int64) : Bool × Filled mmi :=
  let (ok, inputEvent, pkt) :=
    deserializeInputEvent uninitialized.sensorTime event.toInputEvent pkt
  let event := { event with toInputEvent := inputEvent }
  andFill interceptorTime (ok, event, pkt) fun event pkt =>
  andFill interceptorTime (deserializeBaseInfo event pkt) fun event pkt =>
  andFill interceptorTime (deserializeAxes event pkt) fun event pkt =>
  andFill interceptorTime (deserializePressedButtons uninitialized.nPressed event pkt)
    fun event pkt =>
  andFill interceptorTime
    (deserializePointers (uninitialized.innerItem 0) uninitialized.nPointers event pkt)
    fun event pkt =>
  andFill interceptorTime (deserializePressedKeys platform event pkt) fun event pkt =>
  andFill interceptorTime (deserializeBuffer platform event pkt) fun event pkt =>
  let (interceptorTime, pkt) := deserializeInterceptorTime interceptorTime pkt
  let (event, pkt) := deserializeScrollRows event pkt
  (true, { event, interceptorTime, pkt })

end PointerEvent

end DeviceStatus.InputEvents
