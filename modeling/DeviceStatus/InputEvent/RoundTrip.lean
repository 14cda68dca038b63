import DeviceStatus.InputEvent.Serialization

/-!
# Pointer events on the wire

What the serializers write, and that the deserializers read it back. A deserializer caps the
numbers of pointers and of pressed keys, which the serializers do not: an event survives the
wire exactly when it is within these caps.
-/

namespace DeviceStatus.InputEvents

open Bytes Ipc Ipc.StreamBuffer

variable {mmi : MmiConstants} {platform : Platform} {pkt : StreamBuffer} {rest : List UInt8}

/-! ## What every input event has -/

def InputEvent.wire (eventType : Int32) (event : InputEvent) : List UInt8 :=
  image eventType ++ image event.id ++ image event.actionTime ++ image event.action ++
    image event.actionStartTime ++ image event.sensorInputTime ++ image event.deviceId ++
    image event.targetDisplayId ++ image event.targetWindowId ++ image event.agentWindowId ++
    image event.flag

theorem encodes_serializeInputEvent (eventType : Int32) (event : InputEvent) :
    Encodes (serializeInputEvent eventType event) (event.wire eventType) := by
  intro pkt ok
  unfold serializeInputEvent at ok ⊢
  dsimp only [checked_snd] at ok ⊢
  refine ⟨status_of_checked ok, ?_⟩
  rw [InputEvent.wire]
  exact ((((((((((Wrote.put eventType pkt).andPut _).andPut _).andPut _).andPut _).andPut
    _).andPut _).andPut _).andPut _).andPut _).andPut _

/-- The flags of the event that is read are added to those that are there. -/
theorem deserializeInputEvent_of_holds {eventType : Int32} {event : InputEvent}
    (h : Holds pkt (event.wire eventType ++ rest)) (sensorTime : UInt64) (fresh : InputEvent) :
    ∃ pkt', deserializeInputEvent sensorTime fresh pkt =
        (true, { event with flag := fresh.flag ||| event.flag }, pkt') ∧ Holds pkt' rest := by
  simp only [InputEvent.wire, List.append_assoc] at h
  obtain ⟨_, readType, h⟩ := h.get_eq 0
  obtain ⟨_, readId, h⟩ := h.get_eq eventType
  obtain ⟨_, readActionTime, h⟩ := h.get_eq 0
  obtain ⟨_, readAction, h⟩ := h.get_eq event.id
  obtain ⟨_, readActionStartTime, h⟩ := h.get_eq event.actionTime
  obtain ⟨_, readSensorInputTime, h⟩ := h.get_eq sensorTime
  obtain ⟨_, readDeviceId, h⟩ := h.get_eq event.action
  obtain ⟨_, readTargetDisplayId, h⟩ := h.get_eq event.deviceId
  obtain ⟨_, readTargetWindowId, h⟩ := h.get_eq event.targetDisplayId
  obtain ⟨_, readAgentWindowId, h⟩ := h.get_eq event.targetWindowId
  obtain ⟨_, readFlag, h⟩ := h.get_eq 0
  refine ⟨_, ?_, h⟩
  simp only [deserializeInputEvent, readType, readId, readActionTime, readAction,
    readActionStartTime, readSensorInputTime, readDeviceId, readTargetDisplayId,
    readTargetWindowId, readAgentWindowId, readFlag, h.chkRWError, Bool.false_eq_true, if_false]

/-! ## The parts of a pointer event -/

namespace PointerEvent

def baseInfoWire (event : PointerEvent mmi) : List UInt8 :=
  image event.pointerAction ++ image event.pointerId ++ image event.sourceType ++
    image event.buttonId ++ image event.fingerCount ++ image event.zOrder

def axesWire (event : PointerEvent mmi) : List UInt8 :=
  image event.getAxes ++
    ((List.finRange mmi.AXIS_TYPE_MAX).filterMap event.axisValues).flatMap image

/-- A number of elements, and the elements. -/
def listWire {T : Type} [TriviallyCopyable T] (platform : Platform) (vs : List T) : List UInt8 :=
  image (SizeT.ofNat platform vs.length) ++ vs.flatMap image

end PointerEvent

open PointerEvent

theorem encodes_serializeBaseInfo (event : PointerEvent mmi) :
    Encodes (serializeBaseInfo event) event.baseInfoWire := by
  intro pkt ok
  unfold serializeBaseInfo at ok ⊢
  dsimp only [checked_snd] at ok ⊢
  refine ⟨status_of_checked ok, ?_⟩
  rw [baseInfoWire]
  exact (((((Wrote.put event.pointerAction pkt).andPut _).andPut _).andPut _).andPut _).andPut _

theorem deserializeBaseInfo_of_holds {event : PointerEvent mmi}
    (h : Holds pkt (event.baseInfoWire ++ rest)) (filled : PointerEvent mmi) :
    ∃ pkt', deserializeBaseInfo filled pkt =
        (true, { filled with
          pointerAction := event.pointerAction
          pointerId := event.pointerId
          sourceType := event.sourceType
          buttonId := event.buttonId
          fingerCount := event.fingerCount
          zOrder := event.zOrder }, pkt') ∧ Holds pkt' rest := by
  simp only [baseInfoWire, List.append_assoc] at h
  obtain ⟨_, readPointerAction, h⟩ := h.get_eq 0
  obtain ⟨_, readPointerId, h⟩ := h.get_eq 0
  obtain ⟨_, readSourceType, h⟩ := h.get_eq 0
  obtain ⟨_, readButtonId, h⟩ := h.get_eq 0
  obtain ⟨_, readFingerCount, h⟩ := h.get_eq 0
  obtain ⟨_, readZOrder, h⟩ := h.get_eq 0
  refine ⟨_, ?_, h⟩
  simp only [deserializeBaseInfo, readPointerAction, readPointerId, readSourceType, readButtonId,
    readFingerCount, readZOrder, h.chkRWError, Bool.false_eq_true, if_false]

/-- The loop over the axes writes the values there are, in order. -/
theorem foldl_putAxisValue (event : PointerEvent mmi) (axes : List (Fin mmi.AXIS_TYPE_MAX))
    (pkt : StreamBuffer) :
    axes.foldl (putAxisValue event) pkt = pkt.putAll (axes.filterMap event.axisValues) := by
  induction axes generalizing pkt with
  | nil => rfl
  | cons i axes ih =>
    rw [List.foldl_cons, ih]
    cases value : event.axisValues i with
    | none => rw [List.filterMap_cons_none value, putAxisValue, value]
    | some v => rw [List.filterMap_cons_some value, putAxisValue, value]; rfl

theorem encodes_serializeAxes (event : PointerEvent mmi) :
    Encodes (serializeAxes event) event.axesWire := by
  intro pkt ok
  unfold serializeAxes at ok ⊢
  dsimp only [checked_snd] at ok ⊢
  refine ⟨status_of_checked ok, ?_⟩
  rw [foldl_putAxisValue]
  exact (Wrote.put event.getAxes pkt).trans (Wrote.putAll _ _)

theorem hasAxis_getAxes (event : PointerEvent mmi) (i : Fin mmi.AXIS_TYPE_MAX) :
    hasAxis event.getAxes i = (event.axisValues i).isSome := by
  have inside : (i : Nat) < 32 := i.isLt.trans_le mmi.axisTypeMax_le
  rw [hasAxis, getAxes, UInt32.toBitVec_ofBitVec, BitVec.getLsbD_setWidth,
    BitVec.getLsbD_ofBoolListLE]
  simp [inside, List.getD_eq_getElem?_getD]

/-- Each axis that the event has a value for is read and set, in the order of the axes. -/
theorem deserializeAxisValues_of_holds {event : PointerEvent mmi}
    {axes : List (Fin mmi.AXIS_TYPE_MAX)}
    (h : Holds pkt ((axes.filterMap event.axisValues).flatMap image ++ rest))
    (axisValue : Double) (filled : PointerEvent mmi) :
    ∃ pkt', deserializeAxisValues event.getAxes axes axisValue filled pkt =
        ({ filled with
          axisValues := fun i =>
            if i ∈ axes ∧ (event.axisValues i).isSome then event.axisValues i
            else filled.axisValues i }, pkt') ∧ Holds pkt' rest := by
  induction axes generalizing pkt axisValue filled with
  | nil => exact ⟨pkt, by simp [deserializeAxisValues], h⟩
  | cons i axes ih =>
    rw [deserializeAxisValues, hasAxis_getAxes]
    cases value : event.axisValues i with
    | none =>
      rw [List.filterMap_cons_none value] at h
      obtain ⟨pkt', step, after⟩ := ih h axisValue filled
      refine ⟨pkt', ?_, after⟩
      simp only [Option.isSome_none, Bool.false_eq_true, if_false, step]
      congr 2
      funext j
      by_cases same : j = i
      · simp [same, value]
      · simp [same]
    | some v =>
      rw [List.filterMap_cons_some value, List.flatMap_cons, List.append_assoc] at h
      obtain ⟨pkt₁, read, h⟩ := h.get_eq axisValue
      obtain ⟨pkt', step, after⟩ := ih h v (filled.setAxisValue i v)
      refine ⟨pkt', ?_, after⟩
      simp only [Option.isSome_some, if_true, read, step]
      congr 2
      funext j
      by_cases same : j = i
      · simp [same, value, setAxisValue]
      · simp [same, setAxisValue]

theorem deserializeAxes_of_holds {event : PointerEvent mmi}
    (h : Holds pkt (event.axesWire ++ rest)) (filled : PointerEvent mmi) :
    ∃ pkt', deserializeAxes filled pkt =
        (true, { filled with
          axisValues := fun i => (event.axisValues i).or (filled.axisValues i) }, pkt') ∧
      Holds pkt' rest := by
  rw [axesWire, List.append_assoc] at h
  obtain ⟨pkt₁, readAxes, h⟩ := h.get_eq 0
  obtain ⟨pkt₂, readValues, h⟩ := deserializeAxisValues_of_holds h 0 filled
  refine ⟨pkt₂, ?_, h⟩
  simp only [deserializeAxes, readAxes, readValues, h.chkRWError, Bool.not_false]
  congr 3
  funext i
  cases event.axisValues i <;> simp

/-! ## Lists -/

theorem length_listWire {T : Type} [TriviallyCopyable T] (vs : List T) :
    (listWire platform vs).length = sizeof (SizeT platform) + vs.length * sizeof T := by
  induction vs with
  | nil => simp [listWire, TriviallyCopyable.length_image]
  | cons v vs ih =>
    simp only [listWire, List.length_append, List.flatMap_cons, List.length_cons,
      TriviallyCopyable.length_image] at ih ⊢
    rw [Nat.add_mul, Nat.one_mul]
    omega

/-- A list that fits in a packet is short enough for any `size_t`. -/
theorem length_lt_of_holds {T : Type} [TriviallyCopyable T] {vs : List T}
    (h : Holds pkt (listWire platform vs ++ rest)) : vs.length < 2 ^ 32 := by
  have bound := h.ordered.length_unread_le
  have positive : 0 < sizeof T := TriviallyCopyable.sizeof_pos
  have size : vs.length ≤ vs.length * sizeof T := Nat.le_mul_of_pos_right _ positive
  rw [h.unread, List.length_append, length_listWire] at bound
  unfold MAX_STREAM_BUF_SIZE at bound
  omega

theorem get_listWire {T : Type} [TriviallyCopyable T] {vs : List T}
    (h : Holds pkt (listWire platform vs ++ rest)) (data : SizeT platform) :
    ∃ n pkt', pkt.get data = (n, pkt') ∧ n.toNat = vs.length ∧
      Holds pkt' (vs.flatMap image ++ rest) := by
  have short := length_lt_of_holds h
  rw [listWire, List.append_assoc] at h
  obtain ⟨pkt', read, h⟩ := h.get_eq data
  exact ⟨_, pkt', read, SizeT.toNat_ofNat short, h⟩

/-! ## Buttons, keys and the buffer -/

theorem encodes_serializePressedButtons (event : PointerEvent mmi) :
    Encodes (serializePressedButtons platform event)
      (listWire platform (event.pressedButtons.sort (· ≤ ·))) := by
  intro pkt ok
  unfold serializePressedButtons at ok ⊢
  dsimp only at ok ⊢
  split at ok
  · cases ok
  · next few =>
    rw [if_neg few]
    exact ⟨status_of_checked ok, (Wrote.put _ pkt).trans (Wrote.putAll _ _)⟩

/-- The number of buttons has been checked before it was written. -/
theorem length_le_of_serializePressedButtons {event : PointerEvent mmi}
    (ok : (serializePressedButtons platform event pkt).1 = true) :
    (event.pressedButtons.sort (· ≤ ·)).length ≤ MAX_N_PRESSED_BUTTONS := by
  unfold serializePressedButtons at ok
  dsimp only at ok
  split at ok
  · cases ok
  · next few => exact Nat.le_of_not_lt few

theorem foldl_setButtonPressed (btnIds : List Int32) (filled : PointerEvent mmi) :
    btnIds.foldl (fun event btnId => event.setButtonPressed btnId) filled =
      { filled with pressedButtons := filled.pressedButtons ∪ btnIds.toFinset } := by
  induction btnIds generalizing filled with
  | nil => simp
  | cons btnId btnIds ih =>
    rw [List.foldl_cons, ih]
    simp [setButtonPressed]

theorem deserializePressedButtons_of_holds {event : PointerEvent mmi}
    (h : Holds pkt (listWire platform (event.pressedButtons.sort (· ≤ ·)) ++ rest))
    (few : (event.pressedButtons.sort (· ≤ ·)).length ≤ MAX_N_PRESSED_BUTTONS)
    (nPressed : SizeT platform) (filled : PointerEvent mmi) :
    ∃ pkt', deserializePressedButtons nPressed filled pkt =
        (true, { filled with
          pressedButtons := filled.pressedButtons ∪ event.pressedButtons }, pkt') ∧
      Holds pkt' rest := by
  obtain ⟨n, _, readCount, count, h⟩ := get_listWire h nPressed
  obtain ⟨pkt', readButtons, h⟩ := h.getAll_eq 0
  refine ⟨pkt', ?_, h⟩
  simp only [deserializePressedButtons, readCount, count, if_neg (Nat.not_lt.mpr few),
    readButtons, foldl_setButtonPressed, h.chkRWError, Finset.sort_toFinset, Bool.not_false]

theorem encodes_serializePressedKeys (event : PointerEvent mmi) :
    Encodes (serializePressedKeys platform event) (listWire platform event.pressedKeys) :=
  .of_checked fun pkt => (Wrote.put _ pkt).trans (Wrote.putAll _ _)

/-- The decoder takes the keys exactly when there are at most ten of them. -/
theorem deserializePressedKeys_of_holds {event : PointerEvent mmi}
    (h : Holds pkt (listWire platform event.pressedKeys ++ rest)) (filled : PointerEvent mmi) :
    ((deserializePressedKeys platform filled pkt).1 = true ↔
        event.pressedKeys.length ≤ MAX_N_PRESSED_KEYS) ∧
      (event.pressedKeys.length ≤ MAX_N_PRESSED_KEYS →
        ∃ pkt', deserializePressedKeys platform filled pkt =
          (true, { filled with pressedKeys := event.pressedKeys }, pkt') ∧ Holds pkt' rest) := by
  obtain ⟨n, _, readCount, count, h⟩ := get_listWire h (SizeT.ofNat platform 0)
  obtain ⟨pkt', readKeys, h⟩ := h.getAll_eq 0
  by_cases few : event.pressedKeys.length ≤ MAX_N_PRESSED_KEYS
  · have step : deserializePressedKeys platform filled pkt =
        (true, { filled with pressedKeys := event.pressedKeys }, pkt') := by
      simp only [deserializePressedKeys, readCount, count, if_neg (Nat.not_lt.mpr few), readKeys,
        h.chkRWError, Bool.false_eq_true, if_false]
    exact ⟨by simp [step, few], fun _ => ⟨pkt', step, h⟩⟩
  · have step : (deserializePressedKeys platform filled pkt).1 = false := by
      simp only [deserializePressedKeys, readCount, count, if_pos (Nat.lt_of_not_le few)]
    exact ⟨by simp [step, few], fun h => absurd h few⟩

theorem encodes_serializeBuffer (event : PointerEvent mmi) :
    Encodes (serializeBuffer platform event) (listWire platform event.buffer) := by
  intro pkt ok
  unfold serializeBuffer at ok ⊢
  dsimp only at ok ⊢
  split at ok
  · cases ok
  · next small =>
    rw [if_neg small]
    exact ⟨status_of_checked ok, (Wrote.put _ pkt).trans (Wrote.putAll _ _)⟩

theorem length_le_of_serializeBuffer {event : PointerEvent mmi}
    (ok : (serializeBuffer platform event pkt).1 = true) :
    event.buffer.length ≤ mmi.MAX_BUFFER_SIZE := by
  unfold serializeBuffer at ok
  dsimp only at ok
  split at ok
  · cases ok
  · next small => exact Nat.le_of_not_lt small

theorem deserializeBuffer_of_holds {event : PointerEvent mmi}
    (h : Holds pkt (listWire platform event.buffer ++ rest))
    (small : event.buffer.length ≤ mmi.MAX_BUFFER_SIZE) (filled : PointerEvent mmi) :
    ∃ pkt', deserializeBuffer platform filled pkt =
        (true, { filled with buffer := event.buffer }, pkt') ∧ Holds pkt' rest := by
  obtain ⟨n, _, readSize, size, h⟩ := get_listWire h (SizeT.ofNat platform 0)
  obtain ⟨pkt', readBytes, h⟩ := h.getAll_eq 0
  refine ⟨pkt', ?_, h⟩
  simp only [deserializeBuffer, readSize, size, if_neg (Nat.not_lt.mpr small), readBytes,
    h.chkRWError, Bool.false_eq_true, if_false]

/-! ## Pointers -/

namespace PointerEvent

theorem getPointerItem_of_mem {event : PointerEvent mmi} {item : PointerItem}
    (mem : item ∈ event.pointers) : event.getPointerItem item.pointerId = some item := by
  rw [getPointerItem, List.find?_eq_some_iff_append]
  obtain ⟨before, after, split⟩ := List.append_of_mem mem
  refine ⟨by simp, before, after, split, ?_⟩
  intro other earlier
  have distinct := event.distinct
  rw [split, List.map_append, List.map_cons, List.nodup_append] at distinct
  have differs := distinct.2.2 _ (List.mem_map_of_mem earlier) _ List.mem_cons_self
  simpa using differs

theorem addPointerItem_of_distinct {event : PointerEvent mmi} {item : PointerItem}
    (distinct : ((event.pointers ++ [item]).map PointerItem.pointerId).Nodup) :
    event.addPointerItem item =
      { event with pointers := event.pointers ++ [item], distinct } := by
  have absent : item.pointerId ∉ event.getPointerIds := by
    intro mem
    rw [List.map_append, List.nodup_append] at distinct
    exact distinct.2.2 _ mem item.pointerId (by simp) rfl
  rw [addPointerItem, dif_neg absent]

/-- The items as they are copied to the wire. -/
def innerItems (innerItem : Int32 → InnerPointerItem) (items : List PointerItem) :
    List InnerPointerItem :=
  items.map fun item => .ofItem item (innerItem item.pointerId)

end PointerEvent

theorem encodes_serializePointerItems (innerItem : Int32 → InnerPointerItem)
    {event : PointerEvent mmi} {items : List PointerItem} (there : items ⊆ event.pointers)
    {done : StreamBuffer → Bool × StreamBuffer} (final : Encodes done []) :
    Encodes (fun pkt => andThen
        (serializePointerItems innerItem event (items.map PointerItem.pointerId) pkt) done)
      ((innerItems innerItem items).flatMap image) := by
  induction items with
  | nil =>
    intro pkt ok
    exact final pkt ok
  | cons item items ih =>
    obtain ⟨mem, later⟩ := List.cons_subset.mp there
    have step : ∀ pkt, andThen (serializePointerItems innerItem event
          ((item :: items).map PointerItem.pointerId) pkt) done =
        andThen (serializePointerItem (innerItem item.pointerId) item pkt) fun pkt =>
          andThen (serializePointerItems innerItem event (items.map PointerItem.pointerId) pkt)
            done := by
      intro pkt
      rw [List.map_cons, serializePointerItems, getPointerItem_of_mem mem]
      dsimp only
      rw [andThen_assoc]
    simp only [step]
    exact (Encodes.of_checked fun pkt => Wrote.put _ pkt).andThen (ih later)

theorem encodes_serializePointers (innerItem : Int32 → InnerPointerItem)
    (event : PointerEvent mmi) :
    Encodes (serializePointers innerItem platform event)
      (listWire platform (innerItems innerItem event.pointers)) := by
  intro pkt ok
  have final : Encodes checked [] := .of_checked Wrote.refl
  obtain ⟨status, wrote⟩ :=
    encodes_serializePointerItems innerItem (List.Subset.refl event.pointers) final _ ok
  have count : event.getPointerIds.length = (innerItems innerItem event.pointers).length := by
    rw [getPointerIds, innerItems, List.length_map, List.length_map]
  refine ⟨status, ?_⟩
  rw [listWire, ← count]
  exact (Wrote.put _ pkt).trans wrote

/-- The items of `items` are added to those that are there, in order. -/
theorem deserializePointerItems_of_holds {innerItem : Int32 → InnerPointerItem}
    {items : List PointerItem}
    (h : Holds pkt ((innerItems innerItem items).flatMap image ++ rest))
    (uninitialized : InnerPointerItem) {filled : PointerEvent mmi}
    (distinct : ((filled.pointers ++ items).map PointerItem.pointerId).Nodup) :
    ∃ pkt', deserializePointerItems uninitialized items.length filled pkt =
        (true, { filled with pointers := filled.pointers ++ items, distinct }, pkt') ∧
      Holds pkt' rest := by
  induction items generalizing pkt filled with
  | nil => exact ⟨pkt, by simp [deserializePointerItems, h.chkRWError], h⟩
  | cons item items ih =>
    rw [innerItems, List.map_cons, List.flatMap_cons, List.append_assoc] at h
    obtain ⟨pkt₁, read, h⟩ := h.get_eq uninitialized
    have one : deserializePointerItem uninitialized pkt = (true, item, pkt₁) := by
      simp only [deserializePointerItem, read, h.chkRWError, InnerPointerItem.toItem_ofItem,
        Bool.not_false]
    have regroup : filled.pointers ++ item :: items = filled.pointers ++ [item] ++ items := by
      simp
    have distinctWith : ((filled.pointers ++ [item]).map PointerItem.pointerId).Nodup := by
      rw [regroup, List.map_append] at distinct
      exact distinct.of_append_left
    have added := addPointerItem_of_distinct distinctWith
    obtain ⟨pkt', later, h⟩ := @ih pkt₁ h (filled.addPointerItem item) (by
      rw [added, ← regroup]
      exact distinct)
    refine ⟨pkt', ?_, h⟩
    rw [List.length_cons, deserializePointerItems, one]
    dsimp only
    rw [later]
    simp only [added, regroup]

/-- The decoder takes the pointers exactly when there are at most ten of them. -/
theorem deserializePointers_of_holds {innerItem : Int32 → InnerPointerItem}
    {event : PointerEvent mmi}
    (h : Holds pkt (listWire platform (innerItems innerItem event.pointers) ++ rest))
    (uninitialized : InnerPointerItem) (nPointers : SizeT platform) {filled : PointerEvent mmi}
    (fresh : filled.pointers = []) :
    ((deserializePointers uninitialized nPointers filled pkt).1 = true ↔
        event.pointers.length ≤ MAX_N_POINTER_ITEMS) ∧
      (event.pointers.length ≤ MAX_N_POINTER_ITEMS →
        ∃ pkt', deserializePointers uninitialized nPointers filled pkt =
          (true, { filled with pointers := event.pointers, distinct := event.distinct }, pkt') ∧
          Holds pkt' rest) := by
  obtain ⟨n, pkt₁, readCount, count, h⟩ := get_listWire h nPointers
  rw [innerItems, List.length_map] at count
  by_cases few : event.pointers.length ≤ MAX_N_POINTER_ITEMS
  · have distinct : ((filled.pointers ++ event.pointers).map PointerItem.pointerId).Nodup := by
      rw [fresh, List.nil_append]
      exact event.distinct
    obtain ⟨pkt', readItems, h⟩ := deserializePointerItems_of_holds h uninitialized distinct
    have step : deserializePointers uninitialized nPointers filled pkt =
        (true, { filled with pointers := event.pointers, distinct := event.distinct }, pkt') := by
      simp only [deserializePointers, readCount, count, if_neg (Nat.not_lt.mpr few), readItems,
        fresh, List.nil_append]
    exact ⟨by simp [step, few], fun _ => ⟨pkt', step, h⟩⟩
  · have step : (deserializePointers uninitialized nPointers filled pkt).1 = false := by
      simp only [deserializePointers, readCount, count, if_pos (Nat.lt_of_not_le few)]
    exact ⟨by simp [step, few], fun h => absurd h few⟩

/-! ## The whole packet -/

namespace PointerEvent

def wire (innerItem : Int32 → InnerPointerItem) (platform : Platform) (event : PointerEvent mmi)
    (interceptorTime : Int64) : List UInt8 :=
  event.toInputEvent.wire mmi.EVENT_TYPE_POINTER ++ (event.baseInfoWire ++ (event.axesWire ++
    (listWire platform (event.pressedButtons.sort (· ≤ ·)) ++
    (listWire platform (innerItems innerItem event.pointers) ++
    (listWire platform event.pressedKeys ++ (listWire platform event.buffer ++
    (image interceptorTime ++ image event.scrollRows)))))))

/-- What the decoder asks of the numbers of pointers and keys. -/
def WithinCaps (event : PointerEvent mmi) : Prop :=
  event.pointers.length ≤ MAX_N_POINTER_ITEMS ∧ event.pressedKeys.length ≤ MAX_N_PRESSED_KEYS

instance (event : PointerEvent mmi) : Decidable event.WithinCaps :=
  inferInstanceAs (Decidable (_ ∧ _))

/-- What the encoder has checked of the numbers of buttons and buffer bytes. -/
def Checked (event : PointerEvent mmi) : Prop :=
  (event.pressedButtons.sort (· ≤ ·)).length ≤ MAX_N_PRESSED_BUTTONS ∧
    event.buffer.length ≤ mmi.MAX_BUFFER_SIZE

end PointerEvent

theorem encodes_marshalling (innerItem : Int32 → InnerPointerItem) (platform : Platform)
    (event : PointerEvent mmi) (interceptorTime : Int64) :
    Encodes (marshalling innerItem platform event interceptorTime)
      (event.wire innerItem platform interceptorTime) := by
  apply Encodes.andThen (encodes_serializeInputEvent _ _)
  apply Encodes.andThen (encodes_serializeBaseInfo event)
  apply Encodes.andThen (encodes_serializeAxes event)
  apply Encodes.andThen (encodes_serializePressedButtons event)
  apply Encodes.andThen (encodes_serializePointers innerItem event)
  apply Encodes.andThen (encodes_serializePressedKeys event)
  apply Encodes.andThen (encodes_serializeBuffer event)
  apply Encodes.andThen (.of_checked (Wrote.put interceptorTime))
  exact .of_checked (Wrote.put event.scrollRows)

theorem checked_of_marshalling {innerItem : Int32 → InnerPointerItem} {event : PointerEvent mmi}
    {interceptorTime : Int64}
    (ok : (marshalling innerItem platform event interceptorTime pkt).1 = true) :
    event.Checked := by
  obtain ⟨-, ok⟩ := of_andThen ok
  obtain ⟨-, ok⟩ := of_andThen ok
  obtain ⟨-, ok⟩ := of_andThen ok
  obtain ⟨buttons, ok⟩ := of_andThen ok
  obtain ⟨-, ok⟩ := of_andThen ok
  obtain ⟨-, ok⟩ := of_andThen ok
  obtain ⟨buffer, -⟩ := of_andThen ok
  exact ⟨length_le_of_serializePressedButtons buttons, length_le_of_serializeBuffer buffer⟩

/-- The event that a deserializer has filled, under a name of its own. -/
theorem named {r : Bool × PointerEvent mmi × StreamBuffer} {filled : PointerEvent mmi}
    (h : ∃ pkt', r = (true, filled, pkt') ∧ Holds pkt' rest) :
    ∃ filled' pkt', r = (true, filled', pkt') ∧ filled' = filled ∧ Holds pkt' rest := by
  obtain ⟨pkt', read, holds⟩ := h
  exact ⟨filled, pkt', read, rfl, holds⟩

/-- From a packet that holds a checked event, that event is read if it is within the caps, and
otherwise the decoder fails. -/
theorem unmarshalling_of_holds {innerItem : Int32 → InnerPointerItem} {event : PointerEvent mmi}
    {interceptorTime : Int64}
    (h : Holds pkt (event.wire innerItem platform interceptorTime)) (checked : event.Checked)
    (uninitialized : Uninitialized platform) (start : Int64) :
    ((unmarshalling uninitialized pkt (create mmi) start).1 = true ↔ event.WithinCaps) ∧
      (event.WithinCaps → ∃ pkt', unmarshalling uninitialized pkt (create mmi) start =
        (true, { event, interceptorTime, pkt := pkt' })) := by
  rw [wire] at h
  obtain ⟨pkt₁, readInputEvent, h⟩ :=
    deserializeInputEvent_of_holds h uninitialized.sensorTime (create mmi).toInputEvent
  have noFlag : (create mmi).flag ||| event.flag = event.flag := UInt32.zero_or
  rw [noFlag] at readInputEvent
  obtain ⟨filled₂, pkt₂, readBaseInfo, eq₂, h⟩ := named <|
    deserializeBaseInfo_of_holds h { create mmi with toInputEvent := event.toInputEvent }
  obtain ⟨filled₃, pkt₃, readAxes, eq₃, h⟩ := named (deserializeAxes_of_holds h filled₂)
  obtain ⟨filled₄, pkt₄, readButtons, eq₄, h⟩ := named <|
    deserializePressedButtons_of_holds h checked.1 uninitialized.nPressed filled₃
  have fresh : filled₄.pointers = [] := by rw [eq₄, eq₃, eq₂]; rfl
  obtain ⟨pointersIff, readPointers⟩ := deserializePointers_of_holds h
    (uninitialized.innerItem 0) uninitialized.nPointers fresh
  by_cases fewPointers : event.pointers.length ≤ MAX_N_POINTER_ITEMS
  · obtain ⟨filled₅, pkt₅, readPointers, eq₅, h⟩ := named (readPointers fewPointers)
    obtain ⟨keysIff, readKeys⟩ := deserializePressedKeys_of_holds h filled₅
    by_cases fewKeys : event.pressedKeys.length ≤ MAX_N_PRESSED_KEYS
    · obtain ⟨filled₆, pkt₆, readKeys, eq₆, h⟩ := named (readKeys fewKeys)
      obtain ⟨filled₇, pkt₇, readBuffer, eq₇, h⟩ := named <|
        deserializeBuffer_of_holds h checked.2 filled₆
      obtain ⟨pkt₈, readTime, h⟩ := h.get_eq start
      rw [← List.append_nil (image event.scrollRows)] at h
      obtain ⟨pkt₉, readRows, h'⟩ := h.get_eq (-1)
      have whole : { filled₇ with scrollRows := event.scrollRows } = event := by
        rw [eq₇, eq₆, eq₅, eq₄, eq₃, eq₂]
        simp [create]
      have step : unmarshalling uninitialized pkt (create mmi) start =
          (true, { event, interceptorTime, pkt := pkt₉ }) := by
        rw [unmarshalling, readInputEvent]
        dsimp only
        rw [andFill_of_true rfl, andFill_of_true readBaseInfo, andFill_of_true readAxes,
          andFill_of_true readButtons, andFill_of_true readPointers, andFill_of_true readKeys,
          andFill_of_true readBuffer]
        simp only [deserializeInterceptorTime, readTime, deserializeScrollRows, readRows,
          h.chkRWError, h'.chkRWError, Bool.false_eq_true, if_false]
        rw [whole]
      exact ⟨by simp [step, WithinCaps, fewPointers, fewKeys], fun _ => ⟨pkt₉, step⟩⟩
    · have failed : (deserializePressedKeys platform filled₅ pkt₅).1 = false := by
        simpa [fewKeys] using keysIff
      have step : (unmarshalling uninitialized pkt (create mmi) start).1 = false := by
        rw [unmarshalling, readInputEvent]
        dsimp only
        rw [andFill_of_true rfl, andFill_of_true readBaseInfo, andFill_of_true readAxes,
          andFill_of_true readButtons, andFill_of_true readPointers, andFill_of_false failed]
      exact ⟨by simp [step, WithinCaps, fewKeys], fun within => absurd within.2 fewKeys⟩
  · have failed : (deserializePointers (uninitialized.innerItem 0) uninitialized.nPointers
        filled₄ pkt₄).1 = false := by
      simpa [fewPointers] using pointersIff
    have step : (unmarshalling uninitialized pkt (create mmi) start).1 = false := by
      rw [unmarshalling, readInputEvent]
      dsimp only
      rw [andFill_of_true rfl, andFill_of_true readBaseInfo, andFill_of_true readAxes,
        andFill_of_true readButtons, andFill_of_false failed]
    exact ⟨by simp [step, WithinCaps, fewPointers], fun within => absurd within.1 fewPointers⟩

/-- The packet of the event is read back to a fresh event, equal to it, and to the same time. -/
def SurvivesWire (innerItem : Int32 → InnerPointerItem) (uninitialized : Uninitialized platform)
    (event : PointerEvent mmi) (interceptorTime start : Int64) : Prop :=
  let pkt := (marshalling innerItem platform event interceptorTime {}).2
  ∃ pkt', unmarshalling uninitialized pkt (create mmi) start =
    (true, { event, interceptorTime, pkt := pkt' })

/-- An event that has been marshalled survives the wire exactly when it is within the caps of
the decoder: `SerializePointers` and `SerializePressedKeys` do not check what
`DeserializePointers` and `DeserializePressedKeys` then refuse. -/
theorem survivesWire_iff_withinCaps (innerItem : Int32 → InnerPointerItem)
    (uninitialized : Uninitialized platform) (event : PointerEvent mmi)
    (interceptorTime start : Int64)
    (ok : (marshalling innerItem platform event interceptorTime {}).1 = true) :
    SurvivesWire innerItem uninitialized event interceptorTime start ↔ event.WithinCaps := by
  have holds := (encodes_marshalling innerItem platform event interceptorTime).holds_new ok
  obtain ⟨read_iff, read⟩ :=
    unmarshalling_of_holds holds (checked_of_marshalling ok) uninitialized start
  refine ⟨?_, read⟩
  rintro ⟨pkt', result⟩
  exact read_iff.mp (by rw [result])

/-- Constants to run the serializers with. -/
def MmiConstants.sample : MmiConstants where
  EVENT_TYPE_POINTER := 0x20000
  AXIS_TYPE_MAX := 13
  axisTypeMax_le := by decide
  MAX_BUFFER_SIZE := 512

/-- A mouse event while `n` keys are held down. -/
def whileKeysPressed (n : Nat) : PointerEvent .sample :=
  { sourceType := 1, pointers := [], pressedKeys := List.replicate n 2017
    distinct := List.nodup_nil }

def zeroPadding : InnerPointerItem :=
  { afterPressed := fun _ => 0, afterDeviceId := fun _ => 0, afterRawDy := fun _ => 0 }

def zeroVariables : Uninitialized .bits64 where
  innerItem := fun _ => zeroPadding
  sensorTime := 0
  nPressed := (0 : UInt64)
  nPointers := (0 : UInt64)

theorem survivesWire_tenKeys :
    SurvivesWire (fun _ => zeroPadding) zeroVariables (whileKeysPressed 10) 7 0 :=
  (survivesWire_iff_withinCaps (fun _ => zeroPadding) zeroVariables (whileKeysPressed 10) 7 0
    (by decide +kernel)).mpr (by decide)

/-- With eleven keys held down, the event is sent without an error and cannot be read. -/
theorem elevenKeys_do_not_survive :
    (marshalling (fun _ => zeroPadding) .bits64 (whileKeysPressed 11) 7 {}).1 = true ∧
      (marshalling (fun _ => zeroPadding) .bits64 (whileKeysPressed 11) 7 {}).2.chkRWError =
        false ∧
      ¬ SurvivesWire (fun _ => zeroPadding) zeroVariables (whileKeysPressed 11) 7 0 := by
  have ok : (marshalling (fun _ => zeroPadding) .bits64 (whileKeysPressed 11) 7 {}).1 = true := by
    decide +kernel
  have encodes := encodes_marshalling (fun _ => zeroPadding) .bits64 (whileKeysPressed 11) 7
  have holds := encodes.holds_new ok
  refine ⟨ok, holds.chkRWError, ?_⟩
  rintro ⟨pkt', result⟩
  have tooMany : ¬ (whileKeysPressed 11).WithinCaps := by decide
  have read_iff :=
    (unmarshalling_of_holds holds (checked_of_marshalling ok) zeroVariables 0).1
  exact tooMany (read_iff.mp (by rw [result]))

end DeviceStatus.InputEvents
