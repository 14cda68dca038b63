import DeviceStatus.InputEvent.RoundTrip

/-!
# Events on devices of different word size

`Marshalling` writes the size of each list as a `size_t`. The bytes of an event are therefore
not the same on a device with 32-bit words as on one with 64-bit words, unless the event is
refused before the first size is written.

## Main definitions

* `Room` — a buffer with known content and room for more.
* `Representable` — an event that exists on a device with 32-bit words.
-/

namespace DeviceStatus.InputEvents

open Bytes Ipc Ipc.StreamBuffer

/-! ## Writing with room -/

/-- `bs` has been written without an error, and there is room for `n` bytes more. -/
structure Room (b : StreamBuffer) (bs : List UInt8) (n : Nat) : Prop where
  status : b.rwErrorStatus = .ok
  written : b.written = bs
  fits : bs.length + n ≤ MAX_STREAM_BUF_SIZE

namespace Room

variable {b : StreamBuffer} {bs : List UInt8} {m n : Nat}

theorem mono (h : Room b bs n) (le : m ≤ n) : Room b bs m :=
  ⟨h.status, h.written, by have := h.fits; omega⟩

theorem put {T : Type} [TriviallyCopyable T] (h : Room b bs (sizeof T + n)) (v : T) :
    Room (b.put v) (bs ++ image v) n := by
  have position : b.wPos = bs.length := by rw [← h.written, length_written]
  have fits := h.fits
  have size : (image v).length = sizeof T := TriviallyCopyable.length_image v
  have room : b.wPos + (image v).length ≤ MAX_STREAM_BUF_SIZE := by omega
  have step : b.put v = b.append (image v) room := by
    rw [StreamBuffer.put, write_of_fits h.status (image_ne_nil v) room]
  rw [step]
  exact ⟨h.status, by rw [written_append, h.written], by rw [List.length_append]; omega⟩

theorem putAll {T : Type} [TriviallyCopyable T] {vs : List T}
    (h : Room b bs (vs.length * sizeof T + n)) :
    Room (b.putAll vs) (bs ++ vs.flatMap image) n := by
  induction vs generalizing b bs with
  | nil => simpa [StreamBuffer.putAll] using h
  | cons v vs ih =>
    have first : Room b bs (sizeof T + (vs.length * sizeof T + n)) := by
      refine h.mono (Nat.le_of_eq ?_)
      rw [List.length_cons]
      ring
    have all := ih (first.put v)
    rwa [List.append_assoc] at all

theorem checked (h : Room b bs n) : b.checked = (true, b) := by
  simp [StreamBuffer.checked, h.status]

end Room

/-- What has been written stays. -/
def Keeps (f : StreamBuffer → Bool × StreamBuffer) : Prop :=
  ∀ b, b.written <+: (f b).2.written

namespace Keeps

theorem write (buf : List UInt8) : Keeps (StreamBuffer.write buf) := by
  intro b
  obtain ⟨fits, -, -, eq⟩ | ⟨-, eq⟩ := write_cases buf b
  · rw [eq, written_append]
    exact List.prefix_append _ _
  · rw [eq]
    exact List.prefix_rfl

theorem put {T : Type} [TriviallyCopyable T] (v : T) (b : StreamBuffer) :
    b.written <+: (b.put v).written :=
  write (image v) b

theorem putAll {T : Type} [TriviallyCopyable T] (vs : List T) (b : StreamBuffer) :
    b.written <+: (b.putAll vs).written := by
  induction vs generalizing b with
  | nil => exact List.prefix_rfl
  | cons v vs ih => exact (put v b).trans (ih (b.put v))

theorem andThen {f g : StreamBuffer → Bool × StreamBuffer} (hf : Keeps f) (hg : Keeps g) :
    Keeps fun b => StreamBuffer.andThen (f b) g := by
  intro b
  simp only [StreamBuffer.andThen]
  split_ifs
  · exact (hf b).trans (hg _)
  · exact hf b

theorem of_checked {f : StreamBuffer → StreamBuffer} (h : ∀ b, b.written <+: (f b).written) :
    Keeps fun b => (f b).checked :=
  h

end Keeps

/-! ## Sizes -/

theorem leBytes_add (j k n : Nat) :
    leBytes (j + k) n = leBytes j n ++ leBytes k (n / 256 ^ j) := by
  induction j generalizing n with
  | zero => simp [leBytes]
  | succ j ih =>
    rw [Nat.add_right_comm, leBytes, ih, leBytes, Nat.div_div_eq_div_mul, ← Nat.pow_succ']
    rfl

theorem leBytes_mod (k n : Nat) : leBytes k (n % 256 ^ k) = leBytes k n := by
  have twice := leBytes_leNat (leBytes k n)
  rwa [leNat_leBytes, length_leBytes] at twice

/-- A size of a device with 32-bit words. -/
theorem image_bits32 (n : Nat) : image (SizeT.ofNat .bits32 n) = leBytes 4 n := by
  change leBytes 4 (UInt32.ofNat n).toNat = _
  rw [UInt32.toNat_ofNat']
  exact leBytes_mod 4 n

/-- On a device with 64-bit words four zero bytes follow. -/
theorem image_bits64 {n : Nat} (h : n < 2 ^ 32) :
    image (SizeT.ofNat .bits64 n) = leBytes 4 n ++ leBytes 4 0 := by
  change leBytes (4 + 4) (UInt64.ofNat n).toNat = _
  have small : n / 256 ^ 4 = 0 := Nat.div_eq_of_lt h
  rw [UInt64.toNat_ofNat', Nat.mod_eq_of_lt (by omega), leBytes_add, small]

theorem eq_zero_of_leBytes {n : Nat} (h : n < 2 ^ 32) (zero : leBytes 4 n = leBytes 4 0) :
    n = 0 := by
  have value := congrArg leNat zero
  rwa [leNat_leBytes_of_lt h, leNat_leBytes_of_lt (by decide)] at value

/-! ## What `Marshalling` has written -/

section PointerEvent

open PointerEvent

variable {mmi : MmiConstants} {platform : Platform} {event : PointerEvent mmi}
  {b : StreamBuffer} {bs : List UInt8}

/-- What is written before the first size. -/
def PointerEvent.headWire (event : PointerEvent mmi) : List UInt8 :=
  event.toInputEvent.wire mmi.EVENT_TYPE_POINTER ++ event.baseInfoWire ++ event.axesWire

theorem room_serializeInputEvent (eventType : Int32) (event : InputEvent) :
    ∃ b, serializeInputEvent eventType event {} = (true, b) ∧
      Room b (event.wire eventType) 1992 := by
  have start : Room {} [] (sizeof Int32 + (sizeof Int32 + (sizeof Int64 + (sizeof Int32 +
      (sizeof Int64 + (sizeof UInt64 + (sizeof Int32 + (sizeof Int32 + (sizeof Int32 +
      (sizeof Int32 + (sizeof UInt32 + 1992))))))))))) := ⟨rfl, rfl, by decide⟩
  have all := ((((((((((start.put eventType).put event.id).put event.actionTime).put
    event.action).put event.actionStartTime).put event.sensorInputTime).put event.deviceId).put
    event.targetDisplayId).put event.targetWindowId).put event.agentWindowId).put event.flag
  unfold serializeInputEvent
  rw [all.checked]
  exact ⟨_, rfl, by simpa only [InputEvent.wire, List.nil_append] using all⟩

theorem room_serializeBaseInfo (event : PointerEvent mmi) (h : Room b bs 1992) :
    ∃ b', serializeBaseInfo event b = (true, b') ∧ Room b' (bs ++ event.baseInfoWire) 1968 := by
  have start : Room b bs (sizeof Int32 + (sizeof Int32 + (sizeof Int32 + (sizeof Int32 +
      (sizeof Int32 + (sizeof Single + 1968)))))) := h.mono (by decide)
  have all := (((((start.put event.pointerAction).put event.pointerId).put event.sourceType).put
    event.buttonId).put event.fingerCount).put event.zOrder
  unfold serializeBaseInfo
  rw [all.checked]
  exact ⟨_, rfl, by simpa only [baseInfoWire, List.append_assoc] using all⟩

/-- There are at most as many values as axes. -/
theorem room_serializeAxes (event : PointerEvent mmi) (h : Room b bs 1968) :
    ∃ b', serializeAxes event b = (true, b') ∧ Room b' (bs ++ event.axesWire) 1708 := by
  have few : ((List.finRange mmi.AXIS_TYPE_MAX).filterMap event.axisValues).length ≤ 32 := by
    refine (List.length_filterMap_le _ _).trans ?_
    rw [List.length_finRange]
    exact mmi.axisTypeMax_le
  have start : Room b bs (sizeof UInt32 +
      (((List.finRange mmi.AXIS_TYPE_MAX).filterMap event.axisValues).length * sizeof Double +
        1708)) := by
    refine h.mono ?_
    change 4 + (_ * 8 + 1708) ≤ 1968
    omega
  have all := (start.put event.getAxes).putAll
  unfold serializeAxes
  dsimp only
  rw [foldl_putAxisValue, all.checked]
  exact ⟨_, rfl, by simpa only [axesWire, List.append_assoc] using all⟩

/-! ### From each size on -/

section From

variable (innerItem : Int32 → InnerPointerItem) (platform : Platform) (event : PointerEvent mmi)
  (interceptorTime : Int64)

def fromBuffer (pkt : StreamBuffer) : Bool × StreamBuffer :=
  andThen (serializeBuffer platform event pkt) fun pkt =>
  andThen (serializeInterceptorTime interceptorTime pkt) fun pkt =>
  serializeScrollRows event pkt

def fromKeys (pkt : StreamBuffer) : Bool × StreamBuffer :=
  andThen (serializePressedKeys platform event pkt) (fromBuffer platform event interceptorTime)

def fromPointers (pkt : StreamBuffer) : Bool × StreamBuffer :=
  andThen (serializePointers innerItem platform event pkt) (fromKeys platform event interceptorTime)

def fromButtons (pkt : StreamBuffer) : Bool × StreamBuffer :=
  andThen (serializePressedButtons platform event pkt)
    (fromPointers innerItem platform event interceptorTime)

/-- The word size makes no difference before the first size. -/
theorem marshalling_eq_fromButtons (event : PointerEvent mmi) (interceptorTime : Int64) :
    ∃ b, Room b event.headWire 1708 ∧
      ∀ innerItem platform, marshalling innerItem platform event interceptorTime {} =
        fromButtons innerItem platform event interceptorTime b := by
  obtain ⟨b₁, header, room⟩ :=
    room_serializeInputEvent mmi.EVENT_TYPE_POINTER event.toInputEvent
  obtain ⟨b₂, baseInfo, room⟩ := room_serializeBaseInfo event room
  obtain ⟨b₃, axes, room⟩ := room_serializeAxes event room
  refine ⟨b₃, room, fun innerItem platform => ?_⟩
  rw [marshalling, andThen_of_true header, andThen_of_true baseInfo, andThen_of_true axes]
  rfl

variable {innerItem platform event interceptorTime}

theorem keeps_fromBuffer : Keeps (fromBuffer platform event interceptorTime) := by
  refine Keeps.andThen (fun b => ?_) (Keeps.andThen ?_ ?_)
  · unfold serializeBuffer
    dsimp only
    split_ifs
    · exact List.prefix_rfl
    · exact (Keeps.put _ b).trans (Keeps.putAll _ _)
  · exact .of_checked (Keeps.put interceptorTime)
  · exact .of_checked (Keeps.put event.scrollRows)

theorem keeps_fromKeys : Keeps (fromKeys platform event interceptorTime) :=
  .andThen (.of_checked fun b => (Keeps.put _ b).trans (Keeps.putAll _ _)) keeps_fromBuffer

theorem keeps_serializePointerItems (pointerIds : List Int32) :
    Keeps (serializePointerItems innerItem event pointerIds) := by
  induction pointerIds with
  | nil => exact fun b => List.prefix_rfl
  | cons pointerId pointerIds ih =>
    intro b
    rw [serializePointerItems]
    split
    · exact List.prefix_rfl
    · exact Keeps.andThen (.of_checked (Keeps.put _)) ih b

/-- A size is written when there is room for the larger one. -/
theorem Room.putSize {n : Nat} (h : Room b bs (8 + n)) (platform : Platform) (size : Nat) :
    Room (b.put (SizeT.ofNat platform size)) (bs ++ image (SizeT.ofNat platform size)) n := by
  refine (h.mono ?_).put _
  cases platform with
  | bits32 => exact Nat.add_le_add_right (by decide : 4 ≤ 8) n
  | bits64 => exact Nat.le_refl _

variable (innerItem platform interceptorTime)

/-- The sizes and the buttons, when `Marshalling` takes the event. -/
theorem fromButtons_of_le
    (few : (event.pressedButtons.sort (· ≤ ·)).length ≤ MAX_N_PRESSED_BUTTONS)
    (h : Room b bs 1708) :
    ∃ b', fromButtons innerItem platform event interceptorTime b =
        fromPointers innerItem platform event interceptorTime b' ∧
      Room b' (bs ++ listWire platform (event.pressedButtons.sort (· ≤ ·))) 1660 := by
  have size : Room b bs (8 + 1700) := h
  have values := ((size.putSize platform (event.pressedButtons.sort (· ≤ ·)).length).mono
    (m := (event.pressedButtons.sort (· ≤ ·)).length * sizeof Int32 + 1660) (by
      unfold MAX_N_PRESSED_BUTTONS at few
      change _ * 4 + 1660 ≤ 1700
      omega)).putAll
  have step : serializePressedButtons platform event b =
      (true, (b.put (SizeT.ofNat platform (event.pressedButtons.sort (· ≤ ·)).length)).putAll
        (event.pressedButtons.sort (· ≤ ·))) := by
    unfold serializePressedButtons
    dsimp only
    rw [if_neg (Nat.not_lt.mpr few)]
    exact values.checked
  refine ⟨_, andThen_of_true step _, ?_⟩
  simpa only [listWire, List.append_assoc] using values

/-- Otherwise no size is written. -/
theorem fromButtons_of_lt
    (many : MAX_N_PRESSED_BUTTONS < (event.pressedButtons.sort (· ≤ ·)).length) :
    fromButtons innerItem platform event interceptorTime b = (false, b) := by
  have step : serializePressedButtons platform event b = (false, b) := by
    unfold serializePressedButtons
    dsimp only
    rw [if_pos many]
  rw [fromButtons, step, andThen]
  rfl

theorem fromPointers_size (h : Room b bs 1660) :
    bs ++ image (SizeT.ofNat platform event.pointers.length) <+:
      (fromPointers innerItem platform event interceptorTime b).2.written := by
  have start : Room b bs (8 + 1652) := h
  have size := start.putSize platform event.getPointerIds.length
  have rest : Keeps fun pkt => andThen (andThen
      (serializePointerItems innerItem event event.getPointerIds pkt) checked)
        (fromKeys platform event interceptorTime) :=
    .andThen (.andThen (keeps_serializePointerItems _) (.of_checked fun b => List.prefix_rfl))
      keeps_fromKeys
  have kept := rest (b.put (SizeT.ofNat platform event.getPointerIds.length))
  have count : event.getPointerIds.length = event.pointers.length := List.length_map _
  rw [← count, ← size.written]
  exact kept

theorem fromPointers_of_nil (none : event.pointers = []) (h : Room b bs 1660) :
    ∃ b', fromPointers innerItem platform event interceptorTime b =
        fromKeys platform event interceptorTime b' ∧
      Room b' (bs ++ image (SizeT.ofNat platform 0)) 1652 := by
  have start : Room b bs (8 + 1652) := h
  have size := start.putSize platform 0
  have step : serializePointers innerItem platform event b =
      (true, b.put (SizeT.ofNat platform 0)) := by
    simp only [serializePointers, getPointerIds, none, List.map_nil, List.length_nil,
      serializePointerItems]
    rw [andThen_of_true rfl]
    exact size.checked
  exact ⟨_, andThen_of_true step _, size⟩

theorem fromKeys_size (h : Room b bs 1652) :
    bs ++ image (SizeT.ofNat platform event.pressedKeys.length) <+:
      (fromKeys platform event interceptorTime b).2.written := by
  have start : Room b bs (8 + 1644) := h
  have size := start.putSize platform event.pressedKeys.length
  have rest : Keeps fun pkt => andThen (pkt.putAll event.pressedKeys).checked
      (fromBuffer platform event interceptorTime) :=
    .andThen (.of_checked (Keeps.putAll _)) keeps_fromBuffer
  have kept := rest (b.put (SizeT.ofNat platform event.pressedKeys.length))
  rw [size.written] at kept
  exact kept

theorem fromKeys_of_nil (none : event.pressedKeys = []) (h : Room b bs 1652) :
    ∃ b', fromKeys platform event interceptorTime b =
        fromBuffer platform event interceptorTime b' ∧
      Room b' (bs ++ image (SizeT.ofNat platform 0)) 1644 := by
  have start : Room b bs (8 + 1644) := h
  have size := start.putSize platform 0
  have step : serializePressedKeys platform event b =
      (true, b.put (SizeT.ofNat platform 0)) := by
    simp only [serializePressedKeys, none, List.length_nil]
    exact size.checked
  exact ⟨_, andThen_of_true step _, size⟩

theorem fromBuffer_of_lt (large : mmi.MAX_BUFFER_SIZE < event.buffer.length) (h : Room b bs 1644) :
    (fromBuffer platform event interceptorTime b).2.written = bs := by
  have step : serializeBuffer platform event b = (false, b) := by
    unfold serializeBuffer
    rw [if_pos large]
  rw [fromBuffer, step]
  exact h.written

theorem fromBuffer_size (small : ¬ mmi.MAX_BUFFER_SIZE < event.buffer.length)
    (h : Room b bs 1644) :
    bs ++ image (SizeT.ofNat platform event.buffer.length) <+:
      (fromBuffer platform event interceptorTime b).2.written := by
  have start : Room b bs (8 + 1636) := h
  have size := start.putSize platform event.buffer.length
  have rest : Keeps fun pkt => andThen (pkt.putAll event.buffer).checked fun pkt =>
      andThen (serializeInterceptorTime interceptorTime pkt) fun pkt =>
        serializeScrollRows event pkt :=
    .andThen (.of_checked (Keeps.putAll _)) (.andThen (.of_checked (Keeps.put interceptorTime))
      (.of_checked (Keeps.put event.scrollRows)))
  have kept := rest (b.put (SizeT.ofNat platform event.buffer.length))
  rw [size.written] at kept
  unfold fromBuffer serializeBuffer
  rw [if_neg small]
  exact kept

theorem fromBuffer_of_nil (none : event.buffer = []) (h : Room b bs 1644) :
    (fromBuffer platform event interceptorTime b).2.written =
      bs ++ image (SizeT.ofNat platform 0) ++ image interceptorTime ++ image event.scrollRows := by
  have start : Room b bs (8 + 1636) := h
  have size := start.putSize platform 0
  have time := (size.mono (m := sizeof Int64 + 1628) (by decide)).put interceptorTime
  have rows := (time.mono (m := sizeof Int32 + 1624) (by decide)).put event.scrollRows
  have small : ¬ mmi.MAX_BUFFER_SIZE < event.buffer.length := by simp [none]
  have step : serializeBuffer platform event b = (true, b.put (SizeT.ofNat platform 0)) := by
    unfold serializeBuffer
    rw [if_neg small]
    simp only [none, List.length_nil]
    exact size.checked
  rw [fromBuffer, andThen_of_true step, serializeInterceptorTime, andThen_of_true time.checked]
  exact rows.written

end From

/-! ### Comparing the bytes -/

/-- Words that come four zero bytes later in one of two equal lists are zero. -/
theorem eq_append_of_shifted {zeros r s : List UInt8} {vs : List Int32} (four : zeros.length = 4)
    (h : vs.flatMap image ++ r = zeros ++ (vs.flatMap image ++ s)) : r = zeros ++ s := by
  induction vs generalizing r with
  | nil => exact h
  | cons v vs ih =>
    have size : (image v).length = 4 := TriviallyCopyable.length_image v
    rw [List.flatMap_cons, List.append_assoc, List.append_assoc] at h
    obtain ⟨same, later⟩ := List.append_inj h (size.trans four.symm)
    rw [same] at later
    exact ih later

/-- What follows the buttons comes four zero bytes later when words have 64 bits. -/
theorem behind_buttons {c r s : List UInt8} {vs : List Int32} (short : vs.length < 2 ^ 32)
    (h : c ++ listWire .bits32 vs ++ r = c ++ listWire .bits64 vs ++ s) :
    r = leBytes 4 0 ++ s := by
  rw [listWire, listWire, image_bits32, image_bits64 short] at h
  simp only [List.append_assoc, List.append_cancel_left_eq] at h
  exact eq_append_of_shifted (length_leBytes 4 0) h

/-- The next size is zero, when the bytes between it and the buttons are. -/
theorem size_eq_zero {c y₃₂ y₆₄ y bytes : List UInt8} {vs : List Int32} {n : Nat}
    (short : vs.length < 2 ^ 32) (small : n < 2 ^ 32)
    (zeros : leBytes 4 0 ++ y₆₄ = y₃₂ ++ (leBytes 4 0 ++ y))
    (h₃₂ : c ++ listWire .bits32 vs ++ y₃₂ ++ image (SizeT.ofNat .bits32 n) <+: bytes)
    (h₆₄ : c ++ listWire .bits64 vs ++ y₆₄ ++ image (SizeT.ofNat .bits64 n) <+: bytes) :
    n = 0 := by
  obtain ⟨r, rfl⟩ := h₃₂
  obtain ⟨s, same⟩ := h₆₄
  rw [List.append_assoc _ y₃₂, List.append_assoc _ (y₃₂ ++ _), List.append_assoc _ y₆₄,
    List.append_assoc _ (y₆₄ ++ _)] at same
  have behind := behind_buttons short same.symm
  rw [image_bits32, ← List.append_assoc, ← List.append_assoc, zeros] at behind
  simp only [List.append_assoc, List.append_cancel_left_eq] at behind
  exact eq_zero_of_leBytes small (List.append_inj_left behind (by simp))

/-- An event that exists on a device with 32-bit words: the sizes of its lists are numbers there. -/
structure Representable (event : PointerEvent mmi) : Prop where
  pointers : event.pointers.length < 2 ^ 32
  pressedKeys : event.pressedKeys.length < 2 ^ 32
  buffer : event.buffer.length < 2 ^ 32

/-- The bytes that `Marshalling` writes to a new packet. -/
def marshalled (innerItem : Int32 → InnerPointerItem) (platform : Platform)
    (event : PointerEvent mmi) (interceptorTime : Int64) : List UInt8 :=
  (marshalling innerItem platform event interceptorTime {}).2.written

/-- The bytes up to the number of pointers. -/
def PointerEvent.frontWire (platform : Platform) (event : PointerEvent mmi) : List UInt8 :=
  event.headWire ++ listWire platform (event.pressedButtons.sort (· ≤ ·))

theorem image_zero_bits32 : image (SizeT.ofNat .bits32 0) = leBytes 4 0 := by decide
theorem image_zero_bits64 : image (SizeT.ofNat .bits64 0) = leBytes 8 0 := by decide

section Same

variable {innerItem : Int32 → InnerPointerItem} {interceptorTime : Int64} {b₃₂ b₆₄ : StreamBuffer}

/-- With nothing but zeros up to the size of the buffer, one of the packets is longer. -/
theorem fromBuffer_ne (representable : Representable event)
    (short : (event.pressedButtons.sort (· ≤ ·)).length < 2 ^ 32)
    (h₃₂ : Room b₃₂ (event.frontWire .bits32 ++ (leBytes 4 0 ++ leBytes 4 0)) 1644)
    (h₆₄ : Room b₆₄ (event.frontWire .bits64 ++ (leBytes 8 0 ++ leBytes 8 0)) 1644) :
    (fromBuffer .bits32 event interceptorTime b₃₂).2.written ≠
      (fromBuffer .bits64 event interceptorTime b₆₄).2.written := by
  intro same
  have size₃₂ : sizeof (SizeT .bits32) = 4 := rfl
  have size₆₄ : sizeof (SizeT .bits64) = 8 := rfl
  by_cases large : mmi.MAX_BUFFER_SIZE < event.buffer.length
  · rw [fromBuffer_of_lt _ _ large h₃₂, fromBuffer_of_lt _ _ large h₆₄] at same
    have lengths := congrArg List.length same
    simp only [frontWire, List.length_append, length_listWire, length_leBytes] at lengths
    omega
  · have size := fromBuffer_size .bits32 interceptorTime large h₃₂
    rw [same] at size
    have none : event.buffer = [] := List.length_eq_zero_iff.mp <|
      size_eq_zero (y := leBytes 8 0) short representable.buffer (by decide) size
        (fromBuffer_size .bits64 interceptorTime large h₆₄)
    rw [fromBuffer_of_nil _ _ none h₃₂, fromBuffer_of_nil _ _ none h₆₄] at same
    have lengths := congrArg List.length same
    simp only [frontWire, List.length_append, length_listWire, length_leBytes,
      TriviallyCopyable.length_image] at lengths
    omega

theorem fromKeys_ne (representable : Representable event)
    (short : (event.pressedButtons.sort (· ≤ ·)).length < 2 ^ 32)
    (h₃₂ : Room b₃₂ (event.frontWire .bits32 ++ leBytes 4 0) 1652)
    (h₆₄ : Room b₆₄ (event.frontWire .bits64 ++ leBytes 8 0) 1652) :
    (fromKeys .bits32 event interceptorTime b₃₂).2.written ≠
      (fromKeys .bits64 event interceptorTime b₆₄).2.written := by
  intro same
  have size : _ <+: (fromKeys .bits32 event interceptorTime b₃₂).2.written :=
    fromKeys_size .bits32 interceptorTime h₃₂
  rw [same] at size
  have none : event.pressedKeys = [] := List.length_eq_zero_iff.mp <|
    size_eq_zero (y := leBytes 4 0) short representable.pressedKeys (by decide) size
      (fromKeys_size .bits64 interceptorTime h₆₄)
  obtain ⟨b₃₂', eq₃₂, room₃₂⟩ := fromKeys_of_nil .bits32 interceptorTime none h₃₂
  obtain ⟨b₆₄', eq₆₄, room₆₄⟩ := fromKeys_of_nil .bits64 interceptorTime none h₆₄
  rw [eq₃₂, eq₆₄] at same
  rw [List.append_assoc, image_zero_bits32] at room₃₂
  rw [List.append_assoc, image_zero_bits64] at room₆₄
  exact fromBuffer_ne representable short room₃₂ room₆₄ same

theorem fromPointers_ne (representable : Representable event)
    (short : (event.pressedButtons.sort (· ≤ ·)).length < 2 ^ 32)
    (h₃₂ : Room b₃₂ (event.frontWire .bits32) 1660)
    (h₆₄ : Room b₆₄ (event.frontWire .bits64) 1660) :
    (fromPointers innerItem .bits32 event interceptorTime b₃₂).2.written ≠
      (fromPointers innerItem .bits64 event interceptorTime b₆₄).2.written := by
  intro same
  have size : _ <+: (fromPointers innerItem .bits32 event interceptorTime b₃₂).2.written :=
    fromPointers_size innerItem .bits32 interceptorTime h₃₂
  rw [same] at size
  rw [← List.append_nil (event.frontWire .bits32)] at size
  have none : event.pointers = [] := List.length_eq_zero_iff.mp <|
    size_eq_zero (y := []) short representable.pointers
      (rfl : leBytes 4 0 ++ [] = [] ++ (leBytes 4 0 ++ [])) size (by
      rw [List.append_nil]
      exact fromPointers_size innerItem .bits64 interceptorTime h₆₄)
  obtain ⟨b₃₂', eq₃₂, room₃₂⟩ := fromPointers_of_nil innerItem .bits32 interceptorTime none h₃₂
  obtain ⟨b₆₄', eq₆₄, room₆₄⟩ := fromPointers_of_nil innerItem .bits64 interceptorTime none h₆₄
  rw [eq₃₂, eq₆₄] at same
  rw [image_zero_bits32] at room₃₂
  rw [image_zero_bits64] at room₆₄
  exact fromKeys_ne representable short room₃₂ room₆₄ same

/-- The bytes of an event do not depend on the word size exactly when the event has too many
buttons, so that `Marshalling` refuses it before it writes a size. -/
theorem marshalled_eq_iff (representable : Representable event)
    (innerItem : Int32 → InnerPointerItem) (interceptorTime : Int64) :
    marshalled innerItem .bits32 event interceptorTime =
        marshalled innerItem .bits64 event interceptorTime ↔
      MAX_N_PRESSED_BUTTONS < event.pressedButtons.card := by
  obtain ⟨b, room, eq⟩ := marshalling_eq_fromButtons event interceptorTime
  rw [marshalled, marshalled, eq, eq, ← Finset.length_sort (r := (· ≤ ·))]
  constructor
  · intro same
    by_contra few
    push Not at few
    have short : (event.pressedButtons.sort (· ≤ ·)).length < 2 ^ 32 := by
      unfold MAX_N_PRESSED_BUTTONS at few
      omega
    obtain ⟨b₃₂, eq₃₂, room₃₂⟩ := fromButtons_of_le innerItem .bits32 interceptorTime few room
    obtain ⟨b₆₄, eq₆₄, room₆₄⟩ := fromButtons_of_le innerItem .bits64 interceptorTime few room
    rw [eq₃₂, eq₆₄] at same
    exact fromPointers_ne representable short room₃₂ room₆₄ same
  · intro many
    rw [fromButtons_of_lt _ _ _ many, fromButtons_of_lt _ _ _ many]

/-- A mouse moves, on a device with 32-bit words. -/
def oneMove : PointerEvent .sample := { sourceType := 1, pointers := [{ rawDx := 3 }] }

theorem marshalled_manyButtons :
    marshalled (fun _ => zeroPadding) .bits32
        ({ pressedButtons := {0, 1, 2, 3, 4, 5, 6, 7, 8, 9, 10} } : PointerEvent .sample) 7 =
      marshalled (fun _ => zeroPadding) .bits64
        ({ pressedButtons := {0, 1, 2, 3, 4, 5, 6, 7, 8, 9, 10} } : PointerEvent .sample) 7 :=
  (marshalled_eq_iff ⟨by decide, by decide, by decide⟩ (fun _ => zeroPadding) 7).mpr (by decide)

/-- The bytes differ, and a device with 64-bit words does not take the packet. -/
theorem oneMove_differs :
    marshalled (fun _ => zeroPadding) .bits32 oneMove 7 ≠
        marshalled (fun _ => zeroPadding) .bits64 oneMove 7 ∧
      (marshalling (fun _ => zeroPadding) .bits32 oneMove 7 {}).1 = true ∧
      (unmarshalling zeroVariables (marshalling (fun _ => zeroPadding) .bits32 oneMove 7 {}).2
        (create .sample) 0).1 = false := by
  decide +kernel

end Same

end PointerEvent

end DeviceStatus.InputEvents
