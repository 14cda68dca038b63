import DeviceStatus.InputEvent.KeyEvents
import DeviceStatus.InputEvent.SwitchEvents
import DeviceStatus.Ipc.Reading

/-!
# Truncated packets

Which packets the decoders of input events take. A decoder checks for errors up to some field;
what is missing behind that field goes unnoticed.

## Main definitions

* `KeyCut`, `SwitchCut`, `PointerCut` — contents that end, or have a negative count, where the
  decoder does not look.
-/

namespace DeviceStatus.InputEvents

open Bytes Ipc Ipc.StreamBuffer

/-! ## What every input event has -/

def HEADER_SIZE : Nat := 56

theorem follows_deserializeInputEvent (sensorTime : UInt64) (event : InputEvent)
    (pkt : StreamBuffer) :
    Follows (deserializeInputEvent sensorTime event pkt) (pkt.left.bind (skip HEADER_SIZE)) := by
  obtain ⟨type, b₁, readType, left₁⟩ := get_left (0 : Int32) pkt
  obtain ⟨id, b₂, readId, left₂⟩ := get_left type b₁
  obtain ⟨actionTime, b₃, readActionTime, left₃⟩ := get_left (0 : Int64) b₂
  obtain ⟨action, b₄, readAction, left₄⟩ := get_left id b₃
  obtain ⟨startTime, b₅, readStartTime, left₅⟩ := get_left actionTime b₄
  obtain ⟨sensorInputTime, b₆, readSensorTime, left₆⟩ := get_left sensorTime b₅
  obtain ⟨deviceId, b₇, readDeviceId, left₇⟩ := get_left action b₆
  obtain ⟨displayId, b₈, readDisplayId, left₈⟩ := get_left deviceId b₇
  obtain ⟨windowId, b₉, readWindowId, left₉⟩ := get_left displayId b₈
  obtain ⟨agentId, b₁₀, readAgentId, left₁₀⟩ := get_left windowId b₉
  obtain ⟨flag, b₁₁, readFlag, left₁₁⟩ := get_left (0 : UInt32) b₁₀
  have left : b₁₁.left = pkt.left.bind (skip HEADER_SIZE) := by
    rw [left₁₁, left₁₀, left₉, left₈, left₇, left₆, left₅, left₄, left₃, left₂, left₁]
    simp only [bind_skip_bind_skip]
    rfl
  simp only [deserializeInputEvent, readType, readId, readActionTime, readAction, readStartTime,
    readSensorTime, readDeviceId, readDisplayId, readWindowId, readAgentId, readFlag]
  exact .of_ite left

/-! ## Switch events -/

/-- The header is complete, and value or mask is not. -/
def SwitchCut (bs : List UInt8) : Prop :=
  HEADER_SIZE ≤ bs.length ∧ bs.length < HEADER_SIZE + 8

theorem netPacketToSwitchEvent_spec (sensorTime : UInt64) (pkt : StreamBuffer)
    (swEvent : SwitchEvent) :
    (netPacketToSwitchEvent sensorTime pkt swEvent).1 =
        (pkt.left.bind (skip HEADER_SIZE)).isSome ∧
      ((netPacketToSwitchEvent sensorTime pkt swEvent).1 = true →
        (netPacketToSwitchEvent sensorTime pkt swEvent).2.2.left =
          pkt.left.bind (skip (HEADER_SIZE + 8))) := by
  have header := follows_deserializeInputEvent sensorTime swEvent.toInputEvent pkt
  generalize result : deserializeInputEvent sensorTime swEvent.toInputEvent pkt = r at header
  obtain ⟨ok, inputEvent, b⟩ := r
  rw [← header.ok]
  cases ok with
  | false => simp [netPacketToSwitchEvent, result]
  | true =>
    obtain ⟨switchValue, b₁, readValue, left₁⟩ := get_left (0 : Int32) b
    obtain ⟨switchMask, b₂, readMask, left₂⟩ := get_left switchValue b₁
    have left : b₂.left = pkt.left.bind (skip (HEADER_SIZE + 8)) := by
      rw [left₂, left₁, header.left rfl]
      simp only [bind_skip_bind_skip]
      rfl
    simp [netPacketToSwitchEvent, result, readValue, readMask, left]

/-! ## Key events -/

def KEY_HEADER_SIZE : Nat := HEADER_SIZE + 16
def KEY_ITEM_SIZE : Nat := 21

/-- The size that the packet states. -/
def keySize (bs : List UInt8) : Int32 := ofImage ((bs.drop (HEADER_SIZE + 12)).take 4)

/-- Header, size and the items up to the unicode of the last one are complete, and the size is
negative, or this unicode or the function keys are not complete. -/
structure KeyCut (bs : List UInt8) : Prop where
  header : KEY_HEADER_SIZE ≤ bs.length
  size_le : keySize bs ≤ MAX_KEY_SIZE
  items : 0 < (keySize bs).toInt.toNat →
    KEY_HEADER_SIZE + KEY_ITEM_SIZE * (keySize bs).toInt.toNat ≤ bs.length + 4
  cut : keySize bs < 0 ∨
    bs.length < KEY_HEADER_SIZE + KEY_ITEM_SIZE * (keySize bs).toInt.toNat + 3

/-- One turn of the loop: the item before its unicode is not there, or the loop goes on behind
the item. -/
theorem readKeyItems_succ (unicode : UInt32) (n : Nat) (data : Int32) (isPressed : Bool)
    (key : KeyEvent) (pkt : StreamBuffer) :
    (pkt.left.bind (skip 17) = none ∧
      (readKeyItems unicode (n + 1) data isPressed key pkt).1 = false) ∨
    ((pkt.left.bind (skip 17)).isSome ∧ ∃ deviceId pressed filled b,
      b.left = pkt.left.bind (skip KEY_ITEM_SIZE) ∧
        readKeyItems unicode (n + 1) data isPressed key pkt =
          readKeyItems unicode n deviceId pressed filled b) := by
  obtain ⟨keyCode, b₁, readKeyCode, left₁⟩ := get_left data pkt
  obtain ⟨downTime, b₂, readDownTime, left₂⟩ := get_left (0 : Int64) b₁
  obtain ⟨deviceId, b₃, readDeviceId, left₃⟩ := get_left keyCode b₂
  obtain ⟨pressed, b₄, readPressed, left₄⟩ := get_left isPressed b₃
  obtain ⟨itemUnicode, b₅, readUnicode, left₅⟩ := get_left unicode b₄
  have checked : b₄.left = pkt.left.bind (skip 17) := by
    rw [left₄, left₃, left₂, left₁]
    simp only [bind_skip_bind_skip]
    rfl
  have item : b₅.left = pkt.left.bind (skip KEY_ITEM_SIZE) := by
    rw [left₅, checked, bind_skip_bind_skip]
    rfl
  rw [← checked]
  cases there : b₄.left with
  | none =>
    refine .inl ⟨rfl, ?_⟩
    simp [readKeyItems, readKeyCode, readDownTime, readDeviceId, readPressed,
      chkRWError_eq_isNone, there]
  | some bs =>
    refine .inr ⟨rfl, deviceId, pressed,
      key.addKeyItem { keyCode, downTime, deviceId, pressed, unicode := itemUnicode }, b₅, item, ?_⟩
    simp [readKeyItems, readKeyCode, readDownTime, readDeviceId, readPressed, readUnicode,
      chkRWError_eq_isNone, there]

/-- The last thing the loop checks is whether the item before its unicode is there. -/
theorem readKeyItems_spec (unicode : UInt32) (n : Nat) (data : Int32) (isPressed : Bool)
    (key : KeyEvent) (pkt : StreamBuffer) :
    ((readKeyItems unicode n data isPressed key pkt).1 = true ↔
        (0 < n → (pkt.left.bind (skip (KEY_ITEM_SIZE * n - 4))).isSome)) ∧
      ((readKeyItems unicode n data isPressed key pkt).1 = true →
        (readKeyItems unicode n data isPressed key pkt).2.2.left =
          pkt.left.bind (skip (KEY_ITEM_SIZE * n))) := by
  induction n generalizing data isPressed key pkt with
  | zero =>
    refine ⟨by simp [readKeyItems], fun _ => ?_⟩
    change pkt.left = _
    cases pkt.left <;> simp
  | succ n ih =>
    obtain ⟨missing, failed⟩ | ⟨there, deviceId, pressed, filled, b, item, step⟩ :=
      readKeyItems_succ unicode n data isPressed key pkt
    · have parts : KEY_ITEM_SIZE * (n + 1) - 4 = 17 + KEY_ITEM_SIZE * n := by
        unfold KEY_ITEM_SIZE
        omega
      have short : pkt.left.bind (skip (KEY_ITEM_SIZE * (n + 1) - 4)) = none := by
        rw [parts, ← bind_skip_bind_skip, missing]
        rfl
      simp [failed, short]
    · obtain ⟨ok, left⟩ := ih deviceId pressed filled b
      rw [step]
      refine ⟨ok.trans ?_, fun succeeded => ?_⟩
      · cases n with
        | zero => simpa [KEY_ITEM_SIZE] using there
        | succ n =>
          have parts : KEY_ITEM_SIZE * (n + 1 + 1) - 4 =
              KEY_ITEM_SIZE + (KEY_ITEM_SIZE * (n + 1) - 4) := by
            unfold KEY_ITEM_SIZE
            omega
          rw [item, bind_skip_bind_skip, parts]
          simp only [Nat.zero_lt_succ, forall_const]
      · rw [left succeeded, item, bind_skip_bind_skip, Nat.mul_succ, Nat.add_comm]

theorem left_readFunctionKeys (key : KeyEvent) (pkt : StreamBuffer) :
    (readFunctionKeys key pkt).2.left = pkt.left.bind (skip 3) := by
  obtain ⟨numLock, b₁, readNumLock, left₁⟩ := get_left false pkt
  obtain ⟨capsLock, b₂, readCapsLock, left₂⟩ := get_left numLock b₁
  obtain ⟨scrollLock, b₃, readScrollLock, left₃⟩ := get_left capsLock b₂
  simp only [readFunctionKeys, readNumLock, readCapsLock, readScrollLock, left₃, left₂, left₁,
    bind_skip_bind_skip]
  rfl

/-- On an error nothing is decoded. -/
theorem netPacketToKeyEvent_of_none {pkt : StreamBuffer} (h : pkt.left = none)
    (uninitialized : KeyUninitialized) (key : KeyEvent) :
    (netPacketToKeyEvent uninitialized pkt key).1 = false := by
  have header := follows_deserializeInputEvent uninitialized.sensorTime key.toInputEvent pkt
  rw [h] at header
  simp [netPacketToKeyEvent, header.ok]

/-- The size is read where the packet states it. -/
theorem fst_get_keySize {b : StreamBuffer} {bs : List UInt8} (long : KEY_HEADER_SIZE ≤ bs.length)
    (h : b.left = (some bs).bind (skip (HEADER_SIZE + 12))) (data : Int32) :
    (b.get data).1 = keySize bs := by
  unfold KEY_HEADER_SIZE at long
  have enough : HEADER_SIZE + 12 ≤ bs.length := by omega
  rw [Option.bind_some, skip, if_pos enough] at h
  refine fst_get h ?_ data
  rw [List.length_drop]
  change 4 ≤ _
  omega

/-- Header and size are refused, or the items are read behind them and then the function keys. -/
theorem netPacketToKeyEvent_cases {pkt : StreamBuffer} {bs : List UInt8} (h : pkt.left = some bs)
    (uninitialized : KeyUninitialized) (key : KeyEvent) :
    (¬ (KEY_HEADER_SIZE ≤ bs.length ∧ keySize bs ≤ MAX_KEY_SIZE) ∧
      (netPacketToKeyEvent uninitialized pkt key).1 = false) ∨
    (KEY_HEADER_SIZE ≤ bs.length ∧ keySize bs ≤ MAX_KEY_SIZE) ∧
      ∃ keyIntention filled b, b.left = some (bs.drop KEY_HEADER_SIZE) ∧
        let items := readKeyItems uninitialized.unicode (keySize bs).toInt.toNat keyIntention
          false filled b
        netPacketToKeyEvent uninitialized pkt key =
          if items.1 then (true, readFunctionKeys items.2.1 items.2.2) else items := by
  have header := follows_deserializeInputEvent uninitialized.sensorTime key.toInputEvent pkt
  generalize result : deserializeInputEvent uninitialized.sensorTime key.toInputEvent pkt = r
    at header
  obtain ⟨ok, inputEvent, b⟩ := r
  rw [h] at header
  cases ok with
  | false =>
    have short : ¬ HEADER_SIZE ≤ bs.length := by
      have failed := header.ok
      rw [Option.bind_some] at failed
      rw [← isSome_skip, ← failed]
      simp
    have shorter : ¬ KEY_HEADER_SIZE ≤ bs.length := by
      unfold KEY_HEADER_SIZE
      omega
    exact .inl ⟨fun all => shorter all.1, by simp [netPacketToKeyEvent, result]⟩
  | true =>
    obtain ⟨keyCode, b₁, readKeyCode, left₁⟩ := get_left (0 : Int32) b
    obtain ⟨keyAction, b₂, readKeyAction, left₂⟩ := get_left keyCode b₁
    obtain ⟨keyIntention, b₃, readKeyIntention, left₃⟩ := get_left keyAction b₂
    obtain ⟨size, b₄, readSize, left₄⟩ := get_left (0 : Int32) b₃
    have before : b₃.left = (some bs).bind (skip (HEADER_SIZE + 12)) := by
      rw [left₃, left₂, left₁, header.left rfl]
      simp only [bind_skip_bind_skip]
      rfl
    have after : b₄.left = (some bs).bind (skip KEY_HEADER_SIZE) := by
      rw [left₄, before, bind_skip_bind_skip]
      rfl
    by_cases long : KEY_HEADER_SIZE ≤ bs.length
    swap
    · have none : b₄.left = none := by
        rw [after, Option.bind_some, skip, if_neg long]
      refine .inl ⟨fun all => long all.1, ?_⟩
      simp only [netPacketToKeyEvent, result, readKeyCode, readKeyAction, readKeyIntention,
        readSize, chkRWError_eq_isNone, none, Option.isNone_none, if_true]
      split_ifs <;> rfl
    have stated := fst_get_keySize long before (0 : Int32)
    rw [readSize] at stated
    subst stated
    rw [Option.bind_some, skip, if_pos long] at after
    by_cases large : MAX_KEY_SIZE < keySize bs
    · refine .inl ⟨fun all => Int32.not_le.mpr large all.2, ?_⟩
      simp [netPacketToKeyEvent, result, readKeyCode, readKeyAction, readKeyIntention,
        readSize, large]
    · refine .inr ⟨⟨long, Int32.not_lt.mp large⟩, keyIntention,
        { key with toInputEvent := inputEvent, keyCode, keyAction, keyIntention }, b₄, after, ?_⟩
      have checks : ¬ (!true) = true ∧ ¬ (some (bs.drop KEY_HEADER_SIZE)).isNone = true := by simp
      simp only [netPacketToKeyEvent, result, readKeyCode, readKeyAction, readKeyIntention,
        readSize, if_neg large, chkRWError_eq_isNone, after, if_neg checks.1, if_neg checks.2]
      generalize readKeyItems uninitialized.unicode (keySize bs).toInt.toNat keyIntention false
        { key with toInputEvent := inputEvent, keyCode, keyAction, keyIntention } b₄ = items
      obtain ⟨succeeded, key', b'⟩ := items
      cases succeeded <;> rfl

theorem netPacketToKeyEvent_spec {pkt : StreamBuffer} {bs : List UInt8} (h : pkt.left = some bs)
    (uninitialized : KeyUninitialized) (key : KeyEvent) :
    ((netPacketToKeyEvent uninitialized pkt key).1 = true ↔
        KEY_HEADER_SIZE ≤ bs.length ∧ keySize bs ≤ MAX_KEY_SIZE ∧
          (0 < (keySize bs).toInt.toNat →
            KEY_HEADER_SIZE + KEY_ITEM_SIZE * (keySize bs).toInt.toNat ≤ bs.length + 4)) ∧
      ((netPacketToKeyEvent uninitialized pkt key).1 = true →
        (netPacketToKeyEvent uninitialized pkt key).2.2.left =
          skip (KEY_HEADER_SIZE + KEY_ITEM_SIZE * (keySize bs).toInt.toNat + 3) bs) := by
  obtain ⟨refused, failed⟩ | ⟨⟨long, few⟩, keyIntention, filled, b, after, step⟩ :=
    netPacketToKeyEvent_cases h uninitialized key
  · rw [failed]
    exact ⟨iff_of_false (by simp) fun all => refused ⟨all.1, all.2.1⟩, fun ok => by cases ok⟩
  obtain ⟨ok, left⟩ := readKeyItems_spec uninitialized.unicode (keySize bs).toInt.toNat
    keyIntention false filled b
  rw [step]
  generalize readKeyItems uninitialized.unicode (keySize bs).toInt.toNat keyIntention
    false filled b = r at ok left
  obtain ⟨succeeded, key', b'⟩ := r
  rw [after] at ok left
  have enough : (0 < (keySize bs).toInt.toNat →
        ((some (bs.drop KEY_HEADER_SIZE)).bind
          (skip (KEY_ITEM_SIZE * (keySize bs).toInt.toNat - 4))).isSome) ↔
      (0 < (keySize bs).toInt.toNat →
        KEY_HEADER_SIZE + KEY_ITEM_SIZE * (keySize bs).toInt.toNat ≤ bs.length + 4) := by
    refine forall_congr' fun positive => ?_
    rw [Option.bind_some, isSome_skip, List.length_drop]
    unfold KEY_ITEM_SIZE
    omega
  rw [enough] at ok
  cases succeeded with
  | false =>
    refine ⟨⟨fun succeeded => ?_, fun all => ok.mpr all.2.2⟩, fun succeeded => ?_⟩ <;>
      cases succeeded
  | true =>
    rw [if_pos rfl]
    refine ⟨⟨fun _ => ⟨long, few, ok.mp rfl⟩, fun _ => rfl⟩, fun _ => ?_⟩
    rw [left_readFunctionKeys, left rfl, ← skip_bind_skip, ← skip_bind_skip, skip, if_pos long]

/-! ## Pointer events -/

section PointerEvent

variable {mmi : MmiConstants} {platform : Platform}

instance : FitsMemcpy InnerPointerItem := ⟨by decide⟩

instance : FitsMemcpy (SizeT platform) := by
  cases platform with
  | bits32 => exact inferInstanceAs (FitsMemcpy UInt32)
  | bits64 => exact inferInstanceAs (FitsMemcpy UInt64)

def BASE_INFO_SIZE : Nat := 24

/-- How many of `is` are in the set of axes. -/
def countAxes (axes : UInt32) (is : List (Fin mmi.AXIS_TYPE_MAX)) : Nat :=
  is.countP fun i : Fin mmi.AXIS_TYPE_MAX => PointerEvent.hasAxis axes i.val

/-- The axes that the packet names, and a value for each. -/
def skipAxes (mmi : MmiConstants) (bs : List UInt8) : Option (List UInt8) :=
  skip (sizeof UInt32 + 8 * countAxes (ofImage (bs.take (sizeof UInt32)))
    (List.finRange mmi.AXIS_TYPE_MAX)) bs

/-- A number of elements, which must not be larger than `max`, and the elements. -/
def skipList (platform : Platform) (max size : Nat) (bs : List UInt8) : Option (List UInt8) :=
  let n : SizeT platform := ofImage (bs.take (sizeof (SizeT platform)))
  if n.toNat ≤ max then skip (sizeof (SizeT platform) + n.toNat * size) bs else none

/-- What follows the header, as far as it is checked. -/
def skipBody (mmi : MmiConstants) (platform : Platform) (bs : List UInt8) :
    Option (List UInt8) :=
  (skip BASE_INFO_SIZE bs).bind fun bs =>
  (skipAxes mmi bs).bind fun bs =>
  (skipList platform MAX_N_PRESSED_BUTTONS (sizeof Int32) bs).bind fun bs =>
  (skipList platform MAX_N_POINTER_ITEMS (sizeof InnerPointerItem) bs).bind fun bs =>
  (skipList platform MAX_N_PRESSED_KEYS (sizeof Int32) bs).bind
  (skipList platform mmi.MAX_BUFFER_SIZE (sizeof UInt8))

/-- Everything that `Unmarshalling` checks. -/
def skipChecked (mmi : MmiConstants) (platform : Platform) (bs : List UInt8) :
    Option (List UInt8) :=
  (skip HEADER_SIZE bs).bind (skipBody mmi platform)

/-- What is checked is complete, and interceptor time or scroll rows are not. -/
def PointerCut (mmi : MmiConstants) (platform : Platform) (bs : List UInt8) : Prop :=
  ∃ rest, skipChecked mmi platform bs = some rest ∧ rest.length < 12

theorem follows_deserializeBaseInfo (event : PointerEvent mmi) (pkt : StreamBuffer) :
    Follows (deserializeBaseInfo event pkt) (pkt.left.bind (skip BASE_INFO_SIZE)) := by
  obtain ⟨pointerAction, b₁, readPointerAction, left₁⟩ := get_left (0 : Int32) pkt
  obtain ⟨pointerId, b₂, readPointerId, left₂⟩ := get_left (0 : Int32) b₁
  obtain ⟨sourceType, b₃, readSourceType, left₃⟩ := get_left (0 : Int32) b₂
  obtain ⟨buttonId, b₄, readButtonId, left₄⟩ := get_left (0 : Int32) b₃
  obtain ⟨fingerCount, b₅, readFingerCount, left₅⟩ := get_left (0 : Int32) b₄
  obtain ⟨zOrder, b₆, readZOrder, left₆⟩ := get_left (0 : Single) b₅
  have left : b₆.left = pkt.left.bind (skip BASE_INFO_SIZE) := by
    rw [left₆, left₅, left₄, left₃, left₂, left₁]
    simp only [bind_skip_bind_skip]
    rfl
  simp only [deserializeBaseInfo, readPointerAction, readPointerId, readSourceType, readButtonId,
    readFingerCount, readZOrder]
  exact .of_ite left

/-! ### Axes -/

theorem left_deserializeAxisValues (axes : UInt32) (is : List (Fin mmi.AXIS_TYPE_MAX))
    (axisValue : Double) (event : PointerEvent mmi) (pkt : StreamBuffer) :
    (deserializeAxisValues axes is axisValue event pkt).2.left =
      pkt.left.bind (skip (8 * countAxes axes is)) := by
  induction is generalizing axisValue event pkt with
  | nil =>
    change pkt.left = pkt.left.bind (skip 0)
    cases pkt.left <;> simp
  | cons i is ih =>
    rw [deserializeAxisValues, countAxes, List.countP_cons, ← countAxes]
    by_cases there : PointerEvent.hasAxis axes i
    · obtain ⟨v, b, readValue, left⟩ := get_left axisValue pkt
      simp only [there, if_true, readValue]
      rw [ih, left, bind_skip_bind_skip]
      congr 2
      change 8 + _ = _
      ring
    · simp only [there, if_false, Nat.add_zero, Bool.false_eq_true]
      exact ih axisValue event pkt

theorem follows_deserializeAxes (event : PointerEvent mmi) (pkt : StreamBuffer) :
    Follows (deserializeAxes event pkt) (pkt.left.bind (skipAxes mmi)) := by
  obtain ⟨axes, b, readAxes, left⟩ := get_left (0 : UInt32) pkt
  simp only [deserializeAxes, readAxes]
  refine .of_checked ?_
  rw [left_deserializeAxisValues]
  cases before : pkt.left with
  | none => rw [left, before]; rfl
  | some bs =>
    obtain ⟨enough, rfl, after⟩ | ⟨short, after⟩ := left_get_some before readAxes
    · rw [after, Option.bind_some, Option.bind_some, skipAxes, skip_add_of_le enough]
    · rw [after, Option.bind_some, skipAxes, skip_add_of_lt short]
      rfl

/-! ### Lists -/

/-- A list whose size is not too large is skipped as a whole. -/
theorem left_bind_of_le {max size : Nat} {n data : SizeT platform} {pkt pkt' : StreamBuffer}
    (read : pkt.get data = (n, pkt')) (few : n.toNat ≤ max) :
    pkt'.left.bind (skip (n.toNat * size)) = pkt.left.bind (skipList platform max size) := by
  cases before : pkt.left with
  | none =>
    have after := left_get (b := pkt) data
    rw [read, before] at after
    rw [after]
    rfl
  | some bs =>
    obtain ⟨enough, rfl, after⟩ | ⟨short, after⟩ := left_get_some before read
    · rw [after, Option.bind_some, Option.bind_some, skipList, if_pos few, skip_add_of_le enough]
    · rw [after, Option.bind_some, skipList, skip_add_of_lt short]
      simp

/-- There is no such list when its size is too large. -/
theorem left_bind_of_lt {max size : Nat} {n data : SizeT platform} {pkt pkt' : StreamBuffer}
    (read : pkt.get data = (n, pkt')) (many : max < n.toNat) :
    pkt.left.bind (skipList platform max size) = none := by
  cases before : pkt.left with
  | none => rfl
  | some bs =>
    rw [Option.bind_some, skipList]
    obtain ⟨-, rfl, -⟩ | ⟨short, -⟩ := left_get_some before read
    · rw [if_neg (Nat.not_le.mpr many)]
    · rw [skip_add_of_lt short, ite_self]

theorem follows_deserializePressedButtons (nPressed : SizeT platform) (event : PointerEvent mmi)
    (pkt : StreamBuffer) :
    Follows (deserializePressedButtons nPressed event pkt)
      (pkt.left.bind (skipList platform MAX_N_PRESSED_BUTTONS (sizeof Int32))) := by
  obtain ⟨n, b, read, -⟩ := get_left nPressed pkt
  simp only [deserializePressedButtons, read]
  split_ifs with many
  · rw [left_bind_of_lt read many]
    exact .of_fails rfl
  · rw [← left_bind_of_le read (Nat.le_of_not_lt many)]
    exact .of_checked (left_getAll _ _ _)

theorem follows_deserializePressedKeys (event : PointerEvent mmi) (pkt : StreamBuffer) :
    Follows (deserializePressedKeys platform event pkt)
      (pkt.left.bind (skipList platform MAX_N_PRESSED_KEYS (sizeof Int32))) := by
  obtain ⟨n, b, read, -⟩ := get_left (SizeT.ofNat platform 0) pkt
  simp only [deserializePressedKeys, read]
  by_cases many : MAX_N_PRESSED_KEYS < n.toNat
  · rw [if_pos many, left_bind_of_lt read many]
    exact .of_fails rfl
  · rw [if_neg many, ← left_bind_of_le read (Nat.le_of_not_lt many)]
    exact .of_ite (left_getAll _ _ _)

theorem follows_deserializeBuffer (event : PointerEvent mmi) (pkt : StreamBuffer) :
    Follows (deserializeBuffer platform event pkt)
      (pkt.left.bind (skipList platform mmi.MAX_BUFFER_SIZE (sizeof UInt8))) := by
  obtain ⟨n, b, read, -⟩ := get_left (SizeT.ofNat platform 0) pkt
  simp only [deserializeBuffer, read]
  by_cases many : mmi.MAX_BUFFER_SIZE < n.toNat
  · rw [if_pos many, left_bind_of_lt read many]
    exact .of_fails rfl
  · rw [if_neg many, ← left_bind_of_le read (Nat.le_of_not_lt many)]
    exact .of_ite (left_getAll _ _ _)

/-- Each item is checked as it is read. -/
theorem follows_deserializePointerItems (innerItem : InnerPointerItem) (n : Nat)
    (event : PointerEvent mmi) (pkt : StreamBuffer) :
    Follows (deserializePointerItems innerItem n event pkt)
      (pkt.left.bind (skip (n * sizeof InnerPointerItem))) := by
  induction n generalizing event pkt with
  | zero =>
    refine .of_checked ?_
    rw [Nat.zero_mul]
    cases pkt.left <;> simp
  | succ n ih =>
    obtain ⟨item, b, read, left⟩ := get_left innerItem pkt
    have parts : pkt.left.bind (skip ((n + 1) * sizeof InnerPointerItem)) =
        b.left.bind (skip (n * sizeof InnerPointerItem)) := by
      rw [left, bind_skip_bind_skip, Nat.succ_mul, Nat.add_comm]
    rw [parts, deserializePointerItems]
    simp only [deserializePointerItem, read, chkRWError_eq_isNone]
    cases there : b.left with
    | none => exact .of_fails rfl
    | some bs =>
      have later := ih (event.addPointerItem item.toItem) b
      rw [there] at later
      exact later

theorem follows_deserializePointers (innerItem : InnerPointerItem) (nPointers : SizeT platform)
    (event : PointerEvent mmi) (pkt : StreamBuffer) :
    Follows (deserializePointers innerItem nPointers event pkt)
      (pkt.left.bind (skipList platform MAX_N_POINTER_ITEMS (sizeof InnerPointerItem))) := by
  obtain ⟨n, b, read, -⟩ := get_left nPointers pkt
  simp only [deserializePointers, read]
  split_ifs with many
  · rw [left_bind_of_lt read many]
    exact .of_fails rfl
  · rw [← left_bind_of_le read (Nat.le_of_not_lt many)]
    exact follows_deserializePointerItems innerItem n.toNat event b

/-! ### The whole event -/

/-- `Unmarshalling` succeeds when there is something left, and then reads two more fields. -/
structure Fills (r : Bool × Filled mmi) (rest : Option (List UInt8)) : Prop where
  ok : r.1 = rest.isSome
  left : r.1 = true → r.2.pkt.left = rest.bind (skip 12)

theorem fills_andFill {r : Bool × PointerEvent mmi × StreamBuffer} {rest : Option (List UInt8)}
    {interceptorTime : Int64} {f : PointerEvent mmi → StreamBuffer → Bool × Filled mmi}
    {more : List UInt8 → Option (List UInt8)} (h : Follows r rest)
    (step : ∀ event pkt bs, pkt.left = some bs → Fills (f event pkt) (more bs)) :
    Fills (andFill interceptorTime r f) (rest.bind more) := by
  obtain ⟨ok, event, pkt⟩ := r
  cases rest with
  | none =>
    obtain rfl : ok = false := h.ok
    exact ⟨rfl, fun succeeded => by cases succeeded⟩
  | some bs =>
    obtain rfl : ok = true := h.ok
    exact step event pkt bs (h.left rfl)

/-- The same for a step whose decoder follows the bytes that are left. -/
theorem fills_andFill_bind
    {D : PointerEvent mmi → StreamBuffer → Bool × PointerEvent mmi × StreamBuffer}
    {part more : List UInt8 → Option (List UInt8)} {interceptorTime : Int64}
    {f : PointerEvent mmi → StreamBuffer → Bool × Filled mmi}
    (h : ∀ event pkt, Follows (D event pkt) (pkt.left.bind part))
    (step : ∀ event pkt bs, pkt.left = some bs → Fills (f event pkt) (more bs))
    (event : PointerEvent mmi) (pkt : StreamBuffer) (bs : List UInt8) (left : pkt.left = some bs) :
    Fills (andFill interceptorTime (D event pkt) f) ((part bs).bind more) := by
  have follows := h event pkt
  rw [left, Option.bind_some] at follows
  exact fills_andFill follows step

theorem left_deserializeInterceptorTime (interceptorTime : Int64) (pkt : StreamBuffer) :
    (deserializeInterceptorTime interceptorTime pkt).2.left = pkt.left.bind (skip 8) := by
  obtain ⟨t, b, read, left⟩ := get_left interceptorTime pkt
  simp only [deserializeInterceptorTime, read]
  split_ifs <;> exact left

theorem left_deserializeScrollRows (event : PointerEvent mmi) (pkt : StreamBuffer) :
    (deserializeScrollRows event pkt).2.left = pkt.left.bind (skip 4) := by
  obtain ⟨rows, b, read, left⟩ := get_left (-1 : Int32) pkt
  simp only [deserializeScrollRows, read]
  split_ifs <;> exact left

theorem fills_unmarshalling (uninitialized : Uninitialized platform) (pkt : StreamBuffer)
    (event : PointerEvent mmi) (interceptorTime : Int64) :
    Fills (unmarshalling uninitialized pkt event interceptorTime)
      (pkt.left.bind (skipChecked mmi platform)) := by
  have header :=
    follows_deserializeInputEvent uninitialized.sensorTime event.toInputEvent pkt
  generalize result :
    deserializeInputEvent uninitialized.sensorTime event.toInputEvent pkt = r at header
  obtain ⟨ok, inputEvent, b⟩ := r
  have split : pkt.left.bind (skipChecked mmi platform) =
      (pkt.left.bind (skip HEADER_SIZE)).bind (skipBody mmi platform) :=
    (Option.bind_assoc ..).symm
  rw [split]
  simp only [unmarshalling, result]
  refine fills_andFill ⟨header.ok, header.left⟩ ?_
  refine fills_andFill_bind follows_deserializeBaseInfo ?_
  refine fills_andFill_bind follows_deserializeAxes ?_
  refine fills_andFill_bind (follows_deserializePressedButtons uninitialized.nPressed) ?_
  refine fills_andFill_bind
    (follows_deserializePointers (uninitialized.innerItem 0) uninitialized.nPointers) ?_
  refine fills_andFill_bind follows_deserializePressedKeys ?_
  intro event pkt bs left
  have buffer : Follows (deserializeBuffer platform event pkt) _ :=
    follows_deserializeBuffer event pkt
  rw [left, Option.bind_some] at buffer
  rw [← Option.bind_fun_some (skipList ..)]
  refine fills_andFill buffer fun event pkt bs left => ⟨rfl, fun _ => ?_⟩
  change (deserializeScrollRows event (deserializeInterceptorTime interceptorTime pkt).2).2.left = _
  rw [left_deserializeScrollRows, left_deserializeInterceptorTime, bind_skip_bind_skip, left]

end PointerEvent

/-! ## What is rejected -/

/-- An event is decoded only without an error pending and with a size that is not negative. -/
def KeyRejects (uninitialized : KeyUninitialized) (pkt : StreamBuffer) (key : KeyEvent) : Prop :=
  (netPacketToKeyEvent uninitialized pkt key).1 = true →
    (netPacketToKeyEvent uninitialized pkt key).2.2.chkRWError = false ∧ 0 ≤ keySize pkt.unread

def SwitchRejects (sensorTime : UInt64) (pkt : StreamBuffer) (swEvent : SwitchEvent) : Prop :=
  (netPacketToSwitchEvent sensorTime pkt swEvent).1 = true →
    (netPacketToSwitchEvent sensorTime pkt swEvent).2.2.chkRWError = false

def PointerRejects {mmi : MmiConstants} {platform : Platform}
    (uninitialized : Uninitialized platform) (pkt : StreamBuffer) (event : PointerEvent mmi)
    (interceptorTime : Int64) : Prop :=
  (unmarshalling uninitialized pkt event interceptorTime).1 = true →
    (unmarshalling uninitialized pkt event interceptorTime).2.pkt.chkRWError = false

theorem chkRWError_of_left {pkt : StreamBuffer} {n : Nat} {bs : List UInt8}
    (h : pkt.left = (some bs).bind (skip n)) : pkt.chkRWError = false ↔ n ≤ bs.length := by
  rw [chkRWError_eq_isNone, h, Option.bind_some, skip]
  split_ifs with enough <;> simp [enough]

theorem keyRejects_iff (uninitialized : KeyUninitialized) (pkt : StreamBuffer) (key : KeyEvent) :
    KeyRejects uninitialized pkt key ↔ ¬ (pkt.rwErrorStatus = .ok ∧ KeyCut pkt.unread) := by
  by_cases status : pkt.rwErrorStatus = .ok
  swap
  · have failed := netPacketToKeyEvent_of_none (left_eq_none.mpr status) uninitialized key
    simp [KeyRejects, failed, status]
  obtain ⟨ok, left⟩ :=
    netPacketToKeyEvent_spec (left_eq_some.mpr ⟨status, rfl⟩) uninitialized key
  constructor
  · rintro rejects ⟨-, header, size_le, items, cut⟩
    have succeeded := ok.mpr ⟨header, size_le, items⟩
    obtain ⟨clean, positive⟩ := rejects succeeded
    have whole := (chkRWError_of_left (left succeeded)).mp clean
    exact cut.elim (Int32.not_lt.mpr positive) (Nat.not_lt.mpr whole)
  · intro notCut succeeded
    obtain ⟨header, size_le, items⟩ := ok.mp succeeded
    have whole : ¬ (keySize pkt.unread < 0 ∨ pkt.unread.length <
        KEY_HEADER_SIZE + KEY_ITEM_SIZE * (keySize pkt.unread).toInt.toNat + 3) :=
      fun cut => notCut ⟨status, header, size_le, items, cut⟩
    push Not at whole
    exact ⟨(chkRWError_of_left (left succeeded)).mpr whole.2, Int32.not_lt.mp whole.1⟩

theorem switchRejects_iff (sensorTime : UInt64) (pkt : StreamBuffer) (swEvent : SwitchEvent) :
    SwitchRejects sensorTime pkt swEvent ↔
      ¬ (pkt.rwErrorStatus = .ok ∧ SwitchCut pkt.unread) := by
  obtain ⟨ok, left⟩ := netPacketToSwitchEvent_spec sensorTime pkt swEvent
  by_cases status : pkt.rwErrorStatus = .ok
  swap
  · rw [left_eq_none.mpr status] at ok
    simp [SwitchRejects, ok, status]
  rw [left_eq_some.mpr ⟨status, rfl⟩] at ok left
  rw [Option.bind_some] at ok
  unfold SwitchRejects SwitchCut
  by_cases header : HEADER_SIZE ≤ pkt.unread.length
  · have succeeded := ok.trans (isSome_skip.mpr header)
    have whole := chkRWError_of_left (left succeeded)
    simp only [succeeded, whole, status, header, true_and, forall_const, Nat.not_lt]
  · have failed : (netPacketToSwitchEvent sensorTime pkt swEvent).1 = false := by
      rw [ok, skip, if_neg header]
      rfl
    refine iff_of_true (fun succeeded => ?_) fun cut => header cut.2.1
    rw [failed] at succeeded
    cases succeeded

theorem pointerRejects_iff {mmi : MmiConstants} {platform : Platform}
    (uninitialized : Uninitialized platform) (pkt : StreamBuffer) (event : PointerEvent mmi)
    (interceptorTime : Int64) :
    PointerRejects uninitialized pkt event interceptorTime ↔
      ¬ (pkt.rwErrorStatus = .ok ∧ PointerCut mmi platform pkt.unread) := by
  obtain ⟨ok, left⟩ := fills_unmarshalling uninitialized pkt event interceptorTime
  by_cases status : pkt.rwErrorStatus = .ok
  swap
  · rw [left_eq_none.mpr status] at ok
    simp [PointerRejects, ok, status]
  rw [left_eq_some.mpr ⟨status, rfl⟩, Option.bind_some] at ok left
  unfold PointerRejects PointerCut
  cases checked : skipChecked mmi platform pkt.unread with
  | none =>
    rw [checked] at ok
    simp [ok]
  | some rest =>
    rw [checked] at ok left
    have whole := chkRWError_of_left (left ok)
    simp only [status, true_and, Option.some.injEq, exists_eq_left', Nat.not_lt]
    exact ⟨fun rejects => whole.mp (rejects ok), fun enough _ => whole.mpr enough⟩

/-- The decoders reject what is truncated, except where the content ends, or has a negative
count, behind what they check. -/
theorem rejects_iff_not_cut {mmi : MmiConstants} {platform : Platform} (pkt : StreamBuffer)
    (keyUninitialized : KeyUninitialized) (key : KeyEvent) (sensorTime : UInt64)
    (swEvent : SwitchEvent) (uninitialized : Uninitialized platform) (event : PointerEvent mmi)
    (interceptorTime : Int64) :
    (KeyRejects keyUninitialized pkt key ↔
        ¬ (pkt.rwErrorStatus = .ok ∧ KeyCut pkt.unread)) ∧
      (SwitchRejects sensorTime pkt swEvent ↔
        ¬ (pkt.rwErrorStatus = .ok ∧ SwitchCut pkt.unread)) ∧
      (PointerRejects uninitialized pkt event interceptorTime ↔
        ¬ (pkt.rwErrorStatus = .ok ∧ PointerCut mmi platform pkt.unread)) :=
  ⟨keyRejects_iff keyUninitialized pkt key, switchRejects_iff sensorTime pkt swEvent,
    pointerRejects_iff uninitialized pkt event interceptorTime⟩

/-- The packet of a switch event, cut before its value. -/
def headerOnly : StreamBuffer := (serializeInputEvent 0 {} {}).2

theorem headerOnly_not_rejected :
    headerOnly.unread <+: SwitchEvent.wire 0 {} ∧ headerOnly.unread ≠ SwitchEvent.wire 0 {} ∧
      ¬ SwitchRejects 0 headerOnly {} := by
  unfold SwitchRejects
  decide +kernel

end DeviceStatus.InputEvents
