import DeviceStatus.InputEvent.KeyEvents
import DeviceStatus.InputEvent.RoundTrip
import DeviceStatus.Ipc.Reading

/-!
# Key events on the wire

What `KeyEventToNetPacket` writes, and that `NetPacketToKeyEvent` reads it back. The number of
key items has been checked against its cap before it was written, and the items that fit in a
packet are few enough for an `int32_t`.
-/

namespace DeviceStatus.InputEvents

open Bytes Ipc Ipc.StreamBuffer

def KeyItem.wire (item : KeyItem) : List UInt8 :=
  image item.keyCode ++ image item.downTime ++ image item.deviceId ++ image item.pressed ++
    image item.unicode

namespace KeyEvent

/-- What is written after the header. -/
def bodyWire (key : KeyEvent) : List UInt8 :=
  image key.keyCode ++ image key.keyAction ++ image key.keyIntention ++
    image (Int32.ofNat key.keyItems.length) ++ key.keyItems.flatMap KeyItem.wire ++
    image key.numLock ++ image key.capsLock ++ image key.scrollLock

def wire (eventType : Int32) (key : KeyEvent) : List UInt8 :=
  key.toInputEvent.wire eventType ++ key.bodyWire

end KeyEvent

/-! ## Writing -/

theorem wrote_putKeyItem (pkt : StreamBuffer) (item : KeyItem) :
    Wrote pkt item.wire (putKeyItem pkt item) :=
  ((((Wrote.put item.keyCode pkt).andPut _).andPut _).andPut _).andPut _

theorem wrote_putKeyItems (items : List KeyItem) (pkt : StreamBuffer) :
    Wrote pkt (items.flatMap KeyItem.wire) (items.foldl putKeyItem pkt) := by
  induction items generalizing pkt with
  | nil => exact Wrote.refl pkt
  | cons item items ih => exact (wrote_putKeyItem pkt item).trans (ih _)

/-- The writes after the header, without the check of the number of items. -/
def putKeyBody (key : KeyEvent) (pkt : StreamBuffer) : StreamBuffer :=
  let pkt := ((pkt.put key.keyCode).put key.keyAction).put key.keyIntention
  let pkt := key.keyItems.foldl putKeyItem (pkt.put (Int32.ofNat key.keyItems.length))
  ((pkt.put key.numLock).put key.capsLock).put key.scrollLock

theorem wrote_putKeyBody (key : KeyEvent) (pkt : StreamBuffer) :
    Wrote pkt key.bodyWire (putKeyBody key pkt) := by
  have items := ((((Wrote.put key.keyCode pkt).andPut key.keyAction).andPut
    key.keyIntention).andPut (Int32.ofNat key.keyItems.length)).trans
      (wrote_putKeyItems key.keyItems _)
  exact ((items.andPut key.numLock).andPut key.capsLock).andPut key.scrollLock

/-- An event that has been written had few enough items. -/
theorem keyEventToNetPacket_eq {eventType : Int32} {key : KeyEvent} {pkt : StreamBuffer}
    (ok : (keyEventToNetPacket eventType key pkt).1 = true) :
    (serializeInputEvent eventType key.toInputEvent pkt).1 = true ∧
      Int32.ofNat key.keyItems.length ≤ MAX_KEY_SIZE ∧
      keyEventToNetPacket eventType key pkt =
        (putKeyBody key (serializeInputEvent eventType key.toInputEvent pkt).2).checked := by
  obtain ⟨header, step⟩ := andThen_eq_true ok
  rw [keyEventToNetPacket] at ok ⊢
  rw [step] at ok ⊢
  dsimp only at ok ⊢
  split_ifs at ok ⊢ with large
  exact ⟨header, Int32.not_lt.mp large, rfl⟩

/-- What has been written is there to be read behind what the packet held before. -/
theorem holds_of_keyEventToNetPacket {eventType : Int32} {key : KeyEvent} {pkt : StreamBuffer}
    (ok : (keyEventToNetPacket eventType key pkt).1 = true) :
    Holds
      { (keyEventToNetPacket eventType key pkt).2 with
        rPos := pkt.wPos, rPos_mem := pkt.wPos_mem }
      (key.wire eventType) := by
  obtain ⟨header, -, eq⟩ := keyEventToNetPacket_eq ok
  obtain ⟨-, first⟩ := encodes_serializeInputEvent eventType key.toInputEvent pkt header
  have wrote : Wrote pkt (key.wire eventType) _ := first.trans (wrote_putKeyBody key _)
  rw [eq] at ok ⊢
  have status := status_of_checked ok
  exact wrote.holds_behind status

/-! ## Reading -/

theorem readKeyItems_of_holds {items : List KeyItem} {pkt : StreamBuffer} {rest : List UInt8}
    (h : Holds pkt (items.flatMap KeyItem.wire ++ rest)) (unicode : UInt32) (data : Int32)
    (isPressed : Bool) (key : KeyEvent) :
    ∃ pkt', readKeyItems unicode items.length data isPressed key pkt =
        (true, { key with keyItems := key.keyItems ++ items }, pkt') ∧ Holds pkt' rest := by
  induction items generalizing data isPressed key pkt with
  | nil => exact ⟨pkt, by simp [readKeyItems], h⟩
  | cons item items ih =>
    simp only [List.flatMap_cons, KeyItem.wire, List.append_assoc] at h
    obtain ⟨_, readKeyCode, h⟩ := h.get_eq data
    obtain ⟨_, readDownTime, h⟩ := h.get_eq 0
    obtain ⟨_, readDeviceId, h⟩ := h.get_eq item.keyCode
    obtain ⟨_, readPressed, h⟩ := h.get_eq isPressed
    have noError := h.chkRWError
    obtain ⟨_, readUnicode, h⟩ := h.get_eq unicode
    obtain ⟨pkt', later, h⟩ := ih h item.deviceId item.pressed (key.addKeyItem item)
    refine ⟨pkt', ?_, h⟩
    simp only [List.length_cons, readKeyItems, readKeyCode, readDownTime, readDeviceId,
      readPressed, noError, readUnicode, later, Bool.false_eq_true, if_false]
    simp [KeyEvent.addKeyItem]

/-- An event is read back into `fresh`, whose flags and items stay. -/
theorem netPacketToKeyEvent_of_holds {eventType : Int32} {key : KeyEvent} {pkt : StreamBuffer}
    {rest : List UInt8} (h : Holds pkt (key.wire eventType ++ rest))
    (few : Int32.ofNat key.keyItems.length ≤ MAX_KEY_SIZE) (short : key.keyItems.length < 2 ^ 31)
    (uninitialized : KeyUninitialized) (fresh : KeyEvent) :
    ∃ pkt', netPacketToKeyEvent uninitialized pkt fresh =
        (true, { key with
          flag := fresh.flag ||| key.flag, keyItems := fresh.keyItems ++ key.keyItems }, pkt') ∧
      Holds pkt' rest := by
  rw [KeyEvent.wire, List.append_assoc] at h
  obtain ⟨_, readInputEvent, h⟩ :=
    deserializeInputEvent_of_holds h uninitialized.sensorTime fresh.toInputEvent
  simp only [KeyEvent.bodyWire, List.append_assoc] at h
  obtain ⟨_, readKeyCode, h⟩ := h.get_eq 0
  obtain ⟨_, readKeyAction, h⟩ := h.get_eq key.keyCode
  obtain ⟨_, readKeyIntention, h⟩ := h.get_eq key.keyAction
  obtain ⟨_, readSize, h⟩ := h.get_eq 0
  have noError := h.chkRWError
  have size : (Int32.ofNat key.keyItems.length).toInt.toNat = key.keyItems.length := by
    rw [Int32.toInt_ofNat_of_lt short, Int.toNat_natCast]
  obtain ⟨_, readItems, h⟩ := readKeyItems_of_holds h uninitialized.unicode key.keyIntention false
    { fresh with
      toInputEvent := { key.toInputEvent with flag := fresh.flag ||| key.flag }
      keyCode := key.keyCode, keyAction := key.keyAction, keyIntention := key.keyIntention }
  obtain ⟨_, readNumLock, h⟩ := h.get_eq false
  obtain ⟨_, readCapsLock, h⟩ := h.get_eq key.numLock
  obtain ⟨pkt', readScrollLock, h⟩ := h.get_eq key.capsLock
  refine ⟨pkt', ?_, h⟩
  simp only [netPacketToKeyEvent, readInputEvent, readKeyCode, readKeyAction, readKeyIntention,
    readSize, Int32.not_lt.mpr few, noError, size, readItems, readFunctionKeys, readNumLock,
    readCapsLock, readScrollLock, Bool.not_true, Bool.false_eq_true, if_false]

theorem length_keyItems_wire (items : List KeyItem) :
    (items.flatMap KeyItem.wire).length = 21 * items.length := by
  induction items with
  | nil => rfl
  | cons item items ih =>
    have one : item.wire.length = 21 := by
      simp only [KeyItem.wire, List.length_append, TriviallyCopyable.length_image]
      rfl
    rw [List.flatMap_cons, List.length_append, ih, one, List.length_cons]
    ring

/-- Key events survive the wire: read from where it was written, the event is the same. -/
theorem netPacketToKeyEvent_keyEventToNetPacket {eventType : Int32} {key : KeyEvent}
    {pkt : StreamBuffer} (ok : (keyEventToNetPacket eventType key pkt).1 = true)
    (uninitialized : KeyUninitialized) :
    ∃ pkt', netPacketToKeyEvent uninitialized
          { (keyEventToNetPacket eventType key pkt).2 with
            rPos := pkt.wPos, rPos_mem := pkt.wPos_mem } {} =
        (true, key, pkt') ∧ pkt'.chkRWError = false ∧ pkt'.unread = [] := by
  have h := holds_of_keyEventToNetPacket ok
  have short : key.keyItems.length < 2 ^ 31 := by
    have bound := h.ordered.length_unread_le
    rw [h.unread, KeyEvent.wire, KeyEvent.bodyWire] at bound
    simp only [List.length_append, length_keyItems_wire] at bound
    unfold MAX_STREAM_BUF_SIZE at bound
    omega
  rw [← List.append_nil (key.wire eventType)] at h
  obtain ⟨pkt', decoded, after⟩ := netPacketToKeyEvent_of_holds h (keyEventToNetPacket_eq ok).2.1
    short uninitialized {}
  refine ⟨pkt', ?_, after.chkRWError, after.unread⟩
  rw [decoded]
  simp

/-- Two keys are down, and the caps lock is on. -/
def twoKeys : KeyEvent :=
  { keyCode := 2017, keyAction := 2, capsLock := true
    keyItems := [{ keyCode := 2045, downTime := 7, pressed := true },
      { keyCode := 2017, downTime := 9, deviceId := 3, pressed := true, unicode := 97 }] }

theorem twoKeys_survive :
    ∃ pkt', netPacketToKeyEvent { sensorTime := 5, unicode := 6 }
          { (keyEventToNetPacket 1 twoKeys {}).2 with rPos := 0, rPos_mem := by decide } {} =
        (true, twoKeys, pkt') ∧ pkt'.chkRWError = false ∧ pkt'.unread = [] :=
  netPacketToKeyEvent_keyEventToNetPacket (by decide +kernel) _

end DeviceStatus.InputEvents
