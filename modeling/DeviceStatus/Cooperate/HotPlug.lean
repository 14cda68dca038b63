import DeviceStatus.Cooperate.PacketRoundTrip

/-!
# Announcing that a keyboard comes or goes

`InputDeviceMgr::BroadcastHotPlugToRemote` writes the device for a keyboard that is plugged in
and only its id for one that is unplugged; `DSoftbusHandler::OnRemoteHotPlug` reads a device in
both cases and never says who the sender is.

## Main definitions

* `InputDeviceMgr.broadcastHotPlugToRemote` — the packet that is broadcast for an event.
* `Announces` — an event that tells a peer what has been plugged or unplugged, and where.
-/

namespace DeviceStatus.Cooperation

open Bytes
open Ipc (StreamBuffer NetPacket)
open Ipc.StreamBuffer (Wrote Holds)

namespace InputDeviceMgr

def serializeDevice (device : Device) (packet : StreamBuffer) : Bool × StreamBuffer :=
  (packet |>.put device.id |>.putString device.devPath |>.putString device.sysPath
    |>.put device.bus |>.put device.vendor |>.put device.product |>.put device.version
    |>.putString device.name |>.putString device.phys |>.putString device.uniq
    |>.put device.isPointerDevice |>.put device.isKeyboard |>.put device.keyboardType).checked

/-- The packet that goes to `BroadcastPacket`; `getDevice` is that of the device manager. -/
def broadcastHotPlugToRemote (getDevice : Int32 → Option Device) (notice : InputHotplugEvent) :
    Option NetPacket :=
  if notice.isKeyboard = false then none
  else
    let packet := StreamBuffer.put notice.type.toInt32 {}
    match notice.type with
    | .plug =>
      match getDevice notice.deviceId with
      | none => none
      | some device =>
        let (ok, packet) := serializeDevice device packet
        if ok then some { toStreamBuffer := packet, msgId := DSOFTBUS_INPUT_DEV_HOT_PLUG }
        else none
    | .unplug =>
      let packet := packet.put notice.deviceId
      if packet.chkRWError then none
      else some { toStreamBuffer := packet, msgId := DSOFTBUS_INPUT_DEV_HOT_PLUG }
    | .other _ => some { toStreamBuffer := packet, msgId := DSOFTBUS_INPUT_DEV_HOT_PLUG }

end InputDeviceMgr

/-- What an event must say for a peer to act on `notice` of the device `networkId`: the type,
the device, by its whole record when it is new, and whose it is. -/
structure Announces (networkId : NetworkId) (getDevice : Int32 → Option Device)
    (notice : InputHotplugEvent) (event : DSoftbusHotPlugEvent) : Prop where
  type : event.type = notice.type
  deviceId : event.device.id = notice.deviceId
  device : notice.type = .plug → getDevice notice.deviceId = some event.device
  networkId : event.networkId = networkId

namespace Device

def strings (device : Device) : List StdString :=
  [device.devPath, device.sysPath, device.name, device.phys, device.uniq]

/-- A device that can be told from its bytes: no string of it holds a NUL, and its keyboard
type is one. -/
structure Transmissible (device : Device) : Prop where
  nulFree : ∀ s ∈ device.strings, 0 ∉ s
  keyboardType : 0 ≤ device.keyboardType ∧ device.keyboardType < KEYBOARD_TYPE_MAX

@[simp] theorem strings_setKeyboardType (type : Int32) (device : Device) :
    (device.setKeyboardType type).strings = device.strings := by
  unfold setKeyboardType
  split <;> rfl

/-- The keyboard type of a device stays a keyboard type. -/
theorem keyboardType_setKeyboardType (type : Int32) {device : Device}
    (h : 0 ≤ device.keyboardType ∧ device.keyboardType < KEYBOARD_TYPE_MAX) :
    0 ≤ (device.setKeyboardType type).keyboardType ∧
      (device.setKeyboardType type).keyboardType < KEYBOARD_TYPE_MAX := by
  unfold setKeyboardType
  split
  · assumption
  · exact h

def fields (device : Device) : List (List UInt8) :=
  [image device.id, DSoftbusPacket.imageString device.devPath,
    DSoftbusPacket.imageString device.sysPath, image device.bus, image device.vendor,
    image device.product, image device.version, DSoftbusPacket.imageString device.name,
    DSoftbusPacket.imageString device.phys, DSoftbusPacket.imageString device.uniq,
    image device.isPointerDevice, image device.isKeyboard, image device.keyboardType]

end Device

namespace InputDeviceMgr

variable {getDevice : Int32 → Option Device} {notice : InputHotplugEvent} {sent : NetPacket}
  {device : Device}

theorem encodes_serializeDevice (device : Device) :
    StreamBuffer.Encodes (serializeDevice device) device.fields.flatten := by
  apply StreamBuffer.Encodes.of_checked
  intro packet
  have wrote := ((((((((((((Wrote.put device.id packet).andPutString device.devPath).andPutString
    device.sysPath).andPut device.bus).andPut device.vendor).andPut device.product).andPut
    device.version).andPutString device.name).andPutString device.phys).andPutString
    device.uniq).andPut device.isPointerDevice).andPut device.isKeyboard).andPut
    device.keyboardType
  simpa [Device.fields, DSoftbusPacket.imageString] using wrote

/-- What is broadcast: a device that the manager has, an id, or for a type that is neither only
the type. -/
theorem broadcast_eq_some (h : broadcastHotPlugToRemote getDevice notice = some sent) :
    sent.msgId = DSOFTBUS_INPUT_DEV_HOT_PLUG ∧
      match notice.type with
      | .plug => ∃ device, getDevice notice.deviceId = some device ∧
          sent.written = image notice.type.toInt32 ++ device.fields.flatten
      | .unplug => sent.written = image notice.type.toInt32 ++ image notice.deviceId
      | .other _ => sent.written = image notice.type.toInt32 := by
  have isKeyboard : notice.isKeyboard ≠ false := by
    intro other
    simp [broadcastHotPlugToRemote, other] at h
  have start := Wrote.put notice.type.toInt32 {}
  simp only [broadcastHotPlugToRemote] at h
  rw [if_neg isKeyboard] at h
  cases type : notice.type with
  | plug =>
    rw [type] at start
    simp only [type] at h ⊢
    cases known : getDevice notice.deviceId with
    | none => simp [known] at h
    | some device =>
      simp only [known] at h
      split_ifs at h with ok
      obtain rfl := Option.some.inj h
      obtain ⟨status, wrote⟩ := encodes_serializeDevice device _ ok
      have written := ((start.trans wrote).run status).2.1
      refine ⟨rfl, device, rfl, ?_⟩
      dsimp only
      rw [written]
      rfl
  | unplug =>
    rw [type] at start
    simp only [type] at h ⊢
    split_ifs at h with error
    obtain rfl := Option.some.inj h
    exact ⟨rfl, ((start.andPut notice.deviceId).run (by simpa using error)).2.1⟩
  | other value =>
    rw [type] at start
    simp only [type] at h ⊢
    obtain rfl := Option.some.inj h
    have room : StreamBuffer.wPos {} + (image value).length ≤ Ipc.MAX_STREAM_BUF_SIZE := by
      rw [TriviallyCopyable.length_image]
      decide
    have fits := StreamBuffer.write_of_fits rfl (image_ne_nil value) room
    refine ⟨rfl, (start.run ?_).2.1⟩
    change (StreamBuffer.write (image value) {}).2.rwErrorStatus = .ok
    rw [fits]
    rfl

end InputDeviceMgr

namespace DSoftbusWire

variable {b : StreamBuffer} {device : Device}

/-- The record of a transmissible device is read as it was written, up to where it ends. -/
theorem deserializeDevice_front {rest : List (List UInt8)} (transmissible : device.Transmissible)
    (h : Holds b (device.fields ++ rest).flatten) :
    ∃ b', deserializeDevice b = (some device, b') ∧ Holds b' rest.flatten := by
  have nulFree := transmissible.nulFree
  obtain ⟨b, id_eq, h⟩ := get_front h 0
  obtain ⟨b, devPath_eq, h⟩ := getString_front h (nulFree _ (by simp [Device.strings])) []
  obtain ⟨b, sysPath_eq, h⟩ :=
    getString_front h (nulFree _ (by simp [Device.strings])) device.devPath
  obtain ⟨b, bus_eq, h⟩ := get_front h device.id
  obtain ⟨b, vendor_eq, h⟩ := get_front h device.bus
  obtain ⟨b, product_eq, h⟩ := get_front h device.vendor
  obtain ⟨b, version_eq, h⟩ := get_front h device.product
  obtain ⟨b, name_eq, h⟩ := getString_front h (nulFree _ (by simp [Device.strings])) device.sysPath
  obtain ⟨b, phys_eq, h⟩ := getString_front h (nulFree _ (by simp [Device.strings])) device.name
  obtain ⟨b, uniq_eq, h⟩ := getString_front h (nulFree _ (by simp [Device.strings])) device.phys
  obtain ⟨b, isPointerDevice_eq, h⟩ := get_front h false
  obtain ⟨b, isKeyboard_eq, h⟩ := get_front h false
  obtain ⟨b, keyboardType_eq, h⟩ := get_front h 0
  refine ⟨b, ?_, h⟩
  simp only [deserializeDevice, id_eq, devPath_eq, sysPath_eq, bus_eq, vendor_eq, product_eq,
    version_eq, name_eq, phys_eq, uniq_eq, isPointerDevice_eq, isKeyboard_eq, keyboardType_eq,
    h.chkRWError, Bool.false_eq_true, if_false, Device.setKeyboardType,
    transmissible.keyboardType, and_self, if_true]

theorem deserializeDevice_eq (transmissible : device.Transmissible)
    (h : Holds b device.fields.flatten) : (deserializeDevice b).1 = some device := by
  rw [← List.append_nil device.fields] at h
  obtain ⟨b', read, -⟩ := deserializeDevice_front transmissible h
  rw [read]

/-- A packet that ends with the id holds no device. -/
theorem deserializeDevice_of_ended (h : (b.get (0 : Int32)).2.rPos = (b.get (0 : Int32)).2.wPos) :
    (deserializeDevice b).1 = none := by
  have failed := StreamBuffer.chkRWError_getString_of_empty h []
  simp only [deserializeDevice]
  rw [if_pos]
  iterate 3 apply StreamBuffer.chkRWError_get
  iterate 3 apply StreamBuffer.chkRWError_getString
  iterate 4 apply StreamBuffer.chkRWError_get
  exact StreamBuffer.chkRWError_getString failed _

/-- Whatever is read as a device is one that can be transmitted. -/
theorem transmissible_deserializeDevice (h : (deserializeDevice b).1 = some device) :
    device.Transmissible := by
  simp only [deserializeDevice] at h
  split_ifs at h
  obtain rfl := Option.some.inj h
  constructor
  · intro s mem
    rw [Device.strings_setKeyboardType] at mem
    simp only [Device.strings, List.mem_cons, List.not_mem_nil, or_false] at mem
    have devPath := nulFree_getString (b.get (0 : Int32)).2 List.not_mem_nil
    have sysPath := nulFree_getString ((b.get (0 : Int32)).2.getString []).2 devPath
    rcases mem with here | here | here | here | here <;> rw [here]
    · exact devPath
    · exact sysPath
    · exact nulFree_getString _ sysPath
    · exact nulFree_getString _ (nulFree_getString _ sysPath)
    · exact nulFree_getString _ (nulFree_getString _ (nulFree_getString _ sysPath))
  · have none : 0 ≤ (0 : Int32) ∧ (0 : Int32) < KEYBOARD_TYPE_MAX := by decide
    exact Device.keyboardType_setKeyboardType _ none

/-- The event of a broadcast is one for the peer's own empty id. -/
theorem onRemoteHotPlug_eq (networkId : NetworkId) (b : StreamBuffer) :
    onRemoteHotPlug networkId b =
      (deserializeDevice (b.get (0 : Int32)).2).1.map fun device =>
        .dsoftbusInputDevHotPlug
          { networkId := [], type := .ofInt32 (b.get (0 : Int32)).1, device } := by
  unfold onRemoteHotPlug
  generalize b.get (0 : Int32) = read
  obtain ⟨type, packet⟩ := read
  dsimp only
  generalize deserializeDevice packet = result
  rcases result with ⟨_ | device, packet⟩ <;> rfl

/-- A packet with a type and an id, or only a type, is given up. -/
theorem onRemoteHotPlug_of_short (networkId : NetworkId)
    (h : (deserializeDevice (b.get (0 : Int32)).2).1 = none) :
    onRemoteHotPlug networkId b = none := by
  rw [onRemoteHotPlug_eq, h, Option.map_none]

end DSoftbusWire

namespace InputDeviceMgr

variable {getDevice : Int32 → Option Device} {notice : InputHotplugEvent}
  {sent received : NetPacket}

/-- The event that a broadcast becomes on a peer: none, unless a device is plugged in. -/
theorem onRemoteHotPlug_of_broadcast (networkId : NetworkId) (type : notice.type ≠ .plug)
    (h : broadcastHotPlugToRemote getDevice notice = some sent)
    (delivered : received.Holds sent.written) :
    DSoftbusWire.onRemoteHotPlug networkId received.toStreamBuffer = none := by
  obtain ⟨-, written⟩ := broadcast_eq_some h
  apply DSoftbusWire.onRemoteHotPlug_of_short
  apply DSoftbusWire.deserializeDevice_of_ended
  cases kind : notice.type with
  | plug => exact absurd kind type
  | unplug =>
    simp only [kind] at written
    rw [written] at delivered
    obtain ⟨-, onlyId⟩ := delivered.get (0 : Int32)
    rw [← List.append_nil (image notice.deviceId)] at onlyId
    obtain ⟨-, nothing⟩ := onlyId.get (0 : Int32)
    exact (@Holds.offers _ [] nothing).ended rfl
  | other value =>
    simp only [kind] at written
    rw [written, ← List.append_nil (image _)] at delivered
    obtain ⟨-, nothing⟩ := delivered.get (0 : Int32)
    have ended := (@Holds.offers _ [] nothing).ended rfl
    rw [StreamBuffer.snd_get]
    exact (StreamBuffer.read_of_empty ended (StreamBuffer.FitsMemcpy.sizeof_le (T := Int32))).2.2

/-- For a device that is plugged in, the peer gets the device record that can be told from its
bytes, but not whose it is. -/
theorem onRemoteHotPlug_of_plug (networkId : NetworkId) {device : Device}
    (written : sent.written = image InputHotplugType.plug.toInt32 ++ device.fields.flatten)
    (transmissible : device.Transmissible) (delivered : received.Holds sent.written) :
    DSoftbusWire.onRemoteHotPlug networkId received.toStreamBuffer =
      some (.dsoftbusInputDevHotPlug { networkId := [], type := .plug, device }) := by
  rw [written] at delivered
  obtain ⟨type, rest⟩ := delivered.get (0 : Int32)
  rw [DSoftbusWire.onRemoteHotPlug_eq, type, DSoftbusWire.deserializeDevice_eq transmissible rest]
  rfl

/-- A broadcast tells a peer what it should exactly when a device is plugged in whose record
can be told from its bytes, by a device with the empty id. -/
theorem announces_iff (networkId : NetworkId)
    (h : broadcastHotPlugToRemote getDevice notice = some sent)
    (sameId : received.msgId = sent.msgId) (delivered : received.Holds sent.written) :
    (∃ event, DSoftbusWire.onPacket networkId received = some (.dsoftbusInputDevHotPlug event) ∧
        Announces networkId getDevice notice event) ↔
      notice.type = .plug ∧ networkId = [] ∧
        ∃ device, getDevice notice.deviceId = some device ∧ device.id = notice.deviceId ∧
          device.Transmissible := by
  obtain ⟨id, written⟩ := broadcast_eq_some h
  have handled : DSoftbusWire.handles received.msgId = some DSoftbusWire.onRemoteHotPlug := by
    rw [sameId, id]
    rfl
  rw [DSoftbusWire.onPacket_of_handles networkId handled]
  constructor
  · rintro ⟨event, decoded, announces⟩
    have type : notice.type = .plug := by
      by_contra other
      rw [onRemoteHotPlug_of_broadcast networkId other h delivered] at decoded
      cases decoded
    rw [DSoftbusWire.onRemoteHotPlug_eq] at decoded
    obtain ⟨device, read, made⟩ := Option.map_eq_some_iff.mp decoded
    obtain rfl := CooperateEvent.dsoftbusInputDevHotPlug.inj made
    exact ⟨type, announces.networkId.symm, device, announces.device type, announces.deviceId,
      DSoftbusWire.transmissible_deserializeDevice read⟩
  · rintro ⟨type, rfl, device, known, sameDevice, transmissible⟩
    simp only [type] at written
    obtain ⟨written_device, alsoKnown, written⟩ := written
    obtain rfl : device = written_device := by
      rw [known] at alsoKnown
      exact Option.some.inj alsoKnown
    exact ⟨_, onRemoteHotPlug_of_plug [] written transmissible delivered,
      ⟨type.symm, sameDevice, fun _ => known, rfl⟩⟩

/-- A keyboard, as the device manager has it. -/
def keyboard : Device :=
  { Device.invalid with
    id := 3, devPath := [101], sysPath := [115], bus := 3, vendor := 5, product := 7,
    version := 1, name := [107], isKeyboard := true, keyboardType := 2 }

theorem announces_keyboard :
    ∃ sent ∈ broadcastHotPlugToRemote (fun _ => some keyboard)
        { deviceId := 3, type := .plug, isKeyboard := true },
      ∃ event, DSoftbusWire.onPacket [] (NetPacket.fill sent.msgId sent.written).2 =
          some (.dsoftbusInputDevHotPlug event) ∧
        Announces [] (fun _ => some keyboard)
          { deviceId := 3, type := .plug, isKeyboard := true } event := by
  have built : (broadcastHotPlugToRemote (fun _ => some keyboard)
      { deviceId := 3, type := .plug, isKeyboard := true }).isSome := by decide +kernel
  obtain ⟨sent, h⟩ := Option.isSome_iff_exists.mp built
  have small : sent.written.length ≤ Ipc.MAX_PACKET_BUF_SIZE := by
    obtain ⟨-, device, known, written⟩ := broadcast_eq_some h
    obtain rfl := Option.some.inj known
    rw [written]
    decide
  have sameId : (NetPacket.fill sent.msgId sent.written).2.msgId = sent.msgId :=
    congrArg Ipc.Packet.msgId (NetPacket.fill_of_le sent.msgId small).2
  refine ⟨sent, h, (announces_iff [] h sameId (holds_fill sent.msgId small)).mpr
    ⟨rfl, rfl, keyboard, rfl, rfl, ?_, by decide⟩⟩
  simp [Device.strings, keyboard, Device.invalid]

/-- The peers never hear that keyboard 3 has been unplugged. -/
theorem unplug_not_announced :
    ¬ ∀ (getDevice : Int32 → Option Device) (notice : InputHotplugEvent)
      (sent received : NetPacket) (networkId : NetworkId),
      broadcastHotPlugToRemote getDevice notice = some sent → received.msgId = sent.msgId →
      received.Holds sent.written →
      ∃ event, DSoftbusWire.onPacket networkId received = some (.dsoftbusInputDevHotPlug event) ∧
        Announces networkId getDevice notice event := by
  intro announced
  have built : (broadcastHotPlugToRemote (fun _ => none)
      { deviceId := 3, type := .unplug, isKeyboard := true }).isSome := by decide +kernel
  obtain ⟨sent, h⟩ := Option.isSome_iff_exists.mp built
  obtain ⟨id, written⟩ := broadcast_eq_some h
  have small : sent.written.length ≤ Ipc.MAX_PACKET_BUF_SIZE := by
    rw [written]
    decide
  have sameId : (NetPacket.fill sent.msgId sent.written).2.msgId = sent.msgId :=
    congrArg Ipc.Packet.msgId (NetPacket.fill_of_le sent.msgId small).2
  have handled : DSoftbusWire.handles (NetPacket.fill sent.msgId sent.written).2.msgId =
      some DSoftbusWire.onRemoteHotPlug := by
    rw [sameId, id]
    rfl
  have holds := holds_fill sent.msgId small
  obtain ⟨event, decoded, -⟩ := announced _ _ sent _ [65] h sameId holds
  have unplug : InputHotplugType.unplug ≠ .plug := by decide
  rw [DSoftbusWire.onPacket_of_handles [65] handled,
    onRemoteHotPlug_of_broadcast [65] unplug h holds] at decoded
  cases decoded

end InputDeviceMgr

end DeviceStatus.Cooperation
