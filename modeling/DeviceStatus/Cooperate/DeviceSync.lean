import DeviceStatus.Cooperate.HotPlug

/-!
# Sending the list of input devices

When a session is opened each side sends the other its keyboards, pointer devices and virtual
track pads in one packet: their number, then the record of each. The record may not fit any
more, in which case nothing is sent; the reader refuses numbers that are out of its range.

## Main definitions

* `LocalDevice` — a device as it is after `Device::LoadDeviceConfig`.
* `DeviceManager` — what the lists of devices are taken from.
* `InputDeviceMgr.notifyInputDeviceToRemote` — the packet that is sent.
-/

namespace DeviceStatus.Cooperation

open Bytes
open Ipc (StreamBuffer NetPacket)
open Ipc.StreamBuffer (Wrote Holds andThen andThen_eq_true)

def KEYBOARD_TYPE_NONE : Int32 := 0
def KEYBOARD_TYPE_UNKNOWN : Int32 := 1
def KEYBOARD_TYPE_ALPHABETICKEYBOARD : Int32 := 2
def KEYBOARD_TYPE_DIGITALKEYBOARD : Int32 := 3
def KEYBOARD_TYPE_HANDWRITINGPEN : Int32 := 4
def KEYBOARD_TYPE_REMOTECONTROL : Int32 := 5

/-- The keys of the kernel that tell the type of a keyboard, as `TestBit` finds them. -/
structure KeyBits where
  KEY_Q : Bool
  KEY_HOME : Bool
  KEY_KP1 : Bool
  KEY_LEFTCTRL : Bool
  KEY_RIGHTCTRL : Bool
  KEY_F20 : Bool

def BUS_BLUETOOTH : Int32 := 5

namespace Device

def judgeKeyboardType (keys : KeyBits) (device : Device) : Int32 :=
  if keys.KEY_Q then KEYBOARD_TYPE_ALPHABETICKEYBOARD
  else if keys.KEY_HOME ∧ device.bus = BUS_BLUETOOTH then KEYBOARD_TYPE_REMOTECONTROL
  else if keys.KEY_KP1 then KEYBOARD_TYPE_DIGITALKEYBOARD
  else if keys.KEY_LEFTCTRL ∧ keys.KEY_RIGHTCTRL ∧ keys.KEY_F20 then KEYBOARD_TYPE_HANDWRITINGPEN
  else KEYBOARD_TYPE_UNKNOWN

/-- `LoadDeviceConfig`; `read` is the number in the configuration file of the device, if it has
one that can be read. -/
def loadDeviceConfig (read : Option Int32) (keys : KeyBits) (device : Device) : Device :=
  let keyboardType := read.getD KEYBOARD_TYPE_NONE
  { device with
    keyboardType :=
      if device.isKeyboard then
        if keyboardType ≤ KEYBOARD_TYPE_NONE ∨ KEYBOARD_TYPE_MAX ≤ keyboardType then
          device.judgeKeyboardType keys
        else keyboardType
      else KEYBOARD_TYPE_NONE }

theorem keyboardType_loadDeviceConfig (read : Option Int32) (keys : KeyBits) (device : Device) :
    0 ≤ (device.loadDeviceConfig read keys).keyboardType ∧
      (device.loadDeviceConfig read keys).keyboardType < KEYBOARD_TYPE_MAX := by
  have none : (0 : Int32) ≤ KEYBOARD_TYPE_NONE ∧ KEYBOARD_TYPE_NONE < KEYBOARD_TYPE_MAX := by
    decide
  simp only [loadDeviceConfig]
  by_cases isKeyboard : device.isKeyboard = true
  · rw [if_pos isKeyboard]
    split
    · unfold judgeKeyboardType
      split_ifs <;> decide
    · rename_i inRange
      rw [not_or, Int32.not_le, Int32.not_le] at inRange
      exact ⟨Int32.le_of_lt inRange.1, inRange.2⟩
  · rw [if_neg isKeyboard]
    exact none

/-- The name that the driver gives to what is another device's. -/
def distributedInput : StdString := "DistributedInput ".toList.map fun c => UInt8.ofNat c.toNat

def isRemote (device : Device) : Bool := device.name.tails.any distributedInput.isPrefixOf

end Device

/-- A device that the device manager has opened: its keyboard type is one. -/
structure LocalDevice where
  device : Device
  keyboardType : 0 ≤ device.keyboardType ∧ device.keyboardType < KEYBOARD_TYPE_MAX

def LocalDevice.load (read : Option Int32) (keys : KeyBits) (device : Device) : LocalDevice where
  device := device.loadDeviceConfig read keys
  keyboardType := device.keyboardType_loadDeviceConfig read keys

structure DeviceManager where
  devices_ : List LocalDevice := []
  /-- `SpecialInputDeviceParser`: what the configuration says of a name, if anything -/
  specialInputDevice : StdString → Option Bool := fun _ => none
  /-- the ids and names of the virtual track pads of the input service -/
  virTrackPads : List (Int32 × StdString) := []

namespace DeviceManager

variable (dm : DeviceManager)

def isFakePointerDevice (device : Device) : Bool :=
  match dm.specialInputDevice device.name with
  | none => false
  | some isPointerDevice => !isPointerDevice

/-- What `HasKeyboard` and `GetKeyboard` look for. -/
def isLocalKeyboard (device : Device) : Bool :=
  device.isKeyboard && !device.isRemote && device.keyboardType = KEYBOARD_TYPE_ALPHABETICKEYBOARD

/-- What `HasLocalPointerDevice` and `GetPointerDevice` look for. -/
def isLocalPointerDevice (device : Device) : Bool :=
  device.isPointerDevice && !device.isRemote && !dm.isFakePointerDevice device

def hasKeyboard : Bool := dm.devices_.any fun dev => isLocalKeyboard dev.device

def hasLocalPointerDevice : Bool := dm.devices_.any fun dev => dm.isLocalPointerDevice dev.device

def getKeyboard : List Device := (dm.devices_.map (·.device)).filter isLocalKeyboard

def getPointerDevice : List Device :=
  if dm.hasLocalPointerDevice then (dm.devices_.map (·.device)).filter dm.isLocalPointerDevice
  else []

/-- Only the id and the name are filled in, the name as a C string. -/
def getVirTrackPad : List Device :=
  dm.virTrackPads.map fun pad =>
    { Device.invalid with id := pad.1, name := pad.2.takeWhile (· ≠ 0) }

/-- The devices that are selected for sending, in the order in which they are written. -/
def selected : List Device := dm.getKeyboard ++ dm.getPointerDevice ++ dm.getVirTrackPad

end DeviceManager

namespace InputDeviceMgr

/-- One of the loops over devices: it ends at the first one that does not fit. -/
def serializeDevices : List Device → StreamBuffer → Bool × StreamBuffer
  | [], packet => (true, packet)
  | device :: devices, packet => andThen (serializeDevice device packet) (serializeDevices devices)

/-- The packet that goes to `SendPacket`. -/
def notifyInputDeviceToRemote (dm : DeviceManager) : Option NetPacket :=
  let virTrackPads := dm.getVirTrackPad
  if virTrackPads.length = 0 ∧ !dm.hasKeyboard ∧ !dm.hasLocalPointerDevice then none
  else
    let keyboards := dm.getKeyboard
    let pointerDevices := dm.getPointerDevice
    let inputDeviceNum :=
      Int32.ofNat (keyboards.length + pointerDevices.length + virTrackPads.length)
    let packet := StreamBuffer.put inputDeviceNum {}
    let (ok, packet) :=
      andThen (andThen (serializeDevices keyboards packet) (serializeDevices pointerDevices))
        (serializeDevices virTrackPads)
    if ok then some { toStreamBuffer := packet, msgId := DSOFTBUS_INPUT_DEV_SYNC } else none

end InputDeviceMgr

/-! ## Selecting -/

namespace DeviceManager

variable (dm : DeviceManager)

theorem getKeyboard_eq_nil : dm.getKeyboard = [] ↔ dm.hasKeyboard = false := by
  simp [getKeyboard, hasKeyboard, List.filter_eq_nil_iff]

theorem getPointerDevice_eq_nil :
    dm.getPointerDevice = [] ↔ dm.hasLocalPointerDevice = false := by
  unfold getPointerDevice
  split
  · next has =>
    have found := has
    unfold hasLocalPointerDevice at found
    simp only [has, List.filter_eq_nil_iff, List.mem_map, forall_exists_index, and_imp]
    grind
  · next hasNot => simpa using hasNot

/-- `NotifyInputDeviceToRemote` gives up exactly when there is no device to send. -/
theorem selected_eq_nil : dm.selected = [] ↔
    dm.getVirTrackPad.length = 0 ∧ !dm.hasKeyboard ∧ !dm.hasLocalPointerDevice := by
  simp only [selected, List.append_eq_nil_iff, getKeyboard_eq_nil, getPointerDevice_eq_nil,
    List.length_eq_zero_iff, Bool.not_eq_true']
  grind

/-- Everything that is sent has a keyboard type, whatever the configuration files say. -/
theorem keyboardType_selected {device : Device} (h : device ∈ dm.selected) :
    0 ≤ device.keyboardType ∧ device.keyboardType < KEYBOARD_TYPE_MAX := by
  simp only [selected, getKeyboard, getPointerDevice, getVirTrackPad, List.mem_append] at h
  obtain (keyboard | pointer) | pad := h
  · obtain ⟨⟨dev, -, rfl⟩, -⟩ := by simpa using keyboard
    exact dev.keyboardType
  · split at pointer
    · obtain ⟨⟨dev, -, rfl⟩, -⟩ := by simpa using pointer
      exact dev.keyboardType
    · cases pointer
  · obtain ⟨_, _, -, rfl⟩ := by simpa using pad
    have none : (0 : Int32) ≤ 0 ∧ 0 < KEYBOARD_TYPE_MAX := by decide
    exact none

end DeviceManager

/-! ## Writing -/

namespace InputDeviceMgr

theorem serializeDevice_eq (device : Device) (packet : StreamBuffer) :
    serializeDevice device packet = (packet.writeAll device.fields).checked := rfl

theorem field_ne_nil {device : Device} {field : List UInt8} (h : field ∈ device.fields) :
    field ≠ [] := by
  simp only [Device.fields, List.mem_cons, List.not_mem_nil, or_false] at h
  rcases h with rfl | rfl | rfl | rfl | rfl | rfl | rfl | rfl | rfl | rfl | rfl | rfl | rfl <;>
    first
    | exact image_ne_nil _
    | simp [DSoftbusPacket.imageString]

/-- The bytes of the records. -/
def records (devices : List Device) : List UInt8 := (devices.flatMap Device.fields).flatten

@[simp] theorem records_cons (device : Device) (devices : List Device) :
    records (device :: devices) = device.fields.flatten ++ records devices := by
  simp [records]

@[simp] theorem records_append (devices devices' : List Device) :
    records (devices ++ devices') = records devices ++ records devices' := by
  simp [records]

theorem serializeDevices_append (devices devices' : List Device) (packet : StreamBuffer) :
    serializeDevices (devices ++ devices') packet =
      andThen (serializeDevices devices packet) (serializeDevices devices') := by
  induction devices generalizing packet with
  | nil => simp [serializeDevices, andThen]
  | cons device devices ih =>
    rw [List.cons_append, serializeDevices, serializeDevices, Ipc.StreamBuffer.andThen_assoc]
    congr 1
    funext packet
    exact ih packet

/-- A loop that comes to its end has written every record. -/
theorem wrote_serializeDevices {devices : List Device} {packet : StreamBuffer}
    (status : packet.rwErrorStatus = .ok) (ok : (serializeDevices devices packet).1 = true) :
    (serializeDevices devices packet).2.rwErrorStatus = .ok ∧
      Wrote packet (records devices) (serializeDevices devices packet).2 := by
  induction devices generalizing packet with
  | nil => exact ⟨status, .refl packet⟩
  | cons device devices ih =>
    obtain ⟨first, step⟩ := andThen_eq_true ok
    obtain ⟨status₁, wrote₁⟩ := encodes_serializeDevice device packet first
    rw [serializeDevices, step] at ok ⊢
    obtain ⟨status₂, wrote₂⟩ := ih status₁ ok
    exact ⟨status₂, by rw [records_cons]; exact wrote₁.trans wrote₂⟩

/-- The loop comes to its end exactly when the records fit. -/
theorem serializeDevices_eq_true {devices : List Device} {packet : StreamBuffer}
    (status : packet.rwErrorStatus = .ok) (ordered : packet.Ordered) :
    (serializeDevices devices packet).1 = true ↔
      packet.wPos + (records devices).length ≤ Ipc.MAX_STREAM_BUF_SIZE := by
  constructor
  · intro ok
    obtain ⟨status', wrote⟩ := wrote_serializeDevices status ok
    have size := wrote.length_le status'
    have bound := (wrote.ordered ordered).wPos_le
    omega
  · intro fits
    induction devices generalizing packet with
    | nil => rfl
    | cons device devices ih =>
      rw [records_cons, List.length_append] at fits
      have written : (packet.writeAll device.fields).rwErrorStatus = .ok :=
        StreamBuffer.status_writeAll status (fun _ => field_ne_nil) (by omega)
      have wrote := Wrote.writeAll device.fields packet
      have first : serializeDevice device packet = (true, packet.writeAll device.fields) := by
        rw [serializeDevice_eq, StreamBuffer.checked, StreamBuffer.chkRWError_eq_false.mpr written]
        rfl
      rw [serializeDevices, Ipc.StreamBuffer.andThen_of_true first]
      refine ih written (wrote.ordered ordered) ?_
      rw [wrote.length_le written]
      omega

/-- A record takes 31 bytes even when every string is empty. -/
theorem length_records (devices : List Device) :
    31 * devices.length ≤ (records devices).length := by
  have record (device : Device) : 31 ≤ device.fields.flatten.length := by
    simp only [Device.fields, DSoftbusPacket.imageString, List.flatten_cons, List.flatten_nil,
      List.length_append, TriviallyCopyable.length_image, List.length_nil, List.length_singleton]
    have int32 : sizeof Int32 = 4 := rfl
    have bool : sizeof Bool = 1 := rfl
    omega
  induction devices with
  | nil => exact Nat.zero_le _
  | cons device devices ih =>
    have first := record device
    rw [records_cons, List.length_append, List.length_cons]
    omega

/-- The bytes of the packet: the number of the devices and their records. -/
def listImage (devices : List Device) : List UInt8 :=
  image (Int32.ofNat devices.length) ++ records devices

theorem length_listImage (devices : List Device) :
    (listImage devices).length = 4 + (records devices).length := by
  rw [listImage, List.length_append, TriviallyCopyable.length_image]
  rfl

/-- The three loops are one over the selected devices. -/
theorem notify_eq (dm : DeviceManager) :
    notifyInputDeviceToRemote dm =
      if dm.selected = [] then none
      else
        let sent :=
          serializeDevices dm.selected (StreamBuffer.put (Int32.ofNat dm.selected.length) {})
        if sent.1 then some { toStreamBuffer := sent.2, msgId := DSOFTBUS_INPUT_DEV_SYNC }
        else none := by
  have length : dm.getKeyboard.length + dm.getPointerDevice.length + dm.getVirTrackPad.length =
      dm.selected.length := by
    simp [DeviceManager.selected, Nat.add_assoc]
  simp only [notifyInputDeviceToRemote, length, ← serializeDevices_append,
    dm.selected_eq_nil]
  rfl

theorem status_put_number (devices : List Device) :
    (StreamBuffer.put (Int32.ofNat devices.length) {}).rwErrorStatus = .ok := by
  have fits : ({} : StreamBuffer).wPos + (image (Int32.ofNat devices.length)).length ≤
      Ipc.MAX_STREAM_BUF_SIZE := by
    rw [TriviallyCopyable.length_image]; decide
  rw [StreamBuffer.put, StreamBuffer.write_of_fits rfl (image_ne_nil _) fits]
  rfl

/-- The packet is sent exactly when there is a device and every record fits. -/
theorem notify_eq_some {dm : DeviceManager} (some_ : dm.selected ≠ []) :
    ((listImage dm.selected).length ≤ Ipc.MAX_STREAM_BUF_SIZE →
      ∃ packet, notifyInputDeviceToRemote dm = some packet ∧
        packet.msgId = DSOFTBUS_INPUT_DEV_SYNC ∧ packet.written = listImage dm.selected) ∧
    (Ipc.MAX_STREAM_BUF_SIZE < (listImage dm.selected).length →
      notifyInputDeviceToRemote dm = none) := by
  have status := status_put_number dm.selected
  have start := Wrote.put (Int32.ofNat dm.selected.length) {}
  have fits : (serializeDevices dm.selected _).1 = true ↔ _ :=
    serializeDevices_eq_true status (start.ordered StreamBuffer.ordered_default)
  have size := length_listImage dm.selected
  have wPos : (StreamBuffer.put (Int32.ofNat dm.selected.length) {}).wPos = 4 :=
    start.length_le status
  rw [wPos, ← size] at fits
  rw [notify_eq, if_neg some_]
  dsimp only
  constructor
  · intro room
    obtain ⟨status', wrote⟩ := wrote_serializeDevices status (fits.mpr room)
    rw [if_pos (fits.mpr room)]
    exact ⟨_, rfl, rfl, ((start.trans wrote).run status').2.1⟩
  · intro overflow
    rw [if_neg (fun ok => absurd (fits.mp ok) (by omega))]

end InputDeviceMgr

namespace DSoftbusWire

theorem deserializeDevices_succ (n : Nat) (b : StreamBuffer) :
    deserializeDevices (n + 1) b =
      match deserializeDevice b with
      | (none, _) => none
      | (some device, b') => (deserializeDevices n b').map (device :: ·) := by
  -- the equation holds for any decoder, and that of a device is too large to be evaluated
  delta deserializeDevices deserializeDevices._f
  generalize deserializeDevice = decode
  rfl

/-- The records of transmissible devices are read as they were written, one after another. -/
theorem deserializeDevices_eq {devices : List Device} {b : StreamBuffer}
    (transmissible : ∀ device ∈ devices, device.Transmissible)
    (h : Holds b (devices.flatMap Device.fields).flatten) :
    deserializeDevices devices.length b = some devices := by
  induction devices generalizing b with
  | nil => rfl
  | cons device devices ih =>
    rw [List.flatMap_cons] at h
    obtain ⟨b', read, rest⟩ :=
      deserializeDevice_front (transmissible device List.mem_cons_self) h
    have others := ih (fun other mem => transmissible other (List.mem_cons_of_mem _ mem)) rest
    rw [List.length_cons, deserializeDevices_succ, read]
    simp only [others, Option.map_some]

/-- A list that fits in a packet is shorter than the number that the reader refuses. -/
theorem onRemoteInputDevice_eq (networkId : NetworkId) {devices : List Device} {b : StreamBuffer}
    (some_ : devices ≠ [])
    (fits : (InputDeviceMgr.listImage devices).length ≤ Ipc.MAX_STREAM_BUF_SIZE)
    (transmissible : ∀ device ∈ devices, device.Transmissible)
    (h : Holds b (InputDeviceMgr.listImage devices)) :
    onRemoteInputDevice networkId b = some (.dsoftbusInputDevSync { networkId, devices }) := by
  have bytes := InputDeviceMgr.length_records devices
  rw [InputDeviceMgr.length_listImage, Ipc.MAX_STREAM_BUF_SIZE] at fits
  have positive : 0 < devices.length := List.length_pos_iff.mpr some_
  have number : (Int32.ofNat devices.length).toInt = devices.length :=
    Int32.toInt_ofNat_of_lt (by omega)
  obtain ⟨b', read, rest⟩ := h.get_eq (-1)
  have accepted : ¬ (Int32.ofNat devices.length ≤ 0 ∨
      MAX_INPUT_DEV_NUM ≤ Int32.ofNat devices.length) := by
    rw [Int32.le_iff_toInt_le, Int32.le_iff_toInt_le, number]
    have zero : (0 : Int32).toInt = 0 := rfl
    have max : MAX_INPUT_DEV_NUM.toInt = 100 := rfl
    omega
  have records := deserializeDevices_eq transmissible rest
  simp only [onRemoteInputDevice, read]
  rw [if_neg accepted, number, Int.toNat_natCast, records]
  rfl

end DSoftbusWire

/-! ## The whole way -/

/-- The peer gets the list of the devices that were selected, in their order and with every
field, or the packet is not sent because it does not fit; without a device nothing is sent. -/
theorem deviceList_survives (dm : DeviceManager) (networkId : NetworkId)
    (nulFree : ∀ device ∈ dm.selected, ∀ s ∈ device.strings, 0 ∉ s) :
    (dm.selected = [] → InputDeviceMgr.notifyInputDeviceToRemote dm = none) ∧
    (Ipc.MAX_STREAM_BUF_SIZE < (InputDeviceMgr.listImage dm.selected).length →
      InputDeviceMgr.notifyInputDeviceToRemote dm = none) ∧
    (dm.selected ≠ [] →
      (InputDeviceMgr.listImage dm.selected).length ≤ Ipc.MAX_STREAM_BUF_SIZE →
      ∃ packet, InputDeviceMgr.notifyInputDeviceToRemote dm = some packet ∧
        ∀ received : NetPacket, received.msgId = packet.msgId → received.Holds packet.written →
          DSoftbusWire.onPacket networkId received =
            some (.dsoftbusInputDevSync { networkId, devices := dm.selected })) := by
  have none_ (empty : dm.selected = []) : InputDeviceMgr.notifyInputDeviceToRemote dm = none := by
    rw [InputDeviceMgr.notify_eq, if_pos empty]
  refine ⟨none_, fun overflow => ?_, fun some_ fits => ?_⟩
  · by_cases empty : dm.selected = []
    · exact none_ empty
    · exact (InputDeviceMgr.notify_eq_some empty).2 overflow
  · obtain ⟨packet, sent, msgId, written⟩ := (InputDeviceMgr.notify_eq_some some_).1 fits
    refine ⟨packet, sent, fun received sameId delivered => ?_⟩
    have transmissible : ∀ device ∈ dm.selected, device.Transmissible := fun device h =>
      ⟨nulFree device h, dm.keyboardType_selected h⟩
    rw [written] at delivered
    have handled : DSoftbusWire.handles received.msgId = some DSoftbusWire.onRemoteInputDevice := by
      rw [sameId, msgId]; rfl
    rw [DSoftbusWire.onPacket, handled]
    exact DSoftbusWire.onRemoteInputDevice_eq networkId some_ fits transmissible delivered

/-- Two keyboards, of which one is another device's, a mouse and a virtual track pad. -/
def fourDevices : DeviceManager where
  devices_ :=
    [⟨{ Device.invalid with
          id := 1, name := [75], isKeyboard := true
          keyboardType := KEYBOARD_TYPE_ALPHABETICKEYBOARD }, by decide⟩,
      ⟨{ Device.invalid with
          id := 2, name := Device.distributedInput ++ [75], isKeyboard := true
          keyboardType := KEYBOARD_TYPE_ALPHABETICKEYBOARD }, by decide⟩,
      ⟨{ Device.invalid with id := 3, name := [77], vendor := 5, isPointerDevice := true },
        by decide⟩]
  virTrackPads := [(7, [0x54, 0x50])]

/-- The peer hears of the local keyboard, the mouse and the track pad. -/
theorem deviceList_survives_fourDevices :
    ∃ packet, InputDeviceMgr.notifyInputDeviceToRemote fourDevices = some packet ∧
      ∀ received : NetPacket, received.msgId = packet.msgId → received.Holds packet.written →
        ∃ devices, DSoftbusWire.onPacket [1] received =
            some (.dsoftbusInputDevSync { networkId := [1], devices }) ∧
          devices.map (·.id) = [1, 3, 7] := by
  obtain ⟨packet, sent, heard⟩ :=
    (deviceList_survives fourDevices [1] (by decide +kernel)).2.2 (by decide +kernel)
      (by decide +kernel)
  refine ⟨packet, sent, fun received sameId holds => ⟨_, heard received sameId holds, ?_⟩⟩
  decide +kernel

end DeviceStatus.Cooperation
