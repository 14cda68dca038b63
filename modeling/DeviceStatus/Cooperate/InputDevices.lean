import DeviceStatus.Cooperate.Events
import DeviceStatus.Library.Transition
import Mathlib.Data.Finset.Basic
import Mathlib.Data.List.Sort
import Mathlib.Logic.Function.Basic

/-!
# Input devices of the peers

The tables of `InputDeviceMgr`: the devices that each peer has told of, the virtual devices
that have been made for each peer, and, for all peers together, the virtual device of a remote
device id. The input service makes and removes the virtual devices.

## Main definitions

* `InputService` — the input service, as far as virtual devices go.
* `InputDeviceMgr` — the tables, and beside them the virtual devices that there are.
* `InputDeviceMgr.next` — what a call makes of them.
-/

namespace DeviceStatus.Cooperation

open Function (update)

def MAX_INPUT_DEV_PER_DEVICE : Nat := 10

/-- `VIRTUAL_TRACK_PAD_NAME`, which is `VirtualTrackpad`. -/
def VIRTUAL_TRACK_PAD_NAME : StdString :=
  [86, 105, 114, 116, 117, 97, 108, 84, 114, 97, 99, 107, 112, 97, 100]

/-- The fields of an `MMI::InputDevice` that are filled in. -/
structure VirtualInputDevice where
  id : Int32
  name : StdString
  bus : Int32
  version : Int32
  product : Int32
  vendor : Int32
  phys : StdString
  uniq : StdString
  keyboard : Bool
  pointer : Bool

/-- `std::to_string` of a number. -/
def toStdString (n : Int32) : StdString := (toString n.toInt).toUTF8.toList

/-- `Transform`. -/
def Device.transform (device : Device) : VirtualInputDevice where
  id := device.id
  name := device.name ++ toStdString device.id
  bus := device.bus
  version := device.version
  product := device.product
  vendor := device.vendor
  phys := device.phys
  uniq := device.uniq
  keyboard := device.isKeyboard || device.name = VIRTUAL_TRACK_PAD_NAME
  pointer := device.isPointerDevice || device.name = VIRTUAL_TRACK_PAD_NAME

/-- The input service at its `n`-th call. It makes a virtual device under an id that is not in
use, or it fails; removing a virtual device succeeds. -/
structure InputService where
  addVirtualInputDevice (n : ℕ) (inUse : List Int32) (device : VirtualInputDevice) : Option Int32
  removeVirtualInputDevice (n : ℕ) (virtualDeviceId : Int32) : Int32
  fresh : ∀ n inUse device virtualDeviceId,
    addVirtualInputDevice n inUse device = some virtualDeviceId → virtualDeviceId ∉ inUse
  removed : ∀ n virtualDeviceId, removeVirtualInputDevice n virtualDeviceId = RET_OK

/-- A virtual device of the input service, and the peer and the device it was made for. -/
structure VirtualDevice where
  id : Int32
  networkId : NetworkId
  remoteId : Int32
  deriving DecidableEq

structure InputDeviceMgr where
  /-- the devices of a peer in the order of their ids -/
  remoteDevices : NetworkId → Option (List Device) := fun _ => none
  virtualInputDevicesAdded : NetworkId → Option (Finset Int32) := fun _ => none
  remote2VirtualIds : Int32 → Option Int32 := fun _ => none
  /-- the tables that have been sent to the cooperation thread, the last one first -/
  sent : List (Int32 → Option Int32) := []
  /-- the virtual devices of the input service -/
  virtualDevices : List VirtualDevice := []
  /-- how many calls the input service has had -/
  calls : ℕ := 0

namespace InputDeviceMgr

variable (input : InputService)

/-- `remoteDevices_[networkId]`, as it is read. -/
def devicesOf (networkId : NetworkId) (m : InputDeviceMgr) : List Device :=
  (m.remoteDevices networkId).getD []

/-- `virtualInputDevicesAdded_[networkId]`, as it is read. -/
def added (networkId : NetworkId) (m : InputDeviceMgr) : Finset Int32 :=
  (m.virtualInputDevicesAdded networkId).getD ∅

/-- `operator[]` makes an entry for a peer that has none. -/
def touchRemoteDevices (networkId : NetworkId) (m : InputDeviceMgr) : InputDeviceMgr :=
  { m with remoteDevices := update m.remoteDevices networkId (some (m.devicesOf networkId)) }

/-- `insert` to a set of devices that is ordered by their ids. -/
def insertDevice (device : Device) (devices : List Device) : List Device :=
  if devices.any (·.id = device.id) then devices
  else devices.orderedInsert (fun one other => one.id ≤ other.id) device

def addRemoteInputDevice (networkId : NetworkId) (device : Device) (m : InputDeviceMgr) :
    InputDeviceMgr :=
  if (m.remoteDevices networkId).isSome ∧
      MAX_INPUT_DEV_PER_DEVICE ≤ (m.devicesOf networkId).length then m
  else
    { m with
      remoteDevices :=
        update m.remoteDevices networkId (some (insertDevice device (m.devicesOf networkId))) }

def onRemoteInputDevice (notice : DSoftbusSyncInputDevice) (m : InputDeviceMgr) :
    InputDeviceMgr :=
  notice.devices.foldl (fun m device => addRemoteInputDevice notice.networkId device m) m

def getRemoteDeviceById (networkId : NetworkId) (remoteDeviceId : Int32) (m : InputDeviceMgr) :
    Option Device :=
  match m.remoteDevices networkId with
  | none => none
  | some devices => devices.find? (·.id = remoteDeviceId)

/-- The tables, and the input service, with one virtual device more. -/
def enter (x : VirtualDevice) (m : InputDeviceMgr) : InputDeviceMgr :=
  { m with
    virtualDevices := x :: m.virtualDevices
    virtualInputDevicesAdded :=
      update m.virtualInputDevicesAdded x.networkId (some (insert x.id (m.added x.networkId)))
    remote2VirtualIds := update m.remote2VirtualIds x.remoteId (some x.id) }

/-- The tables, and the input service, with one virtual device less, where it is looked for
under the peer and the device id of `x`. -/
def clear (x : VirtualDevice) (m : InputDeviceMgr) : InputDeviceMgr :=
  { m with
    virtualDevices := m.virtualDevices.filter (·.id ≠ x.id)
    virtualInputDevicesAdded :=
      update m.virtualInputDevicesAdded x.networkId (some ((m.added x.networkId).erase x.id))
    remote2VirtualIds := update m.remote2VirtualIds x.remoteId none }

def updateVirtualDeviceIdMap (m : InputDeviceMgr) : InputDeviceMgr :=
  { m with sent := m.remote2VirtualIds :: m.sent }

/-- The private `AddVirtualInputDevice`, of one device. -/
def addVirtualInputDevice (networkId : NetworkId) (remoteDeviceId : Int32)
    (m : InputDeviceMgr) : InputDeviceMgr :=
  if (m.remote2VirtualIds remoteDeviceId).isSome then m
  else
    match m.getRemoteDeviceById networkId remoteDeviceId with
    | none => m
    | some device =>
      let answer := input.addVirtualInputDevice m.calls (m.virtualDevices.map (·.id))
        device.transform
      let m := { m with calls := m.calls + 1 }
      match answer with
      | none => m
      | some virtualDeviceId =>
        updateVirtualDeviceIdMap (enter ⟨virtualDeviceId, networkId, remoteDeviceId⟩ m)

/-- The private `RemoveVirtualInputDevice`, of one device. -/
def removeVirtualInputDevice (networkId : NetworkId) (remoteDeviceId : Int32)
    (m : InputDeviceMgr) : InputDeviceMgr :=
  match m.remote2VirtualIds remoteDeviceId with
  | none => m
  | some virtualDeviceId =>
    let ret := input.removeVirtualInputDevice m.calls virtualDeviceId
    let m := { m with calls := m.calls + 1 }
    if ret ≠ RET_OK then m
    else updateVirtualDeviceIdMap (clear ⟨virtualDeviceId, networkId, remoteDeviceId⟩ m)

/-- The public `AddVirtualInputDevice`, of all devices of a peer. -/
def addVirtualInputDevices (networkId : NetworkId) (m : InputDeviceMgr) : InputDeviceMgr :=
  let m := touchRemoteDevices networkId m
  (m.devicesOf networkId).foldl
    (fun m device => addVirtualInputDevice input networkId device.id m) m

/-- Removing some devices of a peer, one after another. -/
def removeDevices (networkId : NetworkId) (devices : List Device) (m : InputDeviceMgr) :
    InputDeviceMgr :=
  devices.foldl (fun m device => removeVirtualInputDevice input networkId device.id m) m

/-- The public `RemoveVirtualInputDevice`, of all devices of a peer. -/
def removeVirtualInputDevices (networkId : NetworkId) (m : InputDeviceMgr) : InputDeviceMgr :=
  let m := touchRemoteDevices networkId m
  removeDevices input networkId (m.devicesOf networkId) m

/-- `RemoveAllVirtualInputDevice`, which goes through the peers in the order of an unordered
map. -/
def removeAllVirtualInputDevice (order : List NetworkId) (m : InputDeviceMgr) :
    InputDeviceMgr :=
  order.foldl (fun m networkId => removeDevices input networkId (m.devicesOf networkId) m) m

def handleRemoteHotPlug (notice : DSoftbusHotPlugEvent) (m : InputDeviceMgr) : InputDeviceMgr :=
  let remoteDeviceId := notice.device.id
  let m :=
    if notice.type = .unplug then
      if (m.remote2VirtualIds remoteDeviceId).isNone then m
      else removeVirtualInputDevice input notice.networkId remoteDeviceId m
    else m
  if notice.type = .plug then addVirtualInputDevice input notice.networkId remoteDeviceId m
  else m

def removeAllRemoteInputDevice (networkId : NetworkId) (m : InputDeviceMgr) : InputDeviceMgr :=
  let m :=
    if (m.virtualInputDevicesAdded networkId).isSome then
      removeVirtualInputDevices input networkId m
    else m
  if (m.remoteDevices networkId).isNone then m
  else { m with remoteDevices := update m.remoteDevices networkId none }

def onSoftbusSessionClosed (notice : DSoftbusSessionClosed) (m : InputDeviceMgr) :
    InputDeviceMgr :=
  removeAllRemoteInputDevice input notice.networkId m

end InputDeviceMgr

/-- A call of the input device manager. -/
inductive DeviceCall where
  | onRemoteInputDevice (notice : DSoftbusSyncInputDevice)
  | handleRemoteHotPlug (notice : DSoftbusHotPlugEvent)
  | addVirtualInputDevice (networkId : NetworkId)
  | removeVirtualInputDevice (networkId : NetworkId)
  /-- `order` is that of the map of peers, which has none -/
  | removeAllVirtualInputDevice (order : List NetworkId)
  | onSoftbusSessionClosed (notice : DSoftbusSessionClosed)

namespace InputDeviceMgr

variable (input : InputService)

def next (call : DeviceCall) (m : InputDeviceMgr) : InputDeviceMgr :=
  match call with
  | .onRemoteInputDevice notice => onRemoteInputDevice notice m
  | .handleRemoteHotPlug notice => handleRemoteHotPlug input notice m
  | .addVirtualInputDevice networkId => addVirtualInputDevices input networkId m
  | .removeVirtualInputDevice networkId => removeVirtualInputDevices input networkId m
  | .removeAllVirtualInputDevice order => removeAllVirtualInputDevice input order m
  | .onSoftbusSessionClosed notice => onSoftbusSessionClosed input notice m

end InputDeviceMgr

end DeviceStatus.Cooperation
