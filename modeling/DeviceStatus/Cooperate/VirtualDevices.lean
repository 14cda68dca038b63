import DeviceStatus.Cooperate.InputDevices

/-!
# Virtual devices and the tables about them

The table of remote device ids does not say to which peer a device belongs. As long as no
removal for one peer meets a device id under which the virtual device of another is entered, the
two tables describe the virtual devices that there are, and only those.

## Main definitions

* `InputDeviceMgr.Sound` — the tables against the virtual devices of the input service.
* `InputDeviceMgr.Bookkept`, `InputDeviceMgr.Keeps` — what is expected of a state and of a call.
* `InputDeviceMgr.MeetsOwn` — the calls that remove devices of their own peer only.
-/

namespace DeviceStatus.Cooperation

open Transition.System
open Function (update)

namespace InputDeviceMgr

variable {input : InputService} {m : InputDeviceMgr} {networkId : NetworkId}
  {remoteDeviceId : Int32}

/-- Both tables hold what there is. -/
structure Sound (m : InputDeviceMgr) : Prop where
  entry : ∀ x ∈ m.virtualDevices, m.remote2VirtualIds x.remoteId = some x.id
  member : ∀ x ∈ m.virtualDevices, x.id ∈ m.added x.networkId
  of_entry : ∀ d v, m.remote2VirtualIds d = some v →
    ∃ x ∈ m.virtualDevices, x.remoteId = d ∧ x.id = v
  of_member : ∀ n v, v ∈ m.added n → ∃ x ∈ m.virtualDevices, x.networkId = n ∧ x.id = v
  unique : ∀ x ∈ m.virtualDevices, ∀ y ∈ m.virtualDevices, x.id = y.id → x = y
  known : ∀ x ∈ m.virtualDevices, ∃ device ∈ m.devicesOf x.networkId, device.id = x.remoteId

/-- What the table enters for a remote device id, if anything, is of the peer. -/
def Owned (networkId : NetworkId) (remoteDeviceId : Int32) (m : InputDeviceMgr) : Prop :=
  ∀ v, m.remote2VirtualIds remoteDeviceId = some v → v ∈ m.added networkId

theorem Sound.init : Sound {} where
  entry := by simp
  member := by simp
  of_entry := by simp
  of_member := by simp [added]
  unique := by simp
  known := by simp

/-- The peer and the device id of an entry that is owned are those of a virtual device. -/
theorem Sound.mem_of_owned (sound : m.Sound) (owned : Owned networkId remoteDeviceId m) {v : Int32}
    (entry : m.remote2VirtualIds remoteDeviceId = some v) :
    ⟨v, networkId, remoteDeviceId⟩ ∈ m.virtualDevices := by
  obtain ⟨x, hx, rfl, rfl⟩ := sound.of_entry _ _ entry
  obtain ⟨y, hy, rfl, same⟩ := sound.of_member _ _ (owned _ entry)
  obtain rfl := sound.unique y hy x hx same
  exact hy

theorem Sound.owned_of_mem (sound : m.Sound) {x : VirtualDevice} (hx : x ∈ m.virtualDevices) :
    Owned x.networkId x.remoteId m := by
  intro v entry
  obtain rfl : x.id = v := by simpa [sound.entry x hx] using entry
  exact sound.member x hx

/-! ## Telling of devices -/

theorem mem_insertDevice {device d : Device} {devices : List Device} (h : d ∈ devices) :
    d ∈ insertDevice device devices := by
  unfold insertDevice
  split
  · exact h
  · exact (List.mem_orderedInsert _).mpr (.inr h)

/-- The devices of a peer only grow. -/
theorem devicesOf_addRemoteInputDevice (networkId n : NetworkId) (device : Device)
    (m : InputDeviceMgr) :
    m.devicesOf n ⊆ (addRemoteInputDevice networkId device m).devicesOf n := by
  intro d hd
  unfold addRemoteInputDevice
  split
  · exact hd
  · by_cases same : n = networkId
    · subst same
      simpa [devicesOf] using mem_insertDevice hd
    · simpa [devicesOf, same] using hd

/-- `Sound` is about the tables, not about the devices that are told of later. -/
theorem Sound.of_devicesOf {m' : InputDeviceMgr} (sound : m.Sound)
    (devices : ∀ n, m.devicesOf n ⊆ m'.devicesOf n)
    (virtualDevices : m'.virtualDevices = m.virtualDevices)
    (table : m'.remote2VirtualIds = m.remote2VirtualIds)
    (sets : m'.virtualInputDevicesAdded = m.virtualInputDevicesAdded) : m'.Sound := by
  have added : ∀ n, m'.added n = m.added n := fun n => by rw [InputDeviceMgr.added, sets]; rfl
  constructor
  · simpa [virtualDevices, table] using sound.entry
  · simpa [virtualDevices, added] using sound.member
  · simpa [virtualDevices, table] using sound.of_entry
  · simpa [virtualDevices, added] using sound.of_member
  · simpa [virtualDevices] using sound.unique
  · intro x hx
    rw [virtualDevices] at hx
    obtain ⟨device, mem, same⟩ := sound.known x hx
    exact ⟨device, devices _ mem, same⟩

theorem Sound.addRemoteInputDevice (sound : m.Sound) (networkId : NetworkId) (device : Device) :
    (addRemoteInputDevice networkId device m).Sound := by
  refine sound.of_devicesOf (fun n => devicesOf_addRemoteInputDevice networkId n device m) ?_ ?_ ?_
  all_goals
    unfold InputDeviceMgr.addRemoteInputDevice
    split <;> rfl

theorem Sound.onRemoteInputDevice (sound : m.Sound) (notice : DSoftbusSyncInputDevice) :
    (onRemoteInputDevice notice m).Sound := by
  unfold InputDeviceMgr.onRemoteInputDevice
  induction notice.devices generalizing m with
  | nil => exact sound
  | cons device devices ih => exact ih (sound.addRemoteInputDevice notice.networkId device)

theorem devicesOf_touchRemoteDevices (networkId n : NetworkId) (m : InputDeviceMgr) :
    (touchRemoteDevices networkId m).devicesOf n = m.devicesOf n := by
  by_cases same : n = networkId
  · subst same
    simp [touchRemoteDevices, devicesOf]
  · simp [touchRemoteDevices, devicesOf, same]

theorem Sound.touchRemoteDevices (sound : m.Sound) (networkId : NetworkId) :
    (touchRemoteDevices networkId m).Sound :=
  sound.of_devicesOf (fun n => by rw [devicesOf_touchRemoteDevices]; exact List.Subset.refl _)
    rfl rfl rfl

/-! ## Making virtual devices -/

theorem mem_devicesOf_of_getRemoteDeviceById {device : Device}
    (h : m.getRemoteDeviceById networkId remoteDeviceId = some device) :
    device ∈ m.devicesOf networkId ∧ device.id = remoteDeviceId := by
  unfold getRemoteDeviceById at h
  split at h
  · cases h
  · next devices entry =>
    rw [devicesOf, entry, Option.getD_some]
    exact ⟨List.mem_of_find?_eq_some h, by simpa using List.find?_some h⟩

theorem added_enter (x : VirtualDevice) (n : NetworkId) (m : InputDeviceMgr) :
    (enter x m).added n = if n = x.networkId then insert x.id (m.added n) else m.added n := by
  by_cases same : n = x.networkId
  · subst same
    simp [enter, added]
  · simp [enter, added, same]

/-- A new virtual device is entered under an id that is not in use, for a device id without an
entry. -/
theorem Sound.enter {x : VirtualDevice} (sound : m.Sound)
    (fresh : x.id ∉ m.virtualDevices.map (·.id)) (free : m.remote2VirtualIds x.remoteId = none)
    (told : ∃ device ∈ m.devicesOf x.networkId, device.id = x.remoteId) : (enter x m).Sound := by
  have other : ∀ y ∈ m.virtualDevices, y.id ≠ x.id ∧ y.remoteId ≠ x.remoteId := by
    intro y hy
    have entry := sound.entry y hy
    constructor
    · intro same
      exact fresh (List.mem_map.mpr ⟨y, hy, same⟩)
    · intro same
      rw [same, free] at entry
      cases entry
  have sets := fun n => added_enter x n m
  constructor
  · intro y hy
    obtain rfl | hy := List.mem_cons.mp hy
    · simp [InputDeviceMgr.enter]
    · simpa [InputDeviceMgr.enter, (other y hy).2] using sound.entry y hy
  · intro y hy
    rw [sets]
    obtain rfl | hy := List.mem_cons.mp hy
    · simp
    · have := sound.member y hy
      split
      · exact Finset.mem_insert_of_mem this
      · exact this
  · intro d v entry
    by_cases same : d = x.remoteId
    · subst same
      obtain rfl : x.id = v := by simpa [InputDeviceMgr.enter] using entry
      exact ⟨x, List.mem_cons_self, rfl, rfl⟩
    · obtain ⟨y, hy, is⟩ := sound.of_entry d v (by
        simpa [InputDeviceMgr.enter, same] using entry)
      exact ⟨y, List.mem_cons_of_mem x hy, is⟩
  · intro n v hv
    have old : v ∈ m.added n → ∃ y ∈ x :: m.virtualDevices, y.networkId = n ∧ y.id = v := by
      intro hv
      obtain ⟨y, hy, is⟩ := sound.of_member n v hv
      exact ⟨y, List.mem_cons_of_mem x hy, is⟩
    rw [sets] at hv
    split at hv
    · next same =>
      obtain rfl | hv := Finset.mem_insert.mp hv
      · exact ⟨x, List.mem_cons_self, same.symm, rfl⟩
      · exact old hv
    · exact old hv
  · intro y hy z hz same
    obtain newY | oldY := List.mem_cons.mp hy <;> obtain newZ | oldZ := List.mem_cons.mp hz
    · rw [newY, newZ]
    · exact absurd (newY ▸ same.symm) (other z oldZ).1
    · exact absurd (newZ ▸ same) (other y oldY).1
    · exact sound.unique y oldY z oldZ same
  · intro y hy
    obtain rfl | hy := List.mem_cons.mp hy
    · exact told
    · exact sound.known y hy

/-- Neither a call of the input service nor a message to the cooperation thread changes them. -/
theorem Sound.updateVirtualDeviceIdMap (sound : m.Sound) : (updateVirtualDeviceIdMap m).Sound :=
  sound.of_devicesOf (fun _ => List.Subset.refl _) rfl rfl rfl

theorem Sound.called (sound : m.Sound) (calls : ℕ) : Sound { m with calls } :=
  sound.of_devicesOf (fun _ => List.Subset.refl _) rfl rfl rfl

theorem Sound.addVirtualInputDevice (sound : m.Sound) (networkId : NetworkId)
    (remoteDeviceId : Int32) : (addVirtualInputDevice input networkId remoteDeviceId m).Sound := by
  unfold InputDeviceMgr.addVirtualInputDevice
  split
  · exact sound
  · next free =>
    cases told : m.getRemoteDeviceById networkId remoteDeviceId with
    | none => exact sound
    | some device =>
      dsimp only
      cases answer : input.addVirtualInputDevice m.calls (m.virtualDevices.map (·.id))
          device.transform with
      | none => exact sound.called (m.calls + 1)
      | some v =>
        apply Sound.updateVirtualDeviceIdMap
        refine (sound.called (m.calls + 1)).enter (input.fresh _ _ _ _ answer) ?_ ?_
        · simpa using free
        · exact ⟨device, mem_devicesOf_of_getRemoteDeviceById told⟩

theorem Sound.addVirtualInputDevices (sound : m.Sound) (networkId : NetworkId) :
    (addVirtualInputDevices input networkId m).Sound := by
  unfold InputDeviceMgr.addVirtualInputDevices
  dsimp only
  have sound := sound.touchRemoteDevices networkId
  generalize (InputDeviceMgr.touchRemoteDevices networkId m).devicesOf networkId = devices
  generalize InputDeviceMgr.touchRemoteDevices networkId m = m at sound
  induction devices generalizing m with
  | nil => exact sound
  | cons device devices ih => exact ih _ (sound.addVirtualInputDevice networkId device.id)

/-! ## Removing virtual devices -/

theorem removeVirtualInputDevice_of_none (networkId : NetworkId)
    (h : m.remote2VirtualIds remoteDeviceId = none) :
    removeVirtualInputDevice input networkId remoteDeviceId m = m := by
  rw [removeVirtualInputDevice, h]

theorem removeVirtualInputDevice_of_some (networkId : NetworkId) {v : Int32}
    (h : m.remote2VirtualIds remoteDeviceId = some v) :
    removeVirtualInputDevice input networkId remoteDeviceId m =
      updateVirtualDeviceIdMap
        (clear ⟨v, networkId, remoteDeviceId⟩ { m with calls := m.calls + 1 }) := by
  rw [removeVirtualInputDevice, h]
  simp [input.removed]

theorem added_clear (x : VirtualDevice) (n : NetworkId) (m : InputDeviceMgr) :
    (clear x m).added n = if n = x.networkId then (m.added n).erase x.id else m.added n := by
  by_cases same : n = x.networkId
  · subst same
    simp [clear, added]
  · simp [clear, added, same]

/-- Clearing a virtual device under the peer and the device id it was made for. -/
theorem Sound.clear {x : VirtualDevice} (sound : m.Sound) (hx : x ∈ m.virtualDevices) :
    (clear x m).Sound := by
  have left : ∀ {y}, y ∈ (InputDeviceMgr.clear x m).virtualDevices ↔
      y ∈ m.virtualDevices ∧ y.id ≠ x.id := by simp [InputDeviceMgr.clear]
  have sets := fun n => added_clear x n m
  constructor
  · intro y hy
    obtain ⟨hy, other⟩ := left.mp hy
    have entry := sound.entry y hy
    have different : y.remoteId ≠ x.remoteId := by
      intro same
      rw [same, sound.entry x hx] at entry
      exact other (Option.some.inj entry).symm
    simpa [InputDeviceMgr.clear, different] using entry
  · intro y hy
    obtain ⟨hy, other⟩ := left.mp hy
    have := sound.member y hy
    rw [sets]
    split
    · exact Finset.mem_erase.mpr ⟨other, this⟩
    · exact this
  · intro d v entry
    have different : d ≠ x.remoteId := by
      rintro rfl
      simp [InputDeviceMgr.clear] at entry
    obtain ⟨y, hy, rfl, rfl⟩ := sound.of_entry d v (by
      simpa [InputDeviceMgr.clear, different] using entry)
    refine ⟨y, left.mpr ⟨hy, fun same => ?_⟩, rfl, rfl⟩
    exact different (congrArg VirtualDevice.remoteId (sound.unique y hy x hx same))
  · intro n v hv
    rw [sets] at hv
    split at hv
    · obtain ⟨other, hv⟩ := Finset.mem_erase.mp hv
      obtain ⟨y, hy, rfl, rfl⟩ := sound.of_member n v hv
      exact ⟨y, left.mpr ⟨hy, other⟩, rfl, rfl⟩
    · next different =>
      obtain ⟨y, hy, rfl, rfl⟩ := sound.of_member n v hv
      refine ⟨y, left.mpr ⟨hy, fun same => ?_⟩, rfl, rfl⟩
      exact different (congrArg VirtualDevice.networkId (sound.unique y hy x hx same))
  · intro y hy z hz
    exact sound.unique y (left.mp hy).1 z (left.mp hz).1
  · intro y hy
    exact sound.known y (left.mp hy).1

theorem Sound.removeVirtualInputDevice (sound : m.Sound)
    (owned : Owned networkId remoteDeviceId m) :
    (removeVirtualInputDevice input networkId remoteDeviceId m).Sound := by
  cases entry : m.remote2VirtualIds remoteDeviceId with
  | none => rwa [removeVirtualInputDevice_of_none networkId entry]
  | some v =>
    rw [removeVirtualInputDevice_of_some networkId entry]
    apply Sound.updateVirtualDeviceIdMap
    exact (sound.called (m.calls + 1)).clear (sound.mem_of_owned owned entry)

/-- Removing takes away the virtual device of the peer and the device id, and no other. -/
theorem Sound.mem_removeVirtualInputDevice (sound : m.Sound)
    (owned : Owned networkId remoteDeviceId m) (x : VirtualDevice) :
    x ∈ (InputDeviceMgr.removeVirtualInputDevice input networkId remoteDeviceId
        m).virtualDevices ↔
      x ∈ m.virtualDevices ∧ ¬ (x.networkId = networkId ∧ x.remoteId = remoteDeviceId) := by
  cases entry : m.remote2VirtualIds remoteDeviceId with
  | none =>
    rw [removeVirtualInputDevice_of_none networkId entry]
    refine ⟨fun hx => ⟨hx, fun same => ?_⟩, And.left⟩
    have := sound.entry x hx
    rw [same.2, entry] at this
    cases this
  | some v =>
    rw [removeVirtualInputDevice_of_some networkId entry]
    have here := sound.mem_of_owned owned entry
    simp only [InputDeviceMgr.updateVirtualDeviceIdMap, InputDeviceMgr.clear, ne_eq,
      decide_not, List.mem_filter, Bool.not_eq_true', decide_eq_false_iff_not]
    refine and_congr_right fun hx => not_congr ⟨fun same => ?_, fun same => ?_⟩
    · rw [sound.unique x hx _ here same]
      exact ⟨rfl, rfl⟩
    · have known := sound.entry x hx
      rw [same.2, entry] at known
      exact (Option.some.inj known).symm

theorem table_removeVirtualInputDevice (input : InputService) (networkId : NetworkId)
    (remoteDeviceId : Int32) (m : InputDeviceMgr) :
    (removeVirtualInputDevice input networkId remoteDeviceId m).remote2VirtualIds =
      update m.remote2VirtualIds remoteDeviceId none := by
  cases entry : m.remote2VirtualIds remoteDeviceId with
  | none =>
    rw [removeVirtualInputDevice_of_none networkId entry, ← entry]
    simp
  | some v =>
    rw [removeVirtualInputDevice_of_some networkId entry]
    rfl

theorem remoteDevices_removeVirtualInputDevice (input : InputService) (networkId : NetworkId)
    (remoteDeviceId : Int32) (m : InputDeviceMgr) :
    (removeVirtualInputDevice input networkId remoteDeviceId m).remoteDevices =
      m.remoteDevices := by
  cases entry : m.remote2VirtualIds remoteDeviceId with
  | none => rw [removeVirtualInputDevice_of_none networkId entry]
  | some v =>
    rw [removeVirtualInputDevice_of_some networkId entry]
    rfl

/-- An entry that is left is still owned by whom it was. -/
theorem Owned.removeVirtualInputDevice {n : NetworkId} {d : Int32} (sound : m.Sound)
    (owned : Owned networkId remoteDeviceId m) (h : Owned n d m) :
    Owned n d (removeVirtualInputDevice input networkId remoteDeviceId m) := by
  intro v entry
  rw [table_removeVirtualInputDevice] at entry
  by_cases same : d = remoteDeviceId
  · subst same
    simp at entry
  · rw [Function.update_of_ne same] at entry
    have here := sound.mem_of_owned h entry
    refine (sound.removeVirtualInputDevice owned).member ⟨v, n, d⟩ ?_
    exact (sound.mem_removeVirtualInputDevice owned _).mpr ⟨here, fun is => same is.2⟩

/-- The same for the devices of a peer one after another. -/
theorem Sound.removeDevices {devices : List Device} (sound : m.Sound)
    (owned : ∀ device ∈ devices, Owned networkId device.id m) :
    (removeDevices input networkId devices m).Sound ∧
      ∀ x, x ∈ (InputDeviceMgr.removeDevices input networkId devices m).virtualDevices ↔
        x ∈ m.virtualDevices ∧
          ¬ (x.networkId = networkId ∧ ∃ device ∈ devices, device.id = x.remoteId) := by
  induction devices generalizing m with
  | nil => exact ⟨sound, fun x => by simp [InputDeviceMgr.removeDevices]⟩
  | cons device devices ih =>
    have first := owned device List.mem_cons_self
    have sound' : (InputDeviceMgr.removeVirtualInputDevice input networkId device.id m).Sound :=
      sound.removeVirtualInputDevice first
    obtain ⟨later, members⟩ := ih sound' fun other mem =>
      first.removeVirtualInputDevice sound (owned other (List.mem_cons_of_mem device mem))
    refine ⟨later, fun x => (members x).trans ?_⟩
    rw [sound.mem_removeVirtualInputDevice first x]
    simp only [List.mem_cons, exists_eq_or_imp]
    grind

theorem removeDevices_cons (input : InputService) (networkId : NetworkId) (device : Device)
    (devices : List Device) (m : InputDeviceMgr) :
    removeDevices input networkId (device :: devices) m =
      removeDevices input networkId devices
        (removeVirtualInputDevice input networkId device.id m) := rfl

theorem table_removeDevices (input : InputService) (networkId : NetworkId)
    (devices : List Device) (m : InputDeviceMgr) (d : Int32) :
    (removeDevices input networkId devices m).remote2VirtualIds d =
      if ∃ device ∈ devices, device.id = d then none else m.remote2VirtualIds d := by
  induction devices generalizing m with
  | nil => simp [removeDevices]
  | cons device devices ih =>
    rw [removeDevices_cons, ih, table_removeVirtualInputDevice,
      Function.update_apply]
    by_cases here : device.id = d
    · simp [here]
    · simp [here, Ne.symm here]

theorem remoteDevices_removeDevices (input : InputService) (networkId : NetworkId)
    (devices : List Device) (m : InputDeviceMgr) :
    (removeDevices input networkId devices m).remoteDevices = m.remoteDevices := by
  induction devices generalizing m with
  | nil => rfl
  | cons device devices ih =>
    rw [removeDevices_cons, ih,
      remoteDevices_removeVirtualInputDevice]

theorem devicesOf_removeDevices (input : InputService) (networkId n : NetworkId)
    (devices : List Device) (m : InputDeviceMgr) :
    (removeDevices input networkId devices m).devicesOf n = m.devicesOf n := by
  rw [devicesOf, remoteDevices_removeDevices]
  rfl

theorem Owned.removeDevices {devices : List Device} {n : NetworkId} {d : Int32} (sound : m.Sound)
    (owned : ∀ device ∈ devices, Owned networkId device.id m)
    (h : (∀ device ∈ devices, device.id ≠ d) → Owned n d m) :
    Owned n d (removeDevices input networkId devices m) := by
  intro v entry
  rw [table_removeDevices] at entry
  split at entry
  · cases entry
  · next other =>
    push Not at other
    have here := sound.mem_of_owned (h other) entry
    obtain ⟨sound', members⟩ := @Sound.removeDevices input _ _ _ sound owned
    refine sound'.member ⟨v, n, d⟩ ((members _).mpr ⟨here, fun is => ?_⟩)
    obtain ⟨device, mem, same⟩ := is.2
    exact other device mem same

theorem removeAllVirtualInputDevice_cons (input : InputService) (n : NetworkId)
    (order : List NetworkId) (m : InputDeviceMgr) :
    removeAllVirtualInputDevice input (n :: order) m =
      removeAllVirtualInputDevice input order (removeDevices input n (m.devicesOf n) m) := rfl

/-- Going through the peers in `order`, a device id that has an entry is first met as one of the
peer that the entry is of. -/
def MeetsOwnInOrder (order : List NetworkId) (m : InputDeviceMgr) : Prop :=
  ∀ before n after, order = before ++ n :: after → ∀ device ∈ m.devicesOf n,
    (∀ n' ∈ before, ∀ other ∈ m.devicesOf n', other.id ≠ device.id) → Owned n device.id m

theorem Sound.removeAllVirtualInputDevice {order : List NetworkId} (sound : m.Sound)
    (meets : MeetsOwnInOrder order m) :
    (removeAllVirtualInputDevice input order m).Sound := by
  induction order generalizing m with
  | nil => exact sound
  | cons n order ih =>
    have owned : ∀ device ∈ m.devicesOf n, Owned n device.id m := fun device mem =>
      meets [] n order rfl device mem (by simp)
    refine ih (sound.removeDevices owned).1 fun before n' after split device mem earlier => ?_
    simp only [devicesOf_removeDevices] at mem earlier
    refine Owned.removeDevices sound owned fun other => ?_
    refine meets (n :: before) n' after (by rw [split]; rfl) device mem ?_
    rintro n'' (_ | ⟨_, mem'⟩)
    · exact other
    · exact earlier n'' mem'

/-! ## Calls -/

/-- The call removes no virtual device of another peer than its own: whatever is entered for the
device ids that it goes through is of the peer for which it goes through them. -/
def MeetsOwn (call : DeviceCall) (m : InputDeviceMgr) : Prop :=
  match call with
  | .onRemoteInputDevice _ => True
  | .handleRemoteHotPlug notice =>
      notice.type = .unplug → Owned notice.networkId notice.device.id m
  | .addVirtualInputDevice _ => True
  | .removeVirtualInputDevice networkId =>
      ∀ device ∈ m.devicesOf networkId, Owned networkId device.id m
  | .removeAllVirtualInputDevice order => MeetsOwnInOrder order m
  | .onSoftbusSessionClosed notice =>
      (m.virtualInputDevicesAdded notice.networkId).isSome →
        ∀ device ∈ m.devicesOf notice.networkId, Owned notice.networkId device.id m

/-- The values of the common table are the disjoint union of the sets of the peers, and each
virtual device can be removed under the peer and the device id it was made for. -/
structure Bookkept (input : InputService) (m : InputDeviceMgr) : Prop where
  values : ∀ v, (∃ d, m.remote2VirtualIds d = some v) ↔ ∃ n, v ∈ m.added n
  once : ∀ v d d', m.remote2VirtualIds d = some v → m.remote2VirtualIds d' = some v → d = d'
  disjoint : ∀ v n n', v ∈ m.added n → v ∈ m.added n' → n = n'
  removable : ∀ x ∈ m.virtualDevices, m.remote2VirtualIds x.remoteId = some x.id ∧
    x.id ∈ m.added x.networkId ∧
    x ∉ (removeVirtualInputDevice input x.networkId x.remoteId m).virtualDevices

theorem Sound.bookkept (sound : m.Sound) : m.Bookkept input where
  values v := by
    constructor
    · rintro ⟨d, entry⟩
      obtain ⟨x, hx, -, rfl⟩ := sound.of_entry d v entry
      exact ⟨x.networkId, sound.member x hx⟩
    · rintro ⟨n, hv⟩
      obtain ⟨x, hx, -, rfl⟩ := sound.of_member n v hv
      exact ⟨x.remoteId, sound.entry x hx⟩
  once v d d' h h' := by
    obtain ⟨x, hx, rfl, rfl⟩ := sound.of_entry d v h
    obtain ⟨y, hy, rfl, same⟩ := sound.of_entry d' x.id h'
    rw [sound.unique y hy x hx same]
  disjoint v n n' h h' := by
    obtain ⟨x, hx, rfl, rfl⟩ := sound.of_member n v h
    obtain ⟨y, hy, rfl, same⟩ := sound.of_member n' x.id h'
    rw [sound.unique y hy x hx same]
  removable x hx := by
    refine ⟨sound.entry x hx, sound.member x hx, fun left => ?_⟩
    exact ((sound.mem_removeVirtualInputDevice (sound.owned_of_mem hx) x).mp left).2 ⟨rfl, rfl⟩

/-- The call removes virtual devices of `networkId`. -/
def RemovesOf (networkId : NetworkId) : DeviceCall → Prop
  | .handleRemoteHotPlug notice => notice.type = .unplug ∧ notice.networkId = networkId
  | .removeVirtualInputDevice n => n = networkId
  | .onSoftbusSessionClosed notice => notice.networkId = networkId
  | _ => False

/-- No virtual device of a peer outlives its session, and removing those of one peer leaves
those of the others in place. -/
structure Keeps (call : DeviceCall) (m m' : InputDeviceMgr) : Prop where
  closed : ∀ notice, call = .onSoftbusSessionClosed notice →
    ∀ x ∈ m'.virtualDevices, x.networkId ≠ notice.networkId
  others : ∀ networkId, RemovesOf networkId call →
    ∀ x ∈ m.virtualDevices, x.networkId ≠ networkId → x ∈ m'.virtualDevices

/-! ## What a call does -/

theorem Sound.removeVirtualInputDevices (sound : m.Sound)
    (owned : ∀ device ∈ m.devicesOf networkId, Owned networkId device.id m) :
    (removeVirtualInputDevices input networkId m).Sound := by
  refine (sound.touchRemoteDevices networkId).removeDevices ?_ |>.1
  rw [devicesOf_touchRemoteDevices]
  exact owned

/-- All virtual devices of a peer are removed, since they are among its devices. -/
theorem Sound.mem_removeVirtualInputDevices (sound : m.Sound)
    (owned : ∀ device ∈ m.devicesOf networkId, Owned networkId device.id m) (x : VirtualDevice) :
    x ∈ (InputDeviceMgr.removeVirtualInputDevices input networkId m).virtualDevices ↔
      x ∈ m.virtualDevices ∧ x.networkId ≠ networkId := by
  have touched := @Sound.removeDevices input (InputDeviceMgr.touchRemoteDevices networkId m)
    networkId (m.devicesOf networkId) (sound.touchRemoteDevices networkId) owned
  rw [InputDeviceMgr.removeVirtualInputDevices, devicesOf_touchRemoteDevices, touched.2 x]
  refine and_congr_right fun hx => not_congr ⟨And.left, fun same => ⟨same, ?_⟩⟩
  rw [← same]
  exact sound.known x hx

theorem Sound.handleRemoteHotPlug {notice : DSoftbusHotPlugEvent} (sound : m.Sound)
    (owned : notice.type = .unplug → Owned notice.networkId notice.device.id m) :
    (handleRemoteHotPlug input notice m).Sound := by
  unfold InputDeviceMgr.handleRemoteHotPlug
  cases type : notice.type with
  | plug => simpa using sound.addVirtualInputDevice notice.networkId notice.device.id
  | unplug =>
    simp only [if_true, reduceCtorEq, if_false]
    split
    · exact sound
    · exact sound.removeVirtualInputDevice (owned type)
  | other value => simpa using sound

/-- A peer without an entry in the table of sets has no virtual device. -/
theorem Sound.networkId_ne_of_none (sound : m.Sound)
    (h : m.virtualInputDevicesAdded networkId = none) :
    ∀ x ∈ m.virtualDevices, x.networkId ≠ networkId := by
  rintro x hx rfl
  have := sound.member x hx
  simp [added, h] at this

/-- A peer without virtual devices can be forgotten. -/
theorem Sound.forget (sound : m.Sound) (absent : ∀ x ∈ m.virtualDevices, x.networkId ≠ networkId) :
    Sound { m with remoteDevices := update m.remoteDevices networkId none } := by
  refine { sound with known := fun x hx => ?_ }
  obtain ⟨device, mem, same⟩ := sound.known x hx
  refine ⟨device, ?_, same⟩
  simpa [devicesOf, absent x hx] using mem

/-- What `RemoveAllRemoteInputDevice` does first: the peer has no virtual devices any more. -/
theorem Sound.closing (sound : m.Sound)
    (owned : (m.virtualInputDevicesAdded networkId).isSome →
      ∀ device ∈ m.devicesOf networkId, Owned networkId device.id m) :
    ∃ m' : InputDeviceMgr, m'.Sound ∧
      (if (m.virtualInputDevicesAdded networkId).isSome then
        InputDeviceMgr.removeVirtualInputDevices input networkId m else m) = m' ∧
      ∀ x, x ∈ m'.virtualDevices ↔ x ∈ m.virtualDevices ∧ x.networkId ≠ networkId := by
  by_cases some : (m.virtualInputDevicesAdded networkId).isSome
  · rw [if_pos some]
    exact ⟨_, sound.removeVirtualInputDevices (owned some), rfl,
      sound.mem_removeVirtualInputDevices (owned some)⟩
  · rw [if_neg some]
    have absent := sound.networkId_ne_of_none (by simpa using some)
    exact ⟨m, sound, rfl, fun x => ⟨fun hx => ⟨hx, absent x hx⟩, And.left⟩⟩

/-- A closed session leaves the virtual devices of the other peers. -/
theorem Sound.onSoftbusSessionClosed {notice : DSoftbusSessionClosed} (sound : m.Sound)
    (owned : (m.virtualInputDevicesAdded notice.networkId).isSome →
      ∀ device ∈ m.devicesOf notice.networkId, Owned notice.networkId device.id m) :
    (onSoftbusSessionClosed input notice m).Sound ∧
      ∀ x, x ∈ (InputDeviceMgr.onSoftbusSessionClosed input notice m).virtualDevices ↔
        x ∈ m.virtualDevices ∧ x.networkId ≠ notice.networkId := by
  obtain ⟨m', sound', closing, members⟩ := @Sound.closing input _ _ sound owned
  simp only [InputDeviceMgr.onSoftbusSessionClosed, removeAllRemoteInputDevice, closing]
  split
  · exact ⟨sound', members⟩
  · exact ⟨sound'.forget fun x hx => ((members x).mp hx).2, members⟩

/-- A call that meets its own devices only keeps the tables sound. -/
theorem Sound.next {call : DeviceCall} (sound : m.Sound) (meets : MeetsOwn call m) :
    (next input call m).Sound := by
  cases call with
  | onRemoteInputDevice notice => exact sound.onRemoteInputDevice notice
  | handleRemoteHotPlug notice => exact sound.handleRemoteHotPlug meets
  | addVirtualInputDevice networkId => exact sound.addVirtualInputDevices networkId
  | removeVirtualInputDevice networkId => exact sound.removeVirtualInputDevices meets
  | removeAllVirtualInputDevice order => exact sound.removeAllVirtualInputDevice meets
  | onSoftbusSessionClosed notice => exact (sound.onSoftbusSessionClosed meets).1

theorem Sound.keeps {call : DeviceCall} (sound : m.Sound) (meets : MeetsOwn call m) :
    Keeps call m (InputDeviceMgr.next input call m) where
  closed notice is x hx := by
    subst is
    exact (((sound.onSoftbusSessionClosed meets).2 x).mp hx).2
  others n removes x hx other := by
    cases call with
    | handleRemoteHotPlug notice =>
      obtain ⟨type, rfl⟩ := removes
      simp only [InputDeviceMgr.next, InputDeviceMgr.handleRemoteHotPlug, type, if_true,
        reduceCtorEq, if_false]
      split
      · exact hx
      · exact (sound.mem_removeVirtualInputDevice (meets type) x).mpr ⟨hx, fun is => other is.1⟩
    | removeVirtualInputDevice networkId =>
      obtain rfl := removes
      exact (sound.mem_removeVirtualInputDevices meets x).mpr ⟨hx, other⟩
    | onSoftbusSessionClosed notice =>
      obtain rfl := removes
      exact ((sound.onSoftbusSessionClosed meets).2 x).mpr ⟨hx, other⟩
    | _ => cases removes

/-! ## Calls that meet a device of another peer -/

theorem removeVirtualInputDevice_subset (input : InputService) (networkId : NetworkId)
    (remoteDeviceId : Int32) (m : InputDeviceMgr) :
    (removeVirtualInputDevice input networkId remoteDeviceId m).virtualDevices ⊆
      m.virtualDevices := by
  cases entry : m.remote2VirtualIds remoteDeviceId with
  | none =>
    rw [removeVirtualInputDevice_of_none networkId entry]
    exact List.Subset.refl _
  | some v =>
    rw [removeVirtualInputDevice_of_some networkId entry]
    exact List.filter_subset_self _

theorem removeDevices_subset (input : InputService) (networkId : NetworkId)
    (devices : List Device) (m : InputDeviceMgr) :
    (removeDevices input networkId devices m).virtualDevices ⊆ m.virtualDevices := by
  induction devices generalizing m with
  | nil => exact List.Subset.refl _
  | cons device devices ih =>
    exact List.Subset.trans (ih _)
      (removeVirtualInputDevice_subset input networkId device.id m)

/-- Whatever is entered for a device id is removed, whosever it is. -/
theorem removeVirtualInputDevice_takes (networkId : NetworkId) {v : Int32}
    (entry : m.remote2VirtualIds remoteDeviceId = some v) :
    ∀ x ∈ (removeVirtualInputDevice input networkId remoteDeviceId m).virtualDevices,
      x.id ≠ v := by
  rw [removeVirtualInputDevice_of_some networkId entry]
  simp [updateVirtualDeviceIdMap, clear]

theorem removeDevices_takes (networkId : NetworkId) {devices : List Device} {device : Device}
    {v : Int32} (mem : device ∈ devices) (entry : m.remote2VirtualIds device.id = some v) :
    ∀ x ∈ (removeDevices input networkId devices m).virtualDevices, x.id ≠ v := by
  induction devices generalizing m with
  | nil => cases mem
  | cons first devices ih =>
    by_cases same : first.id = device.id
    · intro x hx
      rw [← same] at entry
      exact removeVirtualInputDevice_takes networkId entry x (removeDevices_subset _ _ _ _ hx)
    · have later : device ∈ devices := by
        obtain rfl | later := List.mem_cons.mp mem
        · exact absurd rfl same
        · exact later
      apply ih later
      rw [table_removeVirtualInputDevice, Function.update_of_ne (Ne.symm same)]
      exact entry

/-- An entry that is not of the peer is of another one. -/
theorem Sound.exists_of_not_owned (sound : m.Sound)
    (h : ¬ Owned networkId remoteDeviceId m) :
    ∃ x ∈ m.virtualDevices, x.networkId ≠ networkId ∧ x.remoteId = remoteDeviceId ∧
      m.remote2VirtualIds remoteDeviceId = some x.id := by
  simp only [Owned] at h
  push Not at h
  obtain ⟨v, entry, notOwned⟩ := h
  obtain ⟨x, hx, rfl, rfl⟩ := sound.of_entry _ _ entry
  refine ⟨x, hx, ?_, rfl, entry⟩
  rintro rfl
  exact notOwned (sound.member x hx)

/-- Removing all: a virtual device that is met as one of another peer stays in the set of its
own. `Strays` says that `v` is in the set of `n`, under no device id but `d`. -/
structure Strays (n : NetworkId) (d v : Int32) (m : InputDeviceMgr) : Prop where
  member : v ∈ m.added n
  only : ∀ d', m.remote2VirtualIds d' = some v → d' = d

theorem Strays.removeVirtualInputDevice {n : NetworkId} {d v : Int32} (h : Strays n d v m)
    (elsewhere : networkId ≠ n ∨ m.remote2VirtualIds d = none ∨ remoteDeviceId ≠ d) :
    Strays n d v (removeVirtualInputDevice input networkId remoteDeviceId m) := by
  constructor
  · cases entry : m.remote2VirtualIds remoteDeviceId with
    | none =>
      rw [removeVirtualInputDevice_of_none networkId entry]
      exact h.member
    | some w =>
      rw [removeVirtualInputDevice_of_some networkId entry]
      change v ∈ InputDeviceMgr.added n (clear _ _)
      rw [added_clear]
      split
      · next same =>
        refine Finset.mem_erase.mpr ⟨?_, h.member⟩
        rintro rfl
        obtain rfl := h.only remoteDeviceId entry
        obtain other | none | other := elsewhere
        · exact other same.symm
        · rw [entry] at none
          cases none
        · exact other rfl
      · exact h.member
  · intro d' entry
    rw [table_removeVirtualInputDevice] at entry
    by_cases same : d' = remoteDeviceId
    · rw [same, Function.update_self] at entry
      cases entry
    · rw [Function.update_of_ne same] at entry
      exact h.only d' entry

theorem Strays.removeDevices {n : NetworkId} {d v : Int32} {devices : List Device}
    (h : Strays n d v m)
    (elsewhere : networkId ≠ n ∨ m.remote2VirtualIds d = none ∨
      ∀ device ∈ devices, device.id ≠ d) :
    Strays n d v (removeDevices input networkId devices m) := by
  induction devices generalizing m with
  | nil => exact h
  | cons device devices ih =>
    apply ih
    · apply h.removeVirtualInputDevice
      grind
    · rw [table_removeVirtualInputDevice, Function.update_apply]
      grind

theorem Strays.removeAllVirtualInputDevice {n : NetworkId} {d v : Int32} {order : List NetworkId}
    (h : Strays n d v m)
    (elsewhere : m.remote2VirtualIds d = none ∨
      ∀ networkId ∈ order, ∀ device ∈ m.devicesOf networkId, device.id ≠ d) :
    Strays n d v (removeAllVirtualInputDevice input order m) := by
  induction order generalizing m with
  | nil => exact h
  | cons first order ih =>
    apply ih
    · apply h.removeDevices
      grind
    · simp only [table_removeDevices, devicesOf_removeDevices]
      refine elsewhere.imp (fun none => by simp [none]) fun other networkId mem => ?_
      exact other networkId (List.mem_cons_of_mem first mem)

theorem table_removeAllVirtualInputDevice (input : InputService) (order : List NetworkId)
    (m : InputDeviceMgr) (d : Int32) :
    (removeAllVirtualInputDevice input order m).remote2VirtualIds d =
      if ∃ networkId ∈ order, ∃ device ∈ m.devicesOf networkId, device.id = d then none
      else m.remote2VirtualIds d := by
  induction order generalizing m with
  | nil => simp [removeAllVirtualInputDevice]
  | cons networkId order ih =>
    rw [removeAllVirtualInputDevice_cons, ih,
      table_removeDevices]
    simp only [devicesOf_removeDevices, List.mem_cons, exists_eq_or_imp]
    by_cases now : ∃ device ∈ m.devicesOf networkId, device.id = d
    · simp only [now, true_or, if_true, ite_self]
    · simp only [now, false_or, if_false]

theorem removeAllVirtualInputDevice_append (input : InputService)
    (before after : List NetworkId) (m : InputDeviceMgr) :
    removeAllVirtualInputDevice input (before ++ after) m =
      removeAllVirtualInputDevice input after (removeAllVirtualInputDevice input before m) :=
  List.foldl_append

theorem devicesOf_removeAllVirtualInputDevice (input : InputService) (order : List NetworkId)
    (n : NetworkId) (m : InputDeviceMgr) :
    (removeAllVirtualInputDevice input order m).devicesOf n = m.devicesOf n := by
  induction order generalizing m with
  | nil => rfl
  | cons networkId order ih =>
    rw [removeAllVirtualInputDevice_cons, ih,
      devicesOf_removeDevices]

/-- When all virtual devices are removed, and one is met first as that of another peer, it stays
in a set without being in the table. -/
theorem not_bookkept_of_not_meets {order : List NetworkId} (sound : m.Sound)
    (meets : ¬ MeetsOwnInOrder order m) :
    ¬ (removeAllVirtualInputDevice input order m).Bookkept input := by
  simp only [MeetsOwnInOrder] at meets
  push Not at meets
  obtain ⟨before, n, after, rfl, device, mem, earlier, notOwned⟩ := meets
  obtain ⟨x, hx, other, same, entry⟩ := sound.exists_of_not_owned notOwned
  have strays : Strays x.networkId device.id x.id m := by
    refine ⟨sound.member x hx, fun d' entry' => ?_⟩
    exact (@Sound.bookkept input m sound).once x.id d' device.id entry' entry
  have reached : Strays x.networkId device.id x.id
      (removeAllVirtualInputDevice input before m) :=
    strays.removeAllVirtualInputDevice (.inr earlier)
  have passed : Strays x.networkId device.id x.id (removeDevices input n
      (m.devicesOf n) (removeAllVirtualInputDevice input before m)) :=
    reached.removeDevices (.inl (Ne.symm other))
  have gone : (removeDevices input n (m.devicesOf n)
      (removeAllVirtualInputDevice input before m)).remote2VirtualIds device.id =
        none := by
    rw [table_removeDevices, if_pos ⟨device, mem, rfl⟩]
  intro bookkept
  have final : removeAllVirtualInputDevice input (before ++ n :: after) m =
      removeAllVirtualInputDevice input after
        (removeDevices input n (m.devicesOf n)
          (removeAllVirtualInputDevice input before m)) := by
    rw [removeAllVirtualInputDevice_append, removeAllVirtualInputDevice_cons,
      devicesOf_removeAllVirtualInputDevice]
  rw [final] at bookkept
  have still := @Strays.removeAllVirtualInputDevice input _ _ _ _ after passed (.inl gone)
  obtain ⟨d, entered⟩ := (bookkept.values x.id).mpr ⟨x.networkId, still.member⟩
  have is := still.only d entered
  rw [is, table_removeAllVirtualInputDevice, gone, ite_self] at entered
  cases entered

/-- A call that meets a virtual device of another peer takes it away, or loses track of it. -/
theorem meetsOwn_of_bookkept {call : DeviceCall} (sound : m.Sound)
    (bookkept : (next input call m).Bookkept input)
    (keeps : Keeps call m (next input call m)) : MeetsOwn call m := by
  -- what is entered for the device id of another peer would be taken away
  have takes : ∀ n, RemovesOf n call →
      (next input call m).virtualDevices =
        (removeVirtualInputDevices input n m).virtualDevices →
      ∀ device ∈ m.devicesOf n, Owned n device.id m := by
    intro n removes same device mem
    by_contra notOwned
    obtain ⟨x, hx, other, -, entry⟩ := sound.exists_of_not_owned notOwned
    have left := keeps.others n removes x hx other
    rw [← devicesOf_touchRemoteDevices n] at mem
    rw [same] at left
    exact removeDevices_takes (m := touchRemoteDevices n m) n mem entry x left rfl
  cases call with
  | onRemoteInputDevice notice => trivial
  | handleRemoteHotPlug notice =>
    intro type
    by_contra notOwned
    obtain ⟨x, hx, other, -, entry⟩ := sound.exists_of_not_owned notOwned
    have left := keeps.others notice.networkId ⟨type, rfl⟩ x hx other
    simp only [next, handleRemoteHotPlug, type, if_true, entry,
      reduceCtorEq, if_false, Option.isNone_some, Bool.false_eq_true] at left
    exact removeVirtualInputDevice_takes notice.networkId entry x left rfl
  | addVirtualInputDevice networkId => trivial
  | removeVirtualInputDevice networkId =>
    exact takes networkId rfl rfl
  | removeAllVirtualInputDevice order =>
    by_contra notMeets
    exact not_bookkept_of_not_meets sound notMeets bookkept
  | onSoftbusSessionClosed notice =>
    intro some
    refine takes notice.networkId rfl ?_
    simp only [next, onSoftbusSessionClosed, removeAllRemoteInputDevice, some, if_true]
    split <;> rfl

/-! ## Runs -/

/-- In every run the tables describe the virtual devices, and each call keeps to its own, exactly
when no call meets a device id under which the virtual device of another peer is entered. -/
theorem bookkept_iff_meetsOwn (input : InputService) (calls : List DeviceCall) :
    EachStep (next input)
        (fun call m => (next input call m).Bookkept input ∧ Keeps call m (next input call m))
        {} calls ↔
      EachStep (next input) MeetsOwn {} calls := by
  constructor
  · intro run
    refine EachStep.of_invariant (I := Sound) ?_ ?_ Sound.init run
    · intro call m sound ⟨bookkept, keeps⟩
      exact sound.next (meetsOwn_of_bookkept sound bookkept keeps)
    · intro call m sound ⟨bookkept, keeps⟩
      exact meetsOwn_of_bookkept sound bookkept keeps
  · intro run
    refine EachStep.of_invariant (I := Sound) ?_ ?_ Sound.init run
    · intro call m sound meets
      exact sound.next meets
    · intro call m sound meets
      exact ⟨(sound.next meets).bookkept, sound.keeps meets⟩

/-- An input service that takes the lowest free id from 1000 on. -/
def lowestFree : InputService where
  addVirtualInputDevice _ inUse _ :=
    ((List.range 64).map fun i => Int32.ofNat (1000 + i)).find? (· ∉ inUse)
  removeVirtualInputDevice _ _ := RET_OK
  fresh _ _ _ _ h := by simpa using List.find?_some h
  removed _ _ := rfl

/-- Two peers have a device with id 3, and for that of the first there is a virtual device. -/
def equalIds : List DeviceCall :=
  [.onRemoteInputDevice { networkId := [65], devices := [{ Device.invalid with id := 3 }] },
    .onRemoteInputDevice { networkId := [66], devices := [{ Device.invalid with id := 3 }] },
    .addVirtualInputDevice [65]]

/-- Removing the virtual devices of the second removes it. -/
theorem equalIds_lose_device :
    ¬ EachStep (next lowestFree)
        (fun call m => (next lowestFree call m).Bookkept lowestFree ∧
          Keeps call m (next lowestFree call m))
        {} (equalIds ++ [.removeVirtualInputDevice [66]]) := by
  intro each
  obtain ⟨-, keeps⟩ := each equalIds _ List.prefix_rfl
  have there : ⟨1000, [65], 3⟩ ∈ (runFrom (next lowestFree) {} equalIds).virtualDevices := by
    decide +kernel
  have gone : (next lowestFree (.removeVirtualInputDevice [66])
      (runFrom (next lowestFree) {} equalIds)).virtualDevices = [] := by
    decide +kernel
  have left := keeps.others [66] rfl _ there (by decide)
  rw [gone] at left
  cases left

end InputDeviceMgr

end DeviceStatus.Cooperation
