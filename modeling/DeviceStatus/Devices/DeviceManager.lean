import DeviceStatus.Devices.ParseDeviceId
import DeviceStatus.Library.Transition
import Mathlib.Data.List.Chain
import Mathlib.Data.List.Nodup

/-!
# Input devices of the device manager

The table of devices is filled by a scan of the directory and kept up to date by notices of nodes
that are created and deleted. A device is found in the table by its node, and no node is looked at
again once it has a device. The table is not emptied when the manager is disabled, and a second
`Enable` leaves the notices unread that the first connection still has. Nothing catches what the
conversion of a device number throws.

## Main definitions

* `DeviceManager`, `DeviceManager.next` — the directory, the notices and the table.
* `DeviceManager.Follows` — the table has the devices of the directory, and observers know.
* `DeviceManager.Fresh` — the manager is enabled with a table that fits the directory, and comes
  to no number that is too large.
* `settle` — what the notices about a node make of its device.
-/

namespace DeviceStatus.Devices

open Transition.System
open Utils (StdException)

/-- A file in the directory. -/
structure Node where
  name : DevNode
  /-- the device behind the node -/
  behind : ℕ
  /-- whether the node is a character device -/
  character : Bool
  deriving DecidableEq

structure Device where
  id : Int32
  node : DevNode
  behind : ℕ
  deriving DecidableEq

inductive Change where
  | create
  | delete
  deriving DecidableEq

inductive Told where
  | added
  | removed
  deriving DecidableEq

structure DeviceManager where
  nodes : List Node := []
  /-- how many nodes have appeared -/
  appeared : ℕ := 0
  /-- the monitor watches the directory -/
  enabled : Bool := false
  /-- the notices that are not delivered yet -/
  notices : List (Change × DevNode) := []
  /-- the nodes that the scan in progress has still to come to -/
  scanning : Option (List DevNode) := none
  devices : List Device := []
  /-- what an observer has been told -/
  told : List (Told × Device) := []
  /-- an exception has ended the process -/
  terminated : Bool := false

namespace DeviceManager

inductive Label where
  /-- `OnEnable`, up to the scan -/
  | enable (failed : Bool)
  /-- the scan comes to a node -/
  | scan (devNode : DevNode)
  | scanned
  /-- `opendir` or `readdir` fails, and the scan ends -/
  | unread
  | disable
  | appear (devNode : DevNode) (character : Bool)
  | disappear (devNode : DevNode)
  /-- `HandleInotifyEvent` -/
  | deliver

def findNode (devNode : DevNode) (s : DeviceManager) : Option Node :=
  s.nodes.find? (·.name = devNode)

def findDevice (devNode : DevNode) (s : DeviceManager) : Option Device :=
  s.devices.find? (·.node = devNode)

/-- The device that can be made for a node. -/
def deviceAt (devNode : DevNode) (s : DeviceManager) : Option Device :=
  match s.findNode devNode, parseDeviceId devNode with
  | some node, .ok id =>
    if node.character ∧ ¬ id < 0 then some { id, node := devNode, behind := node.behind } else none
  | _, _ => none

/-- `insert_or_assign`, with whether the device is new. -/
def insertOrAssign (dev : Device) (devices : List Device) : Bool × List Device :=
  if ∃ other ∈ devices, other.id = dev.id then
    (false, devices.map fun other => if other.id = dev.id then dev else other)
  else (true, devices ++ [dev])

def addDevice (devNode : DevNode) (s : DeviceManager) : Except StdException DeviceManager :=
  match s.findNode devNode with
  | none => .ok s
  | some node =>
    if ¬ node.character then .ok s
    else do
      let deviceId ← parseDeviceId devNode
      if deviceId < 0 then return s
      if (s.findDevice devNode).isSome then return s
      let dev := { id := deviceId, node := devNode, behind := node.behind }
      let (inserted, devices) := insertOrAssign dev s.devices
      return { s with
        devices
        told := if inserted then s.told ++ [(.added, dev)] else s.told }

def removeDevice (devNode : DevNode) (s : DeviceManager) : DeviceManager :=
  match s.findDevice devNode with
  | none => s
  | some dev =>
    { s with
      devices := s.devices.eraseP (·.node = devNode)
      told := s.told ++ [(.removed, dev)] }

/-- What a change of the directory leaves for the monitor. -/
def notify (change : Change) (devNode : DevNode) (s : DeviceManager) :
    List (Change × DevNode) :=
  if s.enabled then s.notices ++ [(change, devNode)] else s.notices

/-- `OnEnable` up to the scan, of all nodes that are present. `Monitor::OpenConnection` takes a new
connection, also while there is one. -/
def onEnable (failed : Bool) (s : DeviceManager) : DeviceManager :=
  if failed then { s with enabled := false, notices := [] }
  else { s with enabled := true, notices := [], scanning := some (s.nodes.map (·.name)) }

def onDisable (s : DeviceManager) : DeviceManager :=
  { s with enabled := false, notices := [] }

def appear (devNode : DevNode) (character : Bool) (s : DeviceManager) : DeviceManager :=
  { s with
    nodes := s.nodes ++ [{ name := devNode, behind := s.appeared, character }]
    appeared := s.appeared + 1
    notices := s.notify .create devNode }

/-- A scan in progress does not have to come to the node any more. -/
def disappear (devNode : DevNode) (s : DeviceManager) : DeviceManager :=
  { s with
    nodes := s.nodes.filter (·.name ≠ devNode)
    scanning := s.scanning.map (·.filter (· ≠ devNode))
    notices := s.notify .delete devNode }

def handleInotifyEvent (change : Change) (devNode : DevNode) (s : DeviceManager) :
    Except StdException DeviceManager :=
  match change with
  | .create => s.addDevice devNode
  | .delete => .ok (s.removeDevice devNode)

/-- The process ends, and nothing is left to scan or to deliver. -/
def terminate (s : DeviceManager) : DeviceManager :=
  { s with scanning := none, notices := [], terminated := true }

/-- One thread enables, scans, disables and takes the notices. -/
def step : Label → DeviceManager → DeviceManager
  | .enable failed, s => if s.scanning.isSome then s else s.onEnable failed
  | .scan devNode, s =>
    match s.scanning with
    | none => s
    | some names =>
      match s.addDevice devNode with
      | .ok t => { t with scanning := some (names.filter (· ≠ devNode)) }
      | .error _ => s.terminate
  | .scanned, s => if s.scanning = some [] then { s with scanning := none } else s
  | .unread, s => { s with scanning := none }
  | .disable, s => if s.scanning.isSome then s else s.onDisable
  | .appear devNode character, s =>
    match s.findNode devNode with
    | some _ => s
    | none => s.appear devNode character
  | .disappear devNode, s =>
    match s.findNode devNode with
    | some _ => s.disappear devNode
    | none => s
  | .deliver, s =>
    if s.scanning.isSome then s
    else match s.notices with
      | [] => s
      | (change, devNode) :: rest =>
        match s.handleInotifyEvent change devNode with
        | .ok t => { t with notices := rest }
        | .error _ => s.terminate

def next (l : Label) (s : DeviceManager) : DeviceManager :=
  if s.terminated then s else s.step l

/-- The manager is enabled, and no delivery is pending. -/
def Settled (s : DeviceManager) : Prop :=
  s.enabled = true ∧ s.scanning = none ∧ s.notices = []

/-- What an observer has been told about a device. -/
def toldOf (dev : Device) (s : DeviceManager) : List Told :=
  (s.told.filter (·.2 = dev)).map (·.1)

/-- The process runs, the table has exactly the devices that can be made for the nodes that are
present, and an observer has been told of each device that it came and went by turns, and that it
came last if it is in the table. -/
structure Follows (s : DeviceManager) : Prop where
  runs : s.terminated = false
  devices : ∀ devNode, s.devices.filter (·.node = devNode) = (s.deviceAt devNode).toList
  turns : ∀ dev, List.IsChain (· ≠ ·) (.removed :: s.toldOf dev)
  last : ∀ dev, (s.toldOf dev).getLastD .removed = .added ↔ dev ∈ s.devices

/-- The number of a character device is too large. -/
def Throws (devNode : DevNode) (s : DeviceManager) : Prop :=
  TooLarge devNode ∧ ∃ node, s.findNode devNode = some node ∧ node.character = true

/-- The manager is enabled only if every device in the table is still behind its node, a scan ends
early only if it would not find more, and neither a scan nor the notice of a new node comes to a
character device whose number is too large. -/
def Fresh (s : DeviceManager) (l : Label) : Prop :=
  match l with
  | .enable false => s.scanning = none → ∀ dev ∈ s.devices, s.deviceAt dev.node = some dev
  | .scan devNode => s.scanning ≠ none → ¬ s.Throws devNode
  | .unread => ∀ devNode ∈ s.scanning.getD [], s.findDevice devNode = s.deviceAt devNode
  | .deliver => s.scanning = none → ∀ devNode rest, s.notices = (.create, devNode) :: rest →
    ¬ s.Throws devNode
  | _ => True

end DeviceManager

/-! ### What the notices about a node make of its device -/

/-- The notices about one node are delivered while `now` can be made for it. -/
@[grind] def settle (now : Option Device) : Option Device → List Change → Option Device
  | dev, [] => dev
  | dev, .create :: rest => settle now (dev.or now) rest
  | _, .delete :: rest => settle now none rest

variable {now dev : Option Device} {changes : List Change}

theorem settle_append (now dev : Option Device) (changes later : List Change) :
    settle now dev (changes ++ later) = settle now (settle now dev changes) later := by
  fun_induction settle now dev changes <;> grind

/-- The node may be scanned before its notices are delivered. -/
theorem settle_or (h : settle now dev changes = now) : settle now (dev.or now) changes = now := by
  fun_induction settle now dev changes <;> grind [settle]

theorem settle_current (h : dev.or now = now) : (settle now dev changes).or now = now := by
  fun_induction settle now dev changes <;> grind

/-- A device that appears where the notices leave none. -/
theorem settle_appear (h : settle none dev changes = none) :
    (settle now dev changes).or now = now := by
  induction changes generalizing dev with
  | nil => grind
  | cons change changes ih =>
    cases change with
    | create =>
      rw [settle, Option.or_none] at h
      cases dev with
      | none => exact settle_current (by simp)
      | some d => exact ih h
    | delete =>
      rw [settle]
      exact settle_current rfl

theorem settle_or_appear (h : settle none dev changes = none) :
    (settle now (dev.or now) changes).or now = now := by
  cases dev with
  | none => exact settle_current (by simp)
  | some d => exact settle_appear h

namespace DeviceManager

/-! ### What a step keeps -/

/-- The notices about a node. -/
def noticesOf (devNode : DevNode) (s : DeviceManager) : List Change :=
  (s.notices.filter (·.2 = devNode)).map (·.1)

/-- The device in the table, once the scan has come to the node. -/
def expected (devNode : DevNode) (s : DeviceManager) : Option Device :=
  if devNode ∈ s.scanning.getD [] then (s.findDevice devNode).or (s.deviceAt devNode)
  else s.findDevice devNode

/-- The table is in order, and observers have been told of it. -/
structure InOrder (s : DeviceManager) : Prop where
  nodes : (s.devices.map (·.node)).Nodup
  ids : ∀ dev ∈ s.devices, parseDeviceId dev.node = .ok dev.id ∧ ¬ dev.id < 0
  turns : ∀ dev, List.IsChain (· ≠ ·) (.removed :: s.toldOf dev)
  last : ∀ dev, (s.toldOf dev).getLastD .removed = .added ↔ dev ∈ s.devices

structure Good (s : DeviceManager) : Prop extends InOrder s where
  runs : s.terminated = false
  quiet : s.enabled = false → s.notices = []
  synced : s.enabled = true → ∀ devNode,
    settle (s.deviceAt devNode) (s.expected devNode) (s.noticesOf devNode) = s.deviceAt devNode

variable {s : DeviceManager} {devNode : DevNode} {dev : Device}

theorem good_start : Good {} where
  nodes := List.nodup_nil
  ids := nofun
  turns _ := .singleton _
  last _ := ⟨nofun, nofun⟩
  runs := rfl
  quiet _ := rfl
  synced := nofun

theorem of_findDevice (h : s.findDevice devNode = some dev) :
    dev ∈ s.devices ∧ dev.node = devNode := by
  have found := List.find?_some h
  exact ⟨List.mem_of_find?_eq_some h, by simpa using found⟩

theorem of_deviceAt (h : s.deviceAt devNode = some dev) :
    dev.node = devNode ∧ parseDeviceId devNode = .ok dev.id ∧ ¬ dev.id < 0 := by
  unfold deviceAt at h
  split at h
  next node id _ number =>
    obtain ⟨⟨-, positive⟩, made⟩ := Option.ite_none_right_eq_some.mp h
    obtain rfl := Option.some.inj made
    exact ⟨rfl, number, positive⟩
  next => cases h

/-- A node has at most one entry in the table. -/
theorem filter_eq_find? {devices : List Device} (nodes : (devices.map (·.node)).Nodup) :
    devices.filter (·.node = devNode) = (devices.find? (·.node = devNode)).toList := by
  induction devices with
  | nil => rfl
  | cons dev devices ih =>
    obtain ⟨other, rest⟩ := List.nodup_cons.mp nodes
    by_cases same : dev.node = devNode
    · subst same
      have none : devices.filter (·.node = dev.node) = [] := by
        simpa [List.filter_eq_nil_iff] using fun d hd eq => other (List.mem_map.mpr ⟨d, hd, eq⟩)
      simp [none]
    · simpa [same] using ih rest

theorem find?_eraseP {devices : List Device} (nodes : (devices.map (·.node)).Nodup)
    (other : DevNode) : (devices.eraseP (·.node = devNode)).find? (·.node = other) =
      if other = devNode then none else devices.find? (·.node = other) := by
  induction devices with
  | nil => simp
  | cons dev devices ih =>
    obtain ⟨unique, rest⟩ := List.nodup_cons.mp nodes
    by_cases same : dev.node = devNode
    · subst same
      have none : devices.find? (·.node = dev.node) = none := by
        simpa using fun d hd eq => unique (List.mem_map.mpr ⟨d, hd, eq⟩)
      grind
    · have later := ih rest
      grind

/-- A device is told of by turns. -/
theorem turns_snoc {told : List Told} {news : Told}
    (turns : List.IsChain (· ≠ ·) (.removed :: told)) (ne : told.getLastD .removed ≠ news) :
    List.IsChain (· ≠ ·) (.removed :: (told ++ [news])) := by
  rw [← List.cons_append]
  refine turns.append (.singleton news) fun a ha b hb => ?_
  obtain rfl : news = b := by simpa using hb
  obtain rfl : told.getLastD .removed = a := by
    simpa [List.getLast?_cons, List.getLastD_eq_getLast?] using ha
  exact ne

/-- A device comes to the table or goes, and observers are told. -/
theorem InOrder.tell (h : s.InOrder) {news : Told} {devices : List Device}
    (nodes : (devices.map (·.node)).Nodup)
    (ids : ∀ dev ∈ devices, parseDeviceId dev.node = .ok dev.id ∧ ¬ dev.id < 0)
    (before : dev ∈ s.devices ↔ news = .removed)
    (after : ∀ other, other ∈ devices ↔
      if other = dev then news = .added else other ∈ s.devices) :
    InOrder { s with devices, told := s.told ++ [(news, dev)] } := by
  have last := h.last dev
  have ne : (s.toldOf dev).getLastD .removed ≠ news := by
    cases news with
    | added => grind
    | removed =>
      rw [last.mpr (before.mpr rfl)]
      nofun
  refine ⟨nodes, ids, fun other => ?_, fun other => ?_⟩
  · by_cases same : other = dev
    · subst same
      simpa [toldOf] using turns_snoc (h.turns other) ne
    · simpa [toldOf, Ne.symm same] using h.turns other
  · by_cases same : other = dev
    · subst same
      simp [toldOf, after]
    · simpa [toldOf, Ne.symm same, after, same] using h.last other

/-- Without an exception either nothing is to be added, or the device of the node is. -/
theorem InOrder.addDevice_cases (h : s.InOrder) (small : ¬ s.Throws devNode) :
    (s.addDevice devNode = .ok s ∧ (s.findDevice devNode).or (s.deviceAt devNode) =
      s.findDevice devNode) ∨
    ∃ dev, s.deviceAt devNode = some dev ∧ s.findDevice devNode = none ∧
      s.addDevice devNode =
        .ok { s with devices := s.devices ++ [dev], told := s.told ++ [(.added, dev)] } := by
  unfold addDevice deviceAt
  cases present : s.findNode devNode with
  | none => exact .inl ⟨rfl, Option.or_none⟩
  | some node =>
    by_cases character : node.character = true
    · obtain ⟨id, number⟩ := parseDeviceId_eq_ok fun large =>
        small ⟨large, node, present, character⟩
      by_cases negative : id < 0
      · exact .inl ⟨by simp [character, number, bind, Except.bind, negative, pure, Except.pure],
          by simp [number, negative]⟩
      cases found : s.findDevice devNode with
      | some other =>
        exact .inl ⟨by simp [character, number, bind, Except.bind, pure, Except.pure], rfl⟩
      | none =>
        -- no other node has a name with this number
        have new : ¬ ∃ other ∈ s.devices, other.id = id := by
          rintro ⟨other, mem, rfl⟩
          have node := parseDeviceId_inj (h.ids other mem).1 number negative
          exact absurd (decide_eq_true node) (List.find?_eq_none.mp found other mem)
        refine .inr ⟨{ id, node := devNode, behind := node.behind }, ?_, rfl, ?_⟩
        · simp [number, character, negative]
        · simp [character, number, bind, Except.bind, negative, pure, Except.pure,
            insertOrAssign, new]
    · refine .inl ⟨by simp [character], ?_⟩
      cases parseDeviceId devNode <;> simp [character]

/-- What `AddDevice` does to the table while its number is not too large. -/
theorem InOrder.addDevice (h : s.InOrder) (small : ¬ s.Throws devNode) :
    ∃ devices told, s.addDevice devNode = .ok { s with devices, told } ∧
      InOrder { s with devices, told } ∧
      ∀ other, DeviceManager.findDevice other { s with devices, told } =
        if other = devNode then (s.findDevice devNode).or (s.deviceAt devNode)
        else s.findDevice other := by
  obtain ⟨eq, same⟩ | ⟨dev, present, none, eq⟩ := h.addDevice_cases small
  · refine ⟨s.devices, s.told, eq, h, fun other => ?_⟩
    change s.findDevice other = _
    rw [same]
    grind
  · obtain ⟨node, number⟩ := of_deviceAt present
    have absent : ∀ other ∈ s.devices, other.node ≠ devNode := by
      simpa [findDevice] using none
    have new : dev ∉ s.devices := fun mem => absent dev mem node
    refine ⟨_, _, eq, ?_, fun other => ?_⟩
    · apply h.tell
      · rw [List.map_append, List.nodup_append]
        refine ⟨h.nodes, List.nodup_singleton _, ?_⟩
        simpa [node] using absent
      · intro other mem
        obtain before | rfl := List.mem_append.mp mem |>.imp_right List.mem_singleton.mp
        · exact h.ids other before
        · exact node ▸ number
      · exact iff_of_false new nofun
      · grind
    · rw [none, present]
      unfold findDevice at none ⊢
      rw [List.find?_append]
      grind

theorem InOrder.findDevice_removeDevice (h : s.InOrder) (devNode other : DevNode) :
    (s.removeDevice devNode).findDevice other =
      if other = devNode then none else s.findDevice other := by
  cases found : s.findDevice devNode with
  | none => grind [removeDevice]
  | some dev =>
    simp only [removeDevice, found]
    exact find?_eraseP h.nodes other

theorem InOrder.removeDevice (h : s.InOrder) (devNode : DevNode) :
    (s.removeDevice devNode).InOrder := by
  cases found : s.findDevice devNode with
  | none => simpa [DeviceManager.removeDevice, found] using h
  | some dev =>
    obtain ⟨mem, rfl⟩ := of_findDevice found
    simp only [DeviceManager.removeDevice, found]
    apply h.tell
    · exact h.nodes.sublist (List.eraseP_sublist.map _)
    · exact fun other left => h.ids other (List.mem_of_mem_eraseP left)
    · exact iff_of_true mem rfl
    · intro other
      by_cases same : other.node = dev.node
      · have gone : (s.devices.eraseP (·.node = dev.node)).find? (·.node = dev.node) = none :=
          (find?_eraseP h.nodes dev.node).trans (if_pos rfl)
        have absent : other ∉ s.devices.eraseP (·.node = dev.node) := fun left =>
          List.find?_eq_none.mp gone other left (decide_eq_true same)
        have own : other ∈ s.devices → other = dev := fun was =>
          List.inj_on_of_nodup_map h.nodes was mem same
        grind
      · rw [List.mem_eraseP_of_neg (by simpa using same)]
        grind

theorem removeDevice_frame (devNode : DevNode) (s : DeviceManager) :
    ∃ devices told, s.removeDevice devNode = { s with devices, told } := by
  unfold DeviceManager.removeDevice
  split
  · exact ⟨s.devices, s.told, rfl⟩
  · exact ⟨_, _, rfl⟩

theorem deviceAt_congr {t : DeviceManager} (same : t.findNode devNode = s.findNode devNode) :
    t.deviceAt devNode = s.deviceAt devNode := by
  unfold deviceAt
  rw [same]

theorem deviceAt_of_absent (absent : s.findNode devNode = none) : s.deviceAt devNode = none := by
  simp [deviceAt, absent]

theorem Good.onEnable (h : s.Good) (idle : s.scanning = none) (failed : Bool)
    (ok : s.Fresh (.enable failed)) : (s.onEnable failed).Good := by
  cases failed with
  | true => exact ⟨⟨h.nodes, h.ids, h.turns, h.last⟩, h.runs, fun _ => rfl, nofun⟩
  | false =>
    refine ⟨⟨h.nodes, h.ids, h.turns, h.last⟩, h.runs, nofun, fun _ devNode => ?_⟩
    show (if devNode ∈ s.nodes.map (·.name) then
      (s.findDevice devNode).or (s.deviceAt devNode) else s.findDevice devNode) =
      s.deviceAt devNode
    have own : s.findDevice devNode = none ∨ s.findDevice devNode = s.deviceAt devNode := by
      cases found : s.findDevice devNode with
      | none => exact .inl rfl
      | some dev =>
        obtain ⟨mem, rfl⟩ := of_findDevice found
        exact .inr (ok idle dev mem).symm
    have absent : devNode ∉ s.nodes.map (·.name) → s.deviceAt devNode = none := fun gone =>
      deviceAt_of_absent (List.find?_eq_none.mpr fun node mem same =>
        gone (List.mem_map.mpr ⟨node, mem, of_decide_eq_true same⟩))
    grind

theorem Good.onDisable (h : s.Good) : s.onDisable.Good :=
  ⟨⟨h.nodes, h.ids, h.turns, h.last⟩, h.runs, fun _ => rfl, nofun⟩

theorem Good.scan (h : s.Good) (devNode : DevNode) (ok : s.Fresh (.scan devNode)) :
    (step (.scan devNode) s).Good := by
  cases busy : s.scanning with
  | none => simpa only [step, busy] using h
  | some names =>
    have small : ¬ s.Throws devNode := ok (by rw [busy]; nofun)
    obtain ⟨devices, told, eq, order, found⟩ := h.toInOrder.addDevice small
    simp only [step, busy, eq]
    refine ⟨⟨order.nodes, order.ids, order.turns, order.last⟩, h.runs, h.quiet,
      fun watching other => ?_⟩
    have synced := h.synced watching other
    have same := found other
    show settle (s.deviceAt other) (if other ∈ names.filter (· ≠ devNode) then
      (DeviceManager.findDevice other { s with devices, told }).or (s.deviceAt other)
      else DeviceManager.findDevice other { s with devices, told }) (s.noticesOf other) =
      s.deviceAt other
    rw [same]
    simp only [expected, busy, Option.getD_some] at synced
    by_cases node : other = devNode
    · subst node
      simp only [List.mem_filter, decide_not]
      split at synced
      next => simpa using synced
      next => simpa using settle_or synced
    · simpa [node] using synced

theorem Good.scanned (h : s.Good) : (step .scanned s).Good := by
  simp only [step]
  split
  next finished =>
    refine ⟨⟨h.nodes, h.ids, h.turns, h.last⟩, h.runs, h.quiet, fun watching devNode => ?_⟩
    have synced := h.synced watching devNode
    simp only [expected, finished, Option.getD_some] at synced
    exact synced
  next => exact h

theorem Good.unread (h : s.Good) (ok : s.Fresh .unread) : (step .unread s).Good := by
  refine ⟨⟨h.nodes, h.ids, h.turns, h.last⟩, h.runs, h.quiet, fun watching devNode => ?_⟩
  have synced := h.synced watching devNode
  show settle (s.deviceAt devNode) (s.findDevice devNode) (s.noticesOf devNode) =
    s.deviceAt devNode
  unfold expected at synced
  split at synced
  next left =>
    rw [ok devNode left] at synced ⊢
    simpa using synced
  next => exact synced

/-- The notices about a node after a change of the directory. -/
theorem noticesOf_notify (change : Change) (devNode other : DevNode) (watching : s.enabled = true) :
    ((s.notify change devNode).filter (·.2 = other)).map (·.1) =
      s.noticesOf other ++ if other = devNode then [change] else [] := by
  simp only [notify, watching, if_true, List.filter_append, List.map_append, noticesOf]
  by_cases same : other = devNode
  · simp [same]
  · simp [same, Ne.symm same]

theorem notify_quiet (h : s.Good) (change : Change) (devNode : DevNode)
    (down : s.enabled = false) : s.notify change devNode = [] := by
  simp [notify, down, h.quiet down]

theorem Good.appear (h : s.Good) (absent : s.findNode devNode = none) (character : Bool) :
    (s.appear devNode character).Good := by
  refine ⟨⟨h.nodes, h.ids, h.turns, h.last⟩, h.runs, notify_quiet h .create devNode,
    fun watching other => ?_⟩
  have synced := h.synced watching other
  have notices : (s.appear devNode character).noticesOf other = _ :=
    noticesOf_notify .create devNode other watching
  rw [notices]
  show settle ((s.appear devNode character).deviceAt other) (if other ∈ s.scanning.getD [] then
    (s.findDevice other).or ((s.appear devNode character).deviceAt other)
    else s.findDevice other) _ = (s.appear devNode character).deviceAt other
  by_cases node : other = devNode
  · subst node
    rw [deviceAt_of_absent absent] at synced
    rw [if_pos rfl, settle_append]
    simp only [expected, deviceAt_of_absent absent, Option.or_none, ite_self] at synced
    simp only [settle]
    split
    · exact settle_or_appear synced
    · exact settle_appear synced
  · have same : (s.appear devNode character).deviceAt other = s.deviceAt other := by
      apply deviceAt_congr
      simp [findNode, DeviceManager.appear, Ne.symm node]
    rw [same, if_neg node, List.append_nil]
    exact synced

theorem Good.disappear (h : s.Good) (devNode : DevNode) : (s.disappear devNode).Good := by
  refine ⟨⟨h.nodes, h.ids, h.turns, h.last⟩, h.runs, notify_quiet h .delete devNode,
    fun watching other => ?_⟩
  have synced := h.synced watching other
  have notices : (s.disappear devNode).noticesOf other = _ :=
    noticesOf_notify .delete devNode other watching
  rw [notices]
  by_cases node : other = devNode
  · subst node
    have gone : (s.disappear other).deviceAt other = none := by
      apply deviceAt_of_absent
      simp [findNode, DeviceManager.disappear]
    rw [gone, if_pos rfl, settle_append]
    rfl
  · have same : (s.disappear devNode).deviceAt other = s.deviceAt other := by
      apply deviceAt_congr
      simp only [findNode, DeviceManager.disappear, List.find?_filter]
      grind
    have expects : (s.disappear devNode).expected other = s.expected other := by
      have waits : other ∈ (s.disappear devNode).scanning.getD [] ↔ other ∈ s.scanning.getD [] := by
        cases busy : s.scanning <;> simp [DeviceManager.disappear, busy, node]
      simp only [expected, same, waits]
      rfl
    rw [same, expects, if_neg node, List.append_nil]
    exact synced

/-- What a notice makes of the device of a node. -/
theorem settle_cons (now dev : Option Device) (change : Change) (rest : List Change) :
    settle now dev (change :: rest) =
      settle now (if change = .create then dev.or now else none) rest := by
  cases change <;> rfl

theorem InOrder.handleInotifyEvent (h : s.InOrder) {change : Change}
    (small : change = .create → ¬ s.Throws devNode) :
    ∃ devices told, s.handleInotifyEvent change devNode = .ok { s with devices, told } ∧
      InOrder { s with devices, told } ∧
      ∀ other, DeviceManager.findDevice other { s with devices, told } =
        if other = devNode then
          if change = .create then (s.findDevice devNode).or (s.deviceAt devNode) else none
        else s.findDevice other := by
  cases change with
  | create => exact h.addDevice (small rfl)
  | delete =>
    have order := h.removeDevice devNode
    have found := h.findDevice_removeDevice devNode
    obtain ⟨devices, told, eq⟩ := removeDevice_frame devNode s
    rw [eq] at order found
    exact ⟨devices, told, congrArg Except.ok eq, order, found⟩

theorem Good.deliver (h : s.Good) (ok : s.Fresh .deliver) : (step .deliver s).Good := by
  cases idle : s.scanning with
  | some names => simpa [step, idle] using h
  | none =>
    match first : s.notices with
    | [] => simpa [step, idle, first] using h
    | (change, devNode) :: rest =>
      have small : change = .create → ¬ s.Throws devNode := by
        rintro rfl
        exact ok idle devNode rest first
      obtain ⟨devices, told, eq, order, found⟩ := h.toInOrder.handleInotifyEvent small
      simp only [step, idle, Option.isSome_none, Bool.false_eq_true, if_false, first, eq]
      refine ⟨⟨order.nodes, order.ids, order.turns, order.last⟩, h.runs, fun down => ?_,
        fun watching other => ?_⟩
      · simp [h.quiet down] at first
      · have synced := h.synced watching other
        have same := found other
        show settle (s.deviceAt other) (DeviceManager.findDevice other { s with devices, told })
          ((rest.filter (·.2 = other)).map (·.1)) = s.deviceAt other
        rw [same]
        simp only [expected, noticesOf, first, idle, Option.getD_none, List.not_mem_nil,
          if_false] at synced ⊢
        by_cases node : other = devNode
        · subst node
          simpa [settle_cons] using synced
        · simpa [node, Ne.symm node] using synced

theorem Good.step (l : Label) (h : s.Good) (ok : s.Fresh l) : (step l s).Good := by
  cases l with
  | enable failed =>
    cases idle : s.scanning with
    | none => simpa [DeviceManager.step, idle] using h.onEnable idle failed ok
    | some names => simpa [DeviceManager.step, idle] using h
  | scan devNode => exact h.scan devNode ok
  | scanned => exact h.scanned
  | unread => exact h.unread ok
  | disable =>
    cases idle : s.scanning with
    | none => simpa [DeviceManager.step, idle] using h.onDisable
    | some names => simpa [DeviceManager.step, idle] using h
  | appear devNode character =>
    cases absent : s.findNode devNode with
    | none => simpa [DeviceManager.step, absent] using h.appear absent character
    | some node => simpa [DeviceManager.step, absent] using h
  | disappear devNode =>
    cases present : s.findNode devNode with
    | none => simpa [DeviceManager.step, present] using h
    | some node => simpa [DeviceManager.step, present] using h.disappear devNode
  | deliver => exact h.deliver ok

theorem Good.next (l : Label) (s : DeviceManager) (h : s.Good) (ok : s.Fresh l) :
    (next l s).Good := by
  rw [DeviceManager.next, h.runs]
  exact h.step l ok

theorem Good.follows (h : s.Good) (settled : s.Settled) : s.Follows := by
  obtain ⟨watching, idle, delivered⟩ := settled
  refine ⟨h.runs, fun devNode => ?_, h.turns, h.last⟩
  have synced := h.synced watching devNode
  simp only [expected, idle, noticesOf, delivered, Option.getD_none, List.not_mem_nil, if_false,
    List.filter_nil, List.map_nil, settle] at synced
  rw [filter_eq_find? h.nodes, ← synced]
  rfl

/-- In every run in which the manager is enabled only with a table that fits the directory, the
table follows the directory. -/
theorem follows_of_fresh (tr : List Label) (run : EachStep next (fun l s => s.Fresh l) {} tr)
    (settled : (runFrom next {} tr).Settled) : (runFrom next {} tr).Follows :=
  (run.invariant Good.next good_start).follows settled

def event0 : DevNode := ['e', 'v', 'e', 'n', 't', '0']

def event1 : DevNode := ['e', 'v', 'e', 'n', 't', '1']

theorem not_throws_nodeName {n : ℕ} (fits : n < 2 ^ 31) : ¬ s.Throws (nodeName n) := by
  rintro ⟨⟨m, large, same⟩, -⟩
  have number := nodeName_inj same
  omega

theorem not_throws_event0 : ¬ s.Throws event0 := not_throws_nodeName (n := 0) (by decide)

theorem not_throws_event1 : ¬ s.Throws event1 := not_throws_nodeName (n := 1) (by decide)

/-- A device is found by the scan and replaced, another one appears, and the manager is disabled
and enabled again. -/
def replaced : List Label :=
  [.appear event0 true, .enable false, .scan event0, .scanned, .disappear event0,
    .appear event0 true, .appear event1 true, .deliver, .deliver, .deliver, .disable,
    .enable false, .scan event1, .scan event0, .scanned]

theorem follows_replaced : (runFrom next {} replaced).Follows := by
  refine follows_of_fresh replaced (.cons trivial (.cons ?_ (.cons (fun _ => not_throws_event0)
    (.cons trivial (.cons trivial (.cons trivial (.cons trivial (.cons ?_ (.cons ?_ (.cons ?_
    (.cons trivial (.cons ?_ (.cons (fun _ => not_throws_event1)
    (.cons (fun _ => not_throws_event0) (.cons trivial .nil))))))))))))))) ?_
  · exact fun _ _ => nofun
  · rintro - devNode rest ⟨⟩
  · rintro - devNode rest ⟨⟩
    exact not_throws_event0
  · rintro - devNode rest ⟨⟩
    exact not_throws_event1
  · exact fun _ => by decide +kernel
  · exact ⟨by decide +kernel, by decide +kernel, by decide +kernel⟩

/-- A device is replaced while the manager is disabled. -/
def unseen : List Label :=
  [.appear event0 true, .enable false, .scan event0, .scanned, .disable, .disappear event0,
    .appear event0 true, .enable false, .scan event0, .scanned]

/-- The table still has the device that was there before. -/
theorem unseen_replacement :
    (runFrom next {} unseen).Settled ∧ ¬ (runFrom next {} unseen).Follows := by
  refine ⟨⟨by decide +kernel, by decide +kernel, by decide +kernel⟩, fun follows => ?_⟩
  exact absurd (follows.devices event0) (by decide +kernel)

end DeviceManager

end DeviceStatus.Devices
