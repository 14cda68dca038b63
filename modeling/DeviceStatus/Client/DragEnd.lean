import DeviceStatus.Drag.DropBehavior

/-!
# The listener of a drag

`DragClient::StartDrag` stores its listener before it asks the service. The next result that comes,
or the loss of the connection, is told to the listener that is stored then.

## Main definitions

* `DragNotifyPacket` — the packet of a result, and what the client accepts of it.
* `StartDragClient`, `StartDragClient.next` — the listener that is stored, and the drags that the
  service has accepted and whose results have not come.
* `StartDragClient.TellsRight` — the end of a drag is told to the listener of that drag.
* `StartDragClient.InTime` — the last listener that was passed is the one to be told.
-/

namespace DeviceStatus.Client

open Transition.System
open Drag

/-! ### Packets of a result -/

def resultCode : DragResult → ℤ
  | .dragSuccess => 0
  | .dragFail => 1
  | .dragCancel => 2
  | .dragException => 3

def behaviorCode : DragBehavior → ℤ
  | .unknown => -1
  | .copy => 0
  | .move => 1

/-- `static_cast<DragResult>`, of a number in range. -/
def resultOf (code : ℤ) : DragResult :=
  if code = 0 then .dragSuccess
  else if code = 1 then .dragFail
  else if code = 2 then .dragCancel
  else .dragException

def behaviorOf (code : ℤ) : DragBehavior :=
  if code = -1 then .unknown else if code = 0 then .copy else .move

structure DragNotifyPacket where
  displayX : ℤ
  displayY : ℤ
  result : ℤ
  targetPid : ℤ
  dragBehavior : ℤ
  dragAnimationType : ℤ

namespace DragNotifyPacket

/-- What `NotifyDragResult` writes. -/
def write (msg : DragNotifyMsg) : DragNotifyPacket :=
  { msg with result := resultCode msg.result, dragBehavior := behaviorCode msg.dragBehavior }

/-- What `OnNotifyResult` reads, unless the packet is refused. -/
def read (pkt : DragNotifyPacket) : Option DragNotifyMsg :=
  if pkt.result < resultCode .dragSuccess ∨ resultCode .dragException < pkt.result then none
  else if pkt.dragBehavior < behaviorCode .unknown ∨ behaviorCode .move < pkt.dragBehavior then none
  else
    some { pkt with result := resultOf pkt.result, dragBehavior := behaviorOf pkt.dragBehavior }

theorem read_write (msg : DragNotifyMsg) : (write msg).read = some msg := by
  rcases msg with ⟨_, _, _ | _ | _ | _, _, _ | _ | _, _⟩ <;> rfl

end DragNotifyPacket

/-! ### Starting a drag -/

variable {PixelMap : Type}

def MAX_BUFFER_SIZE : ℕ := 512

/-- What `StartDrag` checks of a shadow; `size` gives the width and the height of a pixel map. -/
def shadowInvalid (size : PixelMap → Int32 × Int32) (shadowInfo : ShadowInfo PixelMap) : Bool :=
  shadowInfo.pixelMap.elim true fun pixelMap =>
    0 < shadowInfo.x ∨ 0 < shadowInfo.y ∨ shadowInfo.x < -(size pixelMap).1 ∨
      shadowInfo.y < -(size pixelMap).2

/-- Whether `StartDrag` gets as far as the listener. -/
def dragDataValid (size : PixelMap → Int32 × Int32) (dragData : DragData PixelMap) : Bool :=
  !dragData.shadowInfos.isEmpty && !dragData.shadowInfos.any (shadowInvalid size) &&
    !(dragData.dragNum ≤ 0 ∨ MAX_BUFFER_SIZE < dragData.buffer.length ∨ dragData.displayX < 0 ∨
      dragData.displayY < 0)

/-- A call of the application with the answer of the service, or what the connection brings. -/
inductive StartDragCall (PixelMap : Type) where
  | startDrag (dragData : DragData PixelMap) (listener : Option ℕ) (answer : Bool)
  | notifyResult (msg : DragNotifyMsg)
  | disconnected

structure StartDragClient where
  startDragListener : Option ℕ := none
  /-- the listeners of the drags that the service has accepted, until their results come -/
  awaiting : List ℕ := []
  /-- what has been told since the last step began -/
  told : List (ℕ × DragNotifyMsg) := []
  deriving DecidableEq

namespace StartDragClient

variable (size : PixelMap → Int32 × Int32)

/-- Whether it returns `RET_OK`. -/
def startDrag (dragData : DragData PixelMap) (listener : Option ℕ) (answer : Bool)
    (c : StartDragClient) : Bool × StartDragClient :=
  match listener with
  | none => (false, c)
  | some listener =>
    if dragDataValid size dragData = false then (false, c)
    else
      let c := { c with startDragListener := some listener }
      if answer then (true, { c with awaiting := c.awaiting ++ [listener] }) else (false, c)

/-- Tells the listener that is stored, if there is one. -/
def tell (msg : DragNotifyMsg) (c : StartDragClient) : StartDragClient :=
  match c.startDragListener with
  | none => c
  | some listener => { c with told := c.told ++ [(listener, msg)], startDragListener := none }

def onNotifyResult (pkt : DragNotifyPacket) (c : StartDragClient) : StartDragClient :=
  match pkt.read with
  | none => c
  | some msg => c.tell msg

/-- What a listener is told when the connection is lost. -/
def cancelled : DragNotifyMsg := { result := .dragCancel }

def onDisconnected (c : StartDragClient) : StartDragClient := c.tell cancelled

/-- The results of the drags come in the order in which they were accepted, and none comes any
more once the connection is lost. -/
def next (call : StartDragCall PixelMap) (c : StartDragClient) : StartDragClient :=
  let c := { c with told := [] }
  match call with
  | .startDrag dragData listener answer => (c.startDrag size dragData listener answer).2
  | .notifyResult msg =>
    { c.onNotifyResult (DragNotifyPacket.write msg) with awaiting := c.awaiting.tail }
  | .disconnected => { c.onDisconnected with awaiting := [] }

/-- The result of a drag is told to its listener, the loss of the connection to the listeners of
the drags whose results have not come, and a call of `StartDrag` to nobody. -/
structure TellsRight (call : StartDragCall PixelMap) (c : StartDragClient) : Prop where
  startDrag : ∀ dragData listener answer, call = .startDrag dragData listener answer →
    (c.next size call).told = []
  result : ∀ msg listener, call = .notifyResult msg → c.awaiting.head? = some listener →
    (c.next size call).told = [(listener, msg)]
  disconnected : call = .disconnected →
    (c.next size call).told.Perm (c.awaiting.map fun listener => (listener, cancelled))

/-- The call stores a listener or takes it away. -/
def Changes (call : StartDragCall PixelMap) : Prop :=
  match call with
  | .startDrag dragData listener _ => listener.isSome ∧ dragDataValid size dragData = true
  | .notifyResult _ | .disconnected => True

/-- The last of the calls that change the listener passes this one. -/
def Latest (calls : List (StartDragCall PixelMap)) (listener : ℕ) : Prop :=
  ∃ before dragData answer after,
    calls = before ++ .startDrag dragData (some listener) answer :: after ∧
      dragDataValid size dragData = true ∧ ∀ call ∈ after, ¬ Changes size call

/-- At the result of a drag its listener is the last that was passed, and no result and no loss of
the connection has come since; when the connection is lost no drag is awaited and no listener has
been passed since, or it is the one drag that is awaited whose listener is the last. -/
def InTime (calls : List (StartDragCall PixelMap)) (call : StartDragCall PixelMap) : Prop :=
  let awaiting := (runFrom (next size) {} calls).awaiting
  match call with
  | .startDrag _ _ _ => True
  | .notifyResult _ => ∀ listener, awaiting.head? = some listener → Latest size calls listener
  | .disconnected =>
    (awaiting = [] ∧ ∀ listener, ¬ Latest size calls listener) ∨
      ∃ listener, awaiting = [listener] ∧ Latest size calls listener

variable {size} {c : StartDragClient}

/-! ### The listener that is stored -/

@[simp] theorem onNotifyResult_write (msg : DragNotifyMsg) :
    c.onNotifyResult (DragNotifyPacket.write msg) = c.tell msg := by
  rw [onNotifyResult, DragNotifyPacket.read_write]

@[simp] theorem startDragListener_tell (msg : DragNotifyMsg) :
    (c.tell msg).startDragListener = none := by
  cases stored : c.startDragListener <;> simp [tell, stored]

theorem told_tell (msg : DragNotifyMsg) :
    (c.tell msg).told =
      c.told ++ c.startDragListener.toList.map fun listener => (listener, msg) := by
  cases stored : c.startDragListener <;> simp [tell, stored]

/-- What a call makes of the listener that is stored. -/
theorem startDragListener_next (call : StartDragCall PixelMap) (c : StartDragClient)
    (listener : ℕ) :
    (c.next size call).startDragListener = some listener ↔
      (∃ dragData answer, call = .startDrag dragData (some listener) answer ∧
        dragDataValid size dragData = true) ∨
      ¬ Changes size call ∧ c.startDragListener = some listener := by
  cases call with
  | notifyResult msg => simp [next, Changes]
  | disconnected => simp [next, onDisconnected, Changes]
  | startDrag dragData passed answer =>
    cases passed with
    | none => simp [next, startDrag, Changes]
    | some passed =>
      cases valid : dragDataValid size dragData with
      | false => simp [next, startDrag, Changes, valid]
      | true => cases answer <;> simp [next, startDrag, Changes, valid]

theorem latest_append_singleton (calls : List (StartDragCall PixelMap))
    (call : StartDragCall PixelMap) (listener : ℕ) :
    Latest size (calls ++ [call]) listener ↔
      (∃ dragData answer, call = .startDrag dragData (some listener) answer ∧
        dragDataValid size dragData = true) ∨
      ¬ Changes size call ∧ Latest size calls listener := by
  constructor
  · rintro ⟨before, dragData, answer, after, eq, valid, quiet⟩
    rcases List.eq_nil_or_concat after with rfl | ⟨after, last, rfl⟩
    · obtain ⟨-, same⟩ := List.append_inj' eq rfl
      exact .inl ⟨dragData, answer, List.singleton_inj.mp same, valid⟩
    · rw [List.concat_eq_append, ← List.cons_append, ← List.append_assoc] at eq
      obtain ⟨same, last_eq⟩ := List.append_inj' eq rfl
      obtain rfl := List.singleton_inj.mp last_eq
      refine .inr ⟨quiet call (by simp), before, dragData, answer, after, same, valid, ?_⟩
      intro other mem
      exact quiet other (by simp [mem])
  · rintro (⟨dragData, answer, rfl, valid⟩ |
      ⟨kept, before, dragData, answer, after, rfl, valid, quiet⟩)
    · exact ⟨calls, dragData, answer, [], rfl, valid, by simp⟩
    · refine ⟨before, dragData, answer, after ++ [call], by simp, valid, ?_⟩
      intro other mem
      rcases List.mem_append.mp mem with mem | mem
      · exact quiet other mem
      · rwa [List.mem_singleton.mp mem]

/-- The listener that is stored is the last that was passed. -/
theorem startDragListener_run (calls : List (StartDragCall PixelMap)) (listener : ℕ) :
    (runFrom (next size) {} calls).startDragListener = some listener ↔
      Latest size calls listener := by
  induction calls using List.reverseRecOn with
  | nil => simp [runFrom, Latest]
  | append_singleton calls call ih =>
    rw [runFrom_append, latest_append_singleton, ← ih]
    exact startDragListener_next ..

/-! ### What is told -/

theorem told_startDrag (dragData : DragData PixelMap) (listener : Option ℕ) (answer : Bool) :
    (c.next size (.startDrag dragData listener answer)).told = [] := by
  cases listener with
  | none => rfl
  | some listener =>
    cases valid : dragDataValid size dragData <;> cases answer <;> simp [next, startDrag, valid]

theorem told_notifyResult (msg : DragNotifyMsg) :
    (c.next size (.notifyResult msg)).told =
      c.startDragListener.toList.map fun listener => (listener, msg) := by
  simp [next, told_tell]

theorem told_disconnected :
    (c.next size .disconnected).told =
      c.startDragListener.toList.map fun listener => (listener, cancelled) := by
  simp [next, onDisconnected, told_tell]

/-- One listener is told of the lost connection when one drag, with that listener, is awaited. -/
theorem told_perm_iff (stored : Option ℕ) (awaiting : List ℕ) :
    (stored.toList.map fun listener => (listener, cancelled)).Perm
        (awaiting.map fun listener => (listener, cancelled)) ↔
      (awaiting = [] ∧ ∀ listener, stored ≠ some listener) ∨
        ∃ listener, awaiting = [listener] ∧ stored = some listener := by
  cases stored with
  | none =>
    rw [Option.toList_none, List.map_nil, List.nil_perm, List.map_eq_nil_iff]
    simp
  | some stored =>
    rw [Option.toList_some, List.map_singleton, List.singleton_perm]
    constructor
    · intro same
      obtain ⟨listener, rfl, told⟩ := List.map_eq_singleton_iff.mp same.symm
      exact .inr ⟨listener, rfl, congrArg some (Prod.mk.inj told).1.symm⟩
    · rintro (⟨-, none⟩ | ⟨listener, rfl, same⟩)
      · exact absurd rfl (none stored)
      · rw [Option.some.inj same]
        rfl

theorem tellsRight_iff (calls : List (StartDragCall PixelMap)) (call : StartDragCall PixelMap) :
    TellsRight size call (runFrom (next size) {} calls) ↔ InTime size calls call := by
  have latest (listener : ℕ) :
      (runFrom (next size) {} calls).startDragListener = some listener ↔
        Latest size calls listener := startDragListener_run calls listener
  cases call with
  | startDrag dragData listener answer =>
    exact iff_of_true ⟨fun _ _ _ _ => told_startDrag dragData listener answer, by simp, by simp⟩
      trivial
  | notifyResult msg =>
    constructor
    · intro right listener awaited
      have told := right.result msg listener rfl awaited
      rw [told_notifyResult, List.map_eq_singleton_iff] at told
      obtain ⟨stored, only, same⟩ := told
      obtain rfl := (Prod.mk.inj same).1
      exact (latest stored).mp (Option.toList_eq_singleton_iff.mp only)
    · intro inTime
      refine ⟨by simp, ?_, by simp⟩
      rintro _ listener ⟨⟩ awaited
      rw [told_notifyResult, (latest listener).mpr (inTime listener awaited)]
      rfl
  | disconnected =>
    have perm := told_perm_iff (runFrom (next size) {} calls).startDragListener
      (runFrom (next size) {} calls).awaiting
    simp only [ne_eq, latest] at perm
    constructor
    · intro right
      have told := right.disconnected rfl
      rw [told_disconnected] at told
      exact perm.mp told
    · intro inTime
      refine ⟨by simp, by simp, fun _ => ?_⟩
      rw [told_disconnected]
      exact perm.mpr inTime

/-- Every listener is told of the end of its drag, and of no other, exactly in the runs in which the
one to be told is the last that was passed. -/
theorem drag_end_told_iff (calls : List (StartDragCall PixelMap)) :
    EachStep (next size) (TellsRight size) {} calls ↔
      ∀ before call, before ++ [call] <+: calls → InTime size before call :=
  forall_congr' fun before => forall_congr' fun call =>
    imp_congr_right fun _ => tellsRight_iff before call

/-- While one drag is running the service refuses another; the result of the first is told to the
listener of the second. -/
theorem drag_end_told_to_refused :
    ¬ ∀ (size : Unit → Int32 × Int32) (calls : List (StartDragCall Unit)),
      EachStep (next size) (TellsRight size) {} calls := by
  intro h
  let dragData : DragData Unit :=
    { shadowInfos := [{ pixelMap := some () }], dragNum := 1, displayX := 0, displayY := 0 }
  let msg : DragNotifyMsg := { result := .dragSuccess }
  let before : List (StartDragCall Unit) :=
    [.startDrag dragData (some 1) true, .startDrag dragData (some 2) false]
  have right := h (fun _ => (10, 10)) (before ++ [.notifyResult msg]) before (.notifyResult msg)
    List.prefix_rfl
  exact absurd (right.result msg 1 rfl (by decide)) (by decide)

end StartDragClient

end DeviceStatus.Client
