import DeviceStatus.InputEvent.InputEventBuilder
import DeviceStatus.InputEvent.RoundTrip
import DeviceStatus.Library.Presses

/-!
# What the builder leaves pressed

The builder as a receiver of two streams of reports, one of buttons and one of keys. Its record
is the event decoded last, so a packet that cannot be decoded, or the first one of another peer,
wipes out what the packets before it have pressed.

## Main definitions

* `BuilderCall`, `InputEventBuilder.next` — what is done with the builder while it is enabled.
* `InputEventBuilder.NothingStuck` — everything that was simulated as pressed was released.
* `InputEventBuilder.buttonLabel`, `InputEventBuilder.keyLabel` — what a call reports.
-/

namespace DeviceStatus.InputEvents

open Ipc Presses Transition.System
open Cooperation (DragState)

/-- The calls of the builder but `Disable`. A packet is one that the softbus hands to its
observers. -/
inductive BuilderCall (platform : Platform) where
  | enable (freezeCursor : Bool) (peer : StdString)
  | packet (arrival : Arrival platform) (networkId : StdString) (packet : NetPacket)
  | update (peer : StdString)
  | freeze
  | thaw
  | setDamplingCoefficient (direction : UInt32) (coefficient : Double)
  | updateVirtualDeviceIdMap (remote2VirtualIds : Int32 → Option Int32)
  | setStopByScreenOffOrLock (stopByScreenOffOrLock : Bool)

variable {mmi : MmiConstants} {platform : Platform} (codes : ActionCodes)
  (arithmetic : DoubleArithmetic)

/-- What a pointer event does to its button. -/
def PointerEvent.stroke (event : PointerEvent mmi) : Option (Stroke Int32) :=
  if event.pointerAction = codes.POINTER_ACTION_BUTTON_DOWN then some (.press event.buttonId)
  else if event.pointerAction = codes.POINTER_ACTION_BUTTON_UP ∨
      event.pointerAction = codes.POINTER_ACTION_CANCEL then some (.release event.buttonId)
  else none

/-- What a key event does to its key. -/
def KeyEvent.stroke (event : KeyEvent) : Option (Stroke Int32) :=
  if event.keyAction = codes.KEY_ACTION_DOWN then some (.press event.keyCode)
  else if event.keyAction = codes.KEY_ACTION_UP ∨
      event.keyAction = codes.KEY_ACTION_CANCEL then some (.release event.keyCode)
  else none

def BuilderOutput.buttonStroke : BuilderOutput mmi → Option (Stroke Int32)
  | .simulatePointerEvent event => event.stroke codes
  | _ => none

def BuilderOutput.keyStroke : BuilderOutput mmi → Option (Stroke Int32)
  | .simulateKeyEvent event => event.stroke codes
  | _ => none

namespace InputEventBuilder

/-- The builder gets packets while its observer is registered. -/
def next : BuilderCall platform → InputEventBuilder mmi → InputEventBuilder mmi
  | .enable freezeCursor peer, b => b.enable freezeCursor peer
  | .packet arrival networkId packet, b =>
    if b.enabled then (b.onPacket codes arithmetic arrival networkId packet).2 else b
  | .update peer, b => b.update peer
  | .freeze, b => b.freeze
  | .thaw, b => b.thaw
  | .setDamplingCoefficient direction coefficient, b =>
    b.setDamplingCoefficient arithmetic direction coefficient
  | .updateVirtualDeviceIdMap ids, b => b.updateVirtualDeviceIdMap ids
  | .setStopByScreenOffOrLock stop, b => b.setStopByScreenOffOrLock stop

/-- What has been simulated with buttons. -/
def buttonLog (b : InputEventBuilder mmi) : List (Stroke Int32) :=
  b.outputs.filterMap (BuilderOutput.buttonStroke codes)

/-- What has been simulated with keys. -/
def keyLog (b : InputEventBuilder mmi) : List (Stroke Int32) :=
  b.outputs.filterMap (BuilderOutput.keyStroke codes)

/-- No button and no key is left whose last simulated event was a press. -/
def NothingStuck (b : InputEventBuilder mmi) : Prop :=
  (∀ buttonId, ¬ Down (b.buttonLog codes) buttonId) ∧ ∀ keyCode, ¬ Down (b.keyLog codes) keyCode

/-! ## Reports -/

/-- A decoded event in the builder is simulated. -/
def simulates (b : InputEventBuilder mmi) : Bool :=
  (b.isActive codes).1 &&
    (b.pointerEvent.sourceType ≠ codes.SOURCE_TYPE_MOUSE ||
      (b.pointerEvent.getPointerItem b.pointerEvent.pointerId).isSome)

/-- What has been decoded of a pointer packet as a report of buttons. -/
def decodedButtons (decoded : Bool × Filled mmi) (b : InputEventBuilder mmi) : Report Int32 where
  complete := decoded.1
  pressed := decoded.2.event.pressedButtons
  stroke := decoded.2.event.stroke codes
  shown := decoded.1 && { b with pointerEvent := decoded.2.event }.simulates codes
  complete_of_shown := by simp +contextual

def buttonReport (arrival : Arrival platform) (packet : StreamBuffer)
    (b : InputEventBuilder mmi) : Report Int32 :=
  b.decodedButtons codes
    (unmarshalling arrival.pointer packet (PointerEvent.create mmi) (-1))

/-- What has been decoded of a key packet as a report of keys. -/
def decodedKeys (decoded : Bool × KeyEvent × StreamBuffer) : Report Int32 where
  complete := decoded.1
  pressed := decoded.2.1.getPressedKeys.toFinset
  stroke := decoded.2.1.stroke codes
  shown := decoded.1
  complete_of_shown := id

def keyReport (arrival : Arrival platform) (packet : StreamBuffer) : Report Int32 :=
  decodedKeys codes (netPacketToKeyEvent arrival.key packet {})

/-- What a call reports of the buttons. -/
def buttonLabel : BuilderCall platform → InputEventBuilder mmi → Option (Label Int32)
  | .packet arrival networkId packet, b =>
    if b.enabled ∧ networkId = b.remoteNetworkId ∧ packet.msgId = DSOFTBUS_INPUT_POINTER_EVENT
    then some (.report (b.buttonReport codes arrival packet.toStreamBuffer))
    else none
  | .enable _ _, b => if b.enabled then none else some .newSender
  | .update peer, b => if peer = b.remoteNetworkId then none else some .newSender
  | _, _ => none

/-- What a call reports of the keys. -/
def keyLabel : BuilderCall platform → InputEventBuilder mmi → Option (Label Int32)
  | .packet arrival networkId packet, b =>
    if b.enabled ∧ networkId = b.remoteNetworkId ∧ packet.msgId = DSOFTBUS_INPUT_KEY_EVENT
    then some (.report (keyReport codes arrival packet.toStreamBuffer))
    else none
  | .enable _ _, b => if b.enabled then none else some .newSender
  | .update peer, b => if peer = b.remoteNetworkId then none else some .newSender
  | _, _ => none

/-! ## A decoded pointer event -/

/-- Two builders have simulated the same and hold events that say the same of buttons and
keys. -/
structure Agrees (b b' : InputEventBuilder mmi) : Prop where
  enabled : b'.enabled = b.enabled
  outputs : b'.outputs = b.outputs
  keyEvent : b'.keyEvent = b.keyEvent
  pressedButtons : b'.pointerEvent.pressedButtons = b.pointerEvent.pressedButtons
  stroke : b'.pointerEvent.stroke codes = b.pointerEvent.stroke codes

@[simp] theorem pressedButtons_addPointerItem (item : PointerItem) (event : PointerEvent mmi) :
    (event.addPointerItem item).pressedButtons = event.pressedButtons := by
  unfold PointerEvent.addPointerItem
  split <;> rfl

@[simp] theorem stroke_addPointerItem (item : PointerItem) (event : PointerEvent mmi) :
    (event.addPointerItem item).stroke codes = event.stroke codes := by
  unfold PointerEvent.addPointerItem
  split <;> rfl

theorem agrees_isActive (b : InputEventBuilder mmi) : Agrees codes b (b.isActive codes).2 := by
  unfold isActive
  split
  · exact ⟨rfl, rfl, rfl, rfl, rfl⟩
  · split
    · exact ⟨rfl, rfl, rfl, rfl, rfl⟩
    · split <;> exact ⟨rfl, rfl, rfl, rfl, rfl⟩

theorem pointerEvent_isActive (b : InputEventBuilder mmi) :
    (b.isActive codes).2.pointerEvent = b.pointerEvent := by
  unfold isActive
  split
  · rfl
  · split
    · rfl
    · split <;> rfl

theorem agrees_dampPointerMotion (b : InputEventBuilder mmi) :
    Agrees codes b (b.dampPointerMotion arithmetic).2 := by
  unfold dampPointerMotion
  split
  · exact ⟨rfl, rfl, rfl, rfl, rfl⟩
  · split
    · exact ⟨rfl, rfl, rfl, by simp, by simp⟩
    · split <;> exact ⟨rfl, rfl, rfl, by simp, by simp⟩

theorem fst_dampPointerMotion (b : InputEventBuilder mmi) :
    (b.dampPointerMotion arithmetic).1 =
      (b.pointerEvent.getPointerItem b.pointerEvent.pointerId).isSome := by
  unfold dampPointerMotion
  split
  · next h => rw [h]; rfl
  · next h => rw [h]; rfl

theorem agrees_updatePointerEvent (time : Int64) (b : InputEventBuilder mmi) :
    Agrees codes b (b.updatePointerEvent codes arithmetic time).2 := by
  have damped := agrees_dampPointerMotion codes arithmetic b
  unfold updatePointerEvent
  split
  · exact ⟨rfl, rfl, rfl, rfl, rfl⟩
  · split
    · next b' h =>
      rw [h] at damped
      exact damped
    · next b' h =>
      rw [h] at damped
      exact ⟨damped.enabled, damped.outputs, damped.keyEvent, damped.pressedButtons, damped.stroke⟩

theorem fst_updatePointerEvent (time : Int64) (b : InputEventBuilder mmi) :
    (b.updatePointerEvent codes arithmetic time).1 =
      (b.pointerEvent.sourceType ≠ codes.SOURCE_TYPE_MOUSE ||
        (b.pointerEvent.getPointerItem b.pointerEvent.pointerId).isSome) := by
  have damped := fst_dampPointerMotion arithmetic b
  unfold updatePointerEvent
  split
  · next h => simp [h]
  · next h =>
    split
    · next b' same =>
      rw [same] at damped
      simp [h, ← damped]
    · next b' same =>
      rw [same] at damped
      simp [h, ← damped]

theorem simulates_congr {b b' : InputEventBuilder mmi} (freezing : b'.freezing = b.freezing)
    (movement : b'.movement = b.movement) (xDir : b'.xDir = b.xDir)
    (sourceType : b'.pointerEvent.sourceType = b.pointerEvent.sourceType)
    (pointerAction : b'.pointerEvent.pointerAction = b.pointerEvent.pointerAction)
    (item : b'.pointerEvent.getPointerItem b'.pointerEvent.pointerId =
      b.pointerEvent.getPointerItem b.pointerEvent.pointerId) :
    b'.simulates codes = b.simulates codes := by
  have active : (b'.isActive codes).1 = (b.isActive codes).1 := by
    unfold isActive
    rw [freezing, sourceType, pointerAction, item, movement, xDir]
    split
    · rfl
    · split
      · rfl
      · split <;> rfl
  rw [simulates, simulates, active, sourceType, item]

/-- Telling the drag manager presses and releases nothing. -/
theorem onNotifyCrossDrag_eq (b : InputEventBuilder mmi) :
    ∃ outputs, b.onNotifyCrossDrag codes = { b with outputs } ∧
      outputs.filterMap (BuilderOutput.buttonStroke codes) = b.buttonLog codes ∧
      outputs.filterMap (BuilderOutput.keyStroke codes) = b.keyLog codes := by
  simp only [onNotifyCrossDrag]
  split
  · exact ⟨_, rfl, rfl, rfl⟩
  · exact ⟨_, rfl, by simp [buttonLog, BuilderOutput.buttonStroke],
      by simp [keyLog, BuilderOutput.keyStroke]⟩

/-- Tagging the event and telling the drag manager change nothing of what is simulated. -/
theorem tagged_onNotifyCrossDrag (event : PointerEvent mmi) (deviceId : Int32)
    (b : InputEventBuilder mmi) :
    let tagged := onNotifyCrossDrag codes { b with pointerEvent := { event with deviceId } }
    tagged.pointerEvent = { event with deviceId } ∧ tagged.enabled = b.enabled ∧
      tagged.keyEvent = b.keyEvent ∧ tagged.buttonLog codes = b.buttonLog codes ∧
      tagged.keyLog codes = b.keyLog codes ∧
      tagged.simulates codes = { b with pointerEvent := event }.simulates codes := by
  intro tagged
  obtain ⟨outputs, eq, buttons, keys⟩ :=
    onNotifyCrossDrag_eq codes { b with pointerEvent := { event with deviceId } }
  rw [show tagged = _ from eq]
  refine ⟨rfl, rfl, rfl, buttons, keys, ?_⟩
  exact simulates_congr codes rfl rfl rfl rfl rfl rfl

/-- What the builder does with a decoded event in the end. -/
def simulate (time : Int64) (b : InputEventBuilder mmi) : InputEventBuilder mmi :=
  match b.isActive codes with
  | (false, b) => b
  | (true, b) =>
    match b.updatePointerEvent codes arithmetic time with
    | (false, b) => b
    | (true, b) => b.output (.simulatePointerEvent b.pointerEvent)

/-- Two builders agree but for a stroke that the second has simulated. -/
structure Simulated (stroke : List (Stroke Int32)) (b b' : InputEventBuilder mmi) : Prop where
  enabled : b'.enabled = b.enabled
  keyEvent : b'.keyEvent = b.keyEvent
  keyLog : b'.keyLog codes = b.keyLog codes
  pressedButtons : b'.pointerEvent.pressedButtons = b.pointerEvent.pressedButtons
  buttonLog : b'.buttonLog codes = b.buttonLog codes ++ stroke

theorem Agrees.simulated {b b' : InputEventBuilder mmi} (h : Agrees codes b b') :
    Simulated codes [] b b' where
  enabled := h.enabled
  keyEvent := h.keyEvent
  keyLog := by rw [keyLog, h.outputs, keyLog]
  pressedButtons := h.pressedButtons
  buttonLog := by rw [buttonLog, h.outputs, buttonLog, List.append_nil]

theorem Agrees.output {b b' : InputEventBuilder mmi} (h : Agrees codes b b') :
    Simulated codes (b.pointerEvent.stroke codes).toList b
      (b'.output (.simulatePointerEvent b'.pointerEvent)) where
  enabled := h.enabled
  keyEvent := h.keyEvent
  keyLog := by simp [keyLog, InputEventBuilder.output, h.outputs, BuilderOutput.keyStroke]
  pressedButtons := h.pressedButtons
  buttonLog := by
    simp only [buttonLog, InputEventBuilder.output, h.outputs, BuilderOutput.buttonStroke,
      List.filterMap_append, List.filterMap_cons, List.filterMap_nil, h.stroke]
    cases b.pointerEvent.stroke codes <;> rfl

theorem Agrees.trans {b₁ b₂ b₃ : InputEventBuilder mmi} (first : Agrees codes b₁ b₂)
    (second : Agrees codes b₂ b₃) : Agrees codes b₁ b₃ where
  enabled := second.enabled.trans first.enabled
  outputs := second.outputs.trans first.outputs
  keyEvent := second.keyEvent.trans first.keyEvent
  pressedButtons := second.pressedButtons.trans first.pressedButtons
  stroke := second.stroke.trans first.stroke

theorem simulate_spec (time : Int64) (b : InputEventBuilder mmi) :
    Simulated codes (if b.simulates codes then (b.pointerEvent.stroke codes).toList else []) b
      (b.simulate codes arithmetic time) := by
  have active := agrees_isActive codes b
  have same := pointerEvent_isActive codes b
  unfold simulates simulate
  -- whether the move passes, then whether its pointer has an item
  generalize isActive codes b = r at active same ⊢
  obtain ⟨passes, b₁⟩ := r
  cases passes with
  | false => exact active.simulated
  | true =>
    have updated := active.trans codes (agrees_updatePointerEvent codes arithmetic time b₁)
    have shown := fst_updatePointerEvent codes arithmetic time b₁
    rw [show b₁.pointerEvent = b.pointerEvent from same] at shown
    rw [Bool.true_and, ← shown]
    dsimp only
    generalize updatePointerEvent codes arithmetic time b₁ = r at updated ⊢
    obtain ⟨ok, b₂⟩ := r
    cases ok with
    | false => exact updated.simulated
    | true => exact updated.output

/-- What a pointer packet leaves: the event as far as it was decoded, and the stroke if it was
simulated. -/
theorem onPointerEvent_spec (arrival : Arrival platform) (packet : StreamBuffer)
    (b : InputEventBuilder mmi) :
    let r := b.buttonReport codes arrival packet
    let b' := b.onPointerEvent codes arithmetic arrival packet
    b'.enabled = b.enabled ∧ b'.keyEvent = b.keyEvent ∧ b'.keyLog codes = b.keyLog codes ∧
      b'.pointerEvent.pressedButtons = r.pressed ∧
      b'.buttonLog codes = b.buttonLog codes ++ if r.shown then r.stroke.toList else [] := by
  intro r b'
  unfold r b' buttonReport onPointerEvent
  rcases unmarshalling arrival.pointer packet (PointerEvent.create mmi) (-1) with ⟨ok, filled⟩
  cases ok with
  | false => exact ⟨rfl, rfl, rfl, rfl, by simp [buttonLog, decodedButtons]⟩
  | true =>
    obtain ⟨event, enabled, keyEvent, buttons, keys, simulated⟩ :=
      tagged_onNotifyCrossDrag codes filled.event (b.tagRemoteEvent filled.event.deviceId) b
    have done := simulate_spec codes arithmetic arrival.time
      (onNotifyCrossDrag codes { b with
        pointerEvent := { filled.event with
          deviceId := b.tagRemoteEvent filled.event.deviceId } })
    refine ⟨done.enabled.trans enabled, done.keyEvent.trans keyEvent, done.keyLog.trans keys,
      done.pressedButtons.trans (by rw [event]; rfl), done.buttonLog.trans ?_⟩
    rw [buttons, simulated, event]
    rfl

/-- What a key packet leaves. -/
theorem onKeyEvent_spec (arrival : Arrival platform) (packet : StreamBuffer)
    (b : InputEventBuilder mmi) :
    let r := keyReport codes arrival packet
    let b' := b.onKeyEvent codes arrival packet
    b'.enabled = b.enabled ∧ b'.pointerEvent = b.pointerEvent ∧
      b'.buttonLog codes = b.buttonLog codes ∧ b'.keyEvent.getPressedKeys.toFinset = r.pressed ∧
      b'.keyLog codes = b.keyLog codes ++ if r.shown then r.stroke.toList else [] := by
  intro r b'
  unfold r b' keyReport onKeyEvent
  rcases netPacketToKeyEvent arrival.key packet {} with ⟨ok, key, rest⟩
  cases ok with
  | false => exact ⟨rfl, rfl, rfl, rfl, by simp [keyLog, decodedKeys]⟩
  | true =>
    refine ⟨rfl, rfl, by simp [buttonLog, output, BuilderOutput.buttonStroke], rfl, ?_⟩
    simp only [keyLog, output, BuilderOutput.keyStroke, KeyEvent.stroke, decodedKeys,
      List.filterMap_append, List.filterMap_cons, List.filterMap_nil]
    grind

/-! ## The builder as a receiver -/

/-- The receiver has what the builder has of buttons. -/
structure FollowsButtons (b : InputEventBuilder mmi) (t : Receiver Int32) : Prop where
  log : t.log = b.buttonLog codes
  record : t.record = b.pointerEvent.pressedButtons

theorem FollowsButtons.report {b b' : InputEventBuilder mmi} {t : Receiver Int32}
    {r : Report Int32} (h : FollowsButtons codes b t)
    (pressed : b'.pointerEvent.pressedButtons = r.pressed)
    (log : b'.buttonLog codes = b.buttonLog codes ++ if r.shown then r.stroke.toList else []) :
    FollowsButtons codes b' (runFrom Receiver.next t (some (Label.report r)).toList) :=
  ⟨by rw [log, ← h.log]; rfl, pressed.symm⟩

/-- The receiver has what the builder has of keys. -/
structure FollowsKeys (b : InputEventBuilder mmi) (t : Receiver Int32) : Prop where
  log : t.log = b.keyLog codes
  record : t.record = b.keyEvent.getPressedKeys.toFinset

theorem FollowsKeys.report {b b' : InputEventBuilder mmi} {t : Receiver Int32}
    {r : Report Int32} (h : FollowsKeys codes b t)
    (pressed : b'.keyEvent.getPressedKeys.toFinset = r.pressed)
    (log : b'.keyLog codes = b.keyLog codes ++ if r.shown then r.stroke.toList else []) :
    FollowsKeys codes b' (runFrom Receiver.next t (some (Label.report r)).toList) :=
  ⟨by rw [log, ← h.log]; rfl, pressed.symm⟩

/-- A packet is a pointer event of the peer, a key event of the peer, or without effect. -/
theorem next_packet (arrival : Arrival platform) (networkId : StdString) (packet : NetPacket)
    (b : InputEventBuilder mmi) :
    next codes arithmetic (.packet arrival networkId packet) b =
      if b.enabled ∧ networkId = b.remoteNetworkId ∧ packet.msgId = DSOFTBUS_INPUT_POINTER_EVENT
      then b.onPointerEvent codes arithmetic arrival packet.toStreamBuffer
      else if b.enabled ∧ networkId = b.remoteNetworkId ∧ packet.msgId = DSOFTBUS_INPUT_KEY_EVENT
      then b.onKeyEvent codes arrival packet.toStreamBuffer
      else b := by
  unfold next onPacket
  split_ifs <;> grind

theorem pointerEvent_ne_keyEvent : DSOFTBUS_INPUT_POINTER_EVENT ≠ DSOFTBUS_INPUT_KEY_EVENT := by
  decide

theorem followsButtons_next (call : BuilderCall platform) (b : InputEventBuilder mmi)
    (t : Receiver Int32) (h : FollowsButtons codes b t) :
    FollowsButtons codes (next codes arithmetic call b)
      (runFrom Receiver.next t (buttonLabel codes call b).toList) := by
  cases call with
  | packet arrival networkId packet =>
    obtain ⟨-, -, -, pressed, log⟩ :=
      onPointerEvent_spec codes arithmetic arrival packet.toStreamBuffer b
    obtain ⟨-, pointer, buttons, -, -⟩ := onKeyEvent_spec codes arrival packet.toStreamBuffer b
    rw [next_packet, buttonLabel]
    split_ifs
    · exact h.report codes pressed log
    · exact ⟨h.log.trans buttons.symm, h.record.trans (by rw [pointer])⟩
    · exact h
  | enable freezeCursor peer =>
    simp only [next, enable, buttonLabel]
    split <;> exact ⟨h.log, h.record⟩
  | update peer =>
    simp only [next, buttonLabel]
    split <;> exact ⟨h.log, h.record⟩
  | freeze =>
    simp only [next, freeze, buttonLabel]
    split <;> exact ⟨h.log, h.record⟩
  | thaw =>
    simp only [next, thaw, buttonLabel]
    split <;> exact ⟨h.log, h.record⟩
  | _ => exact ⟨h.log, h.record⟩

theorem followsKeys_next (call : BuilderCall platform) (b : InputEventBuilder mmi)
    (t : Receiver Int32) (h : FollowsKeys codes b t) :
    FollowsKeys codes (next codes arithmetic call b)
      (runFrom Receiver.next t (keyLabel codes call b).toList) := by
  cases call with
  | packet arrival networkId packet =>
    obtain ⟨-, keyEvent, keys, -, -⟩ :=
      onPointerEvent_spec codes arithmetic arrival packet.toStreamBuffer b
    obtain ⟨-, -, -, pressed, log⟩ := onKeyEvent_spec codes arrival packet.toStreamBuffer b
    rw [next_packet, keyLabel]
    split_ifs with pointer key
    · exact absurd (pointer.2.2.symm.trans key.2.2) pointerEvent_ne_keyEvent
    · exact ⟨h.log.trans keys.symm, h.record.trans (by rw [keyEvent])⟩
    · exact h.report codes pressed log
    · exact h
  | enable freezeCursor peer =>
    simp only [next, enable, keyLabel]
    split <;> exact ⟨h.log, h.record⟩
  | update peer =>
    simp only [next, keyLabel]
    split <;> exact ⟨h.log, h.record⟩
  | freeze =>
    simp only [next, freeze, keyLabel]
    split <;> exact ⟨h.log, h.record⟩
  | thaw =>
    simp only [next, thaw, keyLabel]
    split <;> exact ⟨h.log, h.record⟩
  | _ => exact ⟨h.log, h.record⟩

/-! ## Disable -/

theorem buttonUp_ne (stopped : Bool) :
    (if stopped then codes.POINTER_ACTION_CANCEL else codes.POINTER_ACTION_BUTTON_UP) ≠
      codes.POINTER_ACTION_BUTTON_DOWN := by
  have distinct := codes.pointerActions
  cases stopped <;> simp_all [eq_comm]

theorem keyUp_ne : codes.KEY_ACTION_UP ≠ codes.KEY_ACTION_DOWN := by
  have distinct := codes.keyActions
  simp_all [eq_comm]

theorem releaseButton_spec (b : InputEventBuilder mmi) (buttonId : Int32) :
    (b.releaseButton codes buttonId).buttonLog codes = b.buttonLog codes ++ [.release buttonId] ∧
      (b.releaseButton codes buttonId).keyLog codes = b.keyLog codes ∧
      (b.releaseButton codes buttonId).keyEvent = b.keyEvent := by
  have notDown := buttonUp_ne codes b.isStopByScreenOffOrLock
  refine ⟨?_, by simp [keyLog, releaseButton, output, BuilderOutput.keyStroke], rfl⟩
  simp only [buttonLog, releaseButton, output, BuilderOutput.buttonStroke, PointerEvent.stroke,
    List.filterMap_append, List.filterMap_cons, List.filterMap_nil]
  grind

theorem foldl_releaseButton (buttons : List Int32) (b : InputEventBuilder mmi) :
    (buttons.foldl (releaseButton codes) b).buttonLog codes =
        b.buttonLog codes ++ buttons.map .release ∧
      (buttons.foldl (releaseButton codes) b).keyLog codes = b.keyLog codes ∧
      (buttons.foldl (releaseButton codes) b).keyEvent = b.keyEvent := by
  induction buttons generalizing b with
  | nil => simp
  | cons buttonId buttons ih =>
    obtain ⟨log, keys, key⟩ := releaseButton_spec codes b buttonId
    obtain ⟨logs, keys', key'⟩ := ih (b.releaseButton codes buttonId)
    rw [List.foldl_cons, logs, log, keys', keys, key', key]
    simp

theorem releaseKey_spec (b : InputEventBuilder mmi) (pressedKey : Int32) :
    (b.releaseKey codes pressedKey).keyLog codes = b.keyLog codes ++ [.release pressedKey] ∧
      (b.releaseKey codes pressedKey).buttonLog codes = b.buttonLog codes := by
  refine ⟨?_, by simp [buttonLog, releaseKey, output, BuilderOutput.buttonStroke]⟩
  have released (key : KeyEvent)
      (h : key.keyCode = pressedKey ∧ key.keyAction = codes.KEY_ACTION_UP) :
      key.stroke codes = some (.release pressedKey) := by
    simp [KeyEvent.stroke, h, keyUp_ne codes]
  simp only [keyLog, releaseKey, output, BuilderOutput.keyStroke, List.filterMap_append]
  rw [List.filterMap_cons, BuilderOutput.keyStroke, released]
  · rfl
  · split <;> exact ⟨rfl, rfl⟩

theorem foldl_releaseKey (pressedKeys : List Int32) (b : InputEventBuilder mmi) :
    (pressedKeys.foldl (releaseKey codes) b).keyLog codes =
        b.keyLog codes ++ pressedKeys.map .release ∧
      (pressedKeys.foldl (releaseKey codes) b).buttonLog codes = b.buttonLog codes := by
  induction pressedKeys generalizing b with
  | nil => simp
  | cons pressedKey pressedKeys ih =>
    obtain ⟨log, buttons⟩ := releaseKey_spec codes b pressedKey
    obtain ⟨logs, buttons'⟩ := ih (b.releaseKey codes pressedKey)
    rw [List.foldl_cons, logs, log, buttons', buttons]
    simp

theorem resetPressedButtons_spec {dragState : DragState} (b : InputEventBuilder mmi)
    (start : dragState ≠ .start) (motionDragging : dragState ≠ .motionDragging) :
    (b.resetPressedButtons codes dragState).buttonLog codes =
        b.buttonLog codes ++ (b.pointerEvent.pressedButtons.sort (· ≤ ·)).map .release ∧
      (b.resetPressedButtons codes dragState).keyLog codes = b.keyLog codes ∧
      (b.resetPressedButtons codes dragState).keyEvent = b.keyEvent := by
  obtain ⟨log, keys, key⟩ :=
    foldl_releaseButton codes (b.pointerEvent.pressedButtons.sort (· ≤ ·)) b
  simp only [resetPressedButtons, start, motionDragging, or_self, if_false]
  split
  · next none =>
    have empty : b.pointerEvent.pressedButtons.sort (· ≤ ·) = [] := List.isEmpty_iff.mp none
    exact ⟨by rw [empty]; simp, rfl, rfl⟩
  · exact ⟨log, keys, key⟩

theorem resetPressedKeys_spec (b : InputEventBuilder mmi) :
    (b.resetPressedKeys codes).keyLog codes =
        b.keyLog codes ++ b.keyEvent.getPressedKeys.map .release ∧
      (b.resetPressedKeys codes).buttonLog codes = b.buttonLog codes := by
  obtain ⟨log, buttons⟩ := foldl_releaseKey codes b.keyEvent.getPressedKeys b
  simp only [resetPressedKeys]
  split
  · next none =>
    have empty : b.keyEvent.getPressedKeys = [] := List.isEmpty_iff.mp none
    exact ⟨by rw [empty]; simp, rfl⟩
  · exact ⟨log, buttons⟩

/-- Outside of a drag, `Disable` of an enabled builder releases what the events decoded last
hold. -/
theorem disable_spec {dragState : DragState} (b : InputEventBuilder mmi) (h : b.enabled = true)
    (start : dragState ≠ .start) (motionDragging : dragState ≠ .motionDragging) :
    (b.disable codes dragState).buttonLog codes =
        b.buttonLog codes ++ (b.pointerEvent.pressedButtons.sort (· ≤ ·)).map .release ∧
      (b.disable codes dragState).keyLog codes =
        b.keyLog codes ++ b.keyEvent.getPressedKeys.map .release := by
  obtain ⟨buttons, keys, key⟩ :=
    resetPressedButtons_spec codes { b with enabled := false } start motionDragging
  obtain ⟨keys', buttons'⟩ :=
    resetPressedKeys_spec codes (resetPressedButtons codes dragState { b with enabled := false })
  rw [keys, key] at keys'
  rw [buttons] at buttons'
  simp only [disable, h]
  exact ⟨buttons', keys'⟩

/-- `Disable` leaves nothing stuck if the events decoded last hold everything that is down. -/
theorem nothingStuck_disable_iff {dragState : DragState} {b : InputEventBuilder mmi}
    {buttons keys : Receiver Int32} (h : b.enabled = true)
    (start : dragState ≠ .start) (motionDragging : dragState ≠ .motionDragging)
    (followsButtons : FollowsButtons codes b buttons) (followsKeys : FollowsKeys codes b keys) :
    NothingStuck codes (b.disable codes dragState) ↔ buttons.Recorded ∧ keys.Recorded := by
  obtain ⟨buttonLog, keyLog⟩ := disable_spec codes b h start motionDragging
  unfold NothingStuck Receiver.Recorded
  rw [buttonLog, keyLog, followsButtons.log, followsButtons.record, followsKeys.log,
    followsKeys.record]
  simp only [down_append_releases, Finset.mem_sort, List.mem_toFinset]
  grind

/-! ## Runs -/

/-- A builder that is not enabled and has left nothing stuck. -/
structure Idle (b : InputEventBuilder mmi) : Prop where
  notEnabled : b.enabled = false
  nothingStuck : NothingStuck codes b

/-- A receiver of buttons that begins where the builder is. -/
def buttonReceiver (b : InputEventBuilder mmi) : Receiver Int32 :=
  { log := b.buttonLog codes, record := b.pointerEvent.pressedButtons }

/-- A receiver of keys that begins where the builder is. -/
def keyReceiver (b : InputEventBuilder mmi) : Receiver Int32 :=
  { log := b.keyLog codes, record := b.keyEvent.getPressedKeys.toFinset }

/-- What holds of every report of buttons and of every report of keys in a run. -/
def EachReport (ok : Label Int32 → Receiver Int32 → Prop) (b : InputEventBuilder mmi)
    (calls : List (BuilderCall platform)) : Prop :=
  EachStep Receiver.next ok (b.buttonReceiver codes)
      (observe (next codes arithmetic) (buttonLabel codes) b calls) ∧
    EachStep Receiver.next ok (b.keyReceiver codes)
      (observe (next codes arithmetic) (keyLabel codes) b calls)

theorem EachReport.of_append {ok : Label Int32 → Receiver Int32 → Prop} {b : InputEventBuilder mmi}
    {p q : List (BuilderCall platform)} (h : EachReport codes arithmetic ok b (p ++ q)) :
    EachReport codes arithmetic ok b p :=
  ⟨EachStep.of_prefix h.1 (observe_mono (List.prefix_append p q)),
    EachStep.of_prefix h.2 (observe_mono (List.prefix_append p q))⟩

/-- A builder that is not enabled simulates nothing, and only `Disable` ends that it is. -/
theorem enabled_or_idle_next (call : BuilderCall platform) (b : InputEventBuilder mmi)
    (h : b.enabled = true ∨ Idle codes b) :
    (next codes arithmetic call b).enabled = true ∨ Idle codes (next codes arithmetic call b) := by
  rcases h with enabled | idle
  · refine .inl ?_
    cases call with
    | packet arrival networkId packet =>
      have pointer := (onPointerEvent_spec codes arithmetic arrival packet.toStreamBuffer b).1
      have key := (onKeyEvent_spec codes arrival packet.toStreamBuffer b).1
      rw [next_packet]
      split_ifs
      · exact pointer.trans enabled
      · exact key.trans enabled
      · exact enabled
    | enable freezeCursor peer => simp [next, enable, enabled]
    | freeze => simp [next, freeze, enabled]
    | thaw => simp [next, thaw, enabled]
    | _ => exact enabled
  · cases call with
    | enable freezeCursor peer => exact .inl (by simp [next, enable, idle.notEnabled])
    | packet arrival networkId packet => exact .inr (by simpa [next, idle.notEnabled] using idle)
    | freeze => exact .inr (by simpa [next, freeze, idle.notEnabled] using idle)
    | thaw => exact .inr (by simpa [next, thaw, idle.notEnabled] using idle)
    | _ => exact .inr ⟨idle.notEnabled, idle.nothingStuck⟩

/-- After a run, `Disable` leaves nothing stuck if the receivers have good records. -/
theorem nothingStuck_run_iff {b : InputEventBuilder mmi} (idle : Idle codes b)
    (calls : List (BuilderCall platform)) {dragState : DragState} (start : dragState ≠ .start)
    (motionDragging : dragState ≠ .motionDragging) :
    NothingStuck codes ((runFrom (next codes arithmetic) b calls).disable codes dragState) ↔
      (runFrom Receiver.next (b.buttonReceiver codes)
        (observe (next codes arithmetic) (buttonLabel codes) b calls)).Recorded ∧
      (runFrom Receiver.next (b.keyReceiver codes)
        (observe (next codes arithmetic) (keyLabel codes) b calls)).Recorded := by
  have buttons := runFrom_observe (followsButtons_next codes arithmetic)
    (s := b) (t := b.buttonReceiver codes) ⟨rfl, rfl⟩ calls
  have keys := runFrom_observe (followsKeys_next codes arithmetic)
    (s := b) (t := b.keyReceiver codes) ⟨rfl, rfl⟩ calls
  have state : (runFrom (next codes arithmetic) b calls).enabled = true ∨
      Idle codes (runFrom (next codes arithmetic) b calls) :=
    runFrom_invariant (I := fun b => b.enabled = true ∨ Idle codes b)
      (fun call b h => enabled_or_idle_next codes arithmetic call b h) (.inr idle) calls
  rcases state with enabled | idle
  · exact nothingStuck_disable_iff codes enabled start motionDragging buttons keys
  · have disabled : disable codes dragState (runFrom (next codes arithmetic) b calls) =
        runFrom (next codes arithmetic) b calls := by simp [disable, idle.notEnabled]
    rw [disabled]
    refine iff_of_true idle.nothingStuck ⟨fun button down => ?_, fun key down => ?_⟩
    · exact absurd (buttons.log ▸ down) (idle.nothingStuck.1 button)
    · exact absurd (keys.log ▸ down) (idle.nothingStuck.2 key)

/-- In a run whose packets are truthful, `Disable` at any point leaves nothing stuck exactly when
each packet that does not continue the one before it carries what is down. -/
theorem disable_releases_iff (b : InputEventBuilder mmi) (calls : List (BuilderCall platform))
    (idle : Idle codes b) (truthful : EachReport codes arithmetic Receiver.Truthful b calls) :
    (∀ p, p <+: calls → ∀ dragState : DragState, dragState ≠ .start →
        dragState ≠ .motionDragging →
        NothingStuck codes ((runFrom (next codes arithmetic) b p).disable codes dragState)) ↔
      EachReport codes arithmetic Receiver.Meets b calls := by
  have buttonsRecorded : (b.buttonReceiver codes).Recorded := fun button down =>
    absurd down (idle.nothingStuck.1 button)
  have keysRecorded : (b.keyReceiver codes).Recorded := fun key down =>
    absurd down (idle.nothingStuck.2 key)
  unfold EachReport
  rw [← Receiver.recorded_run_iff buttonsRecorded truthful.1,
    ← Receiver.recorded_run_iff keysRecorded truthful.2]
  constructor
  · intro released
    have notStart : DragState.stop ≠ .start := by decide
    have notDragging : DragState.stop ≠ .motionDragging := by decide
    have recorded (p : List (BuilderCall platform)) (hp : p <+: calls) :=
      (nothingStuck_run_iff codes arithmetic idle p notStart notDragging).mp
        (released p hp .stop notStart notDragging)
    constructor
    · intro q hq
      obtain ⟨p, hp, rfl⟩ := exists_prefix_observe hq
      exact (recorded p hp).1
    · intro q hq
      obtain ⟨p, hp, rfl⟩ := exists_prefix_observe hq
      exact (recorded p hp).2
  · rintro ⟨buttons, keys⟩ p hp dragState start motionDragging
    rw [nothingStuck_run_iff codes arithmetic idle p start motionDragging]
    exact ⟨buttons _ (observe_mono hp), keys _ (observe_mono hp)⟩

end InputEventBuilder

/-! ## A packet that cannot be decoded -/

/-- Codes to run the builder with. -/
def ActionCodes.sample : ActionCodes where
  POINTER_ACTION_CANCEL := 1
  POINTER_ACTION_MOVE := 3
  POINTER_ACTION_BUTTON_DOWN := 8
  POINTER_ACTION_BUTTON_UP := 9
  POINTER_ACTION_PULL_MOVE := 13
  POINTER_ACTION_PULL_IN_WINDOW := 15
  POINTER_ACTION_PULL_OUT_WINDOW := 16
  SOURCE_TYPE_MOUSE := 1
  MOUSE_BUTTON_LEFT := 0
  EVENT_FLAG_RAW_POINTER_MOVEMENT := 8
  EVENT_FLAG_SIMULATE := 2
  KEY_ACTION_CANCEL := 1
  KEY_ACTION_DOWN := 2
  KEY_ACTION_UP := 3
  pointerActions := by decide
  keyActions := by decide

/-- The arithmetic on a pointer at rest: all that occurs is 0. -/
def DoubleArithmetic.atRest : DoubleArithmetic where
  ofInt32 := fun _ => 0
  toInt32 := fun _ => 0
  add := fun _ _ => 0
  sub := fun _ _ => 0
  mul := fun _ _ => 0
  clamp := fun coefficient _ _ => coefficient

def Arrival.sample : Arrival .bits64 where
  pointer := zeroVariables
  key := { sensorTime := 0, unicode := 0 }
  time := 0

/-- The left button of a mouse goes down. -/
def leftDown : PointerEvent .sample :=
  { pointerAction := 8, pointerId := 0, sourceType := 1, buttonId := 0, pressedButtons := {0}
    pointers := [{ pointerId := 0 }] }

/-- The packet of `leftDown`. -/
def leftDownPacket : NetPacket where
  toStreamBuffer := (marshalling (fun _ => zeroPadding) .bits64 leftDown 7 {}).2
  msgId := DSOFTBUS_INPUT_POINTER_EVENT

/-- A pointer packet without a payload. -/
def emptyPacket : NetPacket := .ofId DSOFTBUS_INPUT_POINTER_EVENT

/-- The peer `[2]` presses the left button. -/
def pressCalls : List (BuilderCall .bits64) :=
  [.enable false [2], .packet .sample [2] leftDownPacket]

namespace InputEventBuilder

theorem idle_new : Idle .sample ({} : InputEventBuilder .sample) :=
  ⟨rfl, fun _ => not_down_nil, fun _ => not_down_nil⟩

/-- What `leftDownPacket` reports, whatever the builder. -/
theorem report_leftDown (b : InputEventBuilder .sample) :
    (b.buttonReport .sample .sample leftDownPacket.toStreamBuffer).stroke =
        some (.press 0) ∧
      0 ∈ (b.buttonReport .sample .sample leftDownPacket.toStreamBuffer).pressed := by
  have stroke : (unmarshalling zeroVariables leftDownPacket.toStreamBuffer
      (PointerEvent.create .sample) (-1)).2.event.stroke .sample = some (.press 0) := by
    decide +kernel
  have mem : 0 ∈ (unmarshalling zeroVariables leftDownPacket.toStreamBuffer
      (PointerEvent.create .sample) (-1)).2.event.pressedButtons := by decide +kernel
  exact ⟨stroke, mem⟩

theorem truthful_leftDown {t : Receiver Int32} (h : t.continued = false)
    (b : InputEventBuilder .sample) :
    ∀ l ∈ buttonLabel .sample (.packet .sample [2] leftDownPacket) b, Receiver.Truthful l t := by
  intro l shows
  obtain ⟨stroke, mem⟩ := report_leftDown b
  simp only [buttonLabel] at shows
  split at shows
  · obtain rfl : _ = l := by simpa using shows
    intro complete
    refine ⟨fun a press => ?_, fun continued => absurd (h.symm.trans continued) (by decide)⟩
    obtain rfl : (0 : Int32) = a := by simpa [stroke] using press
    exact mem
  · cases shows

theorem truthful_empty (b : InputEventBuilder .sample) (t : Receiver Int32) :
    ∀ l ∈ buttonLabel .sample (.packet .sample [2] emptyPacket) b, Receiver.Truthful l t := by
  intro l shows
  have incomplete : (unmarshalling zeroVariables emptyPacket.toStreamBuffer
      (PointerEvent.create .sample) (-1)).1 = false := by decide +kernel
  simp only [buttonLabel] at shows
  split at shows
  · obtain rfl : _ = l := by simpa using shows
    exact fun complete => absurd (incomplete.symm.trans complete) (by decide)
  · cases shows

theorem keyLabel_pointer {packet : NetPacket} (h : packet.msgId = DSOFTBUS_INPUT_POINTER_EVENT)
    (arrival : Arrival platform) (networkId : StdString) (b : InputEventBuilder mmi) :
    keyLabel codes (.packet arrival networkId packet) b = none := by
  simp [keyLabel, h, pointerEvent_ne_keyEvent]

/-- The packets of the peer are truthful, with or without the one that cannot be decoded. -/
theorem truthful_press :
    EachReport .sample .atRest Receiver.Truthful ({} : InputEventBuilder .sample)
      (pressCalls ++ [.packet .sample [2] emptyPacket]) := by
  constructor
  · refine .observe_cons (fun l h => ?_) (.observe_cons ?_ (.observe_cons ?_ .nil))
    · cases h; trivial
    · exact truthful_leftDown rfl _
    · exact truthful_empty _ _
  · refine .observe_cons (fun l h => ?_)
      (.observe_cons (fun l h => ?_) (.observe_cons (fun l h => ?_) .nil))
    · cases h; trivial
    · rw [keyLabel_pointer _ rfl] at h; cases h
    · rw [keyLabel_pointer _ rfl] at h; cases h

theorem disable_releases_press :
    NothingStuck .sample ((runFrom (next .sample .atRest)
      ({} : InputEventBuilder .sample) pressCalls).disable .sample .stop) := by
  refine (disable_releases_iff .sample .atRest {} pressCalls idle_new
    (.of_append _ _ truthful_press)).mpr ⟨?_, ?_⟩ pressCalls List.prefix_rfl .stop
      (by decide) (by decide)
  · refine .observe_cons (fun l h => ?_) (.observe_cons (fun l h => ?_) .nil)
    · cases h; trivial
    · cases l with
      | report r => exact .inr fun button down => absurd down not_down_nil
      | newSender => trivial
  · refine .observe_cons (fun l h => ?_) (.observe_cons (fun l h => ?_) .nil)
    · cases h; trivial
    · rw [keyLabel_pointer _ rfl] at h; cases h

/-- The left button is down, a packet cannot be decoded, and `Disable` releases nothing. -/
theorem pressedButton_stuck :
    let b : InputEventBuilder .sample := {}
    let calls : List (BuilderCall .bits64) :=
      [.enable false [2], .packet .sample [2] leftDownPacket, .packet .sample [2] emptyPacket]
    Idle .sample b ∧ EachReport .sample .atRest Receiver.Truthful b calls ∧
      Down (((runFrom (next .sample .atRest) b calls).disable .sample .stop).buttonLog .sample) 0 ∧
      ¬ NothingStuck .sample ((runFrom (next .sample .atRest) b calls).disable .sample .stop) := by
  intro b calls
  have down : Down (((runFrom (next .sample .atRest) b calls).disable .sample .stop).buttonLog
      .sample) 0 := by decide +kernel
  exact ⟨idle_new, truthful_press, down, fun released => released.1 0 down⟩

end InputEventBuilder

end DeviceStatus.InputEvents
