import DeviceStatus.InputEvent.InputEventSampler
import DeviceStatus.InputEvent.KeyRoundTrip
import DeviceStatus.InputEvent.PressedEvents

/-!
# The input event interceptor

`InputEventInterceptor` takes the pointer and key events of the device away while the device sends
its input out. Pointer events go through the sampler. What is left of them, and the key events but
for two keys, goes to the peer as packets.

## Main definitions

* `InputEventInterceptor`, `InputEventInterceptor.next` — the interceptor and its calls.
* `RemoteEvent`, `InputEventInterceptor.forwards` — the events that a call hands to the session.
* `RemoteEvent.IsCarriedBy` — the packets that they are sent in.
-/

namespace DeviceStatus.InputEvents

open Ipc StreamBuffer

def RESTORE_SCENE : Int32 := 0
def FORBIDDEN_SCENE : Int32 := 1

/-- More codes of the input service. -/
structure InterceptorCodes extends ActionCodes, SamplerCodes where
  KEYCODE_BACK : Int32
  KEYCODE_POWER : Int32
  EVENT_FLAG_NO_INTERCEPT : UInt32
  EVENT_TYPE_KEY : Int32

/-- `filterKeys_`. -/
def InterceptorCodes.filterKeys (codes : InterceptorCodes) : List Int32 :=
  [codes.KEYCODE_BACK, codes.KEYCODE_POWER]

/-- `filterPointers_`. -/
def InterceptorCodes.filterPointers (codes : InterceptorCodes) : List Int32 :=
  [codes.POINTER_ACTION_ENTER_WINDOW, codes.POINTER_ACTION_LEAVE_WINDOW,
    codes.POINTER_ACTION_PULL_IN_WINDOW, codes.POINTER_ACTION_PULL_OUT_WINDOW]

/-- What the interceptor asks of the services. -/
inductive InterceptorOutput where
  | removeInterceptor (interceptorId : Int32)
  | setWifiScene (scene : Int32)
  | addTimerAsync
  | removeTimerAsync (timerId : Int32)
  | notifyCrossDrag (isButtonDown : Bool)
  | simulateInputEvent (event : KeyEvent)
  | sendPacket (networkId : StdString) (packet : NetPacket)

/-- What the services answer during a call. -/
structure InterceptorAnswers where
  addInterceptor : Int32
  /-- whether the scene is set -/
  setWifiScene : Bool
  addTimerAsync : Int32
  getSysClockTime : Int64
  /-- the padding of the pointer items on the wire -/
  innerItem : Int32 → InnerPointerItem
  clock : ClockReadings

/-- The interceptor, with what it has asked of the services in the last call. -/
structure InputEventInterceptor (mmi : MmiConstants) where
  interceptorId : Int32 := -1
  scanState : Bool := true
  pointerEventTimer : Int32 := -1
  remoteNetworkId : StdString := []
  inputEventSampler : InputEventSampler mmi := {}
  outputs : List InterceptorOutput := []

variable {mmi : MmiConstants}

inductive InterceptorCall (mmi : MmiConstants) where
  | enable (peer : StdString) (answers : InterceptorAnswers)
  | disable (answers : InterceptorAnswers)
  | update (peer : StdString)
  /-- `originPointerAction` is a part of the event that does not go on the wire -/
  | pointerEvent (event : PointerEvent mmi) (originPointerAction : Int32)
      (answers : InterceptorAnswers)
  | keyEvent (event : KeyEvent)
  /-- the timer of the last pointer event expires -/
  | timeout (answers : InterceptorAnswers)

/-- `NetPacket packet(DSOFTBUS_INPUT_POINTER_EVENT)` and `Marshalling` to it. -/
def marshalledPointer (platform : Platform) (answers : InterceptorAnswers)
    (event : PointerEvent mmi) : Bool × NetPacket :=
  let r := marshalling answers.innerItem platform event answers.getSysClockTime {}
  (r.1, { toStreamBuffer := r.2, msgId := DSOFTBUS_INPUT_POINTER_EVENT })

/-- `NetPacket packet(DSOFTBUS_INPUT_KEY_EVENT)` and `KeyEventToNetPacket` to it. -/
def keyMarshalled (codes : InterceptorCodes) (event : KeyEvent) : Bool × NetPacket :=
  let r := keyEventToNetPacket codes.EVENT_TYPE_KEY event {}
  (r.1, { toStreamBuffer := r.2, msgId := DSOFTBUS_INPUT_KEY_EVENT })

/-- An event that has been canceled is sent with the action that it had before. -/
def PointerEvent.restore (codes : InterceptorCodes) (originPointerAction : Int32)
    (event : PointerEvent mmi) : PointerEvent mmi :=
  if event.pointerAction = codes.POINTER_ACTION_CANCEL then
    { event with pointerAction := originPointerAction }
  else event

namespace InputEventInterceptor

variable (codes : InterceptorCodes) (platform : Platform)

def output (o : InterceptorOutput) (i : InputEventInterceptor mmi) : InputEventInterceptor mmi :=
  { i with outputs := i.outputs ++ [o] }

def turnOffChannelScan (answers : InterceptorAnswers) (i : InputEventInterceptor mmi) :
    InputEventInterceptor mmi :=
  { i.output (.setWifiScene FORBIDDEN_SCENE) with scanState := !answers.setWifiScene }

def turnOnChannelScan (answers : InterceptorAnswers) (i : InputEventInterceptor mmi) :
    InputEventInterceptor mmi :=
  { i.output (.setWifiScene RESTORE_SCENE) with scanState := answers.setWifiScene }

def removeTimer (i : InputEventInterceptor mmi) : InputEventInterceptor mmi :=
  if 0 ≤ i.pointerEventTimer then
    { i.output (.removeTimerAsync i.pointerEventTimer) with pointerEventTimer := -1 }
  else i

def onNotifyCrossDrag (event : PointerEvent mmi) (i : InputEventInterceptor mmi) :
    InputEventInterceptor mmi :=
  if event.pointerAction = codes.POINTER_ACTION_PULL_IN_WINDOW ∨
      event.pointerAction = codes.POINTER_ACTION_PULL_OUT_WINDOW then i
  else i.output (.notifyCrossDrag (codes.MOUSE_BUTTON_LEFT ∈ event.pressedButtons))

/-- `OnPointerEvent`, for an event that the sampler hands over. -/
def onPointerEvent (originPointerAction : Int32) (answers : InterceptorAnswers)
    (i : InputEventInterceptor mmi) (event : PointerEvent mmi) : InputEventInterceptor mmi :=
  let i := if i.scanState then i.turnOffChannelScan answers else i
  let i := i.removeTimer
  if event.pointerAction ∈ codes.filterPointers then i
  else
    let event := event.restore codes originPointerAction
    let i := i.onNotifyCrossDrag codes event
    match marshalledPointer platform answers event with
    | (false, _) => i
    | (true, packet) =>
      let i := i.output (.sendPacket i.remoteNetworkId packet)
      { i.output .addTimerAsync with pointerEventTimer := answers.addTimerAsync }

def onKeyEvent (event : KeyEvent) (i : InputEventInterceptor mmi) : InputEventInterceptor mmi :=
  if event.keyCode ∈ codes.filterKeys then
    i.output (.simulateInputEvent
      { event with flag := event.flag ||| codes.EVENT_FLAG_NO_INTERCEPT })
  else
    match keyMarshalled codes event with
    | (false, _) => i
    | (true, packet) => i.output (.sendPacket i.remoteNetworkId packet)

/-- `Enable`, from the peer of the context. -/
def enable (peer : StdString) (answers : InterceptorAnswers) (i : InputEventInterceptor mmi) :
    InputEventInterceptor mmi :=
  if 0 < i.interceptorId then i
  else
    let i := { i with
      remoteNetworkId := peer
      inputEventSampler := i.inputEventSampler.setPointerEventHandler
      interceptorId := answers.addInterceptor }
    if i.interceptorId < 0 then i else i.turnOffChannelScan answers

def disable (answers : InterceptorAnswers) (i : InputEventInterceptor mmi) :
    InputEventInterceptor mmi :=
  let i := i.turnOnChannelScan answers
  let i :=
    if 0 < i.interceptorId then
      { i.output (.removeInterceptor i.interceptorId) with interceptorId := -1 }
    else i
  i.removeTimer

/-- The interceptor gets events from when it has been added until it is removed. -/
def next (call : InterceptorCall mmi) (i : InputEventInterceptor mmi) :
    InputEventInterceptor mmi :=
  let i := { i with outputs := [] }
  match call with
  | .enable peer answers => i.enable peer answers
  | .disable answers => i.disable answers
  | .update peer => { i with remoteNetworkId := peer }
  | .pointerEvent event originPointerAction answers =>
    if 0 ≤ i.interceptorId then
      let (handed, inputEventSampler) :=
        i.inputEventSampler.onPointerEvent codes.toSamplerCodes event answers.clock
      handed.foldl (onPointerEvent codes platform originPointerAction answers)
        { i with inputEventSampler }
    else i
  | .keyEvent event => if 0 ≤ i.interceptorId then i.onKeyEvent codes event else i
  | .timeout answers => { i.turnOnChannelScan answers with pointerEventTimer := -1 }

end InputEventInterceptor

/-! ## What is forwarded -/

theorem filterMap_singleton {A B : Type*} (f : A → Option B) (a : A) :
    [a].filterMap f = (f a).toList := by
  rw [List.filterMap_cons]
  cases f a <;> rfl

/-- What goes over a session: an event of the interceptor, or a packet of another module. -/
inductive RemoteEvent (mmi : MmiConstants) where
  | pointer (event : PointerEvent mmi)
  | key (event : KeyEvent)
  | other (packet : NetPacket)

/-- A packet that the softbus adapter sends as well. -/
def transmitted (r : Bool × NetPacket) : Bool :=
  r.1 && (DSoftbusAdapter.sendPacket r.2).isSome

theorem transmitted_iff {r : Bool × NetPacket} :
    transmitted r = true ↔ r.1 = true ∧ (DSoftbusAdapter.sendPacket r.2).isSome := by
  simp [transmitted]

/-- The event arrives in this packet. -/
inductive RemoteEvent.IsCarriedBy (codes : InterceptorCodes) (platform : Platform) :
    RemoteEvent mmi → NetPacket → Prop
  | pointer (event : PointerEvent mmi) (answers : InterceptorAnswers)
      (sent : transmitted (marshalledPointer platform answers event) = true) :
      IsCarriedBy codes platform (.pointer event) (marshalledPointer platform answers event).2
  | key (event : KeyEvent) (sent : transmitted (keyMarshalled codes event) = true) :
      IsCarriedBy codes platform (.key event) (keyMarshalled codes event).2
  | other {packet : NetPacket} (sent : (DSoftbusAdapter.sendPacket packet).isSome)
      (pointer : packet.msgId ≠ DSOFTBUS_INPUT_POINTER_EVENT)
      (key : packet.msgId ≠ DSOFTBUS_INPUT_KEY_EVENT) :
      IsCarriedBy codes platform (.other packet) packet

theorem RemoteEvent.IsCarriedBy.accepted {codes : InterceptorCodes} {platform : Platform}
    {e : RemoteEvent mmi} {packet : NetPacket} (h : e.IsCarriedBy codes platform packet) :
    (DSoftbusAdapter.sendPacket packet).isSome := by
  cases h with
  | pointer event answers sent => exact (transmitted_iff.mp sent).2
  | key event sent => exact (transmitted_iff.mp sent).2
  | other sent => exact sent

/-- The packets to a device, of those that the adapter sends. -/
def InterceptorOutput.packetTo (networkId : StdString) : InterceptorOutput → Option NetPacket
  | .sendPacket receiver packet =>
    if receiver = networkId ∧ (DSoftbusAdapter.sendPacket packet).isSome then some packet else none
  | _ => none

namespace InputEventInterceptor

variable (codes : InterceptorCodes) (platform : Platform) (networkId : StdString)

/-- What an event that the sampler hands over is forwarded as. -/
def forwardPointer (originPointerAction : Int32) (answers : InterceptorAnswers)
    (event : PointerEvent mmi) : Option (RemoteEvent mmi) :=
  let restored := event.restore codes originPointerAction
  if event.pointerAction ∈ codes.filterPointers then none
  else if transmitted (marshalledPointer platform answers restored) then some (.pointer restored)
  else none

def forwardKey (event : KeyEvent) : Option (RemoteEvent mmi) :=
  if event.keyCode ∈ codes.filterKeys then none
  else if transmitted (keyMarshalled codes event) then some (.key event)
  else none

/-- The events that a call hands to the session with a device. -/
def forwards (call : InterceptorCall mmi) (i : InputEventInterceptor mmi) :
    List (RemoteEvent mmi) :=
  if 0 ≤ i.interceptorId ∧ i.remoteNetworkId = networkId then
    match call with
    | .pointerEvent event originPointerAction answers =>
      (i.inputEventSampler.onPointerEvent codes.toSamplerCodes event answers.clock).1.filterMap
        (forwardPointer codes platform originPointerAction answers)
    | .keyEvent event => (forwardKey codes event).toList
    | _ => []
  else []

/-- The packets to a device that the last call has sent. -/
def packetsTo (i : InputEventInterceptor mmi) : List NetPacket :=
  i.outputs.filterMap (InterceptorOutput.packetTo networkId)

section Packets

variable {codes platform networkId}

@[simp] theorem packetsTo_output (o : InterceptorOutput) (i : InputEventInterceptor mmi) :
    packetsTo networkId (i.output o) =
      packetsTo networkId i ++ (o.packetTo networkId).toList := by
  rw [packetsTo, output, List.filterMap_append, filterMap_singleton, ← packetsTo]

@[simp] theorem packetsTo_turnOffChannelScan (answers : InterceptorAnswers)
    (i : InputEventInterceptor mmi) :
    packetsTo networkId (i.turnOffChannelScan answers) = packetsTo networkId i :=
  (packetsTo_output _ i).trans (List.append_nil _)

@[simp] theorem packetsTo_turnOnChannelScan (answers : InterceptorAnswers)
    (i : InputEventInterceptor mmi) :
    packetsTo networkId (i.turnOnChannelScan answers) = packetsTo networkId i :=
  (packetsTo_output _ i).trans (List.append_nil _)

@[simp] theorem packetsTo_removeTimer (i : InputEventInterceptor mmi) :
    packetsTo networkId i.removeTimer = packetsTo networkId i := by
  unfold removeTimer
  split
  · exact (packetsTo_output _ i).trans (List.append_nil _)
  · rfl

@[simp] theorem remoteNetworkId_removeTimer (i : InputEventInterceptor mmi) :
    i.removeTimer.remoteNetworkId = i.remoteNetworkId := by
  unfold removeTimer
  split <;> rfl

/-- From `i` to `i'`, what goes to the device are these events, if it is the peer. -/
structure Sends (codes : InterceptorCodes) (platform : Platform) (networkId : StdString)
    (events : List (RemoteEvent mmi)) (i i' : InputEventInterceptor mmi) : Prop where
  remoteNetworkId : i'.remoteNetworkId = i.remoteNetworkId
  packets : ∃ packets, packetsTo networkId i' = packetsTo networkId i ++ packets ∧
    List.Forall₂ (RemoteEvent.IsCarriedBy codes platform)
      (if i.remoteNetworkId = networkId then events else []) packets

theorem Sends.nothing {i i' : InputEventInterceptor mmi}
    (remoteNetworkId : i'.remoteNetworkId = i.remoteNetworkId)
    (same : packetsTo networkId i' = packetsTo networkId i) :
    Sends codes platform networkId [] i i' where
  remoteNetworkId := remoteNetworkId
  packets := ⟨[], by rw [same, List.append_nil], by simp⟩

theorem Sends.refl (i : InputEventInterceptor mmi) : Sends codes platform networkId [] i i :=
  .nothing rfl rfl

theorem Sends.trans {events events' : List (RemoteEvent mmi)} {i₁ i₂ i₃ : InputEventInterceptor mmi}
    (h : Sends codes platform networkId events i₁ i₂)
    (h' : Sends codes platform networkId events' i₂ i₃) :
    Sends codes platform networkId (events ++ events') i₁ i₃ where
  remoteNetworkId := h'.remoteNetworkId.trans h.remoteNetworkId
  packets := by
    obtain ⟨packets, eq, carried⟩ := h.packets
    obtain ⟨packets', eq', carried'⟩ := h'.packets
    rw [h.remoteNetworkId] at carried'
    refine ⟨packets ++ packets', by rw [eq', eq, List.append_assoc], ?_⟩
    split
    · next peer =>
      rw [if_pos peer] at carried carried'
      exact List.rel_append carried carried'
    · next other =>
      rw [if_neg other] at carried carried'
      exact List.rel_append carried carried'

theorem Sends.congr {events events' : List (RemoteEvent mmi)} {i i' : InputEventInterceptor mmi}
    (h : Sends codes platform networkId events i i') (eq : events = events') :
    Sends codes platform networkId events' i i' := eq ▸ h

/-- An output that is no packet. -/
theorem Sends.output {o : InterceptorOutput} (h : o.packetTo networkId = none)
    (i : InputEventInterceptor mmi) : Sends codes platform networkId [] i (i.output o) :=
  .nothing rfl (by simp [h])

/-- A packet to the peer, which the adapter may refuse. -/
theorem Sends.packet {e : RemoteEvent mmi} {r : Bool × NetPacket} (marshalled : r.1 = true)
    (carries : transmitted r = true → e.IsCarriedBy codes platform r.2)
    (i : InputEventInterceptor mmi) :
    Sends codes platform networkId (if transmitted r then some e else none).toList i
      (i.output (.sendPacket i.remoteNetworkId r.2)) where
  remoteNetworkId := rfl
  packets := by
    have same : transmitted r = (DSoftbusAdapter.sendPacket r.2).isSome := by
      rw [transmitted, marshalled, Bool.true_and]
    refine ⟨_, packetsTo_output _ i, ?_⟩
    rw [InterceptorOutput.packetTo, ← same]
    by_cases peer : i.remoteNetworkId = networkId
    · cases sent : transmitted r with
      | true => simpa [peer] using carries sent
      | false => simp
    · simp [peer]

variable (codes) in
theorem sends_onNotifyCrossDrag (event : PointerEvent mmi) (i : InputEventInterceptor mmi) :
    Sends codes platform networkId [] i (i.onNotifyCrossDrag codes event) := by
  unfold onNotifyCrossDrag
  split
  · exact .refl i
  · exact .output rfl i

/-- What `OnPointerEvent` sends is what the event is forwarded as. -/
theorem sends_onPointerEvent (originPointerAction : Int32) (answers : InterceptorAnswers)
    (event : PointerEvent mmi) (i : InputEventInterceptor mmi) :
    Sends codes platform networkId
      (forwardPointer codes platform originPointerAction answers event).toList i
      (i.onPointerEvent codes platform originPointerAction answers event) := by
  have quiet : Sends codes platform networkId [] i
      (if i.scanState then i.turnOffChannelScan answers else i).removeTimer := by
    split
    · exact .nothing (remoteNetworkId_removeTimer _) (by simp)
    · exact .nothing (remoteNetworkId_removeTimer i) (by simp)
  unfold onPointerEvent forwardPointer
  dsimp only
  split
  · exact quiet
  · have told := quiet.trans
      (sends_onNotifyCrossDrag codes (event.restore codes originPointerAction) _)
    have carries : transmitted _ = true → RemoteEvent.IsCarriedBy codes platform _ _ :=
      .pointer (event.restore codes originPointerAction) answers
    generalize marshalledPointer platform answers (event.restore codes originPointerAction) = r
      at carries ⊢
    obtain ⟨ret, packet⟩ := r
    cases ret with
    | false => simpa [transmitted] using told
    | true =>
      have sent := told.trans (Sends.packet rfl carries _)
      have timed := sent.trans (Sends.output (o := .addTimerAsync) rfl _)
      refine Sends.congr (timed.trans (.nothing rfl rfl)) ?_
      simp

theorem sends_foldl_onPointerEvent (originPointerAction : Int32) (answers : InterceptorAnswers)
    (handed : List (PointerEvent mmi)) (i : InputEventInterceptor mmi) :
    Sends codes platform networkId
      (handed.filterMap (forwardPointer codes platform originPointerAction answers)) i
      (handed.foldl (onPointerEvent codes platform originPointerAction answers) i) := by
  induction handed generalizing i with
  | nil => exact .refl i
  | cons event handed ih =>
    refine ((sends_onPointerEvent originPointerAction answers event i).trans (ih _)).congr ?_
    rw [List.filterMap_cons]
    cases forwardPointer codes platform originPointerAction answers event <;> rfl

theorem sends_onKeyEvent (event : KeyEvent) (i : InputEventInterceptor mmi) :
    Sends codes platform networkId (forwardKey codes event).toList i
      (i.onKeyEvent codes event) := by
  unfold onKeyEvent forwardKey
  split
  · exact .output rfl i
  · have carries : transmitted _ = true →
        RemoteEvent.IsCarriedBy codes platform (.key event : RemoteEvent mmi) _ := .key event
    generalize keyMarshalled codes event = r at carries ⊢
    obtain ⟨ret, packet⟩ := r
    cases ret with
    | false => exact .refl i
    | true => exact .packet rfl carries i

theorem Sends.carried {events : List (RemoteEvent mmi)} {i i' : InputEventInterceptor mmi}
    (h : Sends codes platform networkId events i i') (start : packetsTo networkId i = []) :
    List.Forall₂ (RemoteEvent.IsCarriedBy codes platform)
      (if i.remoteNetworkId = networkId then events else []) (packetsTo networkId i') := by
  obtain ⟨packets, eq, carried⟩ := h.packets
  rwa [eq, start]

theorem packetsTo_enable (peer : StdString) (answers : InterceptorAnswers)
    (i : InputEventInterceptor mmi) :
    packetsTo networkId (i.enable peer answers) = packetsTo networkId i := by
  unfold enable
  split
  · rfl
  · dsimp only
    split
    · rfl
    · exact packetsTo_turnOffChannelScan answers _

theorem packetsTo_disable (answers : InterceptorAnswers) (i : InputEventInterceptor mmi) :
    packetsTo networkId (i.disable answers) = packetsTo networkId i := by
  unfold disable
  rw [packetsTo_removeTimer, ← packetsTo_turnOnChannelScan answers i]
  split
  · exact (packetsTo_output _ _).trans (List.append_nil _)
  · rfl

/-- What a call sends to a device is what it forwards. -/
theorem packetsTo_next (call : InterceptorCall mmi) (i : InputEventInterceptor mmi) :
    List.Forall₂ (RemoteEvent.IsCarriedBy codes platform) (forwards codes platform networkId call i)
      (packetsTo networkId (next codes platform call i)) := by
  have nothing {i' : InputEventInterceptor mmi} {events : List (RemoteEvent mmi)}
      (empty : events = [])
      (same : packetsTo networkId i' = packetsTo networkId { i with outputs := [] }) :
      List.Forall₂ (RemoteEvent.IsCarriedBy codes platform) events (packetsTo networkId i') := by
    rw [empty, same]
    exact .nil
  cases call with
  | enable peer answers => exact nothing (by simp [forwards]) (packetsTo_enable peer answers _)
  | disable answers => exact nothing (by simp [forwards]) (packetsTo_disable answers _)
  | update peer => exact nothing (by simp [forwards]) rfl
  | timeout answers =>
    exact nothing (by simp [forwards])
      (packetsTo_turnOnChannelScan answers { i with outputs := [] })
  | pointerEvent event originPointerAction answers =>
    by_cases added : 0 ≤ i.interceptorId
    · simp only [forwards, next, added, true_and, if_true]
      generalize i.inputEventSampler.onPointerEvent codes.toSamplerCodes event answers.clock = r
      have sends : Sends codes platform networkId _
          { i with outputs := [], inputEventSampler := r.2 } _ :=
        sends_foldl_onPointerEvent originPointerAction answers r.1 _
      exact sends.carried rfl
    · exact nothing (by simp [forwards, added]) (by simp [next, added])
  | keyEvent event =>
    by_cases added : 0 ≤ i.interceptorId
    · have sends : Sends codes platform networkId _ { i with outputs := [] } _ :=
        sends_onKeyEvent event _
      simpa [forwards, next, added] using sends.carried rfl
    · exact nothing (by simp [forwards, added]) (by simp [next, added])

end Packets

end InputEventInterceptor

end DeviceStatus.InputEvents
