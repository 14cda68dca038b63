import DeviceStatus.Cooperate.ByteSession
import DeviceStatus.InputEvent.InputEventInterceptor

/-!
# Input over a session

The interceptor of one device and the builder of another one, with the session between them. The
events that the interceptor forwards go out as packets, among those of other modules, and arrive in
pieces of any size. As long as no piece is lost, the builder gets where it gets when each event is
handed to it as it was forwarded.

## Main definitions

* `InputEventBuilder.accept` — what the builder does with an event that it is handed.
* `RemoteInput`, `RemoteInput.next` — the two devices with the bytes between them.
* `DirectInput`, `DirectInput.next` — the two devices with the events between them.
-/

namespace DeviceStatus.InputEvents

open Cooperation (Link DragState)
open Ipc StreamBuffer
open Transition.System

variable {mmi : MmiConstants} (codes : InterceptorCodes) (arithmetic : DoubleArithmetic)
  {platform : Platform}

/-! ## Events as they are handed over -/

/-- What the decoder asks of the event. -/
def RemoteEvent.WithinCaps : RemoteEvent mmi → Prop
  | .pointer event => event.WithinCaps
  | _ => True

instance RemoteEvent.decidableWithinCaps : (e : RemoteEvent mmi) → Decidable e.WithinCaps
  | .pointer event => inferInstanceAs (Decidable event.WithinCaps)
  | .key _ | .other _ => inferInstanceAs (Decidable True)

namespace InputEventBuilder

def receive (arrival : Arrival platform) (e : RemoteEvent mmi) (b : InputEventBuilder mmi) :
    InputEventBuilder mmi :=
  match e with
  | .pointer event =>
    let deviceId := b.tagRemoteEvent event.deviceId
    simulate codes.toActionCodes arithmetic arrival.time
      (onNotifyCrossDrag codes.toActionCodes { b with pointerEvent := { event with deviceId } })
  | .key event =>
    let event := { event with
      actionTime := arrival.time
      actionStartTime := arrival.time
      deviceId := b.tagRemoteEvent event.deviceId
      flag := event.flag ||| codes.EVENT_FLAG_SIMULATE }
    { b with keyEvent := event }.output (.simulateKeyEvent event)
  | .other _ => b

/-- An event of a device; only those of the peer count. -/
def accept (networkId : StdString) (arrival : Arrival platform) (e : RemoteEvent mmi)
    (b : InputEventBuilder mmi) : InputEventBuilder mmi :=
  if b.enabled ∧ networkId = b.remoteNetworkId then b.receive codes arithmetic arrival e else b

theorem onPointerEvent_of_decoded {arrival : Arrival platform} {packet left : StreamBuffer}
    {event : PointerEvent mmi} {interceptorTime : Int64}
    (h : unmarshalling arrival.pointer packet (PointerEvent.create mmi) (-1) =
      (true, { event, interceptorTime, pkt := left })) (b : InputEventBuilder mmi) :
    b.onPointerEvent codes.toActionCodes arithmetic arrival packet =
      b.receive codes arithmetic arrival (.pointer event) := by
  unfold onPointerEvent
  generalize unmarshalling arrival.pointer packet (PointerEvent.create mmi) (-1) = decoded at h ⊢
  subst h
  rfl

theorem onKeyEvent_of_decoded {arrival : Arrival platform} {packet left : StreamBuffer}
    {event : KeyEvent} (h : netPacketToKeyEvent arrival.key packet {} = (true, event, left))
    (b : InputEventBuilder mmi) :
    b.onKeyEvent codes.toActionCodes arrival packet =
      b.receive codes arithmetic arrival (.key event) := by
  unfold onKeyEvent
  generalize netPacketToKeyEvent arrival.key packet {} = decoded at h ⊢
  subst h
  rfl

end InputEventBuilder

theorem written_of_holds {b : StreamBuffer} {bs : List UInt8}
    (h : Holds { b with rPos := wPos {}, rPos_mem := wPos_mem {} } bs) : b.written = bs := by
  have whole := written_eq h.ordered
  rw [h.unread] at whole
  exact whole

theorem marshalledPointer_eq (answers : InterceptorAnswers) (event : PointerEvent mmi) :
    (marshalledPointer platform answers event).1 =
        (marshalling answers.innerItem platform event answers.getSysClockTime {}).1 ∧
      (marshalledPointer platform answers event).2.toStreamBuffer =
        (marshalling answers.innerItem platform event answers.getSysClockTime {}).2 := by
  simp only [marshalledPointer, and_self]

theorem keyMarshalled_eq (event : KeyEvent) :
    (keyMarshalled codes event).1 = (keyEventToNetPacket codes.EVENT_TYPE_KEY event {}).1 ∧
      (keyMarshalled codes event).2.toStreamBuffer =
        (keyEventToNetPacket codes.EVENT_TYPE_KEY event {}).2 := by
  simp only [keyMarshalled, and_self]

theorem written_marshalledPointer {answers : InterceptorAnswers} {event : PointerEvent mmi}
    (ok : (marshalledPointer platform answers event).1 = true) :
    (marshalledPointer platform answers event).2.written =
      event.wire answers.innerItem platform answers.getSysClockTime := by
  rw [(marshalledPointer_eq answers event).1] at ok
  obtain ⟨status, wrote⟩ :=
    encodes_marshalling answers.innerItem platform event answers.getSysClockTime {} ok
  rw [(marshalledPointer_eq answers event).2]
  exact (wrote.run status).2.1

theorem checked_of_marshalledPointer {answers : InterceptorAnswers} {event : PointerEvent mmi}
    (ok : (marshalledPointer platform answers event).1 = true) : event.Checked := by
  rw [(marshalledPointer_eq answers event).1] at ok
  exact checked_of_marshalling ok

theorem written_keyMarshalled {event : KeyEvent} (ok : (keyMarshalled codes event).1 = true) :
    (keyMarshalled codes event).2.written = event.wire codes.EVENT_TYPE_KEY := by
  rw [(keyMarshalled_eq codes event).1] at ok
  have holds := holds_of_keyEventToNetPacket ok
  rw [(keyMarshalled_eq codes event).2]
  exact written_of_holds holds

theorem keyItems_le {event : KeyEvent} (ok : (keyMarshalled codes event).1 = true) :
    Int32.ofNat event.keyItems.length ≤ MAX_KEY_SIZE := by
  rw [(keyMarshalled_eq codes event).1] at ok
  exact (keyEventToNetPacket_eq ok).2.1

theorem length_keyItems_lt {event : KeyEvent} (ok : (keyMarshalled codes event).1 = true) :
    event.keyItems.length < 2 ^ 31 := by
  rw [(keyMarshalled_eq codes event).1] at ok
  have holds := holds_of_keyEventToNetPacket ok
  have bound := holds.ordered.length_unread_le
  rw [holds.unread, KeyEvent.wire, KeyEvent.bodyWire] at bound
  simp only [List.length_append, length_keyItems_wire] at bound
  unfold MAX_STREAM_BUF_SIZE at bound
  omega

/-- The packet of an event does what the event does. -/
theorem RemoteEvent.IsCarriedBy.next_packet {e : RemoteEvent mmi} {packet pkt : NetPacket}
    (h : e.IsCarriedBy codes platform packet) (within : e.WithinCaps)
    (same : pkt.content = packet.content) (holds : pkt.Holds pkt.content.payload)
    (arrival : Arrival platform) (networkId : StdString) (b : InputEventBuilder mmi) :
    InputEventBuilder.next codes.toActionCodes arithmetic (.packet arrival networkId pkt) b =
      b.accept codes arithmetic networkId arrival e := by
  have id : pkt.msgId = packet.msgId := congrArg Packet.msgId same
  have payload : pkt.content.payload = packet.written := congrArg Packet.payload same
  rw [payload] at holds
  rw [InputEventBuilder.next_packet, id, InputEventBuilder.accept]
  cases h with
  | pointer event answers sent =>
    have ok := (transmitted_iff.mp sent).1
    rw [written_marshalledPointer ok] at holds
    have read := (unmarshalling_of_holds holds (checked_of_marshalledPointer ok)
      arrival.pointer (-1)).2
    obtain ⟨left, read⟩ := read within
    rw [InputEventBuilder.onPointerEvent_of_decoded codes arithmetic read]
    simp [marshalledPointer, InputEventBuilder.pointerEvent_ne_keyEvent]
  | key event sent =>
    have ok := (transmitted_iff.mp sent).1
    rw [written_keyMarshalled codes ok, ← List.append_nil (event.wire _)] at holds
    have short := length_keyItems_lt codes ok
    obtain ⟨left, read, -⟩ := netPacketToKeyEvent_of_holds holds
      (keyItems_le codes ok) short arrival.key {}
    have decoded : netPacketToKeyEvent arrival.key pkt.toStreamBuffer {} = (true, event, left) := by
      rw [read]
      simp
    rw [InputEventBuilder.onKeyEvent_of_decoded codes arithmetic decoded]
    simp [keyMarshalled, InputEventBuilder.pointerEvent_ne_keyEvent.symm]
  | other sent pointer key => simp [pointer, key, InputEventBuilder.receive]

/-! ## Two devices -/

/-- What happens at the sending device, on the session and at the receiving device. -/
inductive RemoteInputLabel (mmi : MmiConstants) (platform : Platform) where
  | captured (call : InterceptorCall mmi)
  /-- another module sends a packet -/
  | other (packet : NetPacket)
  /-- so many bytes, or events, arrive; the `k`-th packet among them finds `arrival k` -/
  | deliver (n : ℕ) (arrival : ℕ → Arrival platform)
  /-- a call of the builder that is no packet of this session -/
  | builder (call : BuilderCall platform)
  | disableBuilder (dragState : DragState)

/-- The label, but for how much arrives. -/
def RemoteInputLabel.uncounted : RemoteInputLabel mmi platform → RemoteInputLabel mmi platform
  | .deliver _ arrival => .deliver 0 arrival
  | l => l

/-- What arrives is handled in order. -/
def handleAll {A B : Type} (handle : Arrival platform → A → B → B)
    (arrival : ℕ → Arrival platform) : List A → B → B
  | [], b => b
  | a :: later, b => handleAll handle (fun k => arrival (k + 1)) later (handle (arrival 0) a b)

structure RemoteInput (mmi : MmiConstants) where
  interceptor : InputEventInterceptor mmi
  wire : List UInt8 := []
  circleBuffer : CircleStreamBuffer := .new
  inputEventBuilder : InputEventBuilder mmi

/-- The same with the events under way in place of the bytes. -/
structure DirectInput (mmi : MmiConstants) where
  interceptor : InputEventInterceptor mmi
  underWay : List (RemoteEvent mmi) := []
  inputEventBuilder : InputEventBuilder mmi

variable (platform) (sender receiver : StdString)

namespace RemoteInput

/-- `sender` and `receiver` are the two devices. -/
def next (l : RemoteInputLabel mmi platform) (s : RemoteInput mmi) : RemoteInput mmi :=
  match l with
  | .captured call =>
    let interceptor := s.interceptor.next codes platform call
    let wire := s.wire ++ DSoftbusAdapter.sent (interceptor.packetsTo receiver)
    { s with interceptor, wire }
  | .other packet => { s with wire := s.wire ++ DSoftbusAdapter.sent [packet] }
  | .deliver n arrival =>
    let (received, circleBuffer) := DSoftbusAdapter.onBytes (s.wire.take n) s.circleBuffer
    { s with
      wire := s.wire.drop n
      circleBuffer
      inputEventBuilder :=
        handleAll (fun arrival packet =>
            InputEventBuilder.next codes.toActionCodes arithmetic (.packet arrival sender packet))
          arrival received.packets s.inputEventBuilder }
  | .builder call =>
    { s with
      inputEventBuilder :=
        InputEventBuilder.next codes.toActionCodes arithmetic call s.inputEventBuilder }
  | .disableBuilder dragState =>
    { s with
      inputEventBuilder := s.inputEventBuilder.disable codes.toActionCodes dragState }

/-- No bytes are under way. -/
def direct (s : RemoteInput mmi) : DirectInput mmi where
  interceptor := s.interceptor
  inputEventBuilder := s.inputEventBuilder

/-- Nothing is lost: the events can be decoded, and what arrives is taken for packets and finds
room. -/
def Smooth (l : RemoteInputLabel mmi platform) (s : RemoteInput mmi) : Prop :=
  match l with
  | .captured call =>
    ∀ e ∈ InputEventInterceptor.forwards codes platform receiver call s.interceptor, e.WithinCaps
  | .other packet =>
    (DSoftbusAdapter.sendPacket packet).isSome ∧
      packet.msgId ≠ DSOFTBUS_INPUT_POINTER_EVENT ∧ packet.msgId ≠ DSOFTBUS_INPUT_KEY_EVENT
  | .deliver n _ =>
    DSoftbusAdapter.LooksLikePackets (s.wire.take n) ∧
      s.circleBuffer.content.length + (s.wire.take n).length ≤ MAX_STREAM_BUF_SIZE
  | _ => True

instance decidableSmooth (l : RemoteInputLabel mmi platform) (s : RemoteInput mmi) :
    Decidable (Smooth codes platform receiver l s) :=
  match l with
  | .captured _ => inferInstanceAs (Decidable (∀ e ∈ _, RemoteEvent.WithinCaps e))
  | .other _ => inferInstanceAs (Decidable (_ ∧ _ ∧ _))
  | .deliver _ _ => inferInstanceAs (Decidable ((_ ∧ _) ∧ _))
  | .builder _ | .disableBuilder _ => inferInstanceAs (Decidable True)

end RemoteInput

namespace DirectInput

def next (l : RemoteInputLabel mmi platform) (d : DirectInput mmi) : DirectInput mmi :=
  match l with
  | .captured call =>
    { d with
      interceptor := d.interceptor.next codes platform call
      underWay := d.underWay ++
        InputEventInterceptor.forwards codes platform receiver call d.interceptor }
  | .other packet => { d with underWay := d.underWay ++ [.other packet] }
  | .deliver n arrival =>
    { d with
      underWay := d.underWay.drop n
      inputEventBuilder :=
        handleAll (InputEventBuilder.accept codes arithmetic sender) arrival (d.underWay.take n)
          d.inputEventBuilder }
  | .builder call =>
    { d with
      inputEventBuilder :=
        InputEventBuilder.next codes.toActionCodes arithmetic call d.inputEventBuilder }
  | .disableBuilder dragState =>
    { d with
      inputEventBuilder := d.inputEventBuilder.disable codes.toActionCodes dragState }

end DirectInput

namespace RemoteInput

/-- The bytes under way and in the buffer are the packets of the events under way. -/
structure Refines (s : RemoteInput mmi) (d : DirectInput mmi) : Prop where
  interceptor : d.interceptor = s.interceptor
  inputEventBuilder : d.inputEventBuilder = s.inputEventBuilder
  link : ∃ packets,
    List.Forall₂ (fun e packet => e.WithinCaps ∧ e.IsCarriedBy codes platform packet)
      d.underWay packets ∧
    Link (packets.map NetPacket.content) s.wire s.circleBuffer

section Steps

variable {codes platform} {s : RemoteInput mmi} {d : DirectInput mmi}
  {events : List (RemoteEvent mmi)} {packets : List NetPacket}

theorem accepted_of_carried
    (carried : List.Forall₂ (RemoteEvent.IsCarriedBy codes platform) events packets) :
    ∀ packet ∈ packets, (DSoftbusAdapter.sendPacket packet).isSome := by
  induction carried with
  | nil => simp
  | cons head _ ih =>
    rw [List.forall_mem_cons]
    exact ⟨head.accepted, ih⟩

theorem Refines.send (h : Refines codes platform s d)
    (carried : List.Forall₂ (RemoteEvent.IsCarriedBy codes platform) events packets)
    (within : ∀ e ∈ events, e.WithinCaps) (interceptor : InputEventInterceptor mmi) :
    Refines codes platform
      { s with interceptor, wire := s.wire ++ DSoftbusAdapter.sent packets }
      { d with interceptor, underWay := d.underWay ++ events } := by
  obtain ⟨old, carriedOld, link⟩ := h.link
  refine ⟨rfl, h.inputEventBuilder, old ++ packets, ?_, ?_⟩
  · exact List.rel_append carriedOld ((List.forall₂_and_left _ _).mpr ⟨within, carried⟩)
  · rw [List.map_append, DSoftbusAdapter.sent_eq (accepted_of_carried carried)]
    exact link.sendAll _

/-- Packets that have the content of those that carry some events do what the events do. -/
theorem handleAll_of_carried {received : List NetPacket}
    (carried : List.Forall₂ (fun e packet => e.WithinCaps ∧ e.IsCarriedBy codes platform packet)
      events packets)
    (same : received.map NetPacket.content = packets.map NetPacket.content)
    (holds : ∀ pkt ∈ received, pkt.Holds pkt.content.payload)
    (arrival : ℕ → Arrival platform) (b : InputEventBuilder mmi) :
    handleAll (fun arrival packet =>
        InputEventBuilder.next codes.toActionCodes arithmetic (.packet arrival sender packet))
      arrival received b =
      handleAll (InputEventBuilder.accept codes arithmetic sender) arrival events b := by
  induction carried generalizing received arrival b with
  | nil =>
    obtain rfl := List.map_eq_nil_iff.mp same
    rfl
  | cons head _ ih =>
    cases received with
    | nil => cases same
    | cons pkt received =>
      obtain ⟨first, later⟩ := List.cons_eq_cons.mp same
      obtain ⟨here, there⟩ := List.forall_mem_cons.mp holds
      rw [handleAll, handleAll, ih later there,
        head.2.next_packet codes arithmetic head.1 first here]

theorem valid_of_carried
    (carried : List.Forall₂ (RemoteEvent.IsCarriedBy codes platform) events packets) :
    ∀ p ∈ packets.map NetPacket.content, packetFormat.valid p :=
  DSoftbusAdapter.valid_of_accepted (accepted_of_carried carried)

/-- Some bytes arrive, and with them the first of the events. -/
theorem Refines.deliver (h : Refines codes platform s d) {n : ℕ} {arrival : ℕ → Arrival platform}
    (smooth : Smooth codes platform receiver (.deliver n arrival) s) :
    ∃ k, Refines codes platform
      (next codes arithmetic platform sender receiver (.deliver n arrival) s)
      (d.next codes arithmetic platform sender receiver (.deliver k arrival)) := by
  obtain ⟨packets, carried, link⟩ := h.link
  obtain ⟨looks, fits⟩ := smooth
  have both := (List.forall₂_and_left _ _).mp carried
  rw [← List.take_append_drop n s.wire] at link
  obtain ⟨contents, contents', parts, left, received⟩ :=
    link.deliver (valid_of_carried both.2) looks fits
  obtain ⟨arrived, later, rfl, rfl, rfl⟩ := List.map_eq_append_iff.mp parts
  refine ⟨arrived.length, h.interceptor, ?_, later, ?_, left⟩
  · have builder := handleAll_of_carried arithmetic sender
      (List.forall₂_take_append _ _ _ carried) received
      (fun pkt => Cooperation.holds_of_mem_onBytes) arrival s.inputEventBuilder
    simpa [next, DirectInput.next, h.inputEventBuilder] using builder.symm
  · exact List.forall₂_drop_append _ _ _ carried

theorem Refines.step (h : Refines codes platform s d) (l : RemoteInputLabel mmi platform)
    (smooth : Smooth codes platform receiver l s)
    (notDelivery : ∀ n arrival, l ≠ .deliver n arrival) :
    Refines codes platform (next codes arithmetic platform sender receiver l s)
      (d.next codes arithmetic platform sender receiver l) := by
  cases l with
  | captured call =>
    have within : ∀ e ∈ InputEventInterceptor.forwards codes platform receiver call s.interceptor,
        e.WithinCaps := smooth
    have sent := h.send (InputEventInterceptor.packetsTo_next call s.interceptor) within
      (s.interceptor.next codes platform call)
    simpa [next, DirectInput.next, h.interceptor] using sent
  | other packet =>
    have carried : List.Forall₂ (RemoteEvent.IsCarriedBy codes platform)
        [(.other packet : RemoteEvent mmi)] [packet] :=
      .cons (.other smooth.1 smooth.2.1 smooth.2.2) .nil
    have sent := h.send carried (by simp [RemoteEvent.WithinCaps]) s.interceptor
    simpa [next, DirectInput.next, ← h.interceptor] using sent
  | deliver n arrival => exact absurd rfl (notDelivery n arrival)
  | builder call =>
    refine ⟨h.interceptor, ?_, h.link⟩
    simp [next, DirectInput.next, h.inputEventBuilder]
  | disableBuilder dragState =>
    refine ⟨h.interceptor, ?_, h.link⟩
    simp [next, DirectInput.next, h.inputEventBuilder]

/-- Each step is the same step with the events in place of the bytes. -/
theorem Refines.exists_step (h : Refines codes platform s d) (l : RemoteInputLabel mmi platform)
    (smooth : Smooth codes platform receiver l s) :
    ∃ l' : RemoteInputLabel mmi platform, l'.uncounted = l.uncounted ∧
      Refines codes platform (next codes arithmetic platform sender receiver l s)
        (d.next codes arithmetic platform sender receiver l') := by
  cases l with
  | deliver n arrival =>
    obtain ⟨k, refines⟩ := h.deliver arithmetic sender receiver smooth
    exact ⟨.deliver k arrival, rfl, refines⟩
  | _ => exact ⟨_, rfl, h.step arithmetic sender receiver _ smooth (by simp)⟩

end Steps

/-- No byte is under way or waits for the rest of its packet. -/
structure Fresh (s : RemoteInput mmi) : Prop where
  wire : s.wire = []
  circleBuffer : s.circleBuffer = .new

variable {codes platform receiver} {s : RemoteInput mmi} {tr : List (RemoteInputLabel mmi platform)}

theorem Fresh.refines (fresh : s.Fresh) : Refines codes platform s s.direct where
  interceptor := rfl
  inputEventBuilder := rfl
  link := ⟨[], .nil, by rw [fresh.wire, fresh.circleBuffer]; exact Link.new⟩

theorem Refines.underWay {d : DirectInput mmi} (h : Refines codes platform s d)
    (done : s.wire = []) : d.underWay = [] := by
  obtain ⟨packets, carried, link⟩ := h.link
  rw [done] at link
  obtain rfl : packets = [] := List.map_eq_nil_iff.mp link.done
  exact List.forall₂_nil_right_iff.mp carried

/-- Where nothing is lost, the devices get where they get when the events are handed over as they
were forwarded, in the same order; when all bytes have arrived, all events have. -/
theorem direct_run (fresh : s.Fresh)
    (smooth : EachStep (next codes arithmetic platform sender receiver)
      (Smooth codes platform receiver) s tr) :
    ∃ tr' : List (RemoteInputLabel mmi platform),
      tr'.map RemoteInputLabel.uncounted = tr.map RemoteInputLabel.uncounted ∧
      let s' := runFrom (next codes arithmetic platform sender receiver) s tr
      let d' := runFrom (DirectInput.next codes arithmetic platform sender receiver) s.direct tr'
      d'.interceptor = s'.interceptor ∧ d'.inputEventBuilder = s'.inputEventBuilder ∧
        (s'.wire = [] → d'.underWay = []) := by
  let shows (l : RemoteInputLabel mmi platform) := [l.uncounted]
  have step (l : RemoteInputLabel mmi platform) (s : RemoteInput mmi) (d : DirectInput mmi)
      (h : Refines codes platform s d) (ok : Smooth codes platform receiver l s) :
      ∃ l', True ∧ shows l' = shows l ∧
        Refines codes platform (next codes arithmetic platform sender receiver l s)
          (d.next codes arithmetic platform sender receiver l') := by
    obtain ⟨l', same, refines⟩ := h.exists_step arithmetic sender receiver l ok
    exact ⟨l', trivial, congrArg ([·]) same, refines⟩
  obtain ⟨tr', -, same, refines⟩ := EachStep.exists_run_alike step fresh.refines smooth
  rw [collect_labels, collect_labels] at same
  exact ⟨tr', same, refines.interceptor, refines.inputEventBuilder, refines.underWay⟩

end RemoteInput

/-! ## A key and a button -/

def InterceptorCodes.sample : InterceptorCodes where
  toActionCodes := .sample
  POINTER_ACTION_ENTER_WINDOW := 17
  POINTER_ACTION_LEAVE_WINDOW := 18
  TOOL_TYPE_TOUCHPAD := 5
  KEYCODE_BACK := 2
  KEYCODE_POWER := 18
  EVENT_FLAG_NO_INTERCEPT := 16
  EVENT_TYPE_KEY := 1

def InterceptorAnswers.sample : InterceptorAnswers where
  addInterceptor := 1
  setWifiScene := true
  addTimerAsync := 1
  getSysClockTime := 7
  innerItem _ := zeroPadding
  clock := ⟨0, 0, 0, 0⟩

/-- A key goes down and the left button of the mouse; the packets arrive in three pieces. -/
def pressing : List (RemoteInputLabel .sample .bits64) :=
  [.captured (.enable [2] .sample), .captured (.keyEvent { keyCode := 2017, keyAction := 2 }),
    .deliver 8 fun _ => .sample, .captured (.pointerEvent leftDown 8 .sample),
    .deliver 100 fun _ => .sample, .deliver 1000 fun _ => .sample]

/-- The peer `[1]` is expected. -/
def listening : RemoteInput .sample where
  interceptor := {}
  inputEventBuilder := { enabled := true, remoteNetworkId := [1], pointerEvent := .create .sample }

namespace RemoteInput

abbrev step : RemoteInputLabel .sample .bits64 → RemoteInput .sample → RemoteInput .sample :=
  next .sample .atRest .bits64 [1] [2]

theorem fresh_listening : listening.Fresh := ⟨rfl, rfl⟩

theorem smooth_pressing : EachStep step (Smooth .sample .bits64 [2]) listening pressing := by
  refine .cons ?_ (.cons ?_ (.cons ?_ (.cons ?_ (.cons ?_ (.cons ?_ .nil)))))
  all_goals decide +kernel

theorem direct_run_pressing :
    ∃ tr' : List (RemoteInputLabel .sample .bits64),
      tr'.map RemoteInputLabel.uncounted = pressing.map RemoteInputLabel.uncounted ∧
      let d' := runFrom (DirectInput.next .sample .atRest .bits64 [1] [2]) listening.direct tr'
      d'.underWay = [] ∧ d'.inputEventBuilder.outputs.length = 3 := by
  obtain ⟨tr', same, -, builder, done⟩ := direct_run .atRest [1] fresh_listening smooth_pressing
  refine ⟨tr', same, done (by decide +kernel), ?_⟩
  rw [builder]
  decide +kernel

end RemoteInput

end DeviceStatus.InputEvents
