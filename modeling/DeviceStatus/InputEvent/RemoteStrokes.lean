import DeviceStatus.InputEvent.RemoteInput

/-!
# Keys and buttons over a session

What the user types and presses at the sending device comes out at the receiving device: no key and
no stroke of a button is lost, doubled or overtaken by another one, although moves are merged by the
sampler and dropped by a frozen builder in between.

## Main definitions

* `Act` — a key event, or a stroke of a button.
* `RemoteInput.capturedActs`, `RemoteInput.arrivedActs` — what a step captures and simulates.
* `RemoteInput.Delivers` — both devices are set up for each other.
-/

namespace DeviceStatus.InputEvents

open Ipc Presses
open Transition.System

inductive Act where
  | key (event : KeyEvent)
  | button (stroke : Stroke Int32)

/-- What does not depend on the device and the time. -/
def KeyEvent.typed (event : KeyEvent) : KeyEvent :=
  { event with actionTime := 0, actionStartTime := 0, deviceId := 0, flag := 0 }

variable {mmi : MmiConstants} (codes : InterceptorCodes) (arithmetic : DoubleArithmetic)
  {platform : Platform}

def RemoteEvent.act : RemoteEvent mmi → Option Act
  | .pointer event => (event.stroke codes.toActionCodes).map .button
  | .key event => some (.key event.typed)
  | .other _ => none

def BuilderOutput.act : BuilderOutput mmi → Option Act
  | .simulatePointerEvent event => (event.stroke codes.toActionCodes).map .button
  | .simulateKeyEvent event => some (.key event.typed)
  | .notifyCrossDrag _ => none

/-- The pointer of the event has an item. -/
def RemoteEvent.HasItem : RemoteEvent mmi → Prop
  | .pointer event => (event.getPointerItem event.pointerId).isSome
  | _ => True

/-! ## The receiving device -/

namespace InputEventBuilder

/-- From `b` to `b'`, these acts are simulated. -/
structure Simulates (acts : List Act) (b b' : InputEventBuilder mmi) : Prop where
  enabled : b'.enabled = b.enabled
  remoteNetworkId : b'.remoteNetworkId = b.remoteNetworkId
  outputs : ∃ new, b'.outputs = b.outputs ++ new ∧ new.filterMap (BuilderOutput.act codes) = acts

variable {codes arithmetic} {acts acts' : List Act} {b b₁ b₂ : InputEventBuilder mmi}

theorem Simulates.nothing (enabled : b₁.enabled = b.enabled)
    (remoteNetworkId : b₁.remoteNetworkId = b.remoteNetworkId) (outputs : b₁.outputs = b.outputs) :
    Simulates codes [] b b₁ :=
  ⟨enabled, remoteNetworkId, [], by rw [outputs, List.append_nil], rfl⟩

theorem Simulates.trans (h : Simulates codes acts b b₁) (h' : Simulates codes acts' b₁ b₂) :
    Simulates codes (acts ++ acts') b b₂ := by
  obtain ⟨new, eq, acts⟩ := h.outputs
  obtain ⟨new', eq', acts'⟩ := h'.outputs
  refine ⟨h'.enabled.trans h.enabled, h'.remoteNetworkId.trans h.remoteNetworkId, new ++ new', ?_,
    ?_⟩
  · rw [eq', eq, List.append_assoc]
  · rw [List.filterMap_append, acts, acts']

theorem Simulates.output (o : BuilderOutput mmi) (b : InputEventBuilder mmi) :
    Simulates codes (o.act codes).toList b (b.output o) :=
  ⟨rfl, rfl, [o], rfl, filterMap_singleton _ o⟩

variable (codes arithmetic)

theorem simulates_isActive (b : InputEventBuilder mmi) :
    Simulates codes [] b (b.isActive codes.toActionCodes).2 := by
  have agrees := agrees_isActive codes.toActionCodes b
  refine .nothing agrees.enabled ?_ agrees.outputs
  unfold isActive
  split
  · rfl
  · split
    · rfl
    · split <;> rfl

theorem remoteNetworkId_dampPointerMotion (b : InputEventBuilder mmi) :
    (b.dampPointerMotion arithmetic).2.remoteNetworkId = b.remoteNetworkId := by
  unfold dampPointerMotion
  split
  · rfl
  · split
    · rfl
    · split <;> rfl

theorem simulates_updatePointerEvent (time : Int64) (b : InputEventBuilder mmi) :
    Simulates codes [] b (b.updatePointerEvent codes.toActionCodes arithmetic time).2 := by
  have agrees := agrees_updatePointerEvent codes.toActionCodes arithmetic time b
  have damped := remoteNetworkId_dampPointerMotion arithmetic b
  refine .nothing agrees.enabled ?_ agrees.outputs
  unfold updatePointerEvent
  split
  · rfl
  · generalize b.dampPointerMotion arithmetic = r at damped ⊢
    obtain ⟨ok, b'⟩ := r
    cases ok <;> exact damped

theorem simulates_onNotifyCrossDrag (b : InputEventBuilder mmi) :
    Simulates codes [] b (b.onNotifyCrossDrag codes.toActionCodes) := by
  simp only [onNotifyCrossDrag]
  split
  · exact .nothing rfl rfl rfl
  · exact .output (.notifyCrossDrag _) b

/-- A stroke of a button is no move, so a frozen builder lets it pass. -/
theorem simulates_of_stroke {stroke : Stroke Int32}
    (h : b.pointerEvent.stroke codes.toActionCodes = some stroke)
    (item : (b.pointerEvent.getPointerItem b.pointerEvent.pointerId).isSome) :
    b.simulates codes.toActionCodes = true := by
  have distinct := codes.pointerActions
  simp only [List.nodup_cons, List.mem_cons, not_or] at distinct
  have notMove : b.pointerEvent.pointerAction ≠ codes.POINTER_ACTION_MOVE ∧
      b.pointerEvent.pointerAction ≠ codes.POINTER_ACTION_PULL_MOVE := by
    unfold PointerEvent.stroke at h
    grind
  have active : (b.isActive codes.toActionCodes).1 = true := by
    unfold isActive
    split
    · rfl
    · rw [if_pos (.inr notMove)]
  rw [InputEventBuilder.simulates, active, item, Bool.or_true, Bool.and_self]

/-- What the event does to its button is simulated. -/
theorem simulates_simulate (time : Int64) (b : InputEventBuilder mmi)
    (item : (b.pointerEvent.getPointerItem b.pointerEvent.pointerId).isSome) :
    Simulates codes ((b.pointerEvent.stroke codes.toActionCodes).map .button).toList b
      (b.simulate codes.toActionCodes arithmetic time) := by
  have silent (h : b.simulates codes.toActionCodes = false) :
      b.pointerEvent.stroke codes.toActionCodes = none := by
    by_contra shown
    obtain ⟨stroke, shown⟩ := Option.ne_none_iff_exists'.mp shown
    exact absurd (simulates_of_stroke codes shown item) (by simp [h])
  have active := simulates_isActive codes b
  have agrees := agrees_isActive codes.toActionCodes b
  have same := pointerEvent_isActive codes.toActionCodes b
  unfold InputEventBuilder.simulates at silent
  unfold simulate
  generalize isActive codes.toActionCodes b = r at active agrees same silent ⊢
  obtain ⟨passes, b₁⟩ := r
  cases passes with
  | false =>
    rw [silent rfl]
    exact active
  | true =>
    have updated := simulates_updatePointerEvent codes arithmetic time b₁
    have agrees' := agrees_updatePointerEvent codes.toActionCodes arithmetic time b₁
    have shown := fst_updatePointerEvent codes.toActionCodes arithmetic time b₁
    rw [show b₁.pointerEvent = b.pointerEvent from same] at shown
    rw [Bool.true_and, ← shown] at silent
    dsimp only
    generalize updatePointerEvent codes.toActionCodes arithmetic time b₁ = r
      at updated agrees' silent ⊢
    obtain ⟨ok, b₂⟩ := r
    cases ok with
    | false =>
      rw [silent rfl]
      exact active.trans updated
    | true =>
      have stroke := (agrees.trans _ agrees').stroke
      rw [← stroke]
      exact (active.trans updated).trans (.output (.simulatePointerEvent b₂.pointerEvent) b₂)

theorem simulates_receive (arrival : Arrival platform) (e : RemoteEvent mmi) (item : e.HasItem)
    (b : InputEventBuilder mmi) :
    Simulates codes (e.act codes).toList b (b.receive codes arithmetic arrival e) := by
  cases e with
  | pointer event =>
    let tagged : InputEventBuilder mmi :=
      { b with pointerEvent := { event with deviceId := b.tagRemoteEvent event.deviceId } }
    have told := simulates_onNotifyCrossDrag codes tagged
    have same : (tagged.onNotifyCrossDrag codes.toActionCodes).pointerEvent = tagged.pointerEvent :=
      (tagged_onNotifyCrossDrag codes.toActionCodes event _ b).1
    have done := simulates_simulate codes arithmetic arrival.time
      (tagged.onNotifyCrossDrag codes.toActionCodes) (by rw [same]; exact item)
    rw [same] at done
    have start : Simulates codes [] b tagged := .nothing rfl rfl rfl
    exact start.trans (told.trans done)
  | key event =>
    let tagged : KeyEvent := { event with
      actionTime := arrival.time
      actionStartTime := arrival.time
      deviceId := b.tagRemoteEvent event.deviceId
      flag := event.flag ||| codes.EVENT_FLAG_SIMULATE }
    have start : Simulates codes [] b { b with keyEvent := tagged } := .nothing rfl rfl rfl
    exact start.trans (.output (.simulateKeyEvent tagged) _)
  | other packet => exact .nothing rfl rfl rfl

/-- What the peer sends is simulated, in order. -/
theorem simulates_handleAll {networkId : StdString} {events : List (RemoteEvent mmi)}
    (items : ∀ e ∈ events, e.HasItem) (arrival : ℕ → Arrival platform)
    (b : InputEventBuilder mmi) (enabled : b.enabled = true)
    (peer : b.remoteNetworkId = networkId) :
    Simulates codes (events.filterMap (RemoteEvent.act codes)) b
      (handleAll (accept codes arithmetic networkId) arrival events b) := by
  induction events generalizing arrival b with
  | nil => exact .nothing rfl rfl rfl
  | cons e events ih =>
    obtain ⟨here, later⟩ := List.forall_mem_cons.mp items
    have accepted : b.accept codes arithmetic networkId (arrival 0) e =
        b.receive codes arithmetic (arrival 0) e := if_pos ⟨enabled, peer.symm⟩
    have first := simulates_receive codes arithmetic (arrival 0) e here b
    have rest := ih later (fun k => arrival (k + 1)) _ (first.enabled.trans enabled)
      (first.remoteNetworkId.trans peer)
    rw [handleAll, accepted, List.filterMap_cons]
    have both := first.trans rest
    cases act : e.act codes with
    | none | some a =>
      rw [act] at both
      exact both

end InputEventBuilder

/-! ## The sending device -/

namespace InputEventInterceptor

variable {codes} {i : InputEventInterceptor mmi} {event : PointerEvent mmi}
  {originPointerAction : Int32}

/-- An interceptor that has been added has a sampler that hands over what it samples at once. -/
structure InOrder (i : InputEventInterceptor mmi) : Prop where
  queue : i.inputEventSampler.sampledEvents = []
  handler : 0 ≤ i.interceptorId → i.inputEventSampler.pointerEventHandler = true

theorem InOrder.ready (h : i.InOrder) (added : 0 ≤ i.interceptorId) : i.inputEventSampler.Ready :=
  ⟨h.queue, h.handler added⟩

theorem inputEventSampler_removeTimer (i : InputEventInterceptor mmi) :
    i.removeTimer.inputEventSampler = i.inputEventSampler ∧
      i.removeTimer.interceptorId = i.interceptorId := by
  unfold removeTimer
  split <;> exact ⟨rfl, rfl⟩

theorem inputEventSampler_disable (answers : InterceptorAnswers) (i : InputEventInterceptor mmi) :
    (i.disable answers).inputEventSampler = i.inputEventSampler ∧
      (0 ≤ (i.disable answers).interceptorId → 0 ≤ i.interceptorId) := by
  unfold disable
  rw [(inputEventSampler_removeTimer _).1, (inputEventSampler_removeTimer _).2]
  split
  · exact ⟨rfl, fun added => absurd added (show ¬ (0 : Int32) ≤ -1 by decide)⟩
  · exact ⟨rfl, id⟩

theorem inputEventSampler_onPointerEvent (answers : InterceptorAnswers)
    (i : InputEventInterceptor mmi) (event : PointerEvent mmi) :
    let i' := i.onPointerEvent codes platform originPointerAction answers event
    i'.inputEventSampler = i.inputEventSampler ∧ i'.interceptorId = i.interceptorId := by
  have start : (if i.scanState then i.turnOffChannelScan answers else i).inputEventSampler =
      i.inputEventSampler ∧
      (if i.scanState then i.turnOffChannelScan answers else i).interceptorId =
        i.interceptorId := by
    split <;> exact ⟨rfl, rfl⟩
  have quiet := inputEventSampler_removeTimer
    (if i.scanState then i.turnOffChannelScan answers else i)
  rw [start.1, start.2] at quiet
  intro i'
  unfold i' onPointerEvent
  dsimp only
  split
  · exact quiet
  · have told : ∀ i' : InputEventInterceptor mmi, ∀ event : PointerEvent mmi,
        (i'.onNotifyCrossDrag codes event).inputEventSampler = i'.inputEventSampler ∧
          (i'.onNotifyCrossDrag codes event).interceptorId = i'.interceptorId := by
      intro i' event
      unfold onNotifyCrossDrag
      split <;> exact ⟨rfl, rfl⟩
    rw [← (told _ (event.restore codes originPointerAction)).1,
      ← (told _ (event.restore codes originPointerAction)).2] at quiet
    split <;> exact quiet

theorem inputEventSampler_foldl (answers : InterceptorAnswers) (handed : List (PointerEvent mmi))
    (i : InputEventInterceptor mmi) :
    let i' := handed.foldl (onPointerEvent codes platform originPointerAction answers) i
    i'.inputEventSampler = i.inputEventSampler ∧ i'.interceptorId = i.interceptorId := by
  induction handed generalizing i with
  | nil => exact ⟨rfl, rfl⟩
  | cons event handed ih =>
    obtain ⟨sampler, added⟩ :=
      ih (i.onPointerEvent codes platform originPointerAction answers event)
    obtain ⟨sampler', added'⟩ := inputEventSampler_onPointerEvent answers i event
    exact ⟨sampler.trans sampler', added.trans added'⟩

theorem InOrder.next (h : i.InOrder) (call : InterceptorCall mmi) :
    (i.next codes platform call).InOrder := by
  cases call with
  | enable peer answers =>
    simp only [InputEventInterceptor.next, enable]
    split
    · exact ⟨h.queue, h.handler⟩
    · split
      · exact ⟨h.queue, fun _ => rfl⟩
      · exact ⟨h.queue, fun _ => rfl⟩
  | disable answers =>
    obtain ⟨sampler, id⟩ := inputEventSampler_disable answers { i with outputs := [] }
    simp only [InputEventInterceptor.next]
    refine ⟨by rw [sampler]; exact h.queue, fun added => ?_⟩
    rw [sampler]
    exact h.handler (id added)
  | update peer => exact ⟨h.queue, h.handler⟩
  | timeout answers => exact ⟨h.queue, h.handler⟩
  | pointerEvent event originPointerAction answers =>
    simp only [InputEventInterceptor.next]
    split
    · next added =>
      have ready := (h.ready added).onPointerEvent codes.toSamplerCodes event answers.clock
      generalize i.inputEventSampler.onPointerEvent codes.toSamplerCodes event answers.clock = r
        at ready ⊢
      have sampler : (r.1.foldl (onPointerEvent codes platform originPointerAction answers)
          { i with outputs := [], inputEventSampler := r.2 }).inputEventSampler = r.2 :=
        (inputEventSampler_foldl answers r.1 _).1
      refine ⟨?_, fun _ => ?_⟩
      · rw [sampler]
        exact ready.queue
      · rw [sampler]
        exact ready.handler
    · exact ⟨h.queue, h.handler⟩
  | keyEvent event =>
    simp only [InputEventInterceptor.next, onKeyEvent]
    split
    · split
      · exact ⟨h.queue, h.handler⟩
      · split <;> exact ⟨h.queue, h.handler⟩
    · exact ⟨h.queue, h.handler⟩

theorem stroke_restore_addPointerItem (item : PointerItem) (event : PointerEvent mmi) :
    ((event.addPointerItem item).restore codes originPointerAction).stroke codes.toActionCodes =
      (event.restore codes originPointerAction).stroke codes.toActionCodes := by
  have buttonId : (event.addPointerItem item).buttonId = event.buttonId := by
    unfold PointerEvent.addPointerItem
    split <;> rfl
  unfold PointerEvent.restore
  rw [PointerEvent.pointerAction_addPointerItem]
  split
  · simp only [PointerEvent.stroke, buttonId]
  · exact InputEventBuilder.stroke_addPointerItem _ item event

/-- Only moves wait in the sampler. -/
theorem stroke_restore_of_move
    (move : InputEventSampler.isSpecialEvent codes.toSamplerCodes event = false) :
    (event.restore codes originPointerAction).stroke codes.toActionCodes = none := by
  have distinct := codes.pointerActions
  simp only [List.nodup_cons, List.mem_cons, not_or] at distinct
  unfold InputEventSampler.isSpecialEvent at move
  unfold PointerEvent.restore PointerEvent.stroke
  grind

variable (codes) in
/-- What the sampler hands over has an item, is not filtered, and has the stroke of what it was
given. -/
theorem handed_spec {s : InputEventSampler mmi} (ready : s.Ready) (clock : ClockReadings)
    (event : PointerEvent mmi) (originPointerAction : Int32) :
    let handed := (s.onPointerEvent codes.toSamplerCodes event clock).1
    (∀ e ∈ handed, (e.getPointerItem e.pointerId).isSome ∧ e.pointerAction ∉ codes.filterPointers) ∧
      handed.filterMap (fun e => (e.restore codes originPointerAction).stroke codes.toActionCodes) =
        if Interception.Accepted codes.toSamplerCodes event then
          ((event.restore codes originPointerAction).stroke codes.toActionCodes).toList
        else [] := by
  intro handed
  by_cases accepted : Interception.Accepted codes.toSamplerCodes event
  · have ⟨kept, hasItem⟩ := accepted
    have action : event.pointerAction ∉ codes.toSamplerCodes.filterPointerActions := by
      simpa [InputEventSampler.isSkipNeeded] using kept
    obtain ⟨item, found⟩ := Option.isSome_iff_exists.mp hasItem
    rw [if_pos accepted]
    cases touch : InputEventSampler.isTouchPadEvent codes.toSamplerCodes event with
    | true =>
      rw [show handed = [event] from
        (InputEventSampler.onPointerEvent_of_touchPad clock ready kept touch).1]
      exact ⟨by simpa using ⟨hasItem, action⟩, filterMap_singleton _ event⟩
    | false =>
      obtain ⟨handed', -⟩ | ⟨move, handed', -⟩ :=
        InputEventSampler.onPointerEvent_of_mouse clock ready kept touch found
      · rw [show handed = _ from handed']
        have item' := InputEventSampler.getPointerItem_withPending (s := s) found
        refine ⟨?_, ?_⟩
        · rw [List.forall_mem_singleton, PointerEvent.pointerId_addPointerItem, item',
            PointerEvent.pointerAction_addPointerItem]
          exact ⟨rfl, action⟩
        · rw [filterMap_singleton, stroke_restore_addPointerItem]
      · rw [show handed = _ from handed', stroke_restore_of_move move]
        exact ⟨by simp, rfl⟩
  · rw [if_neg accepted, show handed = [] from
      (InputEventSampler.onPointerEvent_of_refused clock ready accepted).1]
    exact ⟨by simp, rfl⟩

theorem hasItem_restore (originPointerAction : Int32) (event : PointerEvent mmi) :
    (RemoteEvent.pointer (event.restore codes originPointerAction)).HasItem ↔
      (event.getPointerItem event.pointerId).isSome := by
  unfold PointerEvent.restore
  split <;> exact Iff.rfl

/-- Every event that is to be sent is taken by the adapter. -/
def Transmits (codes : InterceptorCodes) (platform : Platform) (receiver : StdString)
    (call : InterceptorCall mmi) (i : InputEventInterceptor mmi) : Prop :=
  match call with
  | .pointerEvent event originPointerAction answers =>
    0 ≤ i.interceptorId → i.remoteNetworkId = receiver ∧
      ∀ e ∈ (i.inputEventSampler.onPointerEvent codes.toSamplerCodes event answers.clock).1,
        transmitted
          (marshalledPointer platform answers (e.restore codes originPointerAction)) = true
  | .keyEvent event =>
    0 ≤ i.interceptorId → i.remoteNetworkId = receiver ∧
      (event.keyCode ∉ codes.filterKeys → transmitted (keyMarshalled codes event) = true)
  | _ => True

/-- The keys and strokes of a call that are for the peer. -/
def acts (codes : InterceptorCodes) (call : InterceptorCall mmi) (i : InputEventInterceptor mmi) :
    List Act :=
  match call with
  | .pointerEvent event originPointerAction _ =>
    if 0 ≤ i.interceptorId ∧ Interception.Accepted codes.toSamplerCodes event then
      (((event.restore codes originPointerAction).stroke codes.toActionCodes).map .button).toList
    else []
  | .keyEvent event =>
    if 0 ≤ i.interceptorId ∧ event.keyCode ∉ codes.filterKeys then [.key event.typed] else []
  | _ => []

/-- They are what is forwarded. -/
theorem acts_forwards {receiver : StdString} {call : InterceptorCall mmi} (inOrder : i.InOrder)
    (transmits : Transmits codes platform receiver call i) :
    (∀ e ∈ forwards codes platform receiver call i, e.HasItem) ∧
      (forwards codes platform receiver call i).filterMap (RemoteEvent.act codes) =
        acts codes call i := by
  by_cases added : 0 ≤ i.interceptorId
  · cases call with
    | pointerEvent event originPointerAction answers =>
      obtain ⟨peer, sent⟩ := transmits added
      obtain ⟨kept, strokes⟩ :=
        handed_spec codes (inOrder.ready added) answers.clock event originPointerAction
      have all : forwards codes platform receiver
            (.pointerEvent event originPointerAction answers) i =
          (i.inputEventSampler.onPointerEvent codes.toSamplerCodes event answers.clock).1.map
            fun e => .pointer (e.restore codes originPointerAction) := by
        simp only [forwards, added, peer, and_self, if_true]
        rw [← List.filterMap_eq_map]
        refine List.filterMap_congr fun e he => ?_
        simp [forwardPointer, (kept e he).2, sent e he]
      rw [all]
      constructor
      · rw [List.forall_mem_map]
        intro e he
        exact (hasItem_restore originPointerAction e).mpr (kept e he).1
      · have buttons := congrArg (List.map Act.button) strokes
        rw [List.map_filterMap] at buttons
        rw [List.filterMap_map]
        refine buttons.trans ?_
        simp only [acts, added, true_and]
        split
        · exact Option.toList_map.symm
        · rfl
    | keyEvent event =>
      obtain ⟨peer, sent⟩ := transmits added
      simp only [forwards, acts, added, peer, true_and, and_self, if_true, forwardKey]
      split
      · simp [*]
      · next other => simp [sent other, RemoteEvent.HasItem, RemoteEvent.act]
    | _ => simp [forwards, acts]
  · have none : forwards codes platform receiver call i = [] := by simp [forwards, added]
    rw [none]
    cases call <;> simp [acts, added]

end InputEventInterceptor

/-! ## Both devices -/

namespace RemoteInput

variable (platform) (sender receiver : StdString)

/-- The keys and strokes for the peer that a step captures. -/
def capturedActs (l : RemoteInputLabel mmi platform) (s : RemoteInput mmi) : List Act :=
  match l with
  | .captured call => s.interceptor.acts codes call
  | _ => []

/-- The keys and strokes that are simulated when something arrives. -/
def arrivedActs (l : RemoteInputLabel mmi platform) (s : RemoteInput mmi) : List Act :=
  match l with
  | .deliver _ _ =>
    ((next codes arithmetic platform sender receiver l s).inputEventBuilder.outputs.drop
      s.inputEventBuilder.outputs.length).filterMap (BuilderOutput.act codes)
  | _ => []

/-- The interceptor sends to the receiver, and the builder takes what comes from the sender. -/
def Delivers (l : RemoteInputLabel mmi platform) (s : RemoteInput mmi) : Prop :=
  match l with
  | .captured call => s.interceptor.Transmits codes platform receiver call
  | .deliver _ _ =>
    s.inputEventBuilder.enabled = true ∧ s.inputEventBuilder.remoteNetworkId = sender
  | _ => True

instance decidableDelivers (l : RemoteInputLabel mmi platform) (s : RemoteInput mmi) :
    Decidable (Delivers codes platform sender receiver l s) :=
  match l with
  | .captured (.pointerEvent ..) => inferInstanceAs (Decidable (_ → _ ∧ ∀ e ∈ _, _ = true))
  | .captured (.keyEvent _) => inferInstanceAs (Decidable (_ → _ ∧ (_ → _ = true)))
  | .captured (.enable ..) | .captured (.disable _) | .captured (.update _)
  | .captured (.timeout _) => inferInstanceAs (Decidable True)
  | .deliver _ _ => inferInstanceAs (Decidable (_ ∧ _))
  | .other _ | .builder _ | .disableBuilder _ => inferInstanceAs (Decidable True)

/-- The events under way, as far as keys and strokes are concerned. -/
structure Carries (s : RemoteInput mmi) (d : DirectInput mmi) : Prop
    extends Refines codes platform s d where
  inOrder : s.interceptor.InOrder
  items : ∀ e ∈ d.underWay, e.HasItem

variable {codes platform sender receiver} {s : RemoteInput mmi} {d : DirectInput mmi}

theorem Carries.deliver (h : Carries codes platform s d) {n : ℕ} {arrival : ℕ → Arrival platform}
    (smooth : Smooth codes platform receiver (.deliver n arrival) s)
    (delivers : Delivers codes platform sender receiver (.deliver n arrival) s) :
    ∃ d', Carries codes platform
        (next codes arithmetic platform sender receiver (.deliver n arrival) s) d' ∧
      arrivedActs codes arithmetic platform sender receiver (.deliver n arrival) s ++
          d'.underWay.filterMap (RemoteEvent.act codes) =
        d.underWay.filterMap (RemoteEvent.act codes) := by
  obtain ⟨k, refines⟩ := h.toRefines.deliver arithmetic sender receiver smooth
  refine ⟨_, ⟨refines, h.inOrder, fun e he => h.items e (List.mem_of_mem_drop he)⟩, ?_⟩
  have items : ∀ e ∈ d.underWay.take k, e.HasItem :=
    fun e he => h.items e (List.mem_of_mem_take he)
  obtain ⟨-, -, new, outputs, acts⟩ := InputEventBuilder.simulates_handleAll codes arithmetic items
    arrival s.inputEventBuilder delivers.1 delivers.2
  have builder : (next codes arithmetic platform sender receiver (.deliver n arrival)
      s).inputEventBuilder.outputs = s.inputEventBuilder.outputs ++ new := by
    rw [← refines.inputEventBuilder, ← outputs, ← h.inputEventBuilder]
    rfl
  rw [arrivedActs, builder, List.drop_left, acts, ← List.filterMap_append]
  exact congrArg _ (List.take_append_drop k d.underWay)

/-- What a step takes off the events under way it simulates, and what it captures it adds. -/
theorem Carries.step (h : Carries codes platform s d) (l : RemoteInputLabel mmi platform)
    (smooth : Smooth codes platform receiver l s)
    (delivers : Delivers codes platform sender receiver l s) :
    ∃ d', Carries codes platform (next codes arithmetic platform sender receiver l s) d' ∧
      arrivedActs codes arithmetic platform sender receiver l s ++
          d'.underWay.filterMap (RemoteEvent.act codes) =
        d.underWay.filterMap (RemoteEvent.act codes) ++ capturedActs codes platform l s := by
  have refines := h.toRefines.step arithmetic sender receiver l smooth
  cases l with
  | deliver n arrival =>
    obtain ⟨d', carries, acts⟩ := h.deliver arithmetic smooth delivers
    exact ⟨d', carries, acts.trans (List.append_nil _).symm⟩
  | captured call =>
    obtain ⟨items, acts⟩ := InputEventInterceptor.acts_forwards h.inOrder delivers
    refine ⟨_, ⟨refines (by simp), h.inOrder.next call, ?_⟩, ?_⟩
    · simp only [DirectInput.next, h.interceptor, List.forall_mem_append]
      exact ⟨h.items, items⟩
    · simp only [DirectInput.next, h.interceptor, List.filterMap_append, acts, arrivedActs,
        capturedActs, List.nil_append]
  | other packet =>
    refine ⟨_, ⟨refines (by simp), h.inOrder, ?_⟩, ?_⟩
    · simp only [DirectInput.next, List.forall_mem_append, List.forall_mem_singleton]
      exact ⟨h.items, trivial⟩
    · simp only [DirectInput.next, List.filterMap_append, arrivedActs, capturedActs,
        filterMap_singleton, RemoteEvent.act, Option.toList_none, List.nil_append]
  | builder call | disableBuilder dragState =>
    exact ⟨_, ⟨refines (by simp), h.inOrder, h.items⟩, (List.append_nil _).symm⟩

/-- Keys and strokes of buttons arrive in the order in which they were captured, each one once, and
when all bytes have arrived, all of them have. -/
theorem acts_arrive {tr : List (RemoteInputLabel mmi platform)} (fresh : s.Fresh)
    (inOrder : s.interceptor.InOrder)
    (smooth : EachStep (next codes arithmetic platform sender receiver)
      (Smooth codes platform receiver) s tr)
    (delivers : EachStep (next codes arithmetic platform sender receiver)
      (Delivers codes platform sender receiver) s tr) :
    let arrived := collect (next codes arithmetic platform sender receiver)
      (arrivedActs codes arithmetic platform sender receiver) s tr
    let captured := collect (next codes arithmetic platform sender receiver)
      (capturedActs codes platform) s tr
    arrived <+: captured ∧
      ((runFrom (next codes arithmetic platform sender receiver) s tr).wire = [] →
        arrived = captured) := by
  intro arrived captured
  have start : Carries codes platform s s.direct := ⟨fresh.refines, inOrder, by simp [direct]⟩
  have both : EachStep (next codes arithmetic platform sender receiver)
      (fun l s => Smooth codes platform receiver l s ∧
        Delivers codes platform sender receiver l s) s tr :=
    fun p l hp => ⟨smooth p l hp, delivers p l hp⟩
  obtain ⟨d, carries, conserved⟩ := EachStep.collect_append_queue
    (fun d : DirectInput mmi => d.underWay.filterMap (RemoteEvent.act codes))
    (fun l s d (h : Carries codes platform s d) ok => h.step arithmetic l ok.1 ok.2) start both
  have whole : arrived ++ d.underWay.filterMap (RemoteEvent.act codes) = captured := conserved
  refine ⟨⟨_, whole⟩, fun done => ?_⟩
  rw [← whole, carries.toRefines.underWay done]
  exact (List.append_nil _).symm

theorem delivers_pressing :
    EachStep step (Delivers .sample .bits64 [1] [2]) listening pressing := by
  refine .cons ?_ (.cons ?_ (.cons ?_ (.cons ?_ (.cons ?_ (.cons ?_ .nil)))))
  all_goals decide +kernel

theorem acts_arrive_pressing :
    collect step (arrivedActs .sample .atRest .bits64 [1] [2]) listening pressing =
      collect step (capturedActs .sample .bits64) listening pressing :=
  (acts_arrive .atRest fresh_listening ⟨rfl, fun h => absurd h (by decide)⟩ smooth_pressing
    delivers_pressing).2 (by decide +kernel)

end RemoteInput

end DeviceStatus.InputEvents
