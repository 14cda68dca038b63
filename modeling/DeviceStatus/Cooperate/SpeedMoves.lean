import DeviceStatus.Cooperate.Speeds

/-!
# What an event does to the speeds

Each handler changes the speeds in one of the ways of `SpeedMove`; `step_speedMove` is the one
fact about the code that the properties of the speeds need.

## Main definitions

* `pairedSpeeds` — the speeds of a start message that binds the device to a peer.
* `SpeedMove` — the outcomes of an event.
-/

namespace DeviceStatus.Cooperation

/-- The speeds of a start message that binds a device, in state `o`, to a new peer. -/
def pairedSpeeds (env : Env) (e : CooperateEvent) (o : Observed) : Option (Int32 × Int32) :=
  match e.remoteStart? with
  | none => none
  | some s =>
    match o.current, o.inStep with
    | .free, _ => e.speeds?
    | .in, .relayConfirmation => none
    | _, _ =>
      if s.networkId = o.peer ∨ s.networkId = env.localNetworkId then none else e.speeds?

open Speeds in
/-- The outcomes of an event that the state of `o` handles. -/
inductive SpeedMove (env : Env) (e : CooperateEvent) (o : Observed) (s : Speeds) : Speeds → Prop
  | keep (unpaired : pairedSpeeds env e o = none) (peerPointer peerTouchPad : Int32) :
      SpeedMove env e o s { s with peerPointer, peerTouchPad }
  | begin (unpaired : pairedSpeeds env e o = none) (hc : s.current = .free) :
      SpeedMove env e o s (s.goto .out).saveOrigin
  | pair {v : Int32 × Int32} (paired : pairedSpeeds env e o = some v) (hc : s.current = .free) :
      SpeedMove env e o s (((s.storePeer v).goto .in).transitionIn env)
  | pairOut {v : Int32 × Int32} (paired : pairedSpeeds env e o = some v) (hc : s.current = .out) :
      SpeedMove env e o s (((s.reset env).goto .in).transitionIn env)
  | pairIn {v : Int32 × Int32} (paired : pairedSpeeds env e o = some v) (hc : s.current = .in) :
      SpeedMove env e o s (((s.storePeer v).reset env).transitionIn env)
  | leave (unpaired : pairedSpeeds env e o = none) (hc : s.current ≠ .free) :
      SpeedMove env e o s ((s.goto .free).reset env)
  /-- `OnHotplug` in OUT stops twice. -/
  | leaveTwice (unpaired : pairedSpeeds env e o = none) (hc : s.current = .out) :
      SpeedMove env e o s ((((s.goto .free).reset env).goto .free).reset env)
  | resetFree {n : DisableCooperateEvent} (he : e = .disable n) (hc : s.current = .free)
      (drag : env.dragState = .start) (cross : env.isCrossDragging = true) :
      SpeedMove env e o s (s.reset env)

variable (env : Env) (m : Cooperate)

theorem SpeedMove.same {e : CooperateEvent} {o : Observed} {s : Speeds}
    (unpaired : pairedSpeeds env e o = none) : SpeedMove env e o s s :=
  .keep unpaired s.peerPointer s.peerTouchPad

theorem pairedSpeeds_of_none {e : CooperateEvent} (h : e.remoteStart? = none) (o : Observed) :
    pairedSpeeds env e o = none := by
  simp only [pairedSpeeds, h]

/-! ## FREE -/

theorem free_speeds_onStart (notice : StartCooperateEvent) :
    spd (Free.onStart env notice m) = spd m ∨
      spd (Free.onStart env notice m) = ((spd m).goto .out).saveOrigin := by
  unfold Free.onStart
  dsimp only
  split_ifs <;>
    simp [Free.cooperateFail, Free.initiatorPointerVisible, apply_ite spd,
      DSoftbusHandler.startCooperate]

theorem free_speeds_onStartWithOptions (notice : StartWithOptionsEvent) :
    spd (Free.onStartWithOptions env notice m) = spd m ∨
      spd (Free.onStartWithOptions env notice m) = ((spd m).goto .out).saveOrigin := by
  unfold Free.onStartWithOptions
  dsimp only
  split_ifs <;> simp [DSoftbusHandler.startCooperateWithOptions]

theorem free_speedMove (hc : m.machine.current = .free) (e : CooperateEvent) :
    SpeedMove env e (obs m) (spd m) (spd (Free.onEvent env e m)) := by
  cases e with
  | start notice =>
    rcases free_speeds_onStart env m notice with h | h
    · simp only [Free.onEvent, h]
      exact .same env rfl
    · simp only [Free.onEvent, h]
      exact .begin rfl hc
  | withOptionsStart notice =>
    rcases free_speeds_onStartWithOptions env m notice with h | h
    · simp only [Free.onEvent, h]
      exact .same env rfl
    · simp only [Free.onEvent, h]
      exact .begin rfl hc
  | disable n =>
    by_cases drag : env.dragState = .start
    · cases cross : env.isCrossDragging with
      | true =>
        have h : spd (Free.onEvent env (.disable n) m) = (spd m).reset env := by
          simp [Free.onEvent, Free.onDisable, drag, cross]
        rw [h]
        exact .resetFree rfl hc drag cross
      | false =>
        have h : spd (Free.onEvent env (.disable n) m) = spd m := by
          simp [Free.onEvent, Free.onDisable, drag, cross]
        rw [h]
        exact .same env rfl
    · have h : spd (Free.onEvent env (.disable n) m) = spd m := by
        simp [Free.onEvent, Free.onDisable, drag]
      rw [h]
      exact .same env rfl
  | dsoftbusStartCooperate notice =>
    have h : spd (Free.onEvent env (.dsoftbusStartCooperate notice) m) =
        (((spd m).storePeer (notice.pointerSpeed, notice.touchPadSpeed)).goto .in).transitionIn
          env := by
      simp [Free.onEvent, Free.onRemoteStart, apply_ite spd, Free.simulateShowPointerEvent,
        EventManager.remoteStart, EventManager.remoteStartFinish]
    rw [h]
    have hc' : (obs m).current = .free := hc
    exact .pair (by simp only [pairedSpeeds, CooperateEvent.remoteStart?, hc',
      CooperateEvent.speeds?]) hc
  | dsoftbusCooperateWithOptions notice =>
    have h : spd (Free.onEvent env (.dsoftbusCooperateWithOptions notice) m) =
        (((spd m).storePeer (notice.pointerSpeed, notice.touchPadSpeed)).goto .in).transitionIn
          env := by
      simp [Free.onEvent, Free.onRemoteStartWithOptions, apply_ite spd,
        Free.simulateShowPointerEvent, EventManager.remoteStart, EventManager.remoteStartFinish]
    rw [h]
    have hc' : (obs m).current = .free := hc
    exact .pair (by simp only [pairedSpeeds, CooperateEvent.remoteStart?, hc',
      CooperateEvent.speeds?]) hc
  | stop param =>
    have h : spd (Free.onEvent env (.stop param) m) = spd m := by simp [Free.onEvent, Free.onStop]
    rw [h]
    exact .same env rfl
  | appClosed n =>
    have h : spd (Free.onEvent env (.appClosed n) m) = spd m := by
      simp [Free.onEvent, Free.onAppClosed]
    rw [h]
    exact .same env rfl
  | inputPointerEvent notice =>
    have h : spd (Free.onEvent env (.inputPointerEvent notice) m) = spd m := by
      simp [Free.onEvent, Free.onPointerEvent, apply_ite spd, setPointerVisible]
    rw [h]
    exact .same env rfl
  | updateCooperateFlag notice => exact .same env rfl
  | _ => exact .same env rfl

/-! ## OUT -/

variable {env m} in
/-- A handler that ends the cooperation or leaves the speeds alone. -/
theorem SpeedMove.leave_or_same {e : CooperateEvent} {o : Observed} {s s' : Speeds}
    (unpaired : pairedSpeeds env e o = none) (hc : s.current ≠ .free)
    (h : s' = s ∨ s' = (s.goto .free).reset env) : SpeedMove env e o s s' := by
  rcases h with rfl | rfl
  · exact .same env unpaired
  · exact .leave unpaired hc

@[simp] theorem spd_out_stopCooperate :
    spd (Out.stopCooperate env m) = ((spd m).goto .free).reset env := by
  simp [Out.stopCooperate, DSoftbusHandler.stopCooperate]

@[simp] theorem spd_out_simulateShowPointerEvent :
    spd (Out.simulateShowPointerEvent m) = spd m := spd_call_silent _ rfl

theorem out_speeds_onComeBack (notice : DSoftbusComeBack) :
    spd (Out.onComeBack env notice m) = spd m ∨
      spd (Out.onComeBack env notice m) = ((spd m).goto .free).reset env := by
  unfold Out.onComeBack
  dsimp only
  split_ifs <;> simp [EventManager.remoteStart, EventManager.remoteStartFinish]

theorem out_speeds_onComeBackWithOptions (notice : DSoftbusComeBackWithOptions) :
    spd (Out.onComeBackWithOptions env notice m) = spd m ∨
      spd (Out.onComeBackWithOptions env notice m) = ((spd m).goto .free).reset env := by
  unfold Out.onComeBackWithOptions
  dsimp only
  split_ifs <;> simp [EventManager.remoteStart, EventManager.remoteStartFinish]

theorem out_speeds_onRemoteStop (notice : DSoftbusStopCooperate) :
    spd (Out.onRemoteStop env notice m) = spd m ∨
      spd (Out.onRemoteStop env notice m) = ((spd m).goto .free).reset env := by
  unfold Out.onRemoteStop
  split_ifs <;> simp

theorem spd_out_onRelay (notice : DSoftbusRelayCooperate) :
    spd (Out.onRelay env notice m) = spd m := by
  unfold Out.onRelay Out.relayTo
  dsimp only
  split_ifs <;> simp [DSoftbusHandler.relayCooperateFinish]

theorem spd_out_onRelayWithOptions (notice : DSoftbusRelayCooperate) :
    spd (Out.onRelayWithOptions env notice m) = spd m := by
  unfold Out.onRelayWithOptions Out.relayTo
  dsimp only
  split_ifs <;> simp [DSoftbusHandler.relayCooperateWithOptionsFinish]

/-- In OUT a start message of the peer ends the cooperation, that of another device takes its
place: the speeds of the message are not stored. -/
theorem out_speeds_onRemoteStart (notice : DSoftbusStartCooperate) :
    spd (Out.onRemoteStart env notice m) =
      if notice.networkId = env.localNetworkId then spd m
      else if notice.networkId = m.peer then ((spd m).goto .free).reset env
      else (((spd m).reset env).goto .in).transitionIn env := by
  unfold Out.onRemoteStart
  simp only [Env.isLocal, Cooperate.isPeer, decide_eq_true_eq]
  split_ifs <;> simp [EventManager.remoteStart, EventManager.remoteStartFinish,
    DSoftbusHandler.stopCooperate]

theorem out_speeds_onRemoteStartWithOptions (notice : DSoftbusCooperateOptions) :
    spd (Out.onRemoteStartWithOptions env notice m) =
      if notice.networkId = env.localNetworkId then spd m
      else if notice.networkId = m.peer then ((spd m).goto .free).reset env
      else (((spd m).reset env).goto .in).transitionIn env := by
  unfold Out.onRemoteStartWithOptions
  simp only [Env.isLocal, Cooperate.isPeer, decide_eq_true_eq]
  split_ifs <;> simp [EventManager.remoteStart, EventManager.remoteStartFinish,
    DSoftbusHandler.stopCooperate]

/-- What `pairedSpeeds` says in OUT and in the initial step of IN. -/
theorem pairedSpeeds_eq {e : CooperateEvent} {r : RemoteStart} (hr : e.remoteStart? = some r)
    {o : Observed} (hc : o.current ≠ .free)
    (hs : o.current = .in → o.inStep = .initial) :
    pairedSpeeds env e o =
      if r.networkId = o.peer ∨ r.networkId = env.localNetworkId then none else e.speeds? := by
  unfold pairedSpeeds
  rw [hr]
  dsimp only
  split
  · contradiction
  · next eq₁ eq₂ => exact absurd (hs eq₁) (by simp [eq₂])
  · rfl

variable {env m} in
theorem out_speedMove_start {e : CooperateEvent} {r : RemoteStart} (hr : e.remoteStart? = some r)
    (hc : m.machine.current = .out)
    (h : spd (Out.onEvent env e m) =
      if r.networkId = env.localNetworkId then spd m
      else if r.networkId = m.peer then ((spd m).goto .free).reset env
      else (((spd m).reset env).goto .in).transitionIn env) :
    SpeedMove env e (obs m) (spd m) (spd (Out.onEvent env e m)) := by
  have hc' : (obs m).current = .out := hc
  have paired := pairedSpeeds_eq env hr (o := obs m) (by simp [hc']) (by simp [hc'])
  rw [h]
  split
  · next isLocal => exact .same env (by rw [paired, if_pos (.inr isLocal)])
  split
  · next isPeer =>
    exact .leave (by rw [paired, if_pos (.inl isPeer)]) (by simp [spd, hc])
  · next notLocal notPeer =>
    have other : ¬ (r.networkId = (obs m).peer ∨ r.networkId = env.localNetworkId) :=
      not_or.mpr ⟨notPeer, notLocal⟩
    rw [if_neg other] at paired
    obtain ⟨v, hv⟩ : ∃ v, e.speeds? = some v := by
      cases e <;> first | exact ⟨_, rfl⟩ | cases hr
    exact .pairOut (paired.trans hv) hc

theorem out_speedMove (hc : m.machine.current = .out) (e : CooperateEvent) :
    SpeedMove env e (obs m) (spd m) (spd (Out.onEvent env e m)) := by
  have inUse : (spd m).current ≠ .free := by simp [spd, hc]
  cases e with
  | dsoftbusStartCooperate notice =>
    exact out_speedMove_start rfl hc (out_speeds_onRemoteStart env m notice)
  | dsoftbusCooperateWithOptions notice =>
    exact out_speedMove_start rfl hc (out_speeds_onRemoteStartWithOptions env m notice)
  | start param =>
    refine .leave_or_same rfl inUse (.inl ?_)
    simp [Out.onEvent, Out.onStart, apply_ite spd]
  | withOptionsStart param =>
    refine .leave_or_same rfl inUse (.inl ?_)
    simp [Out.onEvent, Out.onStartWithOptions, apply_ite spd]
  | disable n => exact .leave_or_same rfl inUse (.inr (by simp [Out.onEvent]))
  | stop param => exact .leave_or_same rfl inUse (.inr (by simp [Out.onEvent, Out.onStop]))
  | appClosed n =>
    exact .leave_or_same rfl inUse (.inr (by simp [Out.onEvent, Out.onAppClosed]))
  | inputHotplugEvent notice =>
    simp only [Out.onEvent, Out.onHotplug]
    split_ifs
    · exact .same env rfl
    · rw [spd_out_stopCooperate, spd_out_stopCooperate]
      exact SpeedMove.leaveTwice (s := spd m) rfl hc
    · exact .same env rfl
    · exact .leave_or_same rfl inUse (.inr (spd_out_stopCooperate ..))
  | ddmBoardOffline notice =>
    refine .leave_or_same rfl inUse ?_
    simp only [Out.onEvent, Out.onBoardOffline]
    split <;> simp
  | ddpCooperateSwitchChanged notice =>
    refine .leave_or_same rfl inUse ?_
    simp only [Out.onEvent, Out.onSwitchChanged]
    split <;> simp
  | dsoftbusSessionClosed notice =>
    refine .leave_or_same rfl inUse ?_
    simp only [Out.onEvent, Out.onSoftbusSessionClosed]
    split <;> simp
  | dsoftbusComeBack notice =>
    exact .leave_or_same rfl inUse (out_speeds_onComeBack env m notice)
  | dsoftbusComeBackWithOptions notice =>
    exact .leave_or_same rfl inUse (out_speeds_onComeBackWithOptions env m notice)
  | dsoftbusStopCooperate notice =>
    exact .leave_or_same rfl inUse (out_speeds_onRemoteStop env m notice)
  | dsoftbusRelayCooperate notice =>
    exact .leave_or_same rfl inUse (.inl (spd_out_onRelay env m notice))
  | dsoftbusRelayCooperateWithOptions notice =>
    exact .leave_or_same rfl inUse (.inl (spd_out_onRelayWithOptions env m notice))
  | stopAboutVirtualTrackpad n =>
    refine .leave_or_same rfl inUse ?_
    simp only [Out.onEvent, Out.onStopAboutVirtualTrackpad]
    split <;> simp
  | inputPointerEvent notice => exact .same env rfl
  | _ => exact .same env rfl

/-! ## IN -/

@[simp] theorem spd_switch (step : InStep) : spd (In.switch step m) = spd m := rfl

@[simp] theorem spd_in_stopCooperate :
    spd (In.stopCooperate env m) = ((spd m).goto .free).reset env := by
  simp [In.stopCooperate, DSoftbusHandler.stopCooperate]

section Relay

open In.RelayConfirmation

@[simp] theorem spd_reset : spd (reset m) = spd m := rfl

@[simp] theorem spd_onReset : spd (onReset m) = spd m := rfl

@[simp] theorem spd_onResetWithNotifyMessage : spd (onResetWithNotifyMessage m) = spd m := by
  simp [onResetWithNotifyMessage]

@[simp] theorem spd_onResetWithOptionsNotifyMessage :
    spd (onResetWithOptionsNotifyMessage m) = spd m := by
  simp [onResetWithOptionsNotifyMessage]

theorem spd_timerId (timerId : Int32) : spd { m with machine.timerId := timerId } = spd m := rfl

@[simp] theorem spd_onProgress (startEvent : StartCooperateEvent) :
    spd (onProgress env startEvent m) = spd m := by
  unfold onProgress
  dsimp only
  split_ifs <;> simp [DSoftbusHandler.relayCooperate, spd_timerId]

@[simp] theorem spd_onProgressWithOptions (startEvent : StartWithOptionsEvent) :
    spd (onProgressWithOptions env startEvent m) = spd m := by
  unfold onProgressWithOptions
  dsimp only
  split_ifs
  · simp
  · exact ((spd_emit ..).trans rfl).trans
      ((spd_send ..).trans (spd_openSession ..))

theorem relay_speeds_onPeerLost (networkId : NetworkId) :
    spd (onPeerLost env networkId m) = spd m ∨
      spd (onPeerLost env networkId m) = ((spd m).goto .free).reset env := by
  unfold onPeerLost
  dsimp only
  split_ifs <;> simp

theorem relay_speeds_onResponse (notice : DSoftbusRelayCooperateFinished) :
    spd (onResponse env notice m) = spd m ∨
      spd (onResponse env notice m) = ((spd m).goto .free).reset env := by
  unfold onResponse
  dsimp only
  split_ifs <;> simp [onNormal, DSoftbusHandler.startCooperate]

theorem relay_speeds_onResponseWithOptions (notice : DSoftbusRelayCooperateFinished) :
    spd (onResponseWithOptions env notice m) = spd m ∨
      spd (onResponseWithOptions env notice m) = ((spd m).goto .free).reset env := by
  unfold onResponseWithOptions
  dsimp only
  split_ifs <;> simp [onNormalWithOptions, DSoftbusHandler.startCooperateWithOptions]

theorem spd_relay_onRemoteStart (notice : DSoftbusStartCooperate) :
    spd (onRemoteStart env notice m) =
      (spd m).storePeer (notice.pointerSpeed, notice.touchPadSpeed) := by
  unfold onRemoteStart
  dsimp only
  split_ifs <;> simp

theorem spd_relay_onRemoteStartWithOptions (notice : DSoftbusCooperateOptions) :
    spd (onRemoteStartWithOptions env notice m) =
      (spd m).storePeer (notice.pointerSpeed, notice.touchPadSpeed) := by
  unfold onRemoteStartWithOptions
  dsimp only
  split_ifs <;> simp

theorem relay_speeds_onRemoteStop (notice : DSoftbusStopCooperate) :
    spd (onRemoteStop notice m) = spd m := by
  unfold onRemoteStop
  split_ifs <;> simp

theorem relay_speeds_onPointerEvent (notice : InputPointerEvent) :
    spd (onPointerEvent env notice m) = spd m ∨
      spd (onPointerEvent env notice m) = ((spd m).goto .free).reset env := by
  unfold onPointerEvent
  split_ifs <;> simp

theorem relay_speedMove (hc : m.machine.current = .in)
    (hs : m.machine.inStep = .relayConfirmation) (e : CooperateEvent) :
    SpeedMove env e (obs m) (spd m) (spd (onEvent env e m)) := by
  have inUse : (spd m).current ≠ .free := by simp [spd, hc]
  have unpaired : pairedSpeeds env e (obs m) = none := by
    have hc' : (obs m).current = .in := hc
    have hs' : (obs m).inStep = .relayConfirmation := hs
    cases e <;> simp [pairedSpeeds, CooperateEvent.remoteStart?, hc', hs']
  cases e with
  | dsoftbusStartCooperate notice =>
    simp only [onEvent, spd_relay_onRemoteStart]
    exact .keep unpaired _ _
  | dsoftbusCooperateWithOptions notice =>
    simp only [onEvent, spd_relay_onRemoteStartWithOptions]
    exact .keep unpaired _ _
  | dsoftbusStopCooperate notice =>
    exact .leave_or_same unpaired inUse (.inl (relay_speeds_onRemoteStop m notice))
  | dsoftbusRelayCooperateFinished notice =>
    exact .leave_or_same unpaired inUse (relay_speeds_onResponse env m notice)
  | dsoftbusRelayCooperateWithOptionsFinished notice =>
    exact .leave_or_same unpaired inUse (relay_speeds_onResponseWithOptions env m notice)
  | inputPointerEvent notice =>
    exact .leave_or_same unpaired inUse (relay_speeds_onPointerEvent env m notice)
  | ddmBoardOffline notice =>
    exact .leave_or_same unpaired inUse (relay_speeds_onPeerLost env m notice.networkId)
  | dsoftbusSessionClosed notice =>
    exact .leave_or_same unpaired inUse (relay_speeds_onPeerLost env m notice.networkId)
  | ddpCooperateSwitchChanged notice =>
    simp only [onEvent, onSwitchChanged]
    split
    · exact .same env unpaired
    · exact .leave_or_same unpaired inUse (relay_speeds_onPeerLost env m notice.networkId)
  | disable n =>
    exact .leave_or_same unpaired inUse (.inr (by simp [onEvent, onDisable]))
  | stop param =>
    exact .leave_or_same unpaired inUse (.inr (by simp [onEvent, onStop]))
  | appClosed n =>
    exact .leave_or_same unpaired inUse (.inr (by simp [onEvent, onAppClosed]))
  | _ => exact .same env unpaired

end Relay

section Initial

open In.Initial

theorem in_speeds_onStart (startEvent : StartCooperateEvent) :
    spd (onStart env startEvent m) = spd m ∨
      spd (onStart env startEvent m) = ((spd m).goto .free).reset env := by
  unfold onStart onComeBack onRelay
  dsimp only
  split_ifs <;> simp [DSoftbusHandler.comeBack]
  exact .inl rfl

theorem in_speeds_onStartWithOptions (startEvent : StartWithOptionsEvent) :
    spd (onStartWithOptions env startEvent m) = spd m ∨
      spd (onStartWithOptions env startEvent m) = ((spd m).goto .free).reset env := by
  unfold onStartWithOptions onComeBackWithOptions onRelayWithOptions
  dsimp only
  split_ifs <;> simp [DSoftbusHandler.comeBackWithOptions]
  exact .inl rfl

/-- The speeds of a start message are stored first, and then cleared with those of the old
peer. -/
theorem in_speeds_onRemoteStart (notice : DSoftbusStartCooperate) :
    spd (onRemoteStart env notice m) =
      if notice.networkId = m.peer ∨ notice.networkId = env.localNetworkId then
        (spd m).storePeer (notice.pointerSpeed, notice.touchPadSpeed)
      else
        (((spd m).storePeer (notice.pointerSpeed, notice.touchPadSpeed)).reset env).transitionIn
          env := by
  have pass := peer_or_local env m notice.networkId
  rw [← peer_eq] at pass
  unfold onRemoteStart
  simp only [isPeer_storePeerSpeeds, pass]
  split_ifs
  · simp
  · simp [EventManager.remoteStart, EventManager.remoteStartFinish,
      DSoftbusHandler.stopCooperate]

theorem in_speeds_onRemoteStartWithOptions (notice : DSoftbusCooperateOptions) :
    spd (onRemoteStartWithOptions env notice m) =
      if notice.networkId = m.peer ∨ notice.networkId = env.localNetworkId then
        (spd m).storePeer (notice.pointerSpeed, notice.touchPadSpeed)
      else
        (((spd m).storePeer (notice.pointerSpeed, notice.touchPadSpeed)).reset env).transitionIn
          env := by
  have pass := peer_or_local env m notice.networkId
  rw [← peer_eq] at pass
  unfold onRemoteStartWithOptions
  simp only [isPeer_storePeerSpeeds, pass]
  split_ifs
  · simp
  · simp [EventManager.remoteStart, EventManager.remoteStartFinish,
      DSoftbusHandler.stopCooperate]

variable {env m} in
theorem in_speedMove_start {e : CooperateEvent} {r : RemoteStart} {v : Int32 × Int32}
    (hr : e.remoteStart? = some r) (hv : e.speeds? = some v) (hc : m.machine.current = .in)
    (hs : m.machine.inStep = .initial)
    (h : spd (onEvent env e m) =
      if r.networkId = m.peer ∨ r.networkId = env.localNetworkId then (spd m).storePeer v
      else (((spd m).storePeer v).reset env).transitionIn env) :
    SpeedMove env e (obs m) (spd m) (spd (onEvent env e m)) := by
  have hc' : (obs m).current = .in := hc
  have paired := pairedSpeeds_eq env hr (o := obs m) (by simp [hc']) (fun _ => hs)
  rw [h]
  split
  · next pass => exact .keep (by rw [paired, ← peer_eq, if_pos pass]) _ _
  · next other =>
    rw [← peer_eq, if_neg other, hv] at paired
    exact .pairIn paired hc

theorem in_speedMove (hc : m.machine.current = .in) (hs : m.machine.inStep = .initial)
    (e : CooperateEvent) : SpeedMove env e (obs m) (spd m) (spd (onEvent env e m)) := by
  have inUse : (spd m).current ≠ .free := by simp [spd, hc]
  cases e with
  | dsoftbusStartCooperate notice =>
    exact in_speedMove_start rfl rfl hc hs (in_speeds_onRemoteStart env m notice)
  | dsoftbusCooperateWithOptions notice =>
    exact in_speedMove_start rfl rfl hc hs (in_speeds_onRemoteStartWithOptions env m notice)
  | start startEvent =>
    exact .leave_or_same rfl inUse (in_speeds_onStart env m startEvent)
  | withOptionsStart startEvent =>
    exact .leave_or_same rfl inUse (in_speeds_onStartWithOptions env m startEvent)
  | disable n => exact .leave_or_same rfl inUse (.inr (by simp [onEvent]))
  | stop param => exact .leave_or_same rfl inUse (.inr (by simp [onEvent, onStop]))
  | appClosed n => exact .leave_or_same rfl inUse (.inr (by simp [onEvent, onAppClosed]))
  | inputPointerEvent notice =>
    refine .leave_or_same rfl inUse ?_
    simp only [onEvent, onPointerEvent]
    split <;> simp
  | ddmBoardOffline notice =>
    refine .leave_or_same rfl inUse ?_
    simp only [onEvent, onBoardOffline]
    split <;> simp
  | ddpCooperateSwitchChanged notice =>
    refine .leave_or_same rfl inUse ?_
    simp only [onEvent, onSwitchChanged]
    split <;> simp
  | dsoftbusSessionClosed notice =>
    refine .leave_or_same rfl inUse ?_
    simp only [onEvent, onSoftbusSessionClosed]
    split <;> simp [EventManager.onSoftbusSessionClosed]
  | dsoftbusStopCooperate notice =>
    refine .leave_or_same rfl inUse ?_
    simp only [onEvent, onRemoteStop]
    split <;> simp
  | updateCooperateFlag notice =>
    refine .leave_or_same rfl inUse (.inl ?_)
    simp [onEvent, onUpdateCooperateFlag, apply_ite spd]
  | dsoftbusInputDevSync notice =>
    refine .leave_or_same rfl inUse (.inl ?_)
    simp [onEvent, onRemoteInputDevice, apply_ite spd]
  | _ => exact .same env rfl

end Initial

/-! ## The state machine -/

theorem transfer_speedMove (e : CooperateEvent) :
    SpeedMove env e (obs m) (spd m) (spd (StateMachine.transfer env e m)) := by
  unfold StateMachine.transfer In.onEvent
  cases hc : m.machine.current with
  | free => exact free_speedMove env m hc e
  | out => exact out_speedMove env m hc e
  | «in» =>
    cases hs : m.machine.inStep with
    | initial => exact in_speedMove env m hc hs e
    | relayConfirmation => exact relay_speedMove env m hc hs e

/-- The event that the state is given: a start message that fails the gate becomes a stop. -/
def handled (env : Env) (e : CooperateEvent) (o : Observed) : CooperateEvent :=
  match e.remoteStart? with
  | none => e
  | some s =>
    if StateMachine.checkSameAccount env s.originNetworkId s.userId s.accountId = true ∧
        o.enabled = true then e
    else .stop { isUnchained := true }

theorem handled_of_none {e : CooperateEvent} (h : e.remoteStart? = none) (o : Observed) :
    handled env e o = e := by
  simp only [handled, h]

variable {env m} in
/-- A move does not depend on more of the event and of the view than `pairedSpeeds` says. -/
theorem SpeedMove.congr {e e' : CooperateEvent} {o o' : Observed} {s s' : Speeds}
    (h : SpeedMove env e o s s') (paired : pairedSpeeds env e o = pairedSpeeds env e' o')
    (disable : ∀ n, e = .disable n → e' = e) : SpeedMove env e' o' s s' := by
  cases h with
  | keep unpaired p t => exact .keep (paired ▸ unpaired) p t
  | begin unpaired hc => exact .begin (paired ▸ unpaired) hc
  | pair h hc => exact .pair (paired ▸ h) hc
  | pairOut h hc => exact .pairOut (paired ▸ h) hc
  | pairIn h hc => exact .pairIn (paired ▸ h) hc
  | leave unpaired hc => exact .leave (paired ▸ unpaired) hc
  | leaveTwice unpaired hc => exact .leaveTwice (paired ▸ unpaired) hc
  | resetFree he hc drag cross => exact .resetFree ((disable _ he).trans he) hc drag cross

variable {env m} in
/-- An event that is handed on after some bookkeeping. -/
theorem transfer_speedMove_of {e : CooperateEvent} {mo : Cooperate} (o : Observed)
    (hs : spd mo = spd m)
    (ho : pairedSpeeds env e (obs mo) = pairedSpeeds env e o) :
    SpeedMove env e o (spd m) (spd (StateMachine.transfer env e mo)) := by
  rw [← hs]
  exact (transfer_speedMove env mo e).congr ho fun _ _ => rfl

section Bookkeeping

open StateMachine

@[simp] theorem spd_updateApplicationStateObserver (pid : Int32) :
    spd (updateApplicationStateObserver pid m) = spd m := rfl

@[simp] theorem spd_registerApplicationStateObserver (event : EnableCooperateEvent) :
    spd (registerApplicationStateObserver env event m) = spd m := by
  unfold registerApplicationStateObserver
  dsimp only
  split
  · rfl
  · exact Eq.trans rfl (spd_call_silent (c := .registerApplicationStateObserver
      (m.machine.clientBundleNames ++ [env.packageName event.tokenId])) m rfl)

@[simp] theorem spd_unregisterApplicationStateObserver :
    spd (unregisterApplicationStateObserver env m) = spd m := by
  unfold unregisterApplicationStateObserver
  split
  · rfl
  split
  · rfl
  · exact Eq.trans rfl (spd_call_silent (c := .unregisterApplicationStateObserver) m rfl)

@[simp] theorem spd_addMonitor : spd (addMonitor env m) = spd m := by
  unfold addMonitor
  split
  · rfl
  · exact (spd_call_silent _ rfl).trans rfl

@[simp] theorem spd_removeMonitor : spd (removeMonitor m) = spd m := by
  unfold removeMonitor
  split
  · rfl
  · exact Eq.trans rfl (spd_call_silent (c := .removeMonitor m.machine.monitorId) m rfl)

@[simp] theorem spd_addPreMonitor : spd (addPreMonitor env m) = spd m := by
  unfold addPreMonitor
  split
  · rfl
  · exact (spd_call_silent _ rfl).trans rfl

@[simp] theorem spd_removePreMonitor : spd (removePreMonitor m) = spd m := by
  unfold removePreMonitor
  split
  · rfl
  · exact Eq.trans rfl (spd_call_silent (c := .removePreMonitor m.machine.preMonitorId) m rfl)

end Bookkeeping

theorem spd_isCooperateEnable (enabled : Bool) :
    spd { m with machine.isCooperateEnable := enabled } = spd m := rfl

theorem enable_speedMove (event : EnableCooperateEvent) :
    SpeedMove env (.enable event) (obs m) (spd m)
      (spd (StateMachine.enableCooperate env event m)) := by
  refine transfer_speedMove_of _ ?_
    ((pairedSpeeds_of_none env rfl _).trans (pairedSpeeds_of_none env rfl _).symm)
  rw [spd_isCooperateEnable]
  simp [EventManager.enableCooperate]

theorem disable_speedMove (event : DisableCooperateEvent) :
    SpeedMove env (.disable event) (obs m) (spd m)
      (spd (StateMachine.disableCooperate env event m)) := by
  refine transfer_speedMove_of _ ?_
    ((pairedSpeeds_of_none env rfl _).trans (pairedSpeeds_of_none env rfl _).symm)
  rw [spd_isCooperateEnable]
  simp [EventManager.disableCooperate]

theorem acceptStart_speedMove {e : CooperateEvent} (hr : e.remoteStart? = none)
    (networkId : NetworkId) (pid : Int32) (errCode : Promise) :
    SpeedMove env e (obs m) (spd m)
      (spd (StateMachine.acceptStart env networkId pid errCode e m)) := by
  have unpaired (o : Observed) := pairedSpeeds_of_none env hr o
  unfold StateMachine.acceptStart
  dsimp only
  split_ifs
  · rw [spd_emit]
    exact .same env (unpaired _)
  · rw [spd_emit, spd_updateApplicationStateObserver]
    exact .same env (unpaired _)
  · exact transfer_speedMove_of _ (spd_emit ..) ((unpaired _).trans (unpaired _).symm)

theorem acceptRemoteStart_speedMove {e : CooperateEvent} (r : RemoteStart)
    (hr : e.remoteStart? = some r) :
    SpeedMove env (handled env e (obs m)) (obs m) (spd m)
      (spd (StateMachine.acceptRemoteStart env r.originNetworkId r.userId r.accountId e m)) := by
  have enabled : (obs m).enabled = m.machine.isCooperateEnable := rfl
  unfold StateMachine.acceptRemoteStart handled
  rw [hr, enabled]
  dsimp only
  by_cases gate : StateMachine.checkSameAccount env r.originNetworkId r.userId r.accountId =
      true ∧ m.machine.isCooperateEnable = true
  · rw [if_pos gate, gate.1, gate.2]
    exact transfer_speedMove ..
  · have closed : (!StateMachine.checkSameAccount env r.originNetworkId r.userId r.accountId ||
        !m.machine.isCooperateEnable) = true := by
      rw [← Bool.not_and, Bool.not_eq_true', Bool.eq_false_iff, ne_eq, Bool.and_eq_true]
      exact gate
    rw [if_neg gate, if_pos closed]
    exact transfer_speedMove ..

open StateMachine in
theorem onEvent_speedMove (e : CooperateEvent) :
    SpeedMove env (handled env e (obs m)) (obs m) (spd m) (spd (onEvent env e m)) := by
  cases e with
  | enable event => exact enable_speedMove env m event
  | disable event => exact disable_speedMove env m event
  | start event => exact acceptStart_speedMove env m rfl _ _ _
  | withOptionsStart event => exact acceptStart_speedMove env m rfl _ _ _
  | dsoftbusStartCooperate event =>
    exact acceptRemoteStart_speedMove env m
      ⟨event.networkId, event.originNetworkId, event.userId, event.accountId⟩ rfl
  | dsoftbusCooperateWithOptions event =>
    exact acceptRemoteStart_speedMove env m
      ⟨event.networkId, event.originNetworkId, event.userId, event.accountId⟩ rfl
  | inputPointerEvent event =>
    have h : SpeedMove env (.inputPointerEvent { event with position := m.context.cursorPos })
        (obs m) (spd m) (spd (onEvent env (.inputPointerEvent event) m)) :=
      transfer_speedMove_of _ (Context.spd_onPointerEvent env m event) rfl
    exact h.congr rfl fun _ h => by cases h
  | ddmBoardOnline event =>
    simp only [onEvent, onBoardOnline]
    split
    · exact .same env rfl
    · exact transfer_speedMove_of _ rfl rfl
  | ddmBoardOffline event =>
    simp only [onEvent, onBoardOffline]
    split
    · exact transfer_speedMove_of _ (Context.spd_closeDistributedFileConnection ..) rfl
    · exact .same env rfl
  | ddpCooperateSwitchChanged event =>
    exact transfer_speedMove_of _ (spd_onCooperateMessage ..) rfl
  | appClosed event =>
    refine transfer_speedMove_of _ ?_ rfl
    rw [spd_call_silent _ rfl, spd_call_silent _ rfl]
    rfl
  | dsoftbusSessionOpened event =>
    exact transfer_speedMove_of _ (by rw [spd_call_silent _ rfl, spd_call_silent _ rfl]) rfl
  | dsoftbusSessionClosed event =>
    refine transfer_speedMove_of _ ?_ rfl
    rw [Context.spd_closeDistributedFileConnection, spd_call_silent _ rfl, spd_call_silent _ rfl]
    exact spd_onCooperateMessage ..
  | inputHotplugEvent event => exact transfer_speedMove_of _ (spd_call_silent _ rfl) rfl
  | dsoftbusInputDevSync event => exact transfer_speedMove_of _ (spd_call_silent _ rfl) rfl
  | stop event =>
    refine transfer_speedMove_of _ ?_ rfl
    rw [spd_call_silent _ rfl, Context.spd_onStopCooperate,
      Context.spd_closeDistributedFileConnection]
  | getCooperateState event =>
    have h : spd (onEvent env (.getCooperateState event) m) = spd m :=
      (spd_call_silent _ rfl).trans rfl
    rw [h]
    exact .same env rfl
  | addObserver event => exact .same env rfl
  | removeObserver event => exact .same env rfl
  | registerListener event => exact .same env rfl
  | unregisterListener event => exact .same env rfl
  | updateVirtualDevIdMap event => exact .same env rfl
  | registerHotareaListener _ | unregisterHotareaListener _ | registerEventListener _
  | unregisterEventListener _ | dsoftbusSubscribeMouseLocation _
  | dsoftbusUnsubscribeMouseLocation _ | dsoftbusReplySubscribeMouseLocation _
  | dsoftbusReplyUnsubscribeMouseLocation _ | dsoftbusMouseLocation _ =>
    simp only [onEvent]
    rw [spd_call_silent _ rfl]
    exact .same env rfl
  | _ => exact transfer_speedMove ..

/-- What one event does to the speeds. -/
theorem step_speedMove (e : CooperateEvent) :
    SpeedMove env (handled env e (obs m)) (obs m) { spd m with asked := [] }
      (spd (step env e m)) :=
  (onEvent_speedMove env { m with effects := [] } e).congr rfl fun _ _ => rfl

end DeviceStatus.Cooperation
