import DeviceStatus.Cooperate.Moves

/-!
# The code makes these moves

Each handler is run symbolically once, and what is left of its state under `obs` is a move of
the coarser machine. `step_move` is the one fact about the code that properties of runs need.
-/

namespace DeviceStatus.Cooperation

open Observed

variable (env : Env) (m : Cooperate)

section Fields

variable (o : Observed)

@[simp] theorem outputs_bind (peer : NetworkId) : (o.bind peer).outputs = o.outputs := rfl

@[simp] theorem outputs_register (call : PendingCall) :
    (o.register call).outputs = o.outputs := rfl

@[simp] theorem peer_bind (peer : NetworkId) : (o.bind peer).peer = peer := rfl

@[simp] theorem peer_register (call : PendingCall) : (o.register call).peer = o.peer := rfl

@[simp] theorem peer_disableInterceptor : o.disableInterceptor.peer = o.peer := rfl

@[simp] theorem peer_disableBuilder : o.disableBuilder.peer = o.peer := rfl

@[simp] theorem outputs_disableBuilder : o.disableBuilder.outputs = o.outputs := rfl

@[simp] theorem peer_out (outputs : List Output) : (o.out outputs).peer = o.peer := rfl

@[simp] theorem process_out (outputs : List Output) : (o.out outputs).process = o.process := rfl

@[simp] theorem process_disableBuilder : o.disableBuilder.process = o.process := rfl

@[simp] theorem peer_send (networkId : NetworkId) (packet : DSoftbusPacket) :
    (o.send env networkId packet).peer = o.peer := rfl

@[simp] theorem interceptor_register (call : PendingCall) :
    (o.register call).interceptor = o.interceptor := rfl

@[simp] theorem interceptor_bind (peer : NetworkId) :
    (o.bind peer).interceptor = o.interceptor := rfl

@[simp] theorem interceptor_send (networkId : NetworkId) (packet : DSoftbusPacket) :
    (o.send env networkId packet).interceptor = o.interceptor := rfl

end Fields

theorem ret_ne : ¬ RET_ERR = RET_OK := by decide

variable {env m} in
theorem isLocal_true {networkId : NetworkId} (h : networkId = env.localNetworkId) :
    env.isLocal networkId = true := decide_eq_true h

variable {env m} in
theorem isLocal_false {networkId : NetworkId} (h : networkId ≠ env.localNetworkId) :
    env.isLocal networkId = false := decide_eq_false h

variable {env m} in
theorem isPeer_true {networkId : NetworkId} (h : networkId = (obs m).peer) :
    m.isPeer networkId = true := decide_eq_true h

theorem isPeer_self : m.isPeer (obs m).peer = true := decide_eq_true rfl

variable {env m} in
theorem isPeer_false {networkId : NetworkId} (h : networkId ≠ (obs m).peer) :
    m.isPeer networkId = false := decide_eq_false h

@[simp] theorem obs_motionDragging (pid userData : Int32) (networkId : NetworkId) :
    obs (EventManager.errorNotAollowCooperateWhenMotionDragging
      (motionDraggingResult pid userData networkId) m) =
      (obs m).out [motionDragAnswer ⟨pid, userData, networkId⟩] := obs_errorNotAollow ..

/-! ## FREE -/

theorem free_onStart (notice : StartCooperateEvent) :
    FreeMove env (requestPacket env (.start notice) m) (.start notice) (obs m)
      (obs (Free.onStart env notice m)) := by
  by_cases drag : env.dragState = .motionDragging
  · simpa [Free.onStart, drag, ask, StartCooperateEvent.call] using
      FreeMove.refuse (o := obs m) ⟨notice.call, notice.errCode⟩ rfl drag
  by_cases session : env.openSession notice.remoteNetworkId = RET_OK
  swap
  · simpa [Free.onStart, drag, session, peer_eq, Free.cooperateFail, ask,
      StartCooperateEvent.call] using
      FreeMove.noSession (o := obs m) ⟨notice.call, notice.errCode⟩ rfl drag session
  by_cases online : env.checkDeviceOnline notice.remoteNetworkId = RET_OK
  swap
  · simpa [Free.onStart, drag, session, online, peer_eq, Free.initiatorPointerVisible, ask,
      StartCooperateEvent.call] using FreeMove.offline (o := obs m) drag session online
  simp only [Free.onStart, drag, session, online, peer_eq, Free.initiatorPointerVisible,
    DSoftbusHandler.startCooperate, obs_startCall, Context.obs_startCooperate, obs_call,
    obs_openSession, fst_send, peer_bind, peer_register, outputs_bind, outputs_register,
    ne_eq, not_true, if_false]
  generalize hn : Free.startNotice env notice _ _ = sn
  have hp : requestPacket env (.start notice) m = DSoftbusHandler.startPacket sn := by
    rw [requestPacket, ← hn, DSoftbusHandler.openSession, if_pos session]; rfl
  have origin : sn.originNetworkId = env.localNetworkId := hn ▸ rfl
  have success : sn.success = true := hn ▸ rfl
  have errCode : sn.errCode = CoordinationErrCode.coordinationOk.toInt32 := hn ▸ rfl
  by_cases sent : DSoftbusHandler.sendResult env (obs m).outputs.length notice.remoteNetworkId
      (DSoftbusHandler.startPacket sn) = RET_OK
  swap
  · simpa [sent, ask, StartCooperateEvent.call] using
      FreeMove.notSent (o := obs m) sn origin hp drag session online sent
  by_cases interceptor : 0 < (obs m).interceptor ∨ 0 ≤ env.addInterceptor
  · simpa [sent, fst_enableInterceptor, interceptor, success, errCode, ask, begin,
      StartCooperateEvent.call] using
      FreeMove.started (o := obs m) sn origin hp drag session online sent interceptor
  · simpa [sent, fst_enableInterceptor, interceptor, ret_ne, ask,
      StartCooperateEvent.call] using
      FreeMove.noInterceptor (o := obs m) sn origin hp drag session online sent interceptor

theorem free_onStartWithOptions (request : DSoftbusPacket) (notice : StartWithOptionsEvent) :
    FreeMove env request (.withOptionsStart notice) (obs m)
      (obs (Free.onStartWithOptions env notice m)) := by
  by_cases drag : env.dragState = .motionDragging
  · simpa [Free.onStartWithOptions, drag, ask, StartWithOptionsEvent.call] using
      FreeMove.refuse (o := obs m) ⟨notice.call, notice.errCode⟩ rfl drag
  by_cases session : env.openSession notice.remoteNetworkId = RET_OK
  swap
  · simpa [Free.onStartWithOptions, drag, session, peer_eq, ask,
      StartWithOptionsEvent.call] using
      FreeMove.noSession (o := obs m) ⟨notice.call, notice.errCode⟩ rfl drag session
  simp only [Free.onStartWithOptions, drag, session, peer_eq,
    DSoftbusHandler.startCooperateWithOptions, obs_startCallWithOptions,
    Context.obs_startCooperateWithOptions, obs_openSession, peer_bind, peer_register,
    ne_eq, not_true, if_false]
  generalize hn : Free.startWithOptionsNotice env notice _ _ = sn
  have origin : sn.originNetworkId = env.localNetworkId := hn ▸ rfl
  have success : sn.success = true := hn ▸ rfl
  have errCode : sn.errCode = CoordinationErrCode.coordinationOk.toInt32 := hn ▸ rfl
  simpa [success, errCode, ask, begin, StartWithOptionsEvent.call] using
    FreeMove.startedWithOptions (o := obs m) sn origin drag session

@[simp] theorem obs_simulateShowPointerEvent :
    obs (Free.simulateShowPointerEvent env m) = obs m := obs_call ..

theorem free_onRemoteStart (request : DSoftbusPacket) (notice : DSoftbusStartCooperate) :
    FreeMove env request (.dsoftbusStartCooperate notice) (obs m)
      (obs (Free.onRemoteStart env notice m)) := by
  have h : obs (Free.onRemoteStart env notice m) =
      ((obs m).bind notice.originNetworkId).enableBuilder.goto .in := by
    simp [Free.onRemoteStart, apply_ite obs, EventManager.remoteStart,
      EventManager.remoteStartFinish]
  rw [h]
  exact FreeMove.remoteStart (e := .dsoftbusStartCooperate notice) _ rfl

theorem origin_adjustPointerPos (notice : DSoftbusCooperateOptions) :
    (Context.adjustPointerPos env notice).originNetworkId = notice.originNetworkId := by
  unfold Context.adjustPointerPos; split <;> rfl

theorem free_onRemoteStartWithOptions (request : DSoftbusPacket)
    (notice : DSoftbusCooperateOptions) :
    FreeMove env request (.dsoftbusCooperateWithOptions notice) (obs m)
      (obs (Free.onRemoteStartWithOptions env notice m)) := by
  have h : obs (Free.onRemoteStartWithOptions env notice m) =
      ((obs m).bind notice.originNetworkId).enableBuilder.goto .in := by
    simp [Free.onRemoteStartWithOptions, apply_ite obs, EventManager.remoteStart,
      EventManager.remoteStartFinish, origin_adjustPointerPos]
  rw [h]
  exact FreeMove.remoteStart (e := .dsoftbusCooperateWithOptions notice) _ rfl

theorem free_move (e : CooperateEvent) :
    FreeMove env (requestPacket env e m) e (obs m) (obs (Free.onEvent env e m)) := by
  cases e with
  | start notice => exact free_onStart env m notice
  | withOptionsStart notice => exact free_onStartWithOptions env m _ notice
  | dsoftbusStartCooperate notice => exact free_onRemoteStart env m _ notice
  | dsoftbusCooperateWithOptions notice => exact free_onRemoteStartWithOptions env m _ notice
  | stop param =>
    have h : obs (Free.onEvent env (.stop param) m) = obs m := by simp [Free.onEvent, Free.onStop]
    rw [h]
    exact .ignore rfl rfl
  | disable n =>
    have h : obs (Free.onEvent env (.disable n) m) = obs m := by
      simp [Free.onEvent, Free.onDisable, apply_ite obs]
    rw [h]
    exact .ignore rfl rfl
  | appClosed n =>
    have h : obs (Free.onEvent env (.appClosed n) m) = obs m := by
      simp [Free.onEvent, Free.onAppClosed]
    rw [h]
    exact .ignore rfl rfl
  | inputPointerEvent notice =>
    have h : obs (Free.onEvent env (.inputPointerEvent notice) m) = obs m := by
      simp [Free.onEvent, Free.onPointerEvent, apply_ite obs, setPointerVisible]
    rw [h]
    exact .ignore rfl rfl
  | updateCooperateFlag notice => exact .ignore rfl rfl
  | _ => exact .ignore rfl rfl

/-! ## OUT -/

@[simp] theorem obs_out_stopCooperate :
    obs (Out.stopCooperate env m) = (obs m).stopOut env := by
  simp [Out.stopCooperate, stopOut, DSoftbusHandler.stopCooperate, peer_eq]

theorem out_onStart (param : StartCooperateEvent) :
    OutMove env (.start param) (obs m) (obs (Out.onStart env param m)) := by
  by_cases drag : env.dragState = .motionDragging
  · simpa [Out.onStart, drag, StartCooperateEvent.call] using
      OutMove.refuse (e := .start param) (o := obs m) ⟨param.call, param.errCode⟩ rfl drag
  · simpa [Out.onStart, drag, StartCooperateEvent.call] using
      OutMove.busy (e := .start param) (o := obs m) ⟨param.call, param.errCode⟩ rfl drag

theorem out_onStartWithOptions (param : StartWithOptionsEvent) :
    OutMove env (.withOptionsStart param) (obs m)
      (obs (Out.onStartWithOptions env param m)) := by
  by_cases drag : env.dragState = .motionDragging
  · simpa [Out.onStartWithOptions, drag, StartWithOptionsEvent.call] using
      OutMove.refuse (e := .withOptionsStart param) (o := obs m)
        ⟨param.call, param.errCode⟩ rfl drag
  · simpa [Out.onStartWithOptions, drag, StartWithOptionsEvent.call] using
      OutMove.busy (e := .withOptionsStart param) (o := obs m)
        ⟨param.call, param.errCode⟩ rfl drag

theorem out_onRemoteStart (notice : DSoftbusStartCooperate) :
    OutMove env (.dsoftbusStartCooperate notice) (obs m)
      (obs (Out.onRemoteStart env notice m)) := by
  by_cases isLocal : notice.networkId = env.localNetworkId
  · have h : obs (Out.onRemoteStart env notice m) = obs m := by
      simp [Out.onRemoteStart, isLocal_true isLocal]
    rw [h]
    exact .ignore isLocal
  by_cases isPeer : notice.networkId = (obs m).peer
  · have h : obs (Out.onRemoteStart env notice m) = (obs m).stopOut env := by
      simp [Out.onRemoteStart, isLocal_false isLocal, isPeer_true isPeer]
    rw [h]
    exact .stop ⟨isLocal, isPeer⟩
  · simpa [Out.onRemoteStart, isLocal_false isLocal, isPeer_false isPeer, peer_eq,
      EventManager.remoteStart, EventManager.remoteStartFinish,
      DSoftbusHandler.stopCooperate] using
      OutMove.remoteStart (e := .dsoftbusStartCooperate notice) (o := obs m) _ rfl isLocal isPeer

theorem out_onRemoteStartWithOptions (notice : DSoftbusCooperateOptions) :
    OutMove env (.dsoftbusCooperateWithOptions notice) (obs m)
      (obs (Out.onRemoteStartWithOptions env notice m)) := by
  by_cases isLocal : notice.networkId = env.localNetworkId
  · have h : obs (Out.onRemoteStartWithOptions env notice m) = obs m := by
      simp [Out.onRemoteStartWithOptions, isLocal_true isLocal]
    rw [h]
    exact .ignore isLocal
  by_cases isPeer : notice.networkId = (obs m).peer
  · have h : obs (Out.onRemoteStartWithOptions env notice m) = (obs m).stopOut env := by
      simp [Out.onRemoteStartWithOptions, isLocal_false isLocal, isPeer_true isPeer]
    rw [h]
    exact .stop ⟨isLocal, isPeer⟩
  · simpa [Out.onRemoteStartWithOptions, isLocal_false isLocal, isPeer_false isPeer, peer_eq,
      EventManager.remoteStart, EventManager.remoteStartFinish,
      DSoftbusHandler.stopCooperate] using
      OutMove.remoteStart (e := .dsoftbusCooperateWithOptions notice) (o := obs m) _ rfl
        isLocal isPeer

theorem out_onComeBack (notice : DSoftbusComeBack) :
    OutMove env (.dsoftbusComeBack notice) (obs m) (obs (Out.onComeBack env notice m)) := by
  by_cases isPeer : notice.networkId = (obs m).peer
  · have h : obs (Out.onComeBack env notice m) =
        ((obs m).disableInterceptor.bind notice.originNetworkId).goto .free := by
      simp [Out.onComeBack, isPeer_true isPeer, apply_ite obs, EventManager.remoteStart,
        EventManager.remoteStartFinish, Out.simulateShowPointerEvent]
    rw [h]
    exact .comeBack _ (by rw [← isPeer]; rfl)
  · have h : obs (Out.onComeBack env notice m) = obs m := by
      simp [Out.onComeBack, isPeer_false isPeer]
    rw [h]
    exact .ignore isPeer

theorem out_onComeBackWithOptions (notice : DSoftbusComeBackWithOptions) :
    OutMove env (.dsoftbusComeBackWithOptions notice) (obs m)
      (obs (Out.onComeBackWithOptions env notice m)) := by
  by_cases isPeer : notice.networkId = (obs m).peer
  · have h : obs (Out.onComeBackWithOptions env notice m) =
        ((obs m).disableInterceptor.bind notice.originNetworkId).goto .free := by
      simp [Out.onComeBackWithOptions, isPeer_true isPeer, apply_ite obs,
        EventManager.remoteStart, EventManager.remoteStartFinish, Out.simulateShowPointerEvent]
    rw [h]
    exact .comeBack _ (by rw [← isPeer]; rfl)
  · have h : obs (Out.onComeBackWithOptions env notice m) = obs m := by
      simp [Out.onComeBackWithOptions, isPeer_false isPeer]
    rw [h]
    exact .ignore isPeer

theorem out_onRemoteStop (notice : DSoftbusStopCooperate) :
    OutMove env (.dsoftbusStopCooperate notice) (obs m)
      (obs (Out.onRemoteStop env notice m)) := by
  by_cases isPeer : notice.networkId = (obs m).peer
  · simpa [Out.onRemoteStop, isPeer_true isPeer] using
      (.remoteStop isPeer : OutMove env (.dsoftbusStopCooperate notice) (obs m) _)
  · have h : obs (Out.onRemoteStop env notice m) = obs m := by
      simp [Out.onRemoteStop, isPeer_false isPeer]
    rw [h]
    exact .ignore isPeer

theorem out_onRelay (notice : DSoftbusRelayCooperate) :
    OutMove env (.dsoftbusRelayCooperate notice) (obs m)
      (obs (Out.onRelay env notice m)) := by
  by_cases isPeer : notice.networkId = (obs m).peer
  swap
  · have h : obs (Out.onRelay env notice m) = obs m := by
      simp [Out.onRelay, Out.relayTo, isPeer_false isPeer]
    rw [h]
    exact .ignore isPeer
  by_cases session : env.openSession notice.targetNetworkId = RET_OK
  · simpa [Out.onRelay, Out.relayTo, isPeer_self, session, isPeer, relayFinish,
      DSoftbusHandler.relayCooperateFinish] using
      OutMove.relay (e := .dsoftbusRelayCooperate notice) (o := obs m) false rfl isPeer session
  · simpa [Out.onRelay, Out.relayTo, isPeer_self, session, isPeer, relayFinish,
      DSoftbusHandler.relayCooperateFinish] using
      OutMove.relayFail (e := .dsoftbusRelayCooperate notice) (o := obs m) false rfl isPeer session

theorem out_onRelayWithOptions (notice : DSoftbusRelayCooperate) :
    OutMove env (.dsoftbusRelayCooperateWithOptions notice) (obs m)
      (obs (Out.onRelayWithOptions env notice m)) := by
  by_cases isPeer : notice.networkId = (obs m).peer
  swap
  · have h : obs (Out.onRelayWithOptions env notice m) = obs m := by
      simp [Out.onRelayWithOptions, Out.relayTo, isPeer_false isPeer]
    rw [h]
    exact .ignore isPeer
  by_cases session : env.openSession notice.targetNetworkId = RET_OK
  · simpa [Out.onRelayWithOptions, Out.relayTo, isPeer_self, session, isPeer, relayFinish,
      DSoftbusHandler.relayCooperateWithOptionsFinish] using
      OutMove.relay (e := .dsoftbusRelayCooperateWithOptions notice) (o := obs m) true rfl isPeer
        session
  · simpa [Out.onRelayWithOptions, Out.relayTo, isPeer_self, session, isPeer, relayFinish,
      DSoftbusHandler.relayCooperateWithOptionsFinish] using
      OutMove.relayFail (e := .dsoftbusRelayCooperateWithOptions notice) (o := obs m) true rfl
        isPeer session

theorem out_onHotplug (notice : InputHotplugEvent) :
    OutMove env (.inputHotplugEvent notice) (obs m) (obs (Out.onHotplug env notice m)) := by
  unfold Out.onHotplug
  split
  · exact .ignore trivial
  split
  · simpa using (.unplug : OutMove env (.inputHotplugEvent notice) (obs m) _)
  split
  · exact .ignore trivial
  · simpa using (.stop trivial : OutMove env (.inputHotplugEvent notice) (obs m) _)

theorem out_move (e : CooperateEvent) :
    OutMove env e (obs m) (obs (Out.onEvent env e m)) := by
  cases e with
  | start param => exact out_onStart env m param
  | withOptionsStart param => exact out_onStartWithOptions env m param
  | dsoftbusStartCooperate notice => exact out_onRemoteStart env m notice
  | dsoftbusCooperateWithOptions notice => exact out_onRemoteStartWithOptions env m notice
  | dsoftbusComeBack notice => exact out_onComeBack env m notice
  | dsoftbusComeBackWithOptions notice => exact out_onComeBackWithOptions env m notice
  | dsoftbusStopCooperate notice => exact out_onRemoteStop env m notice
  | dsoftbusRelayCooperate notice => exact out_onRelay env m notice
  | dsoftbusRelayCooperateWithOptions notice => exact out_onRelayWithOptions env m notice
  | inputHotplugEvent notice => exact out_onHotplug env m notice
  | disable n =>
    have h : obs (Out.onEvent env (.disable n) m) = (obs m).stopOut env := by simp [Out.onEvent]
    rw [h]
    exact .stop trivial
  | stop param =>
    have h : obs (Out.onEvent env (.stop param) m) = (obs m).stopOut env := by
      simp [Out.onEvent, Out.onStop]
    rw [h]
    exact .stop trivial
  | appClosed n =>
    have h : obs (Out.onEvent env (.appClosed n) m) = (obs m).stopOut env := by
      simp [Out.onEvent, Out.onAppClosed]
    rw [h]
    exact .stop trivial
  | ddmBoardOffline notice =>
    have h : obs (Out.onBoardOffline env notice m) =
        if notice.networkId = (obs m).peer then (obs m).stopOut env else obs m := by
      by_cases h : notice.networkId = (obs m).peer <;>
        simp [Out.onBoardOffline, isPeer_eq, h]
    simp only [Out.onEvent, h]
    split
    case isTrue h => exact .stop h
    case isFalse h => exact .ignore h
  | dsoftbusSessionClosed notice =>
    have h : obs (Out.onSoftbusSessionClosed env notice m) =
        if notice.networkId = (obs m).peer then (obs m).stopOut env else obs m := by
      by_cases h : notice.networkId = (obs m).peer <;>
        simp [Out.onSoftbusSessionClosed, isPeer_eq, h]
    simp only [Out.onEvent, h]
    split
    case isTrue h => exact .stop h
    case isFalse h => exact .ignore h
  | ddpCooperateSwitchChanged notice =>
    have h : obs (Out.onSwitchChanged env notice m) =
        if notice.networkId = (obs m).peer ∧ notice.normal = false then (obs m).stopOut env
        else obs m := by
      by_cases h : notice.networkId = (obs m).peer <;> by_cases hn : notice.normal = true <;>
        simp [Out.onSwitchChanged, isPeer_eq, h, hn]
    simp only [Out.onEvent, h]
    split
    case isTrue h => exact .stop h
    case isFalse h => exact .ignore (by simpa [IgnoredOut, imp_iff_not_or] using h)
  | stopAboutVirtualTrackpad n =>
    by_cases h : env.hasLocalPointerDevice = true
    · simpa [Out.onEvent, Out.onStopAboutVirtualTrackpad, h] using
        OutMove.ignore (o := obs m) (e := .stopAboutVirtualTrackpad n) h
    · have h : env.hasLocalPointerDevice = false := by simpa using h
      simpa [Out.onEvent, Out.onStopAboutVirtualTrackpad, h] using
        OutMove.stop (o := obs m) (e := .stopAboutVirtualTrackpad n) h
  | inputPointerEvent notice => exact .ignore trivial
  | _ => exact .ignore trivial

/-! ## IN, initial step -/

@[simp] theorem obs_in_stopCooperate :
    obs (In.stopCooperate env m) = (obs m).stopIn env := by
  simp [In.stopCooperate, stopIn, DSoftbusHandler.stopCooperate, peer_eq]

@[simp] theorem obs_reset : obs (In.RelayConfirmation.reset m) = (obs m).reset := rfl

@[simp] theorem obs_resetWithNotifyMessage :
    obs (In.RelayConfirmation.onResetWithNotifyMessage m) =
      ((obs m).finish false CoordinationErrCode.coordinationOk.toInt32).reset := by
  simp [In.RelayConfirmation.onResetWithNotifyMessage]

@[simp] theorem obs_resetWithOptionsNotifyMessage :
    obs (In.RelayConfirmation.onResetWithOptionsNotifyMessage m) =
      ((obs m).finish false CoordinationErrCode.coordinationOk.toInt32).reset := by
  simp [In.RelayConfirmation.onResetWithOptionsNotifyMessage]

theorem in_onComeBack (n : StartCooperateEvent) :
    ∃ notice : DSoftbusComeBack, notice.originNetworkId = env.localNetworkId ∧
      obs (In.Initial.onComeBack env n m) =
        (((obs m).disableBuilder.send env (obs m).peer
          (DSoftbusHandler.comeBackPacket notice)).comeBackFinish
            (DSoftbusHandler.sendResult env (obs m).outputs.length (obs m).peer
              (DSoftbusHandler.comeBackPacket notice))).goto .free := by
  let notice : DSoftbusComeBack :=
    { originNetworkId := env.localNetworkId
      success := true
      cursorPos := Context.normalizedCursorPosition env (InputEventBuilder.disableBuilder m)
      extra := Context.onStartCooperate env {} (InputEventBuilder.disableBuilder m)
      uid := n.uid }
  refine ⟨notice, rfl, ?_⟩
  unfold In.Initial.onComeBack comeBackFinish
  by_cases sent : DSoftbusHandler.sendResult env (obs m).outputs.length (obs m).peer
      (DSoftbusHandler.comeBackPacket notice) = RET_OK
  · simp [DSoftbusHandler.comeBack, peer_eq, sent, notice]
  · simp [DSoftbusHandler.comeBack, peer_eq, sent, notice]

theorem in_onComeBackWithOptions (n : StartWithOptionsEvent) :
    ∃ notice : DSoftbusComeBackWithOptions, notice.originNetworkId = env.localNetworkId ∧
      obs (In.Initial.onComeBackWithOptions env n m) =
        (((obs m).disableBuilder.send env (obs m).peer
          (DSoftbusHandler.comeBackWithOptionsPacket notice)).comeBackFinish
            (DSoftbusHandler.sendResult env (obs m).outputs.length (obs m).peer
              (DSoftbusHandler.comeBackWithOptionsPacket notice))).goto .free := by
  let notice : DSoftbusComeBackWithOptions :=
    { originNetworkId := env.localNetworkId
      success := true
      cooperateOptions :=
        { displayX := n.displayX, displayY := n.displayY, displayId := n.displayId }
      extra := Context.onStartCooperate env {} (InputEventBuilder.disableBuilder m) }
  refine ⟨notice, rfl, ?_⟩
  unfold In.Initial.onComeBackWithOptions comeBackFinish
  by_cases sent : DSoftbusHandler.sendResult env (obs m).outputs.length (obs m).peer
      (DSoftbusHandler.comeBackWithOptionsPacket notice) = RET_OK
  · simp [DSoftbusHandler.comeBackWithOptions, peer_eq, sent, notice]
  · simp [DSoftbusHandler.comeBackWithOptions, peer_eq, sent, notice]

theorem process_openSession (networkId : NetworkId) :
    (DSoftbusHandler.openSession env networkId m).machine.process = m.machine.process := by
  unfold DSoftbusHandler.openSession; split <;> rfl

theorem obs_timerId (timerId : Int32) :
    obs { m with machine.timerId := timerId } = { obs m with timerId := timerId } := rfl

theorem obs_timerIdWithOptions (n : StartWithOptionsEvent) (timerId : Int32) :
    obs { m with machine.startWithOptionsEvent := n, machine.timerId := timerId } =
      { obs m with timerId := timerId } := rfl

/-- The relay's notice names the target that the process was given. -/
theorem target_relayNotice (uid : Int32) (need : Bool) (networkId : NetworkId) :
    (In.RelayConfirmation.relayNotice env uid need
      (DSoftbusHandler.openSession env networkId m)).targetNetworkId = (obs m).process := by
  rw [In.RelayConfirmation.relayNotice, process_openSession]; rfl

theorem relay_onProgress_fail (n : StartCooperateEvent)
    (session : env.openSession (obs m).process ≠ RET_OK) :
    obs (In.RelayConfirmation.onProgress env n m) =
      ((obs m).finish false CoordinationErrCode.coordinationOk.toInt32).reset := by
  have session : env.openSession m.machine.process.remoteNetworkId ≠ RET_OK := session
  simp [In.RelayConfirmation.onProgress, session]

theorem relay_onProgress (n : StartCooperateEvent)
    (session : env.openSession (obs m).process = RET_OK) :
    ∃ notice : DSoftbusRelayCooperate, notice.targetNetworkId = (obs m).process ∧
      obs (In.RelayConfirmation.onProgress env n m) =
        { (obs m).send env (obs m).peer (DSoftbusHandler.relayPacket notice) with
            timerId := env.addTimer }.out
          [.addTimer env.addTimer DEFAULT_TIMEOUT
            (.dsoftbusRelayCooperateFinished { networkId := (obs m).peer, normal := false })] := by
  have session : env.openSession m.machine.process.remoteNetworkId = RET_OK := session
  refine ⟨_, target_relayNotice env m n.uid (!env.hasSessionExisted m.peer)
    m.machine.process.remoteNetworkId, ?_⟩
  simp only [In.RelayConfirmation.onProgress, session, ne_eq, not_true, if_false, obs_emit,
    DSoftbusHandler.relayCooperate, peer_eq, obs_openSession, obs_timerId, obs_send, peer_send]

theorem relay_onProgressWithOptions_fail (n : StartWithOptionsEvent)
    (session : env.openSession (obs m).process ≠ RET_OK) :
    obs (In.RelayConfirmation.onProgressWithOptions env n m) =
      ((obs m).finish false CoordinationErrCode.coordinationOk.toInt32).reset := by
  have session : env.openSession m.machine.process.remoteNetworkId ≠ RET_OK := session
  simp [In.RelayConfirmation.onProgressWithOptions, session]

theorem relay_onProgressWithOptions (n : StartWithOptionsEvent)
    (session : env.openSession (obs m).process = RET_OK) :
    ∃ notice : DSoftbusRelayCooperate, notice.targetNetworkId = (obs m).process ∧
      obs (In.RelayConfirmation.onProgressWithOptions env n m) =
        { (obs m).send env (obs m).peer (DSoftbusHandler.relayPacket notice) with
            timerId := env.addTimer }.out
          [.addTimer env.addTimer DEFAULT_TIMEOUT (.dsoftbusRelayCooperateWithOptionsFinished
            { networkId := (obs m).peer, normal := false })] := by
  have session : env.openSession m.machine.process.remoteNetworkId = RET_OK := session
  refine ⟨_, target_relayNotice env m 0 (!env.hasSessionExisted m.peer)
    m.machine.process.remoteNetworkId, ?_⟩
  simp only [In.RelayConfirmation.onProgressWithOptions, session, ne_eq, not_true, if_false,
    obs_emit, DSoftbusHandler.relayCooperate, peer_eq, obs_openSession, obs_send, peer_send,
    obs_timerIdWithOptions]

theorem in_onStart (n : StartCooperateEvent) :
    InMove env (.start n) (obs m) (obs (In.Initial.onStart env n m)) := by
  by_cases drag : env.dragState = .motionDragging
  · simpa [In.Initial.onStart, drag, StartCooperateEvent.call] using
      InMove.refuse (e := .start n) (o := obs m) ⟨n.call, n.errCode⟩ rfl drag
  by_cases isLocal : n.remoteNetworkId = env.localNetworkId
  · have h : obs (In.Initial.onStart env n m) =
        (obs m).finish false CoordinationErrCode.unexpectedStartCall.toInt32 := by
      simp [In.Initial.onStart, drag, isLocal_true isLocal]
    rw [h]
    exact .toLocal ⟨n.call, n.errCode⟩ rfl drag isLocal
  let mo := EventManager.startCooperate n (Context.resetPriv m)
  by_cases isPeer : n.remoteNetworkId = (obs m).peer
  · have hp : mo.isPeer n.remoteNetworkId = true := decide_eq_true isPeer
    obtain ⟨notice, origin, hc⟩ := in_onComeBack env mo n
    have h : obs (In.Initial.onStart env n m) = obs (In.Initial.onComeBack env n mo) := by
      simp only [In.Initial.onStart, drag, isLocal_false isLocal, hp, mo, if_true, if_false,
        Bool.false_eq_true]
    rw [h, hc]
    exact .comeBack ⟨n.call, n.errCode⟩ _ rfl drag isLocal isPeer ⟨notice, origin, rfl⟩
  have hp : mo.isPeer n.remoteNetworkId = false := decide_eq_false isPeer
  have h : obs (In.Initial.onStart env n m) = obs (In.Initial.onRelay env n mo) := by
    simp only [In.Initial.onStart, drag, isLocal_false isLocal, hp, mo, if_false,
      Bool.false_eq_true]
  rw [h, In.Initial.onRelay]
  generalize hm : In.switch .relayConfirmation _ = mr
  have hr : obs mr = (obs m).confirm n.call := hm ▸ rfl
  by_cases session : env.openSession n.remoteNetworkId = RET_OK
  · obtain ⟨notice, target, hp⟩ := relay_onProgress env mr n (by rw [hr]; exact session)
    rw [hp, hr]
    exact .relay ⟨n.call, n.errCode⟩ notice rfl drag isLocal isPeer session
      (by rw [target, hr]; rfl)
  · rw [relay_onProgress_fail env mr n (by rw [hr]; exact session), hr]
    exact .relayFail ⟨n.call, n.errCode⟩ rfl drag isLocal isPeer session

theorem in_onStartWithOptions (n : StartWithOptionsEvent) :
    InMove env (.withOptionsStart n) (obs m) (obs (In.Initial.onStartWithOptions env n m)) := by
  by_cases drag : env.dragState = .motionDragging
  · simpa [In.Initial.onStartWithOptions, drag, StartWithOptionsEvent.call] using
      InMove.refuse (e := .withOptionsStart n) (o := obs m) ⟨n.call, n.errCode⟩ rfl drag
  by_cases isLocal : n.remoteNetworkId = env.localNetworkId
  · have h : obs (In.Initial.onStartWithOptions env n m) =
        (obs m).finish false CoordinationErrCode.unexpectedStartCall.toInt32 := by
      simp [In.Initial.onStartWithOptions, drag, isLocal_true isLocal]
    rw [h]
    exact .toLocal ⟨n.call, n.errCode⟩ rfl drag isLocal
  let mo := EventManager.startCooperateWithOptions n
    (Context.updateCooperateOptions n (Context.resetPriv m))
  by_cases isPeer : n.remoteNetworkId = (obs m).peer
  · have hp : mo.isPeer n.remoteNetworkId = true := decide_eq_true isPeer
    obtain ⟨notice, origin, hc⟩ := in_onComeBackWithOptions env mo n
    have h : obs (In.Initial.onStartWithOptions env n m) =
        obs (In.Initial.onComeBackWithOptions env n mo) := by
      simp only [In.Initial.onStartWithOptions, drag, isLocal_false isLocal, hp, mo, if_true,
        if_false, Bool.false_eq_true]
    rw [h, hc]
    exact .comeBack ⟨n.call, n.errCode⟩ _ rfl drag isLocal isPeer ⟨notice, origin, rfl⟩
  have hp : mo.isPeer n.remoteNetworkId = false := decide_eq_false isPeer
  have h : obs (In.Initial.onStartWithOptions env n m) =
      obs (In.Initial.onRelayWithOptions env n mo) := by
    simp only [In.Initial.onStartWithOptions, drag, isLocal_false isLocal, hp, mo, if_false,
      Bool.false_eq_true]
  rw [h, In.Initial.onRelayWithOptions]
  generalize hm : In.switch .relayConfirmation _ = mr
  have hr : obs mr = (obs m).confirm n.call := hm ▸ rfl
  by_cases session : env.openSession n.remoteNetworkId = RET_OK
  · obtain ⟨notice, target, hp⟩ :=
      relay_onProgressWithOptions env mr n (by rw [hr]; exact session)
    rw [hp, hr]
    exact .relay ⟨n.call, n.errCode⟩ notice rfl drag isLocal isPeer session
      (by rw [target, hr]; rfl)
  · rw [relay_onProgressWithOptions_fail env mr n (by rw [hr]; exact session), hr]
    exact .relayFail ⟨n.call, n.errCode⟩ rfl drag isLocal isPeer session

@[simp] theorem isPeer_storePeerSpeeds (pointerSpeed touchPadSpeed : Int32)
    (networkId : NetworkId) :
    (Context.storePeerTouchPadSpeed touchPadSpeed
      (Context.storePeerPointerSpeed pointerSpeed m)).isPeer networkId = m.isPeer networkId := rfl

@[simp] theorem isProcessPeer_storePeerSpeeds (pointerSpeed touchPadSpeed : Int32)
    (networkId : NetworkId) :
    In.RelayConfirmation.isProcessPeer (Context.storePeerTouchPadSpeed touchPadSpeed
      (Context.storePeerPointerSpeed pointerSpeed m)) networkId =
        In.RelayConfirmation.isProcessPeer m networkId := rfl

theorem peer_or_local (networkId : NetworkId) :
    (m.isPeer networkId || env.isLocal networkId) = true ↔
      networkId = (obs m).peer ∨ networkId = env.localNetworkId := by
  simp only [isPeer_eq, Env.isLocal, Bool.or_eq_true, decide_eq_true_eq]

theorem in_onRemoteStart (notice : DSoftbusStartCooperate) :
    InMove env (.dsoftbusStartCooperate notice) (obs m)
      (obs (In.Initial.onRemoteStart env notice m)) := by
  by_cases pass : (m.isPeer notice.networkId || env.isLocal notice.networkId) = true
  · have h : obs (In.Initial.onRemoteStart env notice m) = obs m := by
      simp only [In.Initial.onRemoteStart, isPeer_storePeerSpeeds, pass, if_true,
        Context.obs_storePeerTouchPadSpeed, Context.obs_storePeerPointerSpeed]
    rw [h]
    exact .ignore ((peer_or_local env m _).mp pass)
  · have h : obs (In.Initial.onRemoteStart env notice m) =
        (((obs m).send env (obs m).peer .stopCooperate).bind
          notice.originNetworkId).updateBuilder := by
      simp only [In.Initial.onRemoteStart, isPeer_storePeerSpeeds, pass]
      simp [peer_eq, EventManager.remoteStart, EventManager.remoteStartFinish,
        DSoftbusHandler.stopCooperate]
    rw [h]
    have ⟨notPeer, notLocal⟩ := not_or.mp (mt (peer_or_local env m _).mpr pass)
    exact InMove.remoteStart (e := .dsoftbusStartCooperate notice) _ rfl notPeer notLocal

theorem in_onRemoteStartWithOptions (notice : DSoftbusCooperateOptions) :
    InMove env (.dsoftbusCooperateWithOptions notice) (obs m)
      (obs (In.Initial.onRemoteStartWithOptions env notice m)) := by
  by_cases pass : (m.isPeer notice.networkId || env.isLocal notice.networkId) = true
  · have h : obs (In.Initial.onRemoteStartWithOptions env notice m) = obs m := by
      simp only [In.Initial.onRemoteStartWithOptions, isPeer_storePeerSpeeds, pass, if_true,
        Context.obs_storePeerTouchPadSpeed, Context.obs_storePeerPointerSpeed]
    rw [h]
    exact .ignore ((peer_or_local env m _).mp pass)
  · have h : obs (In.Initial.onRemoteStartWithOptions env notice m) =
        (((obs m).send env (obs m).peer .stopCooperate).bind
          notice.originNetworkId).updateBuilder := by
      simp only [In.Initial.onRemoteStartWithOptions, isPeer_storePeerSpeeds, pass]
      simp [peer_eq, EventManager.remoteStart, EventManager.remoteStartFinish,
        DSoftbusHandler.stopCooperate, origin_adjustPointerPos]
    rw [h]
    have ⟨notPeer, notLocal⟩ := not_or.mp (mt (peer_or_local env m _).mpr pass)
    exact InMove.remoteStart (e := .dsoftbusCooperateWithOptions notice) _ rfl notPeer notLocal

theorem in_onRemoteStop (notice : DSoftbusStopCooperate) :
    InMove env (.dsoftbusStopCooperate notice) (obs m)
      (obs (In.Initial.onRemoteStop env notice m)) := by
  by_cases isPeer : notice.networkId = (obs m).peer
  · simpa [In.Initial.onRemoteStop, isPeer_true isPeer] using
      (.remoteStop isPeer : InMove env (.dsoftbusStopCooperate notice) (obs m) _)
  · have h : obs (In.Initial.onRemoteStop env notice m) = obs m := by
      simp [In.Initial.onRemoteStop, isPeer_false isPeer]
    rw [h]
    exact .ignore isPeer

/-- A handler that stops the cooperation under a condition and is idle otherwise. -/
theorem in_stop_or_ignore {e : CooperateEvent} {p : Prop} [Decidable p]
    (h : obs (In.Initial.onEvent env e m) = if p then (obs m).stopIn env else obs m)
    (stop : p → StopsIn env (obs m) e) (ignore : ¬ p → IgnoredIn env (obs m) e) :
    InMove env e (obs m) (obs (In.Initial.onEvent env e m)) := by
  rw [h]
  split
  case isTrue hp => exact .stop (stop hp)
  case isFalse hp => exact .ignore (ignore hp)

@[simp] theorem obs_freeze : obs (InputEventBuilder.freeze m) = obs m := by
  unfold InputEventBuilder.freeze; split <;> rfl

@[simp] theorem obs_thaw : obs (InputEventBuilder.thaw m) = obs m := by
  unfold InputEventBuilder.thaw; split <;> rfl

/-- The condition under which the IN steps pass over mouse input. -/
theorem foreign_pointer (filtered : List Int32) (notice : InputPointerEvent) :
    (decide (notice.sourceType ≠ env.mmi.SOURCE_TYPE_MOUSE) ||
      filtered.contains notice.pointerAction || !InputEventBuilder.isLocalEvent notice) =
      !CooperateEvent.isLocalPointer env filtered (.inputPointerEvent notice) := by
  simp only [CooperateEvent.isLocalPointer, Bool.not_and, Bool.not_not, decide_not]

theorem in_move (e : CooperateEvent) :
    InMove env e (obs m) (obs (In.Initial.onEvent env e m)) := by
  cases e with
  | start n => exact in_onStart env m n
  | withOptionsStart n => exact in_onStartWithOptions env m n
  | dsoftbusStartCooperate notice => exact in_onRemoteStart env m notice
  | dsoftbusCooperateWithOptions notice => exact in_onRemoteStartWithOptions env m notice
  | dsoftbusStopCooperate notice => exact in_onRemoteStop env m notice
  | disable n =>
    exact in_stop_or_ignore env m (p := True) (by simp [In.Initial.onEvent]) id (absurd trivial)
  | stop param =>
    exact in_stop_or_ignore env m (p := True) (by simp [In.Initial.onEvent, In.Initial.onStop])
      id (absurd trivial)
  | appClosed n =>
    exact in_stop_or_ignore env m (p := True)
      (by simp [In.Initial.onEvent, In.Initial.onAppClosed]) id (absurd trivial)
  | inputPointerEvent notice =>
    refine in_stop_or_ignore env m (p := CooperateEvent.isLocalPointer env
      (In.Initial.filterPointerActions env) (.inputPointerEvent notice) = true) ?_ id
      Bool.eq_false_iff.mpr
    simp only [In.Initial.onEvent, In.Initial.onPointerEvent, foreign_pointer]
    split <;> simp_all
  | ddmBoardOffline notice =>
    refine in_stop_or_ignore env m (p := notice.networkId = (obs m).peer) ?_ id id
    by_cases h : notice.networkId = (obs m).peer <;>
      simp [In.Initial.onEvent, In.Initial.onBoardOffline, isPeer_eq, h]
  | dsoftbusSessionClosed notice =>
    refine in_stop_or_ignore env m (p := notice.networkId = (obs m).peer) ?_ id id
    by_cases h : notice.networkId = (obs m).peer <;>
      simp [In.Initial.onEvent, In.Initial.onSoftbusSessionClosed, isPeer_eq, h,
        EventManager.onSoftbusSessionClosed]
  | ddpCooperateSwitchChanged notice =>
    refine in_stop_or_ignore env m
      (p := notice.networkId = (obs m).peer ∧ notice.normal = false) ?_ id ?_
    · by_cases h : notice.networkId = (obs m).peer <;> by_cases hn : notice.normal = true <;>
        simp [In.Initial.onEvent, In.Initial.onSwitchChanged, isPeer_eq, h, hn]
    · intro h
      simpa [IgnoredIn, imp_iff_not_or] using h
  | updateCooperateFlag notice =>
    have h : obs (In.Initial.onUpdateCooperateFlag notice m) = obs m := by
      simp [In.Initial.onUpdateCooperateFlag, apply_ite obs]
    simp only [In.Initial.onEvent, h]
    exact .ignore trivial
  | dsoftbusInputDevSync notice =>
    have h : obs (In.Initial.onRemoteInputDevice notice m) = obs m := by
      simp [In.Initial.onRemoteInputDevice, apply_ite obs]
    simp only [In.Initial.onEvent, h]
    exact .ignore trivial
  | _ => exact .ignore trivial

/-! ## IN, waiting for the relay -/

open In.RelayConfirmation in
theorem relay_onRemoteStart (notice : DSoftbusStartCooperate) :
    RelayMove env (.dsoftbusStartCooperate notice) (obs m) (obs (onRemoteStart env notice m)) := by
  by_cases pass : (m.isPeer notice.networkId || env.isLocal notice.networkId) = true
  · have h : obs (onRemoteStart env notice m) = obs m := by
      simp only [onRemoteStart, isPeer_storePeerSpeeds, pass, if_true,
        Context.obs_storePeerTouchPadSpeed, Context.obs_storePeerPointerSpeed]
    rw [h]
    exact .ignore ((peer_or_local env m _).mp pass)
  have ⟨notPeer, notLocal⟩ := not_or.mp (mt (peer_or_local env m _).mpr pass)
  by_cases target : notice.networkId = (obs m).process
  · have h : obs (onRemoteStart env notice m) =
        (((obs m).out [.event (.dsoftbusStartCooperate notice)]).finish false
          CoordinationErrCode.coordinationOk.toInt32).reset := by
      have ht : isProcessPeer m notice.networkId = true := decide_eq_true target
      simp only [onRemoteStart, isPeer_storePeerSpeeds, isProcessPeer_storePeerSpeeds, pass, ht]
      simp
    rw [h]
    exact .crossing notPeer notLocal target
  · have h : obs (onRemoteStart env notice m) = (obs m).out
        [.addTimer env.addTimer DEFAULT_COOLING_TIME (.dsoftbusStartCooperate notice)] := by
      have ht : isProcessPeer m notice.networkId = false := decide_eq_false target
      simp only [onRemoteStart, isPeer_storePeerSpeeds, isProcessPeer_storePeerSpeeds, pass, ht]
      simp
    rw [h]
    exact RelayMove.defer (e := .dsoftbusStartCooperate notice) _ rfl notPeer notLocal target

open In.RelayConfirmation in
theorem relay_onRemoteStartWithOptions (notice : DSoftbusCooperateOptions) :
    RelayMove env (.dsoftbusCooperateWithOptions notice) (obs m)
      (obs (onRemoteStartWithOptions env notice m)) := by
  by_cases pass : (m.isPeer notice.networkId || env.isLocal notice.networkId) = true
  · have h : obs (onRemoteStartWithOptions env notice m) = obs m := by
      simp only [onRemoteStartWithOptions, isPeer_storePeerSpeeds, pass, if_true,
        Context.obs_storePeerTouchPadSpeed, Context.obs_storePeerPointerSpeed]
    rw [h]
    exact .ignore ((peer_or_local env m _).mp pass)
  have ⟨notPeer, notLocal⟩ := not_or.mp (mt (peer_or_local env m _).mpr pass)
  by_cases target : notice.networkId = (obs m).process
  · have h : obs (onRemoteStartWithOptions env notice m) =
        ((obs m).out [.event (.dsoftbusCooperateWithOptions notice)]).reset := by
      have ht : isProcessPeer m notice.networkId = true := decide_eq_true target
      simp only [onRemoteStartWithOptions, isPeer_storePeerSpeeds,
        isProcessPeer_storePeerSpeeds, pass, ht]
      simp [onReset]
    rw [h]
    exact .crossingWithOptions notPeer notLocal target
  · have h : obs (onRemoteStartWithOptions env notice m) = (obs m).out
        [.addTimer env.addTimer DEFAULT_COOLING_TIME (.dsoftbusCooperateWithOptions notice)] := by
      have ht : isProcessPeer m notice.networkId = false := decide_eq_false target
      simp only [onRemoteStartWithOptions, isPeer_storePeerSpeeds,
        isProcessPeer_storePeerSpeeds, pass, ht]
      simp
    rw [h]
    exact RelayMove.defer (e := .dsoftbusCooperateWithOptions notice) _ rfl notPeer notLocal target

open In.RelayConfirmation in
theorem relay_onRemoteStop (notice : DSoftbusStopCooperate) :
    RelayMove env (.dsoftbusStopCooperate notice) (obs m) (obs (onRemoteStop notice m)) := by
  by_cases isPeer : notice.networkId = (obs m).peer
  · simpa [onRemoteStop, isPeer_true isPeer, onReset] using
      (.remoteStop isPeer : RelayMove env (.dsoftbusStopCooperate notice) (obs m) _)
  · have h : obs (onRemoteStop notice m) = obs m := by
      simp [onRemoteStop, isPeer_false isPeer]
    rw [h]
    exact .ignore isPeer

open In.RelayConfirmation in
/-- The three ways of losing a device. -/
theorem relay_onPeerLost {e : CooperateEvent} {networkId : NetworkId}
    (lost : e.lost? = some networkId)
    (ignored : networkId ≠ (obs m).peer ∧ networkId ≠ (obs m).process →
      IgnoredRelay env (obs m) e) :
    RelayMove env e (obs m) (obs (onPeerLost env networkId m)) := by
  by_cases isPeer : networkId = (obs m).peer
  · have h : obs (onPeerLost env networkId m) = (((obs m).stopIn env).finish false
        CoordinationErrCode.coordinationOk.toInt32).reset := by
      simp [onPeerLost, isPeer_true isPeer]
    rw [h]
    exact .lose (.inr (isPeer ▸ lost))
  by_cases target : networkId = (obs m).process
  · have ht : isProcessPeer m networkId = true := decide_eq_true target
    have h : obs (onPeerLost env networkId m) = ((obs m).finish false
        CoordinationErrCode.coordinationOk.toInt32).reset := by
      simp [onPeerLost, isPeer_false isPeer, ht]
    rw [h]
    exact .loseTarget (target ▸ lost) (target ▸ isPeer)
  · have ht : isProcessPeer m networkId = false := decide_eq_false target
    have h : obs (onPeerLost env networkId m) = obs m := by
      simp [onPeerLost, isPeer_false isPeer, ht]
    rw [h]
    exact .ignore (ignored ⟨isPeer, target⟩)

theorem process_eq : m.machine.process.remoteNetworkId = (obs m).process := rfl

@[simp] theorem success_normalNotice (finished : DSoftbusRelayCooperateFinished) :
    (In.RelayConfirmation.normalNotice env finished m).success = true := rfl

@[simp] theorem errCode_normalNotice (finished : DSoftbusRelayCooperateFinished) :
    (In.RelayConfirmation.normalNotice env finished m).errCode =
      CoordinationErrCode.coordinationOk.toInt32 := rfl

@[simp] theorem success_normalWithOptionsNotice :
    (In.RelayConfirmation.normalWithOptionsNotice env m).success = true := rfl

@[simp] theorem errCode_normalWithOptionsNotice :
    (In.RelayConfirmation.normalWithOptionsNotice env m).errCode =
      CoordinationErrCode.coordinationOk.toInt32 := rfl

open In.RelayConfirmation in
theorem relay_onNormal (finished : DSoftbusRelayCooperateFinished) :
    ∃ notice : DSoftbusStartCooperate, notice.originNetworkId = (obs m).peer ∧
      notice.accountId = [] ∧ obs (onNormal env finished m) =
        (((obs m).disableBuilder.send env (obs m).process
          (DSoftbusHandler.startPacket notice)).finish true
            CoordinationErrCode.coordinationOk.toInt32).goto .free := by
  let notice := normalNotice env finished (InputEventBuilder.disableBuilder m)
  have origin : notice.originNetworkId = (obs m).peer := by
    rw [← peer_disableBuilder, ← obs_disableBuilder]; rfl
  refine ⟨notice, origin, rfl, ?_⟩
  simp [onNormal, DSoftbusHandler.startCooperate, process_eq, notice]

open In.RelayConfirmation in
theorem relay_onNormalWithOptions :
    ∃ notice : DSoftbusCooperateOptions, notice.originNetworkId = (obs m).peer ∧
      notice.accountId = [] ∧ obs (onNormalWithOptions env m) =
        (((obs m).disableBuilder.send env (obs m).process
          (DSoftbusHandler.startWithOptionsPacket notice)).finish true
            CoordinationErrCode.coordinationOk.toInt32).goto .free := by
  let notice := normalWithOptionsNotice env (InputEventBuilder.disableBuilder m)
  have origin : notice.originNetworkId = (obs m).peer := by
    rw [← peer_disableBuilder, ← obs_disableBuilder]; rfl
  refine ⟨notice, origin, rfl, ?_⟩
  simp [onNormalWithOptions, DSoftbusHandler.startCooperateWithOptions, process_eq, notice]

open In.RelayConfirmation in
theorem relay_onResponse (notice : DSoftbusRelayCooperateFinished) :
    RelayMove env (.dsoftbusRelayCooperateFinished notice) (obs m)
      (obs (onResponse env notice m)) := by
  by_cases isPeer : notice.networkId = (obs m).peer
  swap
  · have h : obs (onResponse env notice m) = obs m := by
      simp [onResponse, isPeer_false isPeer]
    rw [h]
    exact .ignore isPeer
  cases normal : notice.normal with
  | true =>
    obtain ⟨start, origin, account, hn⟩ :=
      relay_onNormal env (m.emit (.removeTimer m.machine.timerId)) notice
    have h : obs (onResponse env notice m) =
        (obs (onNormal env notice (m.emit (.removeTimer m.machine.timerId)))).reset := by
      simp [onResponse, isPeer_true isPeer, normal]
    rw [h, hn, obs_emit]
    have hp : (obs m).peer = start.originNetworkId := by rw [origin, obs_emit]; rfl
    exact RelayMove.done false _ rfl isPeer normal ⟨start, hp.symm, account, rfl⟩
  | false =>
    have h : obs (onResponse env notice m) = (((obs m).out [.removeTimer m.machine.timerId]).finish
        false CoordinationErrCode.coordinationOk.toInt32).reset.stopIn env := by
      simp [onResponse, isPeer_true isPeer, normal]
    rw [h]
    exact RelayMove.failed (o := obs m) false rfl isPeer normal

open In.RelayConfirmation in
theorem relay_onResponseWithOptions (notice : DSoftbusRelayCooperateFinished) :
    RelayMove env (.dsoftbusRelayCooperateWithOptionsFinished notice) (obs m)
      (obs (onResponseWithOptions env notice m)) := by
  by_cases isPeer : notice.networkId = (obs m).peer
  swap
  · have h : obs (onResponseWithOptions env notice m) = obs m := by
      simp [onResponseWithOptions, isPeer_false isPeer]
    rw [h]
    exact .ignore isPeer
  cases normal : notice.normal with
  | true =>
    obtain ⟨start, origin, account, hn⟩ :=
      relay_onNormalWithOptions env (m.emit (.removeTimer m.machine.timerId))
    have h : obs (onResponseWithOptions env notice m) =
        (obs (onNormalWithOptions env (m.emit (.removeTimer m.machine.timerId)))).reset := by
      simp [onResponseWithOptions, isPeer_true isPeer, normal]
    rw [h, hn, obs_emit]
    have hp : (obs m).peer = start.originNetworkId := by rw [origin, obs_emit]; rfl
    exact RelayMove.done true _ rfl isPeer normal ⟨start, hp.symm, account, rfl⟩
  | false =>
    have h : obs (onResponseWithOptions env notice m) =
        (((obs m).out [.removeTimer m.machine.timerId]).finish
          false CoordinationErrCode.coordinationOk.toInt32).reset.stopIn env := by
      simp [onResponseWithOptions, isPeer_true isPeer, normal]
    rw [h]
    exact RelayMove.failed (o := obs m) true rfl isPeer normal

open In.RelayConfirmation in
theorem relay_onPointerEvent (notice : InputPointerEvent) :
    RelayMove env (.inputPointerEvent notice) (obs m) (obs (onPointerEvent env notice m)) := by
  have hc : (decide (notice.sourceType ≠ env.mmi.SOURCE_TYPE_MOUSE) ||
      !InputEventBuilder.isLocalEvent notice) =
        !CooperateEvent.isLocalPointer env [] (.inputPointerEvent notice) := by
    simpa using foreign_pointer env [] notice
  unfold onPointerEvent
  rw [hc]
  cases hl : CooperateEvent.isLocalPointer env [] (.inputPointerEvent notice) with
  | true => simpa [onReset] using
    (.stop hl : RelayMove env (.inputPointerEvent notice) (obs m) _)
  | false => simpa using
    (.ignore hl : RelayMove env (.inputPointerEvent notice) (obs m) _)

theorem relay_move (e : CooperateEvent) :
    RelayMove env e (obs m) (obs (In.RelayConfirmation.onEvent env e m)) := by
  cases e with
  | dsoftbusStartCooperate notice => exact relay_onRemoteStart env m notice
  | dsoftbusCooperateWithOptions notice => exact relay_onRemoteStartWithOptions env m notice
  | dsoftbusStopCooperate notice => exact relay_onRemoteStop env m notice
  | dsoftbusRelayCooperateFinished notice => exact relay_onResponse env m notice
  | dsoftbusRelayCooperateWithOptionsFinished notice =>
    exact relay_onResponseWithOptions env m notice
  | inputPointerEvent notice => exact relay_onPointerEvent env m notice
  | ddmBoardOffline notice => exact relay_onPeerLost env m rfl id
  | dsoftbusSessionClosed notice => exact relay_onPeerLost env m rfl id
  | ddpCooperateSwitchChanged notice =>
    simp only [In.RelayConfirmation.onEvent, In.RelayConfirmation.onSwitchChanged]
    cases normal : notice.normal with
    | true => exact .ignore (.inl normal)
    | false => exact relay_onPeerLost env m (by simp [CooperateEvent.lost?, normal]) .inr
  | disable n =>
    simpa [In.RelayConfirmation.onEvent, In.RelayConfirmation.onDisable,
      In.RelayConfirmation.onReset] using
      (.stop trivial : RelayMove env (.disable n) (obs m) _)
  | stop param =>
    simpa [In.RelayConfirmation.onEvent, In.RelayConfirmation.onStop,
      In.RelayConfirmation.onReset] using
      (.stop trivial : RelayMove env (.stop param) (obs m) _)
  | appClosed n =>
    simpa [In.RelayConfirmation.onEvent, In.RelayConfirmation.onAppClosed] using
      (.lose (.inl ⟨n, rfl⟩) : RelayMove env (.appClosed n) (obs m) _)
  | _ => exact .ignore trivial

/-! ## The state machine -/

theorem transfer_move (e : CooperateEvent) :
    Transfer env (requestPacket env e m) e (obs m) (obs (StateMachine.transfer env e m)) := by
  have hc : (obs m).current = m.machine.current := rfl
  have hs : (obs m).inStep = m.machine.inStep := rfl
  unfold Transfer StateMachine.transfer In.onEvent
  rw [hc, hs]
  cases m.machine.current with
  | free => exact free_move env m e
  | out => exact out_move env m e
  | «in» =>
    cases m.machine.inStep with
    | initial => exact in_move env m e
    | relayConfirmation => exact relay_move env m e

/-- A state that looks the same is moved in the same way. -/
theorem transfer_move_of_obs {o : Observed} {mo : Cooperate} {request : DSoftbusPacket}
    (e : CooperateEvent) (hr : requestPacket env e mo = request) (h : obs mo = o) :
    Transfer env request e o (obs (StateMachine.transfer env e mo)) :=
  hr ▸ h ▸ transfer_move env mo e

section Bookkeeping

open StateMachine

@[simp] theorem obs_addObserver (observer : ObserverId) :
    obs (Context.addObserver observer m) = obs m := rfl

@[simp] theorem obs_removeObserver (observer : ObserverId) :
    obs (Context.removeObserver observer m) = obs m := rfl

@[simp] theorem obs_registerListener (event : RegisterListenerEvent) :
    obs (EventManager.registerListener event m) = obs m := rfl

@[simp] theorem obs_unregisterListener (event : RegisterListenerEvent) :
    obs (EventManager.unregisterListener event m) = obs m := rfl

@[simp] theorem obs_onClientDied (event : ClientDiedEvent) :
    obs (EventManager.onClientDied event m) = obs m := rfl

@[simp] theorem obs_eventMgr_enableCooperate (event : EnableCooperateEvent) :
    obs (EventManager.enableCooperate event m) = obs m := obs_notAnswer m rfl

@[simp] theorem obs_eventMgr_disableCooperate (event : DisableCooperateEvent) :
    obs (EventManager.disableCooperate event m) = obs m := obs_notAnswer m rfl

@[simp] theorem obs_updateVirtualDeviceIdMap (ids : List (Int32 × Int32)) :
    obs (InputEventBuilder.updateVirtualDeviceIdMap ids m) = obs m := rfl

@[simp] theorem obs_updateApplicationStateObserver (pid : Int32) :
    obs (updateApplicationStateObserver pid m) = obs m := rfl

@[simp] theorem obs_registerApplicationStateObserver (event : EnableCooperateEvent) :
    obs (registerApplicationStateObserver env event m) = obs m := by
  unfold registerApplicationStateObserver
  dsimp only
  split
  · rfl
  · exact obs_call ..

@[simp] theorem obs_unregisterApplicationStateObserver :
    obs (unregisterApplicationStateObserver env m) = obs m := by
  unfold unregisterApplicationStateObserver
  split
  · rfl
  split
  · rfl
  · exact obs_call ..

@[simp] theorem obs_addMonitor : obs (addMonitor env m) = obs m := by
  unfold addMonitor
  split
  · rfl
  · exact obs_call ..

@[simp] theorem obs_removeMonitor : obs (removeMonitor m) = obs m := by
  unfold removeMonitor
  split
  · rfl
  · exact obs_call ..

@[simp] theorem obs_addPreMonitor : obs (addPreMonitor env m) = obs m := by
  unfold addPreMonitor
  split
  · rfl
  · exact obs_call ..

@[simp] theorem obs_removePreMonitor : obs (removePreMonitor m) = obs m := by
  unfold removePreMonitor
  split
  · rfl
  · exact obs_call ..

@[simp] theorem obs_disableCooperate : obs (Context.disableCooperate m) = obs m := rfl

theorem obs_isCooperateEnable (enabled : Bool) :
    obs { m with machine.isCooperateEnable := enabled } = { obs m with enabled := enabled } := rfl

end Bookkeeping

theorem enable_move (event : EnableCooperateEvent) :
    Move env (unseen env (.enable event) m) (.enable event) (obs m)
      (obs (StateMachine.enableCooperate env event m)) := by
  refine .enable (transfer_move_of_obs env _ rfl ((obs_isCooperateEnable _ _).trans ?_))
  simp only [obs_call, obs_addPreMonitor, obs_addMonitor, obs_registerApplicationStateObserver,
    obs_eventMgr_enableCooperate]

theorem disable_move (event : DisableCooperateEvent) :
    Move env (unseen env (.disable event) m) (.disable event) (obs m)
      (obs (StateMachine.disableCooperate env event m)) := by
  refine .disable (transfer_move_of_obs env _ rfl ((obs_isCooperateEnable _ _).trans ?_))
  simp only [obs_call, obs_removePreMonitor, obs_removeMonitor,
    obs_unregisterApplicationStateObserver, obs_eventMgr_disableCooperate, obs_disableCooperate]

theorem requestPacket_accepted (e : CooperateEvent) (pid : Int32) (output : Output) :
    requestPacket env e ((StateMachine.updateApplicationStateObserver pid m).emit output) =
      requestPacket env e m := by
  cases e <;> rfl

theorem acceptStart_move {e : CooperateEvent} (r : StartRequest) (hr : e.request? = some r)
    (pid : Int32) :
    Move env (unseen env e m) e (obs m)
      (obs (StateMachine.acceptStart env r.call.networkId pid r.errCode e m)) := by
  have ha : Context.isAllowCooperate env (StateMachine.updateApplicationStateObserver pid m) =
    (unseen env e m).allowed := rfl
  unfold StateMachine.acceptStart
  cases account : env.checkSrcIsSameAccount r.call.networkId with
  | false =>
    simp only [Bool.not_false, if_true, obs_emit]
    exact .turnDown r _ hr (.inl ⟨account, rfl⟩)
  | true =>
    cases allow : (unseen env e m).allowed with
    | true =>
      simp only [ha, allow, Bool.not_true]
      exact .accept r hr account allow
        (transfer_move_of_obs env e (requestPacket_accepted ..) (by simp))
    | false =>
      simp only [ha, allow, Bool.not_true, Bool.not_false, if_true, Bool.false_eq_true, if_false,
        obs_emit, obs_updateApplicationStateObserver]
      exact .turnDown r _ hr (.inr ⟨allow, rfl⟩)

theorem requestPacket_of_none {e : CooperateEvent} (h : e.request? = none) :
    requestPacket env e m = .stopCooperate := by
  cases e <;> first | rfl | cases h

theorem request_of_remoteStart {e : CooperateEvent} {s : RemoteStart}
    (h : e.remoteStart? = some s) : e.request? = none := by
  cases e <;> first | rfl | cases h

theorem request_of_isPassedOn {e : CooperateEvent} (h : e.isPassedOn = true) :
    e.request? = none := by
  cases e <;> first | rfl | cases h

theorem acceptRemoteStart_move {e : CooperateEvent} (s : RemoteStart)
    (hs : e.remoteStart? = some s) :
    Move env (unseen env e m) e (obs m)
      (obs (StateMachine.acceptRemoteStart env s.originNetworkId s.userId s.accountId e m)) := by
  unfold StateMachine.acceptRemoteStart
  split
  case isTrue closed =>
    refine .gateClosed s hs ?_ (transfer_move_of_obs env _ 
      (requestPacket_of_none _ _ (request_of_remoteStart hs)).symm rfl)
    rintro ⟨account, enabled⟩
    have enabled : m.machine.isCooperateEnable = true := enabled
    simp [account, enabled] at closed
  case isFalse passed =>
    simp only [Bool.or_eq_true, Bool.not_eq_true', not_or, Bool.not_eq_false] at passed
    exact .gateOpen s hs passed (transfer_move ..)

theorem pass_move {e : CooperateEvent} {mo : Cooperate} (h : e.isPassedOn = true)
    (hm : obs mo = obs m) :
    Move env (unseen env e m) e (obs m) (obs (StateMachine.transfer env e mo)) :=
  have hn := request_of_isPassedOn h
  .pass h (transfer_move_of_obs env e
    ((requestPacket_of_none env mo hn).trans (requestPacket_of_none env m hn).symm) hm)

open StateMachine in
theorem onEvent_move (e : CooperateEvent) :
    Move env (unseen env e m) e (obs m) (obs (StateMachine.onEvent env e m)) := by
  cases e with
  | enable event => exact enable_move env m event
  | disable event => exact disable_move env m event
  | start event => exact acceptStart_move env m ⟨event.call, event.errCode⟩ rfl event.pid
  | withOptionsStart event =>
    exact acceptStart_move env m ⟨event.call, event.errCode⟩ rfl event.pid
  | dsoftbusStartCooperate event =>
    exact acceptRemoteStart_move env m (e := .dsoftbusStartCooperate event)
      ⟨event.networkId, event.originNetworkId, event.userId, event.accountId⟩ rfl
  | dsoftbusCooperateWithOptions event =>
    exact acceptRemoteStart_move env m (e := .dsoftbusCooperateWithOptions event)
      ⟨event.networkId, event.originNetworkId, event.userId, event.accountId⟩ rfl
  | inputPointerEvent event =>
    exact .pointer m.context.cursorPos
      (transfer_move_of_obs env _ rfl (Context.obs_onPointerEvent env m event))
  | ddmBoardOnline event =>
    simp only [StateMachine.onEvent, onBoardOnline]
    split
    · exact .keep rfl
    · exact pass_move env m rfl rfl
  | ddmBoardOffline event =>
    simp only [StateMachine.onEvent, onBoardOffline]
    split
    · exact pass_move env m rfl (Context.obs_closeDistributedFileConnection ..)
    · exact .keep rfl
  | ddpCooperateSwitchChanged event =>
    simp only [StateMachine.onEvent, StateMachine.onProfileChanged]
    exact pass_move env m rfl (by simp only [EventManager.onProfileChanged, obs_onCooperateMessage])
  | appClosed event =>
    simp only [StateMachine.onEvent, onProcessClientDied]
    exact pass_move env m rfl (by simp only [obs_call, obs_onClientDied])
  | dsoftbusSessionOpened event =>
    simp only [StateMachine.onEvent, onSoftbusSessionOpened]
    exact pass_move env m rfl (by simp only [obs_call])
  | dsoftbusSessionClosed event =>
    simp only [StateMachine.onEvent, StateMachine.onSoftbusSessionClosed]
    exact pass_move env m rfl (by simp only [obs_call, EventManager.onSoftbusSessionClosed,
      Context.obs_closeDistributedFileConnection, obs_onCooperateMessage])
  | inputHotplugEvent event =>
    simp only [StateMachine.onEvent, onHotPlugEvent]
    exact pass_move env m rfl (obs_call ..)
  | dsoftbusInputDevSync event =>
    simp only [StateMachine.onEvent, onRemoteInputDevice]
    exact pass_move env m rfl (obs_call ..)
  | stop event =>
    simp only [StateMachine.onEvent, StateMachine.stopCooperate]
    exact pass_move env m rfl (by simp only [obs_call, Context.obs_onStopCooperate,
      Context.obs_closeDistributedFileConnection])
  | getCooperateState event =>
    simp only [StateMachine.onEvent, StateMachine.getCooperateState,
      EventManager.getCooperateState, obs_call, obs_updateApplicationStateObserver]
    exact .keep rfl
  | addObserver event => exact .keep rfl
  | removeObserver event => exact .keep rfl
  | registerListener event => exact .keep rfl
  | unregisterListener event => exact .keep rfl
  | updateVirtualDevIdMap event => exact .keep rfl
  | registerHotareaListener _ | unregisterHotareaListener _ | registerEventListener _
  | unregisterEventListener _ | dsoftbusSubscribeMouseLocation _
  | dsoftbusUnsubscribeMouseLocation _ | dsoftbusReplySubscribeMouseLocation _
  | dsoftbusReplyUnsubscribeMouseLocation _ | dsoftbusMouseLocation _ =>
    simp only [StateMachine.onEvent, obs_call]
    exact .keep rfl
  | _ => exact pass_move env m rfl rfl

/-- What one event does to a device is a move. -/
theorem step_move (e : CooperateEvent) :
    Move env (unseen env e m) e { obs m with outputs := [] } (obs (step env e m)) :=
  onEvent_move env { m with effects := [] } e

end DeviceStatus.Cooperation
