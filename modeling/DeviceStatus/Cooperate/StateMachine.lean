import DeviceStatus.Cooperate.In

/-!
# The state machine

`StateMachine::OnEvent`: the checks and the bookkeeping that come before the current state
sees an event. `step` processes one event from the channel.
-/

namespace DeviceStatus.Cooperation.StateMachine

variable (env : Env)

/-- Hand an event to the current state. -/
def transfer (event : CooperateEvent) (m : Cooperate) : Cooperate :=
  match m.machine.current with
  | .free => Free.onEvent env event m
  | .out => Out.onEvent env event m
  | .in => In.onEvent env event m

def addMonitor (m : Cooperate) : Cooperate :=
  if 0 ≤ m.machine.monitorId then m
  else
    let m := { m with machine.monitorId := env.addMonitor }
    m.call (.addMonitor env.addMonitor)

def removeMonitor (m : Cooperate) : Cooperate :=
  if m.machine.monitorId < 0 then m
  else
    let m := m.call (.removeMonitor m.machine.monitorId)
    { m with machine.monitorId := -1 }

def addPreMonitor (m : Cooperate) : Cooperate :=
  if 0 ≤ m.machine.preMonitorId then m
  else
    let m := { m with machine.preMonitorId := env.addPreMonitor }
    m.call (.addPreMonitor env.addPreMonitor)

def removePreMonitor (m : Cooperate) : Cooperate :=
  if m.machine.preMonitorId < 0 then m
  else
    let m := m.call (.removePreMonitor m.machine.preMonitorId)
    { m with machine.preMonitorId := -1 }

/-- `AddSessionObserver`. -/
def registerApplicationStateObserver (event : EnableCooperateEvent) (m : Cooperate) : Cooperate :=
  let bundleNames := m.machine.clientBundleNames ++ [env.packageName event.tokenId]
  let m := { m with machine.clientBundleNames := bundleNames }
  if ¬ env.getAppMgr then m
  else
    let m := m.call (.registerApplicationStateObserver bundleNames)
    { m with machine.appStateObserver :=
        if env.registerApplicationStateObserver then some event.pid else none }

/-- `RemoveSessionObserver`. -/
def unregisterApplicationStateObserver (m : Cooperate) : Cooperate :=
  match m.machine.appStateObserver with
  | none => m
  | some _ =>
    if ¬ env.getAppMgr then m
    else
      let m := m.call .unregisterApplicationStateObserver
      { m with machine.appStateObserver := none }

def updateApplicationStateObserver (clientPid : Int32) (m : Cooperate) : Cooperate :=
  { m with machine.appStateObserver := m.machine.appStateObserver.map fun _ => clientPid }

def enableCooperate (event : EnableCooperateEvent) (m : Cooperate) : Cooperate :=
  let m := EventManager.enableCooperate event m
  let m := m.call (.hotAreaEnableCooperate event)
  let m := m.call .addCommonEventObserver
  let m := registerApplicationStateObserver env event m
  let m := addMonitor env m
  let m := addPreMonitor env m
  let m := m.call .registerDevListener
  let m := { m with machine.isCooperateEnable := true }
  transfer env (.enable event) m

def disableCooperate (event : DisableCooperateEvent) (m : Cooperate) : Cooperate :=
  let m := Context.disableCooperate m
  let m := EventManager.disableCooperate event m
  let m := m.call .removeCommonEventObserver
  let m := m.call .removeAllVirtualInputDevice
  let m := unregisterApplicationStateObserver env m
  let m := removeMonitor m
  let m := removePreMonitor m
  let m := m.call .unregisterDevListener
  let m := { m with machine.isCooperateEnable := false }
  transfer env (.disable event) m

/-- The checks that START and WITH_OPTIONS_START share: the promise of a request that is
turned down carries the reason, that of an accepted one carries RET_OK. -/
def acceptStart (remoteNetworkId : NetworkId) (pid : Int32) (errCode : Promise)
    (event : CooperateEvent) (m : Cooperate) : Cooperate :=
  if !env.checkSrcIsSameAccount remoteNetworkId then
    m.emit (.errCode errCode COMMON_PERMISSION_CHECK_ERROR)
  else
    let m := updateApplicationStateObserver pid m
    if !Context.isAllowCooperate env m then
      m.emit (.errCode errCode COMMON_NOT_ALLOWED_DISTRIBUTED)
    else
      let m := m.emit (.errCode errCode RET_OK)
      transfer env event m

def startCooperate (event : StartCooperateEvent) (m : Cooperate) : Cooperate :=
  acceptStart env event.remoteNetworkId event.pid event.errCode (.start event) m

def startCooperateWithOptions (event : StartWithOptionsEvent) (m : Cooperate) : Cooperate :=
  acceptStart env event.remoteNetworkId event.pid event.errCode (.withOptionsStart event) m

def stopCooperate (event : StopCooperateEvent) (m : Cooperate) : Cooperate :=
  let m := Context.closeDistributedFileConnection m.peer m
  let m := Context.onStopCooperate m
  let m := m.call .removeAllVirtualInputDevice
  transfer env (.stop event) m

def getCooperateState (event : GetCooperateStateEvent) (m : Cooperate) : Cooperate :=
  let m := updateApplicationStateObserver event.pid m
  EventManager.getCooperateState
    { pid := event.pid, msgId := .coordinationGetState, userData := event.userData,
      state := m.machine.isCooperateEnable } m

def onProcessClientDied (event : ClientDiedEvent) (m : Cooperate) : Cooperate :=
  let m := EventManager.onClientDied event m
  let m := m.call (.hotAreaOnClientDied event)
  let m := m.call (.mouseLocationOnClientDied event)
  transfer env (.appClosed event) m

def onBoardOnline (event : DDMBoardOnlineEvent) (m : Cooperate) : Cooperate :=
  if event.networkId ∈ m.machine.onlineBoards then m
  else
    let m := { m with machine.onlineBoards := m.machine.onlineBoards ++ [event.networkId] }
    transfer env (.ddmBoardOnline event) m

def onBoardOffline (event : DDMBoardOfflineEvent) (m : Cooperate) : Cooperate :=
  if event.networkId ∈ m.machine.onlineBoards then
    let m := { m with machine.onlineBoards := m.machine.onlineBoards.erase event.networkId }
    let m := Context.closeDistributedFileConnection event.networkId m
    transfer env (.ddmBoardOffline event) m
  else m

def onProfileChanged (event : DDPCooperateSwitchChanged) (m : Cooperate) : Cooperate :=
  let m := EventManager.onProfileChanged event m
  transfer env (.ddpCooperateSwitchChanged event) m

/-- The state is told the cursor position from before the event. -/
def onPointerEvent (event : InputPointerEvent) (m : Cooperate) : Cooperate :=
  let cursorPos := m.context.cursorPos
  let m := Context.onPointerEvent env event m
  transfer env (.inputPointerEvent { event with position := cursorPos }) m

def onSoftbusSessionClosed (event : DSoftbusSessionClosed) (m : Cooperate) : Cooperate :=
  let m := EventManager.onSoftbusSessionClosed event m
  let m := m.call (.removeAllRemoteInputDevice event.networkId)
  let m := m.call (.mouseLocationOnSoftbusSessionClosed event)
  let m := Context.closeDistributedFileConnection event.networkId m
  transfer env (.dsoftbusSessionClosed event) m

def onSoftbusSessionOpened (event : DSoftbusSessionOpened) (m : Cooperate) : Cooperate :=
  let m := m.call (.notifyInputDeviceToRemote event.networkId)
  let m := m.call (.startHeartBeat event.networkId)
  transfer env (.dsoftbusSessionOpened event) m

def onHotPlugEvent (event : InputHotplugEvent) (m : Cooperate) : Cooperate :=
  let m := m.call (.broadcastHotPlugToRemote event)
  transfer env (.inputHotplugEvent event) m

def onRemoteInputDevice (event : DSoftbusSyncInputDevice) (m : Cooperate) : Cooperate :=
  let m := m.call (.addRemoteInputDevice event.networkId event.devices)
  transfer env (.dsoftbusInputDevSync event) m

/-- `InputDeviceMgr::OnRemoteHotPlug` is empty. -/
def onRemoteHotPlug (event : DSoftbusHotPlugEvent) (m : Cooperate) : Cooperate :=
  transfer env (.dsoftbusInputDevHotPlug event) m

/-- The same-account check of a start message: it is made for the origin, in one of two ways. -/
def checkSameAccount (originNetworkId : NetworkId) (userId : Int32) (accountId : StdString) :
    Bool :=
  if 0 < userId then env.checkSinkIsSameAccount originNetworkId userId accountId
  else env.checkSameAccountToLocal originNetworkId

/-- The gate that both start messages pass through: a message that fails it becomes a STOP
that unchains. -/
def acceptRemoteStart (originNetworkId : NetworkId) (userId : Int32) (accountId : StdString)
    (event : CooperateEvent) (m : Cooperate) : Cooperate :=
  if !checkSameAccount env originNetworkId userId accountId || !m.machine.isCooperateEnable then
    transfer env (.stop { isUnchained := true }) m
  else transfer env event m

def onRemoteStart (event : DSoftbusStartCooperate) (m : Cooperate) : Cooperate :=
  acceptRemoteStart env event.originNetworkId event.userId event.accountId
    (.dsoftbusStartCooperate event) m

def onRemoteStartWithOptions (event : DSoftbusCooperateOptions) (m : Cooperate) : Cooperate :=
  acceptRemoteStart env event.originNetworkId event.userId event.accountId
    (.dsoftbusCooperateWithOptions event) m

/-- `StateMachine::OnEvent`. -/
def onEvent (event : CooperateEvent) (m : Cooperate) : Cooperate :=
  match event with
  | .addObserver event => Context.addObserver event.observer m
  | .removeObserver event => Context.removeObserver event.observer m
  | .registerListener event => EventManager.registerListener event m
  | .unregisterListener event => EventManager.unregisterListener event m
  | .registerHotareaListener event => m.call (.hotAreaAddListener event)
  | .unregisterHotareaListener event => m.call (.hotAreaRemoveListener event)
  | .enable event => enableCooperate env event m
  | .disable event => disableCooperate env event m
  | .start event => startCooperate env event m
  | .getCooperateState event => getCooperateState event m
  | .withOptionsStart event => startCooperateWithOptions env event m
  | .registerEventListener event => m.call (.mouseLocationAddListener event)
  | .unregisterEventListener event => m.call (.mouseLocationRemoveListener event)
  | .ddmBoardOnline event => onBoardOnline env event m
  | .ddmBoardOffline event => onBoardOffline env event m
  | .ddpCooperateSwitchChanged event => onProfileChanged env event m
  | .inputPointerEvent event => onPointerEvent env event m
  | .appClosed event => onProcessClientDied env event m
  | .dsoftbusSessionOpened event => onSoftbusSessionOpened env event m
  | .dsoftbusSessionClosed event => onSoftbusSessionClosed env event m
  | .dsoftbusSubscribeMouseLocation event => m.call (.mouseLocationOnSubscribe event)
  | .dsoftbusUnsubscribeMouseLocation event => m.call (.mouseLocationOnUnSubscribe event)
  | .dsoftbusReplySubscribeMouseLocation event => m.call (.mouseLocationOnReplySubscribe event)
  | .dsoftbusReplyUnsubscribeMouseLocation event => m.call (.mouseLocationOnReplyUnSubscribe event)
  | .dsoftbusMouseLocation event => m.call (.mouseLocationOnRemoteMouseLocation event)
  | .dsoftbusStartCooperate event => onRemoteStart env event m
  | .inputHotplugEvent event => onHotPlugEvent env event m
  | .dsoftbusInputDevHotPlug event => onRemoteHotPlug env event m
  | .dsoftbusInputDevSync event => onRemoteInputDevice env event m
  | .stop event => stopCooperate env event m
  | .updateVirtualDevIdMap event =>
      InputEventBuilder.updateVirtualDeviceIdMap event.remote2VirtualIds m
  | .dsoftbusCooperateWithOptions event => onRemoteStartWithOptions env event m
  | event => transfer env event m

end DeviceStatus.Cooperation.StateMachine

namespace DeviceStatus.Cooperation

/-- Process one event: the effects left in the state are those of this event alone. -/
def step (env : Env) (event : CooperateEvent) (m : Cooperate) : Cooperate :=
  StateMachine.onEvent env event { m with effects := [] }

end DeviceStatus.Cooperation
