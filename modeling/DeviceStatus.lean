import DeviceStatus.Library.Bytes
import DeviceStatus.InputEvent.Events
import DeviceStatus.Library.Framing
import DeviceStatus.Ipc.StreamBuffer
import DeviceStatus.Ipc.NetPacket
import DeviceStatus.Cooperate.Events
import DeviceStatus.Cooperate.Packets
import DeviceStatus.Cooperate.Context
import DeviceStatus.Cooperate.Components
import DeviceStatus.Cooperate.Free
import DeviceStatus.Cooperate.Out
import DeviceStatus.Cooperate.In
import DeviceStatus.Cooperate.StateMachine
import DeviceStatus.Cooperate.Observed
import DeviceStatus.Library.Transition
import DeviceStatus.Cooperate.Moves
import DeviceStatus.Cooperate.Refinement
import DeviceStatus.Cooperate.Invariants
import DeviceStatus.Cooperate.Answers
import DeviceStatus.Cooperate.RelayOptions
import DeviceStatus.Cooperate.Network
import DeviceStatus.Cooperate.Pair
import DeviceStatus.Cooperate.Agreement
import DeviceStatus.Cooperate.Handover
import DeviceStatus.Cooperate.Relay
import DeviceStatus.Cooperate.RelayAgreement
import DeviceStatus.Ipc.CircleStreamBuffer
import DeviceStatus.Ipc.StreamSocket
import DeviceStatus.Ipc.StreamServer
import DeviceStatus.Ipc.DSoftbusSession
import DeviceStatus.Ipc.Unread
import DeviceStatus.Ipc.Codec
import DeviceStatus.InputEvent.Serialization
import DeviceStatus.InputEvent.RoundTrip
import DeviceStatus.Cooperate.SpeedMoves
import DeviceStatus.Cooperate.SpeedRuns
import DeviceStatus.Cooperate.RelayAttempt
import DeviceStatus.Cooperate.RelayTimer
import DeviceStatus.Timer.TimerManager
import DeviceStatus.Timer.TimerRuns
import DeviceStatus.Timer.TimerHandles
import DeviceStatus.Cooperate.PacketWire
import DeviceStatus.Cooperate.PacketRoundTrip
import DeviceStatus.Cooperate.HotPlug
import DeviceStatus.Cooperate.InputDevices
import DeviceStatus.Cooperate.VirtualDevices
import DeviceStatus.Cooperate.MouseLocation
import DeviceStatus.Ipc.DSoftbusAdapter
import DeviceStatus.Ipc.HeartBeat
import DeviceStatus.Ipc.StreamSessions
import DeviceStatus.Ipc.SocketSessionManager
import DeviceStatus.Cooperate.Notices
import DeviceStatus.Drag.DragDataPacker
import DeviceStatus.Library.Entries
import DeviceStatus.Drag.RoundTrip
import DeviceStatus.Cooperate.DeviceSync
import DeviceStatus.Cooperate.RefusedStart
import DeviceStatus.InputEvent.InputEventBuilder
import DeviceStatus.Library.Presses
import DeviceStatus.InputEvent.PressedEvents
import DeviceStatus.Cooperate.FailedStart
import DeviceStatus.Timer.TimerClient
import DeviceStatus.Cooperate.ScreenTimer
import DeviceStatus.Cooperate.MouseSharing
import DeviceStatus.Cooperate.Registered
import DeviceStatus.Cooperate.EnableBalance
import DeviceStatus.Cooperate.ClientDeaths
import DeviceStatus.Drag.DragSecurity
import DeviceStatus.Drag.DragManager
import DeviceStatus.Drag.DragSteps
import DeviceStatus.Drag.Monitors
import DeviceStatus.Drag.FailedStart
import DeviceStatus.Drag.DragTimeout
import DeviceStatus.Drag.Privilege
import DeviceStatus.Drag.DragStyle
import DeviceStatus.Drag.StateChangeNotify
import DeviceStatus.Service.DelegateTasks
import DeviceStatus.Service.MsdpClient
import DeviceStatus.Service.DeviceStatusManager
import DeviceStatus.Ipc.SendMsg
import DeviceStatus.Client.Listeners
import DeviceStatus.CarAwareness.Server
import DeviceStatus.Service.AlgoMgr
import DeviceStatus.Epoll.EpollManager
import DeviceStatus.Devices.DeviceManager
import DeviceStatus.Stationary.Motion
import DeviceStatus.Scheduler.Epoll
import DeviceStatus.Fusion.DSoftbus
import DeviceStatus.Ipc.Reading
import DeviceStatus.InputEvent.SwitchEvents
import DeviceStatus.InputEvent.Truncation
import DeviceStatus.InputEvent.KeyRoundTrip
import DeviceStatus.InputEvent.WordSize
import DeviceStatus.InputEvent.InputEventSampler
import DeviceStatus.Library.Truncate
import DeviceStatus.InputEvent.Damping
import DeviceStatus.Ipc.Fields
import DeviceStatus.Ipc.Cursor
import DeviceStatus.Ipc.Copies
import DeviceStatus.Timer.ResetTimer
import DeviceStatus.Library.SignedWord
import DeviceStatus.Utils.CheckedInt
import DeviceStatus.Library.Pieces
import DeviceStatus.Utils.StringSplit
import DeviceStatus.Drag.StyleUpdates
import DeviceStatus.Drag.DropBehavior
import DeviceStatus.Library.Handles
import DeviceStatus.Ipc.SocketFds
import DeviceStatus.Client.DragEnd
import DeviceStatus.Stationary.Posture
import DeviceStatus.Library.OrderedStore
import DeviceStatus.Sequenceable.Parcel
import DeviceStatus.Sequenceable.CarAwarenessOption
import DeviceStatus.UserStatus.UserStatusData
import DeviceStatus.Sequenceable.SequenceableUtil
import DeviceStatus.Sequenceable.OnscreenContent
import DeviceStatus.Sequenceable.OnscreenParcel
import DeviceStatus.Sequenceable.OnscreenAwarenessInfo
import DeviceStatus.Library.Patterns
import DeviceStatus.Utils.Integers
import DeviceStatus.Devices.ParseDeviceId
import DeviceStatus.Utils.IdFactory
import DeviceStatus.Service.TaskIds
import DeviceStatus.Utils.Channel
import DeviceStatus.Cooperate.Emissions
import DeviceStatus.Cooperate.Worker
import DeviceStatus.Cooperate.Strings
import DeviceStatus.Cooperate.ByteSession
import DeviceStatus.Cooperate.ByteNetwork
import DeviceStatus.InputEvent.InputEventInterceptor
import DeviceStatus.InputEvent.RemoteInput
import DeviceStatus.InputEvent.RemoteStrokes
import DeviceStatus.Library.Debounce
import DeviceStatus.Service.Algorithms
import DeviceStatus.Cooperate.Replies
import DeviceStatus.Client.Requests
import DeviceStatus.Client.Callbacks
import DeviceStatus.Client.ByteRequests
