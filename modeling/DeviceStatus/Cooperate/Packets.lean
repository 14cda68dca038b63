import DeviceStatus.Cooperate.Events

/-!
# Messages between two cooperating devices

The packets that `DSoftbusHandler` writes and reads for a cooperation, as the values they
carry, in the order in which they are written. `onPacket` is the receiving side: the event
that a packet from `networkId` becomes. Ids and account names hold no NUL byte, so a string
that is written is the string that is read.
-/

namespace DeviceStatus.Cooperation

/-- Capacity of a `NetPacket`, in bytes. -/
def MAX_STREAM_BUF_SIZE : Nat := 2048

inductive DSoftbusPacket where
  | startCooperate (originNetworkId : NetworkId) (cursorPos : NormalizedCoordinate)
      (success : Bool) (priv : UInt32) (pointerSpeed touchPadSpeed uid userId : Int32)
      (accountId : StdString) (needCheckSameAccount : Bool)
  | stopCooperate
  | comeBack (originNetworkId : NetworkId) (cursorPos : NormalizedCoordinate) (priv : UInt32)
      (uid : Int32)
  | comeBackWithOptions (originNetworkId : NetworkId)
      (cooperateOptions : NormalizedCooperateOptions) (priv : UInt32)
  | relayCooperate (targetNetworkId : NetworkId) (pointerSpeed touchPadSpeed uid userId : Int32)
      (accountId : StdString) (needCheckSameAccount : Bool)
  | relayCooperateFinished (targetNetworkId : NetworkId) (normal : Bool) (uid : Int32)
  | cooperateWithOptions (originNetworkId : NetworkId)
      (cooperateOptions : NormalizedCooperateOptions) (success : Bool) (priv : UInt32)
      (pointerSpeed touchPadSpeed userId : Int32) (accountId : StdString)
      (needCheckSameAccount : Bool)
  | relayCooperateWithOptions (targetNetworkId : NetworkId)
      (pointerSpeed touchPadSpeed userId : Int32) (accountId : StdString)
      (needCheckSameAccount : Bool)
  | relayCooperateWithOptionsFinished (targetNetworkId : NetworkId) (normal : Bool)

namespace DSoftbusPacket

def sizeofInt32 : Nat := 4
def sizeofBool : Nat := 1

/-- `StreamBuffer::Write(const std::string &)` also writes the terminating NUL. -/
def sizeofString (s : StdString) : Nat := s.length + 1

/-- The payload bytes that the writes of a packet come to. -/
def payloadSize : DSoftbusPacket → Nat
  | .startCooperate origin _ _ _ _ _ _ _ account _ =>
      sizeofString origin + 2 * sizeofInt32 + sizeofBool + 5 * sizeofInt32 +
        sizeofString account + sizeofBool
  | .stopCooperate => 0
  | .comeBack origin _ _ _ => sizeofString origin + 4 * sizeofInt32
  | .comeBackWithOptions origin _ _ => sizeofString origin + 4 * sizeofInt32
  | .relayCooperate target _ _ _ _ account _ =>
      sizeofString target + 4 * sizeofInt32 + sizeofString account + sizeofBool
  | .relayCooperateFinished target _ _ => sizeofString target + sizeofBool + sizeofInt32
  | .cooperateWithOptions origin _ _ _ _ _ _ account _ =>
      sizeofString origin + 3 * sizeofInt32 + sizeofBool + 4 * sizeofInt32 +
        sizeofString account + sizeofBool
  | .relayCooperateWithOptions target _ _ _ account _ =>
      sizeofString target + 3 * sizeofInt32 + sizeofString account + sizeofBool
  | .relayCooperateWithOptionsFinished target _ => sizeofString target + sizeofBool

/-- `ChkRWError` after the writes: they do not fit in the packet. -/
def chkRWError (packet : DSoftbusPacket) : Bool :=
  decide (MAX_STREAM_BUF_SIZE < packet.payloadSize)

/-- The event that `DSoftbusHandler::OnPacket` sends for a packet from `networkId`. A field
that is not transmitted keeps the value its declaration gives it. -/
def onPacket (networkId : NetworkId) : DSoftbusPacket → CooperateEvent
  | .startCooperate originNetworkId cursorPos success priv pointerSpeed touchPadSpeed uid
      userId accountId needCheckSameAccount =>
      .dsoftbusStartCooperate
        { networkId, originNetworkId, success, cursorPos, extra := { priv }, pointerSpeed,
          touchPadSpeed, uid, userId, accountId, needCheckSameAccount }
  | .stopCooperate => .dsoftbusStopCooperate { networkId, normal := true }
  | .comeBack originNetworkId cursorPos priv uid =>
      .dsoftbusComeBack
        { networkId, originNetworkId, success := true, cursorPos, extra := { priv }, uid }
  | .comeBackWithOptions originNetworkId cooperateOptions priv =>
      .dsoftbusComeBackWithOptions
        { networkId, originNetworkId, success := true, cooperateOptions, extra := { priv } }
  | .relayCooperate targetNetworkId pointerSpeed touchPadSpeed uid userId accountId
      needCheckSameAccount =>
      .dsoftbusRelayCooperate
        { networkId, targetNetworkId, normal := true, pointerSpeed, touchPadSpeed, uid,
          userId, accountId, needCheckSameAccount }
  | .relayCooperateFinished targetNetworkId normal uid =>
      .dsoftbusRelayCooperateFinished { networkId, targetNetworkId, normal, uid }
  | .cooperateWithOptions originNetworkId cooperateOptions success priv pointerSpeed
      touchPadSpeed userId accountId needCheckSameAccount =>
      .dsoftbusCooperateWithOptions
        { networkId, originNetworkId, success, cooperateOptions, extra := { priv },
          pointerSpeed, touchPadSpeed, userId, accountId, needCheckSameAccount }
  | .relayCooperateWithOptions targetNetworkId pointerSpeed touchPadSpeed userId accountId
      needCheckSameAccount =>
      .dsoftbusRelayCooperateWithOptions
        { networkId, targetNetworkId, normal := true, pointerSpeed, touchPadSpeed, userId,
          accountId, needCheckSameAccount }
  | .relayCooperateWithOptionsFinished targetNetworkId normal =>
      .dsoftbusRelayCooperateWithOptionsFinished { networkId, targetNetworkId, normal }

/-- An answer that grants a relay. -/
def grantsRelay : DSoftbusPacket → Bool
  | .relayCooperateFinished _ normal _ => normal
  | .relayCooperateWithOptionsFinished _ normal => normal
  | _ => false

end DSoftbusPacket

end DeviceStatus.Cooperation
