import DeviceStatus.Cooperate.Components
import DeviceStatus.Cooperate.PacketWire
import DeviceStatus.Ipc.StreamSocket

/-!
# Compatibility of the cooperation messages

A packet is its mandatory fields and then its optional ones. A peer of an older version sends
the first of the optional fields only, so what arrives is the packet up to the end of one of
its fields. The decoders give the event of the whole packet with the defaults for the fields
that are missing.

## Main definitions

* `DSoftbusPacket.mandatory`, `DSoftbusPacket.optional` — the fields of a packet as bytes.
* `DSoftbusPacket.keep` — the packet with defaults from some optional field on.
* `DSoftbusMessage.Compatible` — a message is decoded as it was sent, by any version.
-/

namespace DeviceStatus.Cooperation

open Bytes
open Ipc (StreamBuffer NetPacket)
open Ipc.StreamBuffer (Wrote Holds Offers)

namespace DSoftbusPacket

/-! ## Fields -/

/-- A string goes with its terminating NUL. -/
def imageString (s : StdString) : List UInt8 := s ++ [0]

def mandatory : DSoftbusPacket → List (List UInt8)
  | .startCooperate originNetworkId cursorPos success .. =>
      [imageString originNetworkId, image cursorPos.x, image cursorPos.y, image success]
  | .stopCooperate => []
  | .comeBack originNetworkId cursorPos .. =>
      [imageString originNetworkId, image cursorPos.x, image cursorPos.y]
  | .comeBackWithOptions originNetworkId cooperateOptions _ =>
      [imageString originNetworkId, image cooperateOptions.displayX,
        image cooperateOptions.displayY, image cooperateOptions.displayId]
  | .relayCooperate targetNetworkId .. => [imageString targetNetworkId]
  | .relayCooperateFinished targetNetworkId normal _ =>
      [imageString targetNetworkId, image normal]
  | .cooperateWithOptions originNetworkId cooperateOptions success .. =>
      [imageString originNetworkId, image cooperateOptions.displayX,
        image cooperateOptions.displayY, image cooperateOptions.displayId, image success]
  | .relayCooperateWithOptions targetNetworkId .. => [imageString targetNetworkId]
  | .relayCooperateWithOptionsFinished targetNetworkId normal =>
      [imageString targetNetworkId, image normal]

def optional : DSoftbusPacket → List (List UInt8)
  | .startCooperate _ _ _ priv pointerSpeed touchPadSpeed uid userId accountId
      needCheckSameAccount =>
      [image priv, image pointerSpeed, image touchPadSpeed, image uid, image userId,
        imageString accountId, image needCheckSameAccount]
  | .stopCooperate => []
  | .comeBack _ _ priv uid => [image priv, image uid]
  | .comeBackWithOptions _ _ priv => [image priv]
  | .relayCooperate _ pointerSpeed touchPadSpeed uid userId accountId needCheckSameAccount =>
      [image pointerSpeed, image touchPadSpeed, image uid, image userId,
        imageString accountId, image needCheckSameAccount]
  | .relayCooperateFinished _ _ uid => [image uid]
  | .cooperateWithOptions _ _ _ priv pointerSpeed touchPadSpeed userId accountId
      needCheckSameAccount =>
      [image priv, image pointerSpeed, image touchPadSpeed, image userId,
        imageString accountId, image needCheckSameAccount]
  | .relayCooperateWithOptions _ pointerSpeed touchPadSpeed userId accountId
      needCheckSameAccount =>
      [image pointerSpeed, image touchPadSpeed, image userId, imageString accountId,
        image needCheckSameAccount]
  | .relayCooperateWithOptionsFinished .. => []

/-- The bytes of the mandatory and of the first `k` optional fields, where a later version has
the fields `later` besides. -/
def bytesUpTo (k : Nat) (later : List (List UInt8)) (packet : DSoftbusPacket) : List UInt8 :=
  (packet.mandatory ++ (packet.optional ++ later).take k).flatten

/-- The packet whose optional fields from the `k`-th on have their defaults. -/
def keep (k : Nat) : DSoftbusPacket → DSoftbusPacket
  | .startCooperate originNetworkId cursorPos success priv pointerSpeed touchPadSpeed uid
      userId accountId needCheckSameAccount =>
      .startCooperate originNetworkId cursorPos success (if 0 < k then priv else 0)
        (if 1 < k then pointerSpeed else -1) (if 2 < k then touchPadSpeed else -1)
        (if 3 < k then uid else 0) (if 4 < k then userId else -1)
        (if 5 < k then accountId else []) (if 6 < k then needCheckSameAccount else false)
  | .stopCooperate => .stopCooperate
  | .comeBack originNetworkId cursorPos priv uid =>
      .comeBack originNetworkId cursorPos (if 0 < k then priv else 0) (if 1 < k then uid else 0)
  | .comeBackWithOptions originNetworkId cooperateOptions priv =>
      .comeBackWithOptions originNetworkId cooperateOptions (if 0 < k then priv else 0)
  | .relayCooperate targetNetworkId pointerSpeed touchPadSpeed uid userId accountId
      needCheckSameAccount =>
      .relayCooperate targetNetworkId (if 0 < k then pointerSpeed else -1)
        (if 1 < k then touchPadSpeed else -1) (if 2 < k then uid else 0)
        (if 3 < k then userId else -1) (if 4 < k then accountId else [])
        (if 5 < k then needCheckSameAccount else false)
  | .relayCooperateFinished targetNetworkId normal uid =>
      .relayCooperateFinished targetNetworkId normal (if 0 < k then uid else 0)
  | .cooperateWithOptions originNetworkId cooperateOptions success priv pointerSpeed
      touchPadSpeed userId accountId needCheckSameAccount =>
      .cooperateWithOptions originNetworkId cooperateOptions success (if 0 < k then priv else 0)
        (if 1 < k then pointerSpeed else -1) (if 2 < k then touchPadSpeed else -1)
        (if 3 < k then userId else -1) (if 4 < k then accountId else [])
        (if 5 < k then needCheckSameAccount else false)
  | .relayCooperateWithOptions targetNetworkId pointerSpeed touchPadSpeed userId accountId
      needCheckSameAccount =>
      .relayCooperateWithOptions targetNetworkId (if 0 < k then pointerSpeed else -1)
        (if 1 < k then touchPadSpeed else -1) (if 2 < k then userId else -1)
        (if 3 < k then accountId else []) (if 4 < k then needCheckSameAccount else false)
  | .relayCooperateWithOptionsFinished targetNetworkId normal =>
      .relayCooperateWithOptionsFinished targetNetworkId normal

theorem keep_of_le {packet : DSoftbusPacket} {k : Nat} (h : packet.optional.length ≤ k) :
    packet.keep k = packet := by
  cases packet <;> simp only [optional, List.length_cons, List.length_nil] at h <;>
    simp only [keep] <;> grind

/-- The strings of a packet. -/
def strings : DSoftbusPacket → List StdString
  | .startCooperate originNetworkId _ _ _ _ _ _ _ accountId _ => [originNetworkId, accountId]
  | .stopCooperate => []
  | .comeBack originNetworkId _ _ _ => [originNetworkId]
  | .comeBackWithOptions originNetworkId _ _ => [originNetworkId]
  | .relayCooperate targetNetworkId _ _ _ _ accountId _ => [targetNetworkId, accountId]
  | .relayCooperateFinished targetNetworkId _ _ => [targetNetworkId]
  | .cooperateWithOptions originNetworkId _ _ _ _ _ _ accountId _ =>
      [originNetworkId, accountId]
  | .relayCooperateWithOptions targetNetworkId _ _ _ accountId _ => [targetNetworkId, accountId]
  | .relayCooperateWithOptionsFinished targetNetworkId _ => [targetNetworkId]

/-- No string holds a NUL byte. -/
def NulFree (packet : DSoftbusPacket) : Prop :=
  ∀ s ∈ packet.strings, 0 ∉ s

def msgId : DSoftbusPacket → Ipc.MessageId
  | .startCooperate .. => DSOFTBUS_START_COOPERATE
  | .stopCooperate => DSOFTBUS_STOP_COOPERATE
  | .comeBack .. => DSOFTBUS_COME_BACK
  | .comeBackWithOptions .. => DSOFTBUS_COME_BACK_WITH_OPTIONS
  | .relayCooperate .. => DSOFTBUS_RELAY_COOPERATE
  | .relayCooperateFinished .. => DSOFTBUS_RELAY_COOPERATE_FINISHED
  | .cooperateWithOptions .. => DSOFTBUS_COOPERATE_WITH_OPTIONS
  | .relayCooperateWithOptions .. => DSOFTBUS_RELAY_COOPERATE_WITHOPTIONS
  | .relayCooperateWithOptionsFinished .. => DSOFTBUS_RELAY_COOPERATE_WITHOPTIONS_FINISHED

end DSoftbusPacket

/-! ## Messages -/

/-- A message to a peer and the event that it is built from. -/
inductive DSoftbusMessage where
  | startCooperate (event : DSoftbusStartCooperate)
  | startCooperateWithOptions (event : DSoftbusCooperateOptions)
  | stopCooperate
  | comeBack (event : DSoftbusComeBack)
  | comeBackWithOptions (event : DSoftbusComeBackWithOptions)
  | relayCooperate (event : DSoftbusRelayCooperate)
  | relayCooperateFinish (event : DSoftbusRelayCooperateFinished)
  | relayCooperateWithOptions (event : DSoftbusRelayCooperate)
  | relayCooperateWithOptionsFinish (event : DSoftbusRelayCooperateFinished)

namespace DSoftbusMessage

/-- The fields that are transmitted. -/
def packet : DSoftbusMessage → DSoftbusPacket
  | .startCooperate event => DSoftbusHandler.startPacket event
  | .startCooperateWithOptions event => DSoftbusHandler.startWithOptionsPacket event
  | .stopCooperate => .stopCooperate
  | .comeBack event => DSoftbusHandler.comeBackPacket event
  | .comeBackWithOptions event => DSoftbusHandler.comeBackWithOptionsPacket event
  | .relayCooperate event => DSoftbusHandler.relayPacket event
  | .relayCooperateFinish event => DSoftbusHandler.relayFinishPacket event
  | .relayCooperateWithOptions event => DSoftbusHandler.relayWithOptionsPacket event
  | .relayCooperateWithOptionsFinish event => DSoftbusHandler.relayWithOptionsFinishPacket event

/-- The packet that the encoder of the message builds. -/
def encode : DSoftbusMessage → Option NetPacket
  | .startCooperate event => DSoftbusWire.startCooperate event
  | .startCooperateWithOptions event => DSoftbusWire.startCooperateWithOptions event
  | .stopCooperate => DSoftbusWire.stopCooperate
  | .comeBack event => DSoftbusWire.comeBack event
  | .comeBackWithOptions event => DSoftbusWire.comeBackWithOptions event
  | .relayCooperate event => DSoftbusWire.relayCooperate event
  | .relayCooperateFinish event => DSoftbusWire.relayCooperateFinish event
  | .relayCooperateWithOptions event => DSoftbusWire.relayCooperateWithOptions event
  | .relayCooperateWithOptionsFinish event =>
      DSoftbusWire.relayCooperateWithOptionsFinish event

/-- The packet `sent` is decoded to the fields of the message; the packet of an older version,
which has its bytes up to the end of the `k`-th optional field, with defaults for what is
missing; and the packet of a later version, with more bytes after it, like `sent`. -/
structure Compatible (networkId : NetworkId) (message : DSoftbusMessage) (sent : NetPacket) :
    Prop where
  whole : DSoftbusWire.onPacket networkId sent = some (message.packet.onPacket networkId)
  truncated : ∀ k ≤ message.packet.optional.length, ∀ received : NetPacket,
    received.msgId = sent.msgId →
    received.Holds (sent.written.take (message.packet.bytesUpTo k []).length) →
    DSoftbusWire.onPacket networkId received =
      some ((message.packet.keep k).onPacket networkId)
  appended : ∀ more : List UInt8, ∀ received : NetPacket, received.msgId = sent.msgId →
    received.Holds (sent.written ++ more) →
    DSoftbusWire.onPacket networkId received = some (message.packet.onPacket networkId)

end DSoftbusMessage

/-! ## Encoding -/

/-- What the encoder of a packet returns, if anything, is the packet with all its fields. -/
def DSoftbusPacket.Builds (packet : DSoftbusPacket) (result : Option NetPacket) : Prop :=
  ∀ sent ∈ result, sent.msgId = packet.msgId ∧
    sent.Holds (packet.mandatory ++ packet.optional).flatten ∧
    sent.written = (packet.mandatory ++ packet.optional).flatten

namespace DSoftbusWire

open DSoftbusPacket (imageString Builds)

theorem builds_of_wrote {packet : DSoftbusPacket} {bs : List UInt8}
    {write : StreamBuffer → StreamBuffer} (wrote : Wrote {} bs (write {}))
    (fields : bs = (packet.mandatory ++ packet.optional).flatten) :
    packet.Builds (buildPacket packet.msgId write) := by
  intro sent h
  simp only [buildPacket, Option.mem_def] at h
  split_ifs at h with error
  obtain rfl := Option.some.inj h
  have status : (write {}).rwErrorStatus = .ok := by simpa using error
  rw [← fields]
  refine ⟨rfl, .of_wrote wrote status, ?_⟩
  simpa using (wrote.run status).2.1

theorem builds_startCooperate (event : DSoftbusStartCooperate) :
    (DSoftbusHandler.startPacket event).Builds (startCooperate event) := by
  unfold startCooperate
  refine builds_of_wrote ((((((((((Wrote.putString event.originNetworkId _).andPut
    event.cursorPos.x).andPut event.cursorPos.y).andPut event.success).andPut
    event.extra.priv).andPut event.pointerSpeed).andPut event.touchPadSpeed).andPut
    event.uid).andPut event.userId).andPutString event.accountId |>.andPut
    event.needCheckSameAccount) ?_
  simp [DSoftbusHandler.startPacket, DSoftbusPacket.mandatory, DSoftbusPacket.optional,
    imageString]

theorem builds_startCooperateWithOptions (event : DSoftbusCooperateOptions) :
    (DSoftbusHandler.startWithOptionsPacket event).Builds (startCooperateWithOptions event) := by
  unfold startCooperateWithOptions
  refine builds_of_wrote ((((((((((Wrote.putString event.originNetworkId _).andPut
    event.cooperateOptions.displayX).andPut event.cooperateOptions.displayY).andPut
    event.cooperateOptions.displayId).andPut event.success).andPut event.extra.priv).andPut
    event.pointerSpeed).andPut event.touchPadSpeed).andPut event.userId).andPutString
    event.accountId |>.andPut event.needCheckSameAccount) ?_
  simp [DSoftbusHandler.startWithOptionsPacket, DSoftbusPacket.mandatory,
    DSoftbusPacket.optional, imageString]

theorem builds_stopCooperate : DSoftbusPacket.stopCooperate.Builds stopCooperate :=
  builds_of_wrote (Wrote.refl _) rfl

theorem builds_comeBack (event : DSoftbusComeBack) :
    (DSoftbusHandler.comeBackPacket event).Builds (comeBack event) := by
  unfold comeBack
  refine builds_of_wrote ((((Wrote.putString event.originNetworkId _).andPut
    event.cursorPos.x).andPut event.cursorPos.y).andPut event.extra.priv |>.andPut
    event.uid) ?_
  simp [DSoftbusHandler.comeBackPacket, DSoftbusPacket.mandatory, DSoftbusPacket.optional,
    imageString]

theorem builds_comeBackWithOptions (event : DSoftbusComeBackWithOptions) :
    (DSoftbusHandler.comeBackWithOptionsPacket event).Builds (comeBackWithOptions event) := by
  unfold comeBackWithOptions
  refine builds_of_wrote ((((Wrote.putString event.originNetworkId _).andPut
    event.cooperateOptions.displayX).andPut event.cooperateOptions.displayY).andPut
    event.cooperateOptions.displayId |>.andPut event.extra.priv) ?_
  simp [DSoftbusHandler.comeBackWithOptionsPacket, DSoftbusPacket.mandatory,
    DSoftbusPacket.optional, imageString]

theorem builds_relayCooperate (event : DSoftbusRelayCooperate) :
    (DSoftbusHandler.relayPacket event).Builds (relayCooperate event) := by
  unfold relayCooperate
  refine builds_of_wrote ((((((Wrote.putString event.targetNetworkId _).andPut
    event.pointerSpeed).andPut event.touchPadSpeed).andPut event.uid).andPut
    event.userId).andPutString event.accountId |>.andPut event.needCheckSameAccount) ?_
  simp [DSoftbusHandler.relayPacket, DSoftbusPacket.mandatory, DSoftbusPacket.optional,
    imageString]

theorem builds_relayCooperateFinish (event : DSoftbusRelayCooperateFinished) :
    (DSoftbusHandler.relayFinishPacket event).Builds (relayCooperateFinish event) := by
  unfold relayCooperateFinish
  refine builds_of_wrote ((Wrote.putString event.targetNetworkId _).andPut
    event.normal |>.andPut event.uid) ?_
  simp [DSoftbusHandler.relayFinishPacket, DSoftbusPacket.mandatory, DSoftbusPacket.optional,
    imageString]

theorem builds_relayCooperateWithOptions (event : DSoftbusRelayCooperate) :
    (DSoftbusHandler.relayWithOptionsPacket event).Builds (relayCooperateWithOptions event) := by
  unfold relayCooperateWithOptions
  refine builds_of_wrote (((((Wrote.putString event.targetNetworkId _).andPut
    event.pointerSpeed).andPut event.touchPadSpeed).andPut event.userId).andPutString
    event.accountId |>.andPut event.needCheckSameAccount) ?_
  simp [DSoftbusHandler.relayWithOptionsPacket, DSoftbusPacket.mandatory,
    DSoftbusPacket.optional, imageString]

theorem builds_relayCooperateWithOptionsFinish (event : DSoftbusRelayCooperateFinished) :
    (DSoftbusHandler.relayWithOptionsFinishPacket event).Builds
      (relayCooperateWithOptionsFinish event) := by
  unfold relayCooperateWithOptionsFinish
  refine builds_of_wrote ((Wrote.putString event.targetNetworkId _).andPut event.normal) ?_
  simp [DSoftbusHandler.relayWithOptionsFinishPacket, DSoftbusPacket.mandatory,
    DSoftbusPacket.optional, imageString]

end DSoftbusWire

theorem DSoftbusMessage.builds_encode (message : DSoftbusMessage) :
    message.packet.Builds message.encode := by
  cases message with
  | startCooperate event => exact DSoftbusWire.builds_startCooperate event
  | startCooperateWithOptions event =>
    exact DSoftbusWire.builds_startCooperateWithOptions event
  | stopCooperate => exact DSoftbusWire.builds_stopCooperate
  | comeBack event => exact DSoftbusWire.builds_comeBack event
  | comeBackWithOptions event => exact DSoftbusWire.builds_comeBackWithOptions event
  | relayCooperate event => exact DSoftbusWire.builds_relayCooperate event
  | relayCooperateFinish event => exact DSoftbusWire.builds_relayCooperateFinish event
  | relayCooperateWithOptions event =>
    exact DSoftbusWire.builds_relayCooperateWithOptions event
  | relayCooperateWithOptionsFinish event =>
    exact DSoftbusWire.builds_relayCooperateWithOptionsFinish event

/-! ## Decoding -/

namespace DSoftbusWire

open DSoftbusPacket (imageString)

/-- A string at the front of what can be read. -/
theorem getString_front {b : StreamBuffer} {s : StdString} {rest : List (List UInt8)}
    (h : Holds b (imageString s :: rest).flatten) (nulFree : 0 ∉ s) (data : StdString) :
    ∃ b', b.getString data = (s, b') ∧ Holds b' rest.flatten := by
  apply Holds.getString_eq _ nulFree
  simpa [imageString] using h

/-- A value at the front of what can be read. -/
theorem get_front {T : Type} [TriviallyCopyable T] {b : StreamBuffer} {v : T}
    {rest : List (List UInt8)} (h : Holds b (image v :: rest).flatten) (data : T) :
    ∃ b', b.get data = (v, b') ∧ Holds b' rest.flatten := by
  apply Holds.get_eq
  simpa using h

variable (networkId : NetworkId) {k : Nat} {b : StreamBuffer} {packet : DSoftbusPacket}
  {originNetworkId targetNetworkId : NetworkId} {cursorPos : NormalizedCoordinate}
  {cooperateOptions : NormalizedCooperateOptions} {success normal : Bool} {priv : UInt32}
  {pointerSpeed touchPadSpeed uid userId : Int32} {accountId : StdString}
  {needCheckSameAccount : Bool} {later : List (List UInt8)}

theorem onStartCooperate_eq
    (is : packet = .startCooperate originNetworkId cursorPos success priv pointerSpeed
      touchPadSpeed uid userId accountId needCheckSameAccount)
    (nulFree : packet.NulFree) (h : Holds b (packet.bytesUpTo k later)) :
    onStartCooperate networkId b = some ((packet.keep k).onPacket networkId) := by
  subst is
  obtain ⟨b, origin_eq, h⟩ := getString_front h (nulFree _ (by simp [DSoftbusPacket.strings])) []
  obtain ⟨b, x_eq, h⟩ := get_front h 0
  obtain ⟨b, y_eq, h⟩ := get_front h 0
  obtain ⟨b, success_eq, h⟩ := get_front h false
  have noError := h.chkRWError
  have h : Offers b ((([image priv, image pointerSpeed, image touchPadSpeed, image uid,
    image userId, imageString accountId, image needCheckSameAccount] ++ later :
    List (List UInt8)).take k).drop 0) := h.offers
  obtain ⟨b, priv_eq, h⟩ := h.getOr (v := priv) rfl 0 0
  obtain ⟨b, pointerSpeed_eq, h⟩ := h.getOr (v := pointerSpeed) rfl (-1) (-1)
  obtain ⟨b, touchPadSpeed_eq, h⟩ := h.getOr (v := touchPadSpeed) rfl (-1) (-1)
  obtain ⟨b, uid_eq, h⟩ := h.getOr (v := uid) rfl 0 0
  obtain ⟨b, userId_eq, h⟩ := h.getOr (v := userId) rfl (-1) (-1)
  obtain ⟨b, accountId_eq, h⟩ := h.getStringOr (s := accountId) rfl
    (nulFree _ (by simp [DSoftbusPacket.strings])) [] []
  obtain ⟨b, needCheck_eq, h⟩ := h.getOr (v := needCheckSameAccount) rfl true false
  simp only [onStartCooperate, origin_eq, x_eq, y_eq, success_eq, noError, priv_eq,
    pointerSpeed_eq, touchPadSpeed_eq, uid_eq, userId_eq, accountId_eq, needCheck_eq]
  rfl

theorem onStartCooperateWithOptions_eq
    (is : packet = .cooperateWithOptions originNetworkId cooperateOptions success priv
      pointerSpeed touchPadSpeed userId accountId needCheckSameAccount)
    (nulFree : packet.NulFree) (h : Holds b (packet.bytesUpTo k later)) :
    onStartCooperateWithOptions networkId b =
      some ((packet.keep k).onPacket networkId) := by
  subst is
  obtain ⟨b, origin_eq, h⟩ := getString_front h (nulFree _ (by simp [DSoftbusPacket.strings])) []
  obtain ⟨b, displayX_eq, h⟩ := get_front h (-1)
  obtain ⟨b, displayY_eq, h⟩ := get_front h (-1)
  obtain ⟨b, displayId_eq, h⟩ := get_front h (-1)
  obtain ⟨b, success_eq, h⟩ := get_front h false
  have noError := h.chkRWError
  have h : Offers b ((([image priv, image pointerSpeed, image touchPadSpeed, image userId,
    imageString accountId, image needCheckSameAccount] ++ later :
    List (List UInt8)).take k).drop 0) :=
    h.offers
  obtain ⟨b, priv_eq, h⟩ := h.getOr (v := priv) rfl 0 0
  obtain ⟨b, pointerSpeed_eq, h⟩ := h.getOr (v := pointerSpeed) rfl (-1) (-1)
  obtain ⟨b, touchPadSpeed_eq, h⟩ := h.getOr (v := touchPadSpeed) rfl (-1) (-1)
  obtain ⟨b, userId_eq, h⟩ := h.getOr (v := userId) rfl (-1) (-1)
  obtain ⟨b, accountId_eq, h⟩ := h.getStringOr (s := accountId) rfl
    (nulFree _ (by simp [DSoftbusPacket.strings])) [] []
  obtain ⟨b, needCheck_eq, h⟩ := h.getOr (v := needCheckSameAccount) rfl true false
  simp only [onStartCooperateWithOptions, origin_eq, displayX_eq, displayY_eq, displayId_eq,
    success_eq, noError, priv_eq, pointerSpeed_eq, touchPadSpeed_eq, userId_eq, accountId_eq,
    needCheck_eq]
  rfl

theorem onComeBack_eq (is : packet = .comeBack originNetworkId cursorPos priv uid)
    (nulFree : packet.NulFree) (h : Holds b (packet.bytesUpTo k later)) :
    onComeBack networkId b = some ((packet.keep k).onPacket networkId) := by
  subst is
  obtain ⟨b, origin_eq, h⟩ := getString_front h (nulFree _ (by simp [DSoftbusPacket.strings])) []
  obtain ⟨b, x_eq, h⟩ := get_front h 0
  obtain ⟨b, y_eq, h⟩ := get_front h 0
  have noError := h.chkRWError
  have h : Offers b ((([image priv, image uid] ++ later :
    List (List UInt8)).take k).drop 0) := h.offers
  obtain ⟨b, priv_eq, h⟩ := h.getOr (v := priv) rfl 0 0
  obtain ⟨b, uid_eq, h⟩ := h.getOr (v := uid) rfl 0 0
  simp only [onComeBack, origin_eq, x_eq, y_eq, noError, priv_eq, uid_eq]
  rfl

theorem onComeBackWithOptions_eq
    (is : packet = .comeBackWithOptions originNetworkId cooperateOptions priv)
    (nulFree : packet.NulFree) (h : Holds b (packet.bytesUpTo k later)) :
    onComeBackWithOptions networkId b = some ((packet.keep k).onPacket networkId) := by
  subst is
  obtain ⟨b, origin_eq, h⟩ := getString_front h (nulFree _ (by simp [DSoftbusPacket.strings])) []
  obtain ⟨b, displayX_eq, h⟩ := get_front h (-1)
  obtain ⟨b, displayY_eq, h⟩ := get_front h (-1)
  obtain ⟨b, displayId_eq, h⟩ := get_front h (-1)
  have noError := h.chkRWError
  have h : Offers b ((([image priv] ++ later :
    List (List UInt8)).take k).drop 0) := h.offers
  obtain ⟨b, priv_eq, h⟩ := h.getOr (v := priv) rfl 0 0
  simp only [onComeBackWithOptions, origin_eq, displayX_eq, displayY_eq, displayId_eq, noError,
    priv_eq]
  rfl

theorem onRelayCooperate_eq
    (is : packet = .relayCooperate targetNetworkId pointerSpeed touchPadSpeed uid userId
      accountId needCheckSameAccount)
    (nulFree : packet.NulFree) (h : Holds b (packet.bytesUpTo k later)) :
    onRelayCooperate networkId b = some ((packet.keep k).onPacket networkId) := by
  subst is
  obtain ⟨b, target_eq, h⟩ := getString_front h (nulFree _ (by simp [DSoftbusPacket.strings])) []
  have noError := h.chkRWError
  have h : Offers b ((([image pointerSpeed, image touchPadSpeed, image uid, image userId,
    imageString accountId, image needCheckSameAccount] ++ later :
    List (List UInt8)).take k).drop 0) :=
    h.offers
  obtain ⟨b, pointerSpeed_eq, h⟩ := h.getOr (v := pointerSpeed) rfl (-1) (-1)
  obtain ⟨b, touchPadSpeed_eq, h⟩ := h.getOr (v := touchPadSpeed) rfl (-1) (-1)
  obtain ⟨b, uid_eq, h⟩ := h.getOr (v := uid) rfl 0 0
  obtain ⟨b, userId_eq, h⟩ := h.getOr (v := userId) rfl (-1) (-1)
  obtain ⟨b, accountId_eq, h⟩ := h.getStringOr (s := accountId) rfl
    (nulFree _ (by simp [DSoftbusPacket.strings])) [] []
  obtain ⟨b, needCheck_eq, h⟩ := h.getOr (v := needCheckSameAccount) rfl true false
  simp only [onRelayCooperate, target_eq, noError, pointerSpeed_eq, touchPadSpeed_eq, uid_eq,
    userId_eq, accountId_eq, needCheck_eq]
  rfl

theorem onRelayCooperateFinish_eq
    (is : packet = .relayCooperateFinished targetNetworkId normal uid)
    (nulFree : packet.NulFree) (h : Holds b (packet.bytesUpTo k later)) :
    onRelayCooperateFinish networkId b = some ((packet.keep k).onPacket networkId) := by
  subst is
  obtain ⟨b, target_eq, h⟩ := getString_front h (nulFree _ (by simp [DSoftbusPacket.strings])) []
  obtain ⟨b, normal_eq, h⟩ := get_front h false
  have noError := h.chkRWError
  have h : Offers b ((([image uid] ++ later :
    List (List UInt8)).take k).drop 0) := h.offers
  obtain ⟨b, uid_eq, h⟩ := h.getOr (v := uid) rfl 0 0
  simp only [onRelayCooperateFinish, target_eq, normal_eq, noError, uid_eq]
  rfl

theorem onRelayCooperateWithOptions_eq
    (is : packet = .relayCooperateWithOptions targetNetworkId pointerSpeed touchPadSpeed userId
      accountId needCheckSameAccount)
    (nulFree : packet.NulFree) (h : Holds b (packet.bytesUpTo k later)) :
    onRelayCooperateWithOptions networkId b =
      some ((packet.keep k).onPacket networkId) := by
  subst is
  obtain ⟨b, target_eq, h⟩ := getString_front h (nulFree _ (by simp [DSoftbusPacket.strings])) []
  have noError := h.chkRWError
  have h : Offers b ((([image pointerSpeed, image touchPadSpeed, image userId,
    imageString accountId, image needCheckSameAccount] ++ later :
    List (List UInt8)).take k).drop 0) :=
    h.offers
  obtain ⟨b, pointerSpeed_eq, h⟩ := h.getOr (v := pointerSpeed) rfl (-1) (-1)
  obtain ⟨b, touchPadSpeed_eq, h⟩ := h.getOr (v := touchPadSpeed) rfl (-1) (-1)
  obtain ⟨b, userId_eq, h⟩ := h.getOr (v := userId) rfl (-1) (-1)
  obtain ⟨b, accountId_eq, h⟩ := h.getStringOr (s := accountId) rfl
    (nulFree _ (by simp [DSoftbusPacket.strings])) [] []
  obtain ⟨b, needCheck_eq, h⟩ := h.getOr (v := needCheckSameAccount) rfl true false
  simp only [onRelayCooperateWithOptions, target_eq, noError, pointerSpeed_eq, touchPadSpeed_eq,
    userId_eq, accountId_eq, needCheck_eq]
  rfl

theorem onRelayCooperateWithOptionsFinish_eq
    (is : packet = .relayCooperateWithOptionsFinished targetNetworkId normal)
    (nulFree : packet.NulFree) (h : Holds b (packet.bytesUpTo k later)) :
    onRelayCooperateWithOptionsFinish networkId b =
      some ((packet.keep k).onPacket networkId) := by
  subst is
  obtain ⟨b, target_eq, h⟩ := getString_front h (nulFree _ (by simp [DSoftbusPacket.strings])) []
  obtain ⟨b, normal_eq, h⟩ := get_front h false
  simp only [onRelayCooperateWithOptionsFinish, target_eq, normal_eq, h.chkRWError]
  rfl

theorem onPacket_of_handles {received : NetPacket}
    {decode : NetworkId → StreamBuffer → Option CooperateEvent}
    (handled : handles received.msgId = some decode) :
    onPacket networkId received = decode networkId received.toStreamBuffer := by
  rw [onPacket, handled]

/-- A packet without NULs that ends after some optional field becomes the event of the packet
with defaults for the others. -/
theorem onPacket_eq {received : NetPacket} (id : received.msgId = packet.msgId)
    (nulFree : packet.NulFree) (h : received.Holds (packet.bytesUpTo k later)) :
    onPacket networkId received = some ((packet.keep k).onPacket networkId) := by
  have handled : handles received.msgId = handles packet.msgId := by rw [id]
  cases packet with
  | startCooperate =>
    exact (onPacket_of_handles networkId handled).trans
      (onStartCooperate_eq networkId rfl nulFree h)
  | stopCooperate => exact onPacket_of_handles networkId handled
  | comeBack =>
    exact (onPacket_of_handles networkId handled).trans (onComeBack_eq networkId rfl nulFree h)
  | comeBackWithOptions =>
    exact (onPacket_of_handles networkId handled).trans
      (onComeBackWithOptions_eq networkId rfl nulFree h)
  | relayCooperate =>
    exact (onPacket_of_handles networkId handled).trans
      (onRelayCooperate_eq networkId rfl nulFree h)
  | relayCooperateFinished =>
    exact (onPacket_of_handles networkId handled).trans
      (onRelayCooperateFinish_eq networkId rfl nulFree h)
  | cooperateWithOptions =>
    exact (onPacket_of_handles networkId handled).trans
      (onStartCooperateWithOptions_eq networkId rfl nulFree h)
  | relayCooperateWithOptions =>
    exact (onPacket_of_handles networkId handled).trans
      (onRelayCooperateWithOptions_eq networkId rfl nulFree h)
  | relayCooperateWithOptionsFinished =>
    exact (onPacket_of_handles networkId handled).trans
      (onRelayCooperateWithOptionsFinish_eq networkId rfl nulFree h)

/-! ## Strings -/

/-- A string that is read never holds a NUL. -/
theorem nulFree_getString (b : StreamBuffer) {data : StdString} (nulFree : 0 ∉ data) :
    0 ∉ (b.getString data).1 := by
  simp only [StreamBuffer.getString, StreamBuffer.readString]
  split_ifs with ended inArray
  · exact nulFree
  · intro nul
    have := List.mem_takeWhile_imp nul
    simp at this
  · exact List.not_mem_nil

theorem nulFree_getStringOr (b : StreamBuffer) : 0 ∉ (b.getStringOr [] []).1 := by
  simp only [StreamBuffer.getStringOr]
  split_ifs
  · exact List.not_mem_nil
  · exact nulFree_getString b List.not_mem_nil

end DSoftbusWire

/-- The strings that a cooperation message brings. -/
@[simp] def CooperateEvent.received : CooperateEvent → List StdString
  | .dsoftbusStartCooperate event => [event.originNetworkId, event.accountId]
  | .dsoftbusComeBack event => [event.originNetworkId]
  | .dsoftbusComeBackWithOptions event => [event.originNetworkId]
  | .dsoftbusRelayCooperate event => [event.targetNetworkId, event.accountId]
  | .dsoftbusRelayCooperateFinished event => [event.targetNetworkId]
  | .dsoftbusCooperateWithOptions event => [event.originNetworkId, event.accountId]
  | .dsoftbusRelayCooperateWithOptions event => [event.targetNetworkId, event.accountId]
  | .dsoftbusRelayCooperateWithOptionsFinished event => [event.targetNetworkId]
  | _ => []

@[simp] theorem DSoftbusPacket.received_onPacket (networkId : NetworkId)
    (packet : DSoftbusPacket) : (packet.onPacket networkId).received = packet.strings := by
  cases packet <;> rfl

namespace DSoftbusWire

variable (networkId : NetworkId) {b : StreamBuffer} {event : CooperateEvent}

theorem nulFree_onStartCooperate (h : onStartCooperate networkId b = some event) :
    ∀ s ∈ event.received, 0 ∉ s := by
  simp only [onStartCooperate] at h
  split_ifs at h
  obtain rfl := Option.some.inj h
  simp [nulFree_getString, nulFree_getStringOr]

theorem nulFree_onStartCooperateWithOptions
    (h : onStartCooperateWithOptions networkId b = some event) :
    ∀ s ∈ event.received, 0 ∉ s := by
  simp only [onStartCooperateWithOptions] at h
  split_ifs at h
  obtain rfl := Option.some.inj h
  simp [nulFree_getString, nulFree_getStringOr]

theorem nulFree_onComeBack (h : onComeBack networkId b = some event) :
    ∀ s ∈ event.received, 0 ∉ s := by
  simp only [onComeBack] at h
  split_ifs at h
  obtain rfl := Option.some.inj h
  simp [nulFree_getString]

theorem nulFree_onComeBackWithOptions (h : onComeBackWithOptions networkId b = some event) :
    ∀ s ∈ event.received, 0 ∉ s := by
  simp only [onComeBackWithOptions] at h
  split_ifs at h
  obtain rfl := Option.some.inj h
  simp [nulFree_getString]

theorem nulFree_onRelayCooperate (h : onRelayCooperate networkId b = some event) :
    ∀ s ∈ event.received, 0 ∉ s := by
  simp only [onRelayCooperate] at h
  split_ifs at h
  obtain rfl := Option.some.inj h
  simp [nulFree_getString, nulFree_getStringOr]

theorem nulFree_onRelayCooperateFinish (h : onRelayCooperateFinish networkId b = some event) :
    ∀ s ∈ event.received, 0 ∉ s := by
  simp only [onRelayCooperateFinish] at h
  split_ifs at h
  obtain rfl := Option.some.inj h
  simp [nulFree_getString]

theorem nulFree_onRelayCooperateWithOptions
    (h : onRelayCooperateWithOptions networkId b = some event) :
    ∀ s ∈ event.received, 0 ∉ s := by
  simp only [onRelayCooperateWithOptions] at h
  split_ifs at h
  obtain rfl := Option.some.inj h
  simp [nulFree_getString, nulFree_getStringOr]

theorem nulFree_onRelayCooperateWithOptionsFinish
    (h : onRelayCooperateWithOptionsFinish networkId b = some event) :
    ∀ s ∈ event.received, 0 ∉ s := by
  simp only [onRelayCooperateWithOptionsFinish] at h
  split_ifs at h
  obtain rfl := Option.some.inj h
  simp [nulFree_getString]

/-- So the event of a whole packet tells that the packet holds none. -/
theorem nulFree_of_onPacket {packet : DSoftbusPacket} {received : NetPacket}
    (id : received.msgId = packet.msgId)
    (h : onPacket networkId received = some (packet.onPacket networkId)) : packet.NulFree := by
  have handled : handles received.msgId = handles packet.msgId := by rw [id]
  rw [DSoftbusPacket.NulFree, ← packet.received_onPacket networkId]
  cases packet with
  | startCooperate =>
    rw [onPacket_of_handles networkId handled] at h
    exact nulFree_onStartCooperate networkId h
  | stopCooperate => exact List.forall_mem_nil _
  | comeBack =>
    rw [onPacket_of_handles networkId handled] at h
    exact nulFree_onComeBack networkId h
  | comeBackWithOptions =>
    rw [onPacket_of_handles networkId handled] at h
    exact nulFree_onComeBackWithOptions networkId h
  | relayCooperate =>
    rw [onPacket_of_handles networkId handled] at h
    exact nulFree_onRelayCooperate networkId h
  | relayCooperateFinished =>
    rw [onPacket_of_handles networkId handled] at h
    exact nulFree_onRelayCooperateFinish networkId h
  | cooperateWithOptions =>
    rw [onPacket_of_handles networkId handled] at h
    exact nulFree_onStartCooperateWithOptions networkId h
  | relayCooperateWithOptions =>
    rw [onPacket_of_handles networkId handled] at h
    exact nulFree_onRelayCooperateWithOptions networkId h
  | relayCooperateWithOptionsFinished =>
    rw [onPacket_of_handles networkId handled] at h
    exact nulFree_onRelayCooperateWithOptionsFinish networkId h

end DSoftbusWire

/-! ## Compatibility -/

/-- The packet that a session fills for a payload holds it. -/
theorem holds_fill (idMsg : Ipc.MessageId) {payload : List UInt8}
    (h : payload.length ≤ Ipc.MAX_PACKET_BUF_SIZE) :
    (NetPacket.fill idMsg payload).2.Holds payload := by
  by_cases empty : payload = []
  · subst empty
    exact .of_wrote (Wrote.refl {}) rfl
  · have positive : 0 < payload.length := List.length_pos_iff.mpr empty
    have filled : NetPacket.fill idMsg payload = NetPacket.write payload (.ofId idMsg) := by
      rw [NetPacket.fill, if_pos positive]
    have room : StreamBuffer.wPos {} + payload.length ≤ Ipc.MAX_STREAM_BUF_SIZE := by
      simpa [Ipc.MAX_PACKET_BUF_SIZE] using h
    have fits := StreamBuffer.write_of_fits rfl empty room
    rw [filled]
    refine .of_wrote (Wrote.write {} payload) ?_
    change (StreamBuffer.write payload {}).2.rwErrorStatus = .ok
    rw [fits]
    rfl

namespace DSoftbusPacket

/-- The packet up to the end of some field is the first bytes of the packet. -/
theorem take_bytesUpTo (packet : DSoftbusPacket) (k : Nat) :
    (packet.mandatory ++ packet.optional).flatten.take (packet.bytesUpTo k []).length =
      packet.bytesUpTo k [] := by
  have whole : (packet.mandatory ++ packet.optional).flatten =
      packet.bytesUpTo k [] ++ (packet.optional.drop k).flatten := by
    rw [bytesUpTo, List.append_nil, ← List.flatten_append, List.append_assoc,
      List.take_append_drop]
  rw [whole, List.take_left]

/-- What a later version sends is one more field. -/
theorem bytesUpTo_succ (packet : DSoftbusPacket) (more : List UInt8) :
    packet.bytesUpTo (packet.optional.length + 1) [more] =
      (packet.mandatory ++ packet.optional).flatten ++ more := by
  have all : (packet.optional ++ [more]).take (packet.optional.length + 1) =
      packet.optional ++ [more] := by
    apply List.take_of_length_le
    simp
  rw [bytesUpTo, all]
  simp

end DSoftbusPacket

namespace DSoftbusMessage

/-- Messages whose strings hold no NUL, and only they, are decoded as they were sent, also by
and from a peer of another version. -/
theorem compatible_iff_nulFree (networkId : NetworkId) {message : DSoftbusMessage}
    {sent : NetPacket} (h : message.encode = some sent) :
    message.Compatible networkId sent ↔ message.packet.NulFree := by
  obtain ⟨id, holds, written⟩ := message.builds_encode sent h
  constructor
  · intro compatible
    exact DSoftbusWire.nulFree_of_onPacket networkId id compatible.whole
  · intro nulFree
    have later : ∀ more, ∀ received : NetPacket, received.msgId = sent.msgId →
        received.Holds (sent.written ++ more) → DSoftbusWire.onPacket networkId received =
          some (message.packet.onPacket networkId) := by
      intro more received sameId longer
      rw [written, ← DSoftbusPacket.bytesUpTo_succ] at longer
      rw [DSoftbusWire.onPacket_eq networkId (sameId.trans id) nulFree longer,
        DSoftbusPacket.keep_of_le (Nat.le_succ _)]
    refine ⟨later [] sent rfl ?_, ?_, later⟩
    · rwa [written, List.append_nil]
    · intro k _ received sameId part
      rw [written, DSoftbusPacket.take_bytesUpTo] at part
      exact DSoftbusWire.onPacket_eq networkId (sameId.trans id) nulFree part

/-- A relay request for the account `alice`. -/
def aliceRelay : DSoftbusRelayCooperate :=
  { targetNetworkId := [66], pointerSpeed := 5, touchPadSpeed := 7, uid := 100, userId := 1,
    accountId := [97, 108, 105, 99, 101] }

theorem compatible_aliceRelay :
    ∃ sent ∈ (relayCooperate aliceRelay).encode,
      (relayCooperate aliceRelay).Compatible [65] sent := by
  have built : (relayCooperate aliceRelay).encode.isSome := by decide +kernel
  obtain ⟨sent, h⟩ := Option.isSome_iff_exists.mp built
  exact ⟨sent, h, (compatible_iff_nulFree [65] h).mpr (by
    simp [packet, aliceRelay, DSoftbusHandler.relayPacket, DSoftbusPacket.NulFree,
      DSoftbusPacket.strings])⟩

/-- A relay request for an account whose name is one NUL. -/
def nulRelay : DSoftbusRelayCooperate := { targetNetworkId := [66], accountId := [0] }

/-- Its account name arrives empty. -/
theorem nulRelay_not_compatible :
    ∃ sent ∈ (relayCooperate nulRelay).encode,
      (DSoftbusWire.onPacket [65] sent).map CooperateEvent.received = some [[66], []] ∧
        ¬ (relayCooperate nulRelay).Compatible [65] sent := by
  have built : (relayCooperate nulRelay).encode.isSome := by decide +kernel
  have decoded : ((relayCooperate nulRelay).encode.bind fun sent =>
      (DSoftbusWire.onPacket [65] sent).map CooperateEvent.received) = some [[66], []] := by
    decide +kernel
  obtain ⟨sent, h⟩ := Option.isSome_iff_exists.mp built
  rw [h, Option.bind_some] at decoded
  refine ⟨sent, h, decoded, fun compatible => ?_⟩
  rw [compatible.whole, Option.map_some, DSoftbusPacket.received_onPacket] at decoded
  cases decoded

end DSoftbusMessage

end DeviceStatus.Cooperation
