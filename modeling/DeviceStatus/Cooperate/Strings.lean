import DeviceStatus.Cooperate.Emissions
import DeviceStatus.Ipc.DSoftbusSession

/-!
# The strings of a packet

A device takes the network ids and accounts that it sends from its surroundings, from its clients
and from its peers. What holds of all these strings holds of every string that it sends, keeps or
leaves for later. So a packet is written, sent and read without loss as long as no device and no
client brings up a name with a NUL or one of more than 1000 bytes.

## Main definitions

* `CooperateEvent.Carries` — what holds of the network ids in an event.
* `Cooperate.Knows` — what holds of the network ids that a device remembers.
* `Plain` — a string that survives.
-/

namespace DeviceStatus.Cooperation

open Observed
open Ipc (NetPacket StreamBuffer DSoftbusAdapter.sendPacket)

variable {P : StdString → Prop} {env : Env} {e : CooperateEvent} {m : Cooperate}

def CooperateEvent.Carries (P : StdString → Prop) (e : CooperateEvent) : Prop :=
  ∀ networkId ∈ e.named, P networkId

structure Cooperate.Knows (P : StdString → Prop) (m : Cooperate) : Prop where
  peer : P m.peer
  process : P m.machine.process.remoteNetworkId

/-- What holds of the names that the surroundings give a device. -/
structure Env.Brings (P : StdString → Prop) (env : Env) : Prop where
  localNetworkId : P env.localNetworkId
  accountId : P env.accountId

section Strings

theorem holds_of_mem_sources (brings : env.Brings P) (knows : m.Knows P) (carries : e.Carries P)
    {networkId : NetworkId} (h : networkId ∈ (obs m).sources env e) : P networkId := by
  simp only [sources, List.mem_cons] at h
  rcases h with rfl | rfl | rfl | h
  · exact brings.localNetworkId
  · exact knows.peer
  · exact knows.process
  · exact carries networkId h

theorem knows_step (brings : env.Brings P) (knows : m.Knows P) (carries : e.Carries P) :
    (step env e m).Knows P where
  peer := holds_of_mem_sources brings knows carries known_step.1
  process := holds_of_mem_sources brings knows carries known_step.2

theorem strings_step (empty : P []) (brings : env.Brings P) (knows : m.Knows P)
    (carries : e.Carries P) {receiver : NetworkId} {packet : DSoftbusPacket}
    (h : .packet receiver packet ∈ (step env e m).outputs) : ∀ s ∈ packet.strings, P s := by
  intro s hs
  rcases DSoftbusPacket.mem_strings hs with id | account
  · rcases emission_of_mem_step h with emitted | ⟨r, value, -, eq⟩
    · cases emitted with
      | packet _ _ sent fits taken ids account =>
        exact holds_of_mem_sources brings knows carries (ids s id)
    · cases eq
  · rcases account_of_mem_step h account with rfl | rfl
    · exact empty
    · exact brings.accountId

theorem carries_selfEvents (carries : e.Carries P) {event : CooperateEvent}
    (h : event ∈ selfEvents (step env e m).outputs) : event.Carries P := by
  rcases selfEvents_step h with ⟨-, rfl⟩ | ⟨networkId, rfl⟩
  · exact carries
  · rintro _ ⟨⟩

/-- The event of a timer that is set is the one that is put off or tells of a timeout. -/
theorem addTimer_step {timerId interval : Int32} {event : CooperateEvent}
    (h : .addTimer timerId interval event ∈ (step env e m).outputs) :
    (e.isDeferrable = true ∧ event = e) ∨ event = relayTimeout e m.peer := by
  rcases emission_of_mem_step h with emitted | ⟨r, value, -, eq⟩
  · cases emitted with
    | later _ deferrable => exact .inl ⟨deferrable, rfl⟩
    | relayTimeout => exact .inr rfl
  · cases eq

theorem mem_setTimers {outputs : List Output} {timers : List Timer} {timer : Timer}
    (h : timer ∈ setTimers timers outputs) :
    timer ∈ timers ∨ ∃ timerId interval, .addTimer timerId interval timer.2 ∈ outputs := by
  induction outputs generalizing timers with
  | nil => exact .inl h
  | cons output outputs ih =>
    rcases ih h with before | ⟨timerId, interval, later⟩
    · cases output with
      | addTimer timerId interval event =>
        have before : timer ∈ setTimers timers [.addTimer timerId interval event] := before
        rcases mem_setTimers_addTimer before with old | new
        · exact .inl old
        · exact .inr ⟨timerId, interval, by simp [new]⟩
      | removeTimer timerId => exact .inl (List.mem_of_mem_filter before)
      | _ => exact .inl before
    · exact .inr ⟨timerId, interval, List.mem_cons_of_mem _ later⟩

theorem named_relayTimeout (networkId : NetworkId) : (relayTimeout e networkId).named = [] := by
  cases e <;> rfl

theorem named_onPacket {networkId s : NetworkId} {packet : DSoftbusPacket}
    (h : s ∈ (packet.onPacket networkId).named) : s ∈ packet.strings := by
  cases packet <;>
    simp_all [DSoftbusPacket.onPacket, CooperateEvent.named, DSoftbusPacket.strings,
      CooperateEvent.request?, CooperateEvent.remoteStart?, CooperateEvent.comeBack?,
      CooperateEvent.relay?]

end Strings

/-! ## Plain strings -/

/-- A string that is read as it was written, and that leaves room for another one. -/
structure Plain (s : StdString) : Prop where
  nulFree : 0 ∉ s
  short : s.length ≤ 1000

theorem plain_nil : Plain [] := ⟨List.not_mem_nil, Nat.zero_le _⟩

namespace DSoftbusPacket

/-- The message that puts the packet on the wire. -/
def message : DSoftbusPacket → DSoftbusMessage
  | .startCooperate originNetworkId cursorPos success priv pointerSpeed touchPadSpeed uid userId
      accountId needCheckSameAccount =>
      .startCooperate
        { networkId := [], originNetworkId, success, cursorPos, extra := { priv }, pointerSpeed,
          touchPadSpeed, uid, userId, accountId, needCheckSameAccount }
  | .stopCooperate => .stopCooperate
  | .comeBack originNetworkId cursorPos priv uid =>
      .comeBack
        { networkId := [], originNetworkId, success := true, cursorPos, extra := { priv }, uid }
  | .comeBackWithOptions originNetworkId cooperateOptions priv =>
      .comeBackWithOptions
        { networkId := [], originNetworkId, success := true, cooperateOptions, extra := { priv } }
  | .relayCooperate targetNetworkId pointerSpeed touchPadSpeed uid userId accountId
      needCheckSameAccount =>
      .relayCooperate
        { networkId := [], targetNetworkId, pointerSpeed, touchPadSpeed, uid, userId, accountId,
          needCheckSameAccount }
  | .relayCooperateFinished targetNetworkId normal uid =>
      .relayCooperateFinish { networkId := [], targetNetworkId, normal, uid }
  | .cooperateWithOptions originNetworkId cooperateOptions success priv pointerSpeed
      touchPadSpeed userId accountId needCheckSameAccount =>
      .startCooperateWithOptions
        { networkId := [], originNetworkId, success, cooperateOptions, extra := { priv },
          pointerSpeed, touchPadSpeed, userId, accountId, needCheckSameAccount }
  | .relayCooperateWithOptions targetNetworkId pointerSpeed touchPadSpeed userId accountId
      needCheckSameAccount =>
      .relayCooperateWithOptions
        { networkId := [], targetNetworkId, pointerSpeed, touchPadSpeed, userId, accountId,
          needCheckSameAccount }
  | .relayCooperateWithOptionsFinished targetNetworkId normal =>
      .relayCooperateWithOptionsFinish { networkId := [], targetNetworkId, normal }

@[simp] theorem packet_message (packet : DSoftbusPacket) : packet.message.packet = packet := by
  cases packet <;> rfl

/-- The packet of the softbus that it is sent as. -/
def encode (packet : DSoftbusPacket) : Option NetPacket := packet.message.encode

/-- The bytes that are handed to the softbus. -/
def wire (packet : DSoftbusPacket) : List UInt8 :=
  (packet.encode.bind DSoftbusAdapter.sendPacket).getD []

theorem encode_eq (packet : DSoftbusPacket) :
    packet.encode = DSoftbusWire.buildPacket packet.msgId
      (StreamBuffer.writeAll (packet.mandatory ++ packet.optional)) := by
  cases packet <;> rfl

theorem field_ne_nil (packet : DSoftbusPacket) :
    ∀ field ∈ packet.mandatory ++ packet.optional, field ≠ [] := by
  intro field h
  have string (s : StdString) : imageString s ≠ [] := by simp [imageString]
  cases packet <;>
    simp only [mandatory, optional, List.append_nil, List.cons_append, List.nil_append,
      List.mem_cons, List.not_mem_nil, or_false] at h <;>
    grind [Bytes.image_ne_nil]

/-- With plain strings it takes at most this many bytes. -/
theorem length_fields_le {packet : DSoftbusPacket} (plain : ∀ s ∈ packet.strings, Plain s) :
    (packet.mandatory ++ packet.optional).flatten.length ≤ 2032 := by
  have short : ∀ s ∈ packet.strings, s.length ≤ 1000 := fun s hs => (plain s hs).short
  have int32 : Bytes.sizeof Int32 = 4 := rfl
  have uint32 : Bytes.sizeof UInt32 = 4 := rfl
  have bool : Bytes.sizeof Bool = 1 := rfl
  cases packet <;>
    simp only [strings, List.mem_cons, List.not_mem_nil, or_false, forall_eq_or_imp,
      forall_eq] at short <;>
    simp [mandatory, optional, imageString, int32, uint32, bool] <;> omega

theorem exists_encode {packet : DSoftbusPacket} (plain : ∀ s ∈ packet.strings, Plain s) :
    ∃ sent, packet.encode = some sent := by
  have fits : 0 + (packet.mandatory ++ packet.optional).flatten.length ≤
      Ipc.MAX_STREAM_BUF_SIZE := by
    rw [Nat.zero_add]
    exact (length_fields_le plain).trans (by decide)
  have status := StreamBuffer.status_writeAll (b := {}) rfl packet.field_ne_nil fits
  rw [encode_eq, DSoftbusWire.buildPacket]
  simp [status]

/-- A packet with plain strings is sent as a whole. -/
theorem exists_sendPacket {packet : DSoftbusPacket} (plain : ∀ s ∈ packet.strings, Plain s) :
    ∃ sent, packet.encode = some sent ∧
      DSoftbusAdapter.sendPacket sent = some sent.content.encode := by
  obtain ⟨sent, encoded⟩ := exists_encode plain
  refine ⟨sent, encoded, Ipc.DSoftbusAdapter.sendPacket_of_made ?_⟩
  obtain ⟨-, -, written⟩ := packet.message.builds_encode sent encoded
  have length := length_fields_le plain
  rw [packet_message] at written
  rw [← written, StreamBuffer.length_written] at length
  rw [NetPacket.makeData_eq_true, Ipc.headSize, Ipc.MAX_STREAM_BUF_SIZE]
  omega

end DSoftbusPacket

end DeviceStatus.Cooperation
