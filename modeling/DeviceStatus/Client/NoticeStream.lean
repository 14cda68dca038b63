import DeviceStatus.Client.Requests
import DeviceStatus.Cooperate.ByteSession
import DeviceStatus.Ipc.SendMsg
import DeviceStatus.Ipc.StreamServer

/-!
# Notices on a socket

`EventManager` writes a notice for a client as a packet, which `SendMsg` of the session puts on the
socket. The client copies what `recv` gives it to a circle buffer and reads the notices off the
packets that are there as a whole, among them those of other modules.

## Main definitions

* `Reply.packet`, `noticeOf` — what the service writes and what the client reads.
* `NoticeStream` — the socket of a client and what has arrived.
* `NoticeStream.Carries` — these notices are under way.
-/

namespace DeviceStatus.Ipc

open Framing

/-! ## Packets that are filled by a receiver -/

/-- The packet that a receiver fills. -/
def Packet.received (p : Packet) : NetPacket := (NetPacket.fill p.msgId p.payload).2

theorem Packet.content_received {p : Packet} (valid : packetFormat.valid p) :
    p.received.content = p :=
  (NetPacket.fill_of_le p.msgId valid).2

theorem CircleStreamBuffer.takeOff_eq_received {c : CircleStreamBuffer} {p : Packet}
    {rest : List UInt8} (h : Packet.decode c.content = some (p, rest)) :
    c.takeOff.1 = p.received := by
  obtain ⟨⟨-, size, -⟩, filled, -, content, -⟩ := takeOff_spec h
  have short : c.data.length ≤ MAX_PACKET_BUF_SIZE := by
    have length : c.data.length = c.head.size.toInt.toNat := StreamBuffer.length_bytes ..
    omega
  have parts := (NetPacket.fill_of_le c.head.idMsg short).2
  simp only [filled, content] at parts
  simp only [parts, Packet.received, filled]

theorem StreamSocket.readPackets_received (limit : ℕ) (c : CircleStreamBuffer) :
    (readPackets limit c).1 = (packetFormat.split limit c.content).1.map Packet.received := by
  induction limit generalizing c with
  | zero => rfl
  | succ limit ih =>
    cases decoded : Packet.decode c.content with
    | none => rw [readPackets_of_none decoded, packetFormat.split_of_none decoded]; rfl
    | some taken =>
      obtain ⟨p, rest⟩ := taken
      obtain ⟨-, -, -, -, after, -⟩ := CircleStreamBuffer.takeOff_spec decoded
      have head := CircleStreamBuffer.takeOff_eq_received decoded
      rw [packetFormat.split_of_some decoded, readPackets_of_some decoded]
      by_cases last : rest = []
      · subst last
        rw [packetFormat.split_of_none packetFormat.decode_nil]
        simp [head]
      · simp [last, ih, after, head]

namespace StreamServer

variable {ps : List Packet} {rest chunk : List UInt8} {buf : CircleStreamBuffer}

theorem onRecv_received (chunk : List UInt8) (buf : CircleStreamBuffer) :
    (onRecv chunk buf).1 = ((onRecv chunk buf).1.map NetPacket.content).map Packet.received := by
  have packets := (StreamSocket.readPackets_spec ONCE_PROCESS_NETPACKET_LIMIT
    (buf.write chunk).2).1
  have received := StreamSocket.readPackets_received ONCE_PROCESS_NETPACKET_LIMIT
    (buf.write chunk).2
  rw [← packets] at received
  exact received

/-- A call that hands on fewer packets than the limit leaves none behind. -/
theorem received_of_onRecv_lt (valid : ∀ p ∈ ps, packetFormat.valid p)
    (h : Waits ps (chunk ++ rest) buf) (nonempty : chunk ≠ [])
    (fits : buf.content.length + chunk.length ≤ MAX_STREAM_BUF_SIZE)
    (few : (onRecv chunk buf).1.length < ONCE_PROCESS_NETPACKET_LIMIT) :
    (packetFormat.received ps (buf.content.length + chunk.length)).length ≤
      ONCE_PROCESS_NETPACKET_LIMIT := by
  obtain ⟨-, -, written⟩ := CircleStreamBuffer.write_of_fits h.status nonempty fits
  have start : buf.content ++ chunk <+: packetFormat.stream ps := by
    have := h.start
    rw [← List.append_assoc] at this
    exact (List.prefix_append _ _).trans this
  obtain ⟨tail, parts, -, -⟩ := packetFormat.eq_stream_received_append start
  rw [List.length_append] at parts
  by_contra more
  have split := packetFormat.split_stream_append_of_lt
    (fun p hp => valid p (packetFormat.mem_of_mem_received hp)) tail (not_le.mp more).le
  have packets := (StreamSocket.readPackets_spec ONCE_PROCESS_NETPACKET_LIMIT
    (buf.write chunk).2).1
  rw [written, parts, split] at packets
  have count := congrArg List.length packets
  rw [List.length_map, List.length_take] at count
  change (onRecv chunk buf).1.length = _ at count
  omega

end StreamServer

end DeviceStatus.Ipc

namespace DeviceStatus.Cooperation

open Ipc (NetPacket CircleStreamBuffer SendAnswer StreamBuffer packetFormat)
open Ipc.StreamBuffer (Holds Wrote)
open Bytes

/-! ## Packets of notices -/

def CoordinationMessage.toInt32 : CoordinationMessage → Int32
  | unknow => -1
  | prepare => 0
  | unprepare => 1
  | activate => 2
  | activateSuccess => 3
  | activateFail => 4
  | deactivateSuccess => 5
  | deactivateFail => 6
  | sessionClosed => 7
  | coordinationSuccess => 8
  | coordinationStatusFree => 9
  | coordinationStatusOut => 10
  | coordinationStatusIn => 11

/-- `static_cast<CoordinationMessage>`, of a number in range. -/
def CoordinationMessage.ofInt32 (nType : Int32) : CoordinationMessage :=
  let messages := [prepare, unprepare, activate, activateSuccess, activateFail, deactivateSuccess,
    deactivateFail, sessionClosed, coordinationSuccess, coordinationStatusFree,
    coordinationStatusOut, coordinationStatusIn]
  (messages.find? fun msg => msg.toInt32 = nType).getD unknow

theorem CoordinationMessage.ofInt32_toInt32 (msg : CoordinationMessage) :
    ofInt32 msg.toInt32 = msg := by
  cases msg <;> decide

def MessageId.toInt32 : MessageId → Ipc.MessageId
  | invalid => 0
  | coordinationAddListener => 1
  | coordinationMessage => 2
  | coordinationGetState => 3

namespace Reply

/-- The packet of `NotifyCooperateMessage` and of `NotifyCooperateState`. -/
def packet : Reply → NetPacket
  | message n =>
    { msgId := n.msgId.toInt32
      toStreamBuffer :=
        ((((StreamBuffer.put n.userData {}).putString n.networkId).put n.msg.toInt32).put
          n.errCode) }
  | state n =>
    { msgId := n.msgId.toInt32
      toStreamBuffer := ((StreamBuffer.put n.userData {}).put n.state).put n.errCode }

/-- What is written to the socket of a session. -/
def bytes (answers : ℕ → SendAnswer) (r : Reply) : List UInt8 :=
  if r.packet.chkRWError then [] else (Ipc.SendingSession.sendMsg r.packet answers {}).2

/-- The client can read the notice. -/
def Readable : Reply → Prop
  | message n => n.msgId = .coordinationMessage ∧ 0 ∉ n.networkId
  | state n => n.msgId = .coordinationGetState

variable {r : Reply} {answers : ℕ → SendAnswer}

/-- The bytes of the fields. -/
def payload : Reply → List UInt8
  | message n =>
    image n.userData ++ (n.networkId ++ [0]) ++ image n.msg.toInt32 ++ image n.errCode
  | state n => image n.userData ++ image n.state ++ image n.errCode

theorem wrote_packet (r : Reply) : Wrote {} r.payload r.packet.toStreamBuffer := by
  cases r with
  | message n =>
    have strings := (Wrote.put n.userData {}).andPutString n.networkId
    have fields := (strings.andPut n.msg.toInt32).andPut n.errCode
    simp only [payload, packet]
    exact fields
  | state n =>
    have fields := ((Wrote.put n.userData {}).andPut n.state).andPut n.errCode
    simp only [payload, packet]
    exact fields

/-- A packet of which something is written. -/
theorem sends_of_bytes (sent : r.bytes answers ≠ []) :
    r.packet.chkRWError = false ∧ packetFormat.valid r.packet.content := by
  unfold bytes at sent
  split at sent
  · exact absurd rfl sent
  case isFalse status =>
    exact ⟨Bool.eq_false_of_not_eq_true status, Ipc.SendingSession.valid_of_sendMsg sent⟩

end Reply

theorem Answers.readable {e : CooperateEvent} {r : Reply} (h : Answers e r)
    (carries : e.Carries Plain) : r.Readable := by
  cases h with
  | start hr success errCode =>
    refine ⟨rfl, (carries _ ?_).nulFree⟩
    simp [CooperateEvent.named, hr, EventManager.startNotice]
  | getCooperateState n state => rfl
  | _ => exact ⟨rfl, List.not_mem_nil⟩

/-- Some bytes are received: the first of the packets come off the buffer. -/
theorem Link.recv {ps : List Ipc.Packet} {chunk rest : List UInt8} {buf : Ipc.CircleStreamBuffer}
    (h : Link ps (chunk ++ rest) buf) (valid : ∀ p ∈ ps, packetFormat.valid p)
    (nonempty : chunk ≠ []) (fits : buf.content.length + chunk.length ≤ Ipc.MAX_STREAM_BUF_SIZE)
    (few : (Ipc.StreamServer.onRecv chunk buf).1.length < Ipc.ONCE_PROCESS_NETPACKET_LIMIT) :
    ∃ arrived left, ps = arrived ++ left ∧ Link left rest (Ipc.StreamServer.onRecv chunk buf).2 ∧
      (Ipc.StreamServer.onRecv chunk buf).1.map NetPacket.content = arrived := by
  have limit := Ipc.StreamServer.received_of_onRecv_lt valid h.waits nonempty fits few
  obtain ⟨packets, length, waits⟩ :=
    Ipc.StreamServer.onRecv_of_fits valid h.waits nonempty fits limit
  exact ⟨_, _, (packetFormat.received_append_pending ps _).symm, h.advance length waits, packets⟩

end DeviceStatus.Cooperation

namespace DeviceStatus.Client

open Cooperation
open Ipc (NetPacket SendAnswer packetFormat)
open Ipc.StreamBuffer (Holds)

/-- `OnCoordinationMessage` of the client `pid`. -/
def onCoordinationMessage (pid : Int32) (pkt : NetPacket) : Option Reply :=
  let (userData, b) := pkt.get (0 : Int32)
  let (networkId, b) := b.getString []
  let (nType, b) := b.get (0 : Int32)
  let (errCode, b) := b.get (-1 : Int32)
  if b.chkRWError then none
  else
    some (.message
      { pid, msgId := .coordinationMessage, userData, networkId
        msg := CoordinationMessage.ofInt32 nType, errCode })

/-- `OnCoordinationState` of the client `pid`. -/
def onCoordinationState (pid : Int32) (pkt : NetPacket) : Option Reply :=
  let (userData, b) := pkt.get (0 : Int32)
  let (state, b) := b.get false
  let (errCode, b) := b.get (-1 : Int32)
  if b.chkRWError then none
  else some (.state { pid, msgId := .coordinationGetState, userData, state, errCode })

/-- The notice that `OnMsgHandler` finds in a packet, if it is one for a request. -/
def noticeOf (pid : Int32) (pkt : NetPacket) : Option Reply :=
  if pkt.msgId = MessageId.coordinationMessage.toInt32 then onCoordinationMessage pid pkt
  else if pkt.msgId = MessageId.coordinationGetState.toInt32 then onCoordinationState pid pkt
  else none

variable {r : Reply} {answers : ℕ → SendAnswer}

theorem noticeOf_of_holds {pkt : NetPacket} (readable : r.Readable)
    (id : pkt.msgId = r.packet.msgId) (holds : pkt.Holds r.payload) :
    noticeOf r.client.pid pkt = some r := by
  cases r with
  | message n =>
    obtain ⟨kind, nulFree⟩ := readable
    have known : pkt.msgId = MessageId.coordinationMessage.toInt32 := by
      rw [id, Reply.packet, kind]
    simp only [Reply.payload, List.append_assoc] at holds
    obtain ⟨b, userData, holds⟩ := holds.get_eq (0 : Int32)
    obtain ⟨b, networkId, holds⟩ := Holds.getString_eq (s := n.networkId) holds nulFree []
    obtain ⟨b, nType, holds⟩ := holds.get_eq (0 : Int32)
    rw [← List.append_nil (Bytes.image n.errCode)] at holds
    obtain ⟨b, errCode, holds⟩ := holds.get_eq (-1 : Int32)
    simp only [noticeOf, known, if_true, onCoordinationMessage, userData, networkId, nType, errCode,
      holds.chkRWError, CoordinationMessage.ofInt32_toInt32]
    rw [← kind]
    rfl
  | state n =>
    have known : pkt.msgId = MessageId.coordinationGetState.toInt32 := by
      rw [id, Reply.packet, readable]
    have other : MessageId.coordinationGetState.toInt32 ≠
        MessageId.coordinationMessage.toInt32 := by decide
    simp only [Reply.payload, List.append_assoc] at holds
    obtain ⟨b, userData, holds⟩ := holds.get_eq (0 : Int32)
    obtain ⟨b, state, holds⟩ := holds.get_eq false
    rw [← List.append_nil (Bytes.image n.errCode)] at holds
    obtain ⟨b, errCode, holds⟩ := holds.get_eq (-1 : Int32)
    simp only [noticeOf, known, other, if_false, if_true, onCoordinationState, userData, state,
      errCode, holds.chkRWError]
    rw [← readable]
    rfl

/-- What the client makes of a packet that has been sent. -/
theorem noticeOf_received (readable : r.Readable) (sent : r.bytes answers ≠ []) :
    noticeOf r.client.pid r.packet.content.received = some r := by
  obtain ⟨status, valid⟩ := Reply.sends_of_bytes sent
  have written : r.packet.content.payload = r.payload :=
    (r.wrote_packet.run (Ipc.StreamBuffer.chkRWError_eq_false.mp status)).2.1
  apply noticeOf_of_holds readable
  · exact congrArg Ipc.Packet.msgId (Ipc.Packet.content_received valid)
  · rw [← written]
    exact holds_fill _ valid

/-! ## The socket -/

/-- One direction of the socket of a client. -/
structure NoticeStream where
  wire : List UInt8 := []
  buffer : Ipc.CircleStreamBuffer := .new
  /-- the packets that have been taken off the buffer and not yet handled -/
  arrived : List NetPacket := []

namespace NoticeStream

def push (bytes : List UInt8) (s : NoticeStream) : NoticeStream :=
  { s with wire := s.wire ++ bytes }

/-- What a `recv` returns when `n` bytes have come. -/
def chunk (n : ℕ) (s : NoticeStream) : List UInt8 :=
  s.wire.take (min n Ipc.MAX_PACKET_BUF_SIZE)

/-- One `recv` of `OnReadable`. The next one comes when the packets have been handled. -/
def recv (n : ℕ) (s : NoticeStream) : NoticeStream :=
  if s.arrived = [] ∧ s.chunk n ≠ [] then
    let (pkts, buffer) := Ipc.StreamServer.onRecv (s.chunk n) s.buffer
    { wire := s.wire.drop (s.chunk n).length, buffer, arrived := pkts }
  else s

/-- The bytes of the `recv` fit in the buffer, and do not complete more packets than it hands on. -/
def KeepsUp (n : ℕ) (s : NoticeStream) : Prop :=
  s.buffer.content.length + (s.chunk n).length ≤ Ipc.MAX_STREAM_BUF_SIZE ∧
    (Ipc.StreamServer.onRecv (s.chunk n) s.buffer).1.length < Ipc.ONCE_PROCESS_NETPACKET_LIMIT

/-- The notices that the client `pid` will find. -/
def Carries (pid : Int32) (replies : List Reply) (s : NoticeStream) : Prop :=
  ∃ ps, Link ps s.wire s.buffer ∧ (∀ p ∈ ps, packetFormat.valid p) ∧
    (s.arrived ++ ps.map Ipc.Packet.received).filterMap (noticeOf pid) = replies

variable {pid : Int32} {replies : List Reply} {s : NoticeStream}

theorem carries_new : NoticeStream.Carries pid [] {} :=
  ⟨[], Link.new, by simp, rfl⟩

/-- One more packet is sent. -/
theorem Carries.packet (h : s.Carries pid replies) {p : Ipc.Packet}
    (valid : packetFormat.valid p) :
    (s.push p.encode).Carries pid (replies ++ (noticeOf pid p.received).toList) := by
  obtain ⟨ps, link, sound, rfl⟩ := h
  refine ⟨ps ++ [p], link.send p, ?_, ?_⟩
  · simpa [or_imp, forall_and] using ⟨sound, valid⟩
  · simp only [push, List.map_append, ← List.append_assoc, List.filterMap_append]
    cases found : noticeOf pid p.received <;> simp [found]

/-- Notices are sent, some of which the session does not take. -/
theorem Carries.notices (h : s.Carries pid replies) {sent : List Reply}
    {bytes : Reply → List UInt8}
    (whole : ∀ r ∈ sent, bytes r ≠ [] → bytes r = r.packet.content.encode ∧
      packetFormat.valid r.packet.content ∧ noticeOf pid r.packet.content.received = some r) :
    (s.push (sent.flatMap bytes)).Carries pid (replies ++ sent.filter fun r => bytes r ≠ []) := by
  induction sent generalizing s replies with
  | nil => simpa [push] using h
  | cons r sent ih =>
    obtain ⟨here, later⟩ := List.forall_mem_cons.mp whole
    by_cases silent : bytes r = []
    · simpa [silent] using ih h later
    · obtain ⟨written, valid, found⟩ := here silent
      have next := ih (h.packet valid) later
      rw [found] at next
      simpa [silent, ← written, push] using next

/-- What has come in is there as it was sent. -/
theorem Carries.recv (h : s.Carries pid replies) {n : ℕ} (keepsUp : s.KeepsUp n) :
    (s.recv n).Carries pid replies := by
  unfold NoticeStream.recv
  split
  case isFalse => exact h
  case isTrue ready =>
    obtain ⟨ps, link, sound, rfl⟩ := h
    obtain ⟨free, nonempty⟩ := ready
    have parts : s.wire = s.chunk n ++ s.wire.drop (s.chunk n).length :=
      (List.prefix_iff_eq_append.mp (List.take_prefix _ _)).symm
    rw [parts] at link
    obtain ⟨arrived, left, rfl, later, packets⟩ := link.recv sound nonempty keepsUp.1 keepsUp.2
    refine ⟨left, later, fun p hp => sound p (List.mem_append_right _ hp), ?_⟩
    dsimp only
    rw [Ipc.StreamServer.onRecv_received, packets, free, List.map_append, List.nil_append]

/-- When no byte is under way and no packet waits, no notice does. -/
theorem Carries.done (h : s.Carries pid replies) (wire : s.wire = []) (arrived : s.arrived = []) :
    replies = [] := by
  obtain ⟨ps, link, -, rfl⟩ := h
  rw [wire] at link
  rw [link.done, arrived]
  rfl

end NoticeStream

end DeviceStatus.Client
