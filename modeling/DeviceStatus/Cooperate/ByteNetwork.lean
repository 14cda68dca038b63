import DeviceStatus.Cooperate.Agreement
import DeviceStatus.Cooperate.ByteSession
import DeviceStatus.Cooperate.Worker

/-!
# Devices on byte streams

Devices whose packets are bytes: a session for each direction between two of them, which delivers
the bytes in pieces of any size, the buffer in which the receiver puts the packets together again,
and the one channel of each device on which packets, requests, timers and its own events wait for
the cooperation thread. Every run of such devices is a run of `World`, where messages travel as a
whole and wait in queues of their own, as long as no session fails and no buffer and no channel
overflows.

## Main definitions

* `ByteWorld`, `ByteWorld.next` — the devices with all that is under way, and one step.
* `ByteWorld.Smooth` — nothing is lost in a step.
* `ByteWorld.Refines` — the `World` that a `ByteWorld` stands for.
-/

namespace DeviceStatus.Cooperation

open Transition.System
open InputEvents (MmiConstants DoubleArithmetic)
open Ipc (NetPacket CircleStreamBuffer)
open Ipc.DSoftbusAdapter (onBytes LooksLikePackets)
open Utils (Channel)
open Worker (IsPassed)

/-- The bytes for `networkId` among the outputs of an event. -/
def bytesTo (networkId : NetworkId) (outputs : List Output) : List UInt8 :=
  (packetsTo networkId outputs).flatMap DSoftbusPacket.wire

structure ByteWorld (ι : Type*) (mmi : MmiConstants) where
  worker : ι → Worker mmi
  /-- the bytes under way from one device to another -/
  wire : ι → ι → List UInt8
  /-- the buffer of the session with the first device, on the second -/
  circleBuffer : ι → ι → CircleStreamBuffer
  timers : ι → List Timer

inductive ByteLabel (ι : Type*) where
  /-- a client of `i` or an observer on it sends an event to the channel -/
  | request (i : ι) (event : CooperateEvent)
  /-- another module of `i` sends a packet to `j` -/
  | send (i j : ι) (packet : NetPacket)
  /-- the next `n` bytes from `i` reach `j` -/
  | deliver (i j : ι) (n : ℕ)
  /-- one turn of the cooperation thread of `i`; `env` are the answers of the surroundings -/
  | loop (i : ι) (env : Env)
  /-- the `n`-th timer of `i` expires -/
  | expire (i : ι) (n : ℕ)

namespace ByteWorld

variable {ι : Type*} [DecidableEq ι] {mmi : MmiConstants} (arithmetic : DoubleArithmetic)
  (id : ι → NetworkId)

def setWorker (i : ι) (worker : Worker mmi) (b : ByteWorld ι mmi) : ByteWorld ι mmi :=
  { b with worker := Function.update b.worker i worker }

def setChannel (i : ι) (channel : Channel CooperateEvent) (b : ByteWorld ι mmi) :
    ByteWorld ι mmi :=
  b.setWorker i { b.worker i with channel }

/-- Some bytes are handed to the session from `i` to `j`. -/
def sendBytes (i j : ι) (bytes : List UInt8) (b : ByteWorld ι mmi) : ByteWorld ι mmi :=
  { b with wire := Function.update b.wire i (Function.update (b.wire i) j (b.wire i j ++ bytes)) }

/-- The session from `i` to `j` is left with some bytes under way and the buffer. -/
def setSession (i j : ι) (wire : List UInt8) (circleBuffer : CircleStreamBuffer)
    (b : ByteWorld ι mmi) : ByteWorld ι mmi :=
  { b with
    wire := Function.update b.wire i (Function.update (b.wire i) j wire)
    circleBuffer :=
      Function.update b.circleBuffer i (Function.update (b.circleBuffer i) j circleBuffer) }

/-- The state machine of `i` processes an event. -/
def process (i : ι) (env : Env) (event : CooperateEvent) (b : ByteWorld ι mmi) :
    ByteWorld ι mmi :=
  let outputs := (step env event (b.worker i).machine).outputs
  { b.setWorker i ((b.worker i).onEvent env event) with
    wire := Function.update b.wire i fun j => b.wire i j ++ bytesTo (id j) outputs
    timers := Function.update b.timers i (setTimers (b.timers i) outputs) }

/-- The events that a delivery brings to the channel. -/
def arriving (i j : ι) (n : ℕ) (b : ByteWorld ι mmi) : List CooperateEvent :=
  (onBytes ((b.wire i j).take n) (b.circleBuffer i j)).1.packets.filterMap
    (DSoftbusWire.onPacket (id i))

def next (l : ByteLabel ι) (b : ByteWorld ι mmi) : ByteWorld ι mmi :=
  match l with
  | .request i event => b.setChannel i ((b.worker i).channel.send event).2
  | .send i j packet => b.sendBytes i j ((Ipc.DSoftbusAdapter.sendPacket packet).getD [])
  | .deliver i j n =>
    (b.setSession i j ((b.wire i j).drop n)
      (onBytes ((b.wire i j).take n) (b.circleBuffer i j)).2).setChannel j
        ((b.worker j).channel.sendAll (b.arriving id i j n))
  | .loop i env =>
    match (b.worker i).received with
    | none => b
    | some (event, channel) =>
      let b := b.setChannel i channel
      if IsPassed event then b.process id i env event
      else b.setWorker i (Worker.handle arithmetic env event (b.worker i))
  | .expire i n =>
    match (b.timers i)[n]? with
    | none => b
    | some timer =>
      { b.setChannel i ((b.worker i).channel.send timer.2).2 with
        timers := Function.update b.timers i ((b.timers i).eraseIdx n) }

/-- Nothing is under way, and nothing waits. -/
structure Quiet (b : ByteWorld ι mmi) : Prop where
  wire : ∀ i j, b.wire i j = []
  queue : ∀ i, (b.worker i).channel.queue = []

/-- The channel takes all of the events. -/
def Takes (i : ι) (events : List CooperateEvent) (b : ByteWorld ι mmi) : Prop :=
  (b.worker i).channel.accepted events = events

/-- Nothing is lost in the step. The surroundings of `i` meet `F i`, what is asked of it `R i`. -/
def Smooth (F : ι → Env → Prop) (R : ι → CooperateEvent → Prop) (l : ByteLabel ι)
    (b : ByteWorld ι mmi) : Prop :=
  match l with
  | .request i event => IsPassed event = true → R i event ∧ event.Carries Plain
  | .send _ _ packet =>
    DSoftbusWire.handles packet.msgId = none ∧ (Ipc.DSoftbusAdapter.sendPacket packet).isSome
  | .deliver i j n =>
    i ≠ j ∧ LooksLikePackets ((b.wire i j).take n) ∧
      (b.circleBuffer i j).content.length + ((b.wire i j).take n).length ≤
        Ipc.MAX_STREAM_BUF_SIZE ∧
      b.Takes j (b.arriving id i j n)
  | .loop i env =>
    F i env ∧ env.Reliable (id i) ∧ env.Brings Plain ∧
      ∀ item ∈ (b.worker i).received,
        (b.setChannel i item.2).Takes i (selfEvents (step env item.1 (b.worker i).machine).outputs)
  | .expire i n => ∀ timer ∈ (b.timers i)[n]?, b.Takes i [timer.2]

/-! ## Fields -/

section Fields

variable {b : ByteWorld ι mmi} {i j k : ι} {worker : Worker mmi}
  {channel : Channel CooperateEvent} {env : Env} {event : CooperateEvent}

@[simp] theorem worker_setWorker : (b.setWorker i worker).worker i = worker := by
  simp [setWorker]

@[simp] theorem worker_setWorker_of_ne (h : j ≠ i) :
    (b.setWorker i worker).worker j = b.worker j := by
  simp [setWorker, h]

@[simp] theorem wire_setWorker : (b.setWorker i worker).wire = b.wire := rfl

@[simp] theorem circleBuffer_setWorker :
    (b.setWorker i worker).circleBuffer = b.circleBuffer := rfl

@[simp] theorem timers_setWorker : (b.setWorker i worker).timers = b.timers := rfl

@[simp] theorem worker_setChannel :
    (b.setChannel i channel).worker i = { b.worker i with channel } :=
  worker_setWorker

@[simp] theorem worker_setChannel_of_ne (h : j ≠ i) :
    (b.setChannel i channel).worker j = b.worker j :=
  worker_setWorker_of_ne h

@[simp] theorem machine_setChannel :
    ((b.setChannel i channel).worker j).machine = (b.worker j).machine := by
  rcases eq_or_ne j i with rfl | ne
  · simp
  · simp [ne]

@[simp] theorem wire_setChannel : (b.setChannel i channel).wire = b.wire := rfl

@[simp] theorem circleBuffer_setChannel :
    (b.setChannel i channel).circleBuffer = b.circleBuffer := rfl

@[simp] theorem timers_setChannel : (b.setChannel i channel).timers = b.timers := rfl

@[simp] theorem worker_process :
    (b.process id i env event).worker i = (b.worker i).onEvent env event := by
  simp [process]

@[simp] theorem worker_process_of_ne (h : j ≠ i) :
    (b.process id i env event).worker j = b.worker j := by
  simp [process, h]

@[simp] theorem wire_process :
    (b.process id i env event).wire i j =
      b.wire i j ++ bytesTo (id j) (step env event (b.worker i).machine).outputs := by
  simp [process]

@[simp] theorem wire_process_of_ne (h : j ≠ i) :
    (b.process id i env event).wire j k = b.wire j k := by
  simp [process, h]

@[simp] theorem circleBuffer_process :
    (b.process id i env event).circleBuffer = b.circleBuffer := rfl

@[simp] theorem timers_process :
    (b.process id i env event).timers i =
      setTimers (b.timers i) (step env event (b.worker i).machine).outputs := by
  simp [process]

@[simp] theorem timers_process_of_ne (h : j ≠ i) :
    (b.process id i env event).timers j = b.timers j := by
  simp [process, h]

end Fields

/-! ## What a channel holds -/

/-- Where an event in a channel comes from. -/
inductive Item (ι : Type*) where
  | client (event : CooperateEvent)
  | own (event : CooperateEvent)
  | packet (i : ι) (packet : DSoftbusPacket)

namespace Item

def event (id : ι → NetworkId) : Item ι → CooperateEvent
  | .client e => e
  | .own e => e
  | .packet i p => p.onPacket (id i)

/-- An event that the device has sent to itself. -/
def own? : Item ι → Option CooperateEvent
  | .own e => some e
  | _ => none

/-- A packet from `i`. -/
def packetFrom? (i : ι) : Item ι → Option DSoftbusPacket
  | .packet j p => if j = i then some p else none
  | _ => none

/-- The item may be in the channel of `i`. -/
def Fits (R : ι → CooperateEvent → Prop) (i : ι) : Item ι → Prop
  | .client e => IsPassed e = true → R i e ∧ e.Carries Plain
  | .own e => IsPassed e = true ∧ e.Carries Plain
  | .packet j p => j ≠ i ∧ ∀ s ∈ p.strings, Plain s

omit [DecidableEq ι] in
theorem Fits.carries {R : ι → CooperateEvent → Prop} {i : ι} {item : Item ι} (h : item.Fits R i)
    (passed : IsPassed (item.event id) = true) : (item.event id).Carries Plain := by
  cases item with
  | client e => exact (h passed).2
  | own e => exact h.2
  | packet j p => exact fun s hs => h.2 s (named_onPacket hs)

section Queues

variable (i j : ι) (e : CooperateEvent) (p : DSoftbusPacket)

omit [DecidableEq ι] in
@[simp] theorem event_comp_own : event id ∘ own = fun e => e := rfl

omit [DecidableEq ι] in
@[simp] theorem event_comp_packet :
    event id ∘ packet i = DSoftbusPacket.onPacket (id i) := rfl

omit [DecidableEq ι] in
@[simp] theorem own_comp_own : own? ∘ own (ι := ι) = some := rfl

omit [DecidableEq ι] in
@[simp] theorem own_own : (own e : Item ι).own? = some e := rfl

omit [DecidableEq ι] in
@[simp] theorem own_packet : (packet i p).own? = none := rfl

@[simp] theorem packetFrom_own : (own e).packetFrom? i = none := rfl

@[simp] theorem packetFrom_comp_packet : packetFrom? i ∘ packet i = some := by
  funext p
  simp [packetFrom?]

@[simp] theorem packetFrom_packet :
    (packet i p).packetFrom? j = if i = j then some p else none := rfl

end Queues

end Item

/-- `w` is `b` with the packets of `segments` and the `items` of the channels on links and in
channels of their own. -/
structure Matches (R : ι → CooperateEvent → Prop) (items : ι → List (Item ι))
    (segments : ι → ι → List Segment) (b : ByteWorld ι mmi) (w : World ι) : Prop where
  device : ∀ i, w.device i = (b.worker i).machine
  timers : ∀ i, w.timers i = b.timers i
  queue : ∀ i, (b.worker i).channel.queue = (items i).map (Item.event id)
  channel : ∀ i, w.channel i = (items i).filterMap Item.own?
  link : ∀ i j, w.link i j =
    (items j).filterMap (Item.packetFrom? i) ++ Segment.packets (segments i j)
  session : ∀ i j, Session (segments i j) (b.wire i j) (b.circleBuffer i j)
  knows : ∀ i, (b.worker i).machine.Knows Plain
  fits : ∀ i, ∀ item ∈ items i, item.Fits R i
  timer : ∀ i, ∀ timer ∈ b.timers i, IsPassed timer.2 = true ∧ timer.2.Carries Plain

def Refines (R : ι → CooperateEvent → Prop) (b : ByteWorld ι mmi) (w : World ι) : Prop :=
  ∃ items segments, b.Matches id R items segments w

/-! ## One step -/

section Step

variable {F : ι → Env → Prop} {R : ι → CooperateEvent → Prop} {items : ι → List (Item ι)}
  {segments : ι → ι → List Segment} {b : ByteWorld ι mmi} {w : World ι} {i j : ι} {env : Env}
  {event : CooperateEvent}

/-- The segments of the packets for `networkId` among the outputs. -/
theorem exists_segments {packets : List DSoftbusPacket}
    (plain : ∀ packet ∈ packets, ∀ s ∈ packet.strings, Plain s) :
    ∃ segments, Segment.packets segments = packets ∧
      packets.flatMap DSoftbusPacket.wire = segments.flatMap (·.content.encode) := by
  induction packets with
  | nil => exact ⟨[], rfl, rfl⟩
  | cons packet packets ih =>
    obtain ⟨here, later⟩ := List.forall_mem_cons.mp plain
    obtain ⟨segment, message, bytes⟩ := Segment.exists_of_packet here
    obtain ⟨segments, messages, stream⟩ := ih later
    refine ⟨segment :: segments, ?_, ?_⟩
    · rw [← messages, Segment.packets, List.filterMap_cons, message]
      rfl
    · rw [List.flatMap_cons, List.flatMap_cons, bytes, stream]

/-- An event that a device has put off or that tells of a lost session is passed on. -/
theorem isPassed_selfEvents {m : Cooperate} (passed : IsPassed event = true)
    {e : CooperateEvent} (h : e ∈ selfEvents (step env event m).outputs) :
    IsPassed e = true := by
  rcases selfEvents_step h with ⟨-, rfl⟩ | ⟨networkId, rfl⟩
  · exact passed
  · rfl

theorem timer_process {timers : List Timer} {m : Cooperate}
    (before : ∀ timer ∈ timers, IsPassed timer.2 = true ∧ timer.2.Carries Plain)
    (passed : IsPassed event = true) (carries : event.Carries Plain) :
    ∀ timer ∈ setTimers timers (step env event m).outputs,
      IsPassed timer.2 = true ∧ timer.2.Carries Plain := by
  intro timer h
  rcases mem_setTimers h with old | ⟨timerId, interval, new⟩
  · exact before timer old
  · rcases addTimer_step new with ⟨-, same⟩ | timeout
    · exact same ▸ ⟨passed, carries⟩
    · rw [timeout]
      constructor
      · cases event <;> rfl
      · rw [CooperateEvent.Carries, named_relayTimeout]
        rintro _ ⟨⟩

/-- A device processes an event. -/
theorem Matches.process (h : b.Matches id R items segments w) (brings : env.Brings Plain)
    (passed : IsPassed event = true) (carries : event.Carries Plain)
    (takes : b.Takes i (selfEvents (step env event (b.worker i).machine).outputs)) :
    (b.process id i env event).Refines id R (w.process id i env event) := by
  have device := h.device i
  have plain (k : ι) : ∀ packet ∈ packetsTo (id k) (step env event (b.worker i).machine).outputs,
      ∀ s ∈ packet.strings, Plain s := fun packet hp =>
    strings_step plain_nil brings (h.knows i) carries (mem_packetsTo.mp hp)
  choose sent messages bytes using fun k => exists_segments (plain k)
  have back (k l : ι) : (Function.update items i (items i ++ (selfEvents
      (step env event (b.worker i).machine).outputs).map Item.own) l).filterMap
        (Item.packetFrom? k) = (items l).filterMap (Item.packetFrom? k) := by
    rcases eq_or_ne l i with rfl | ne
    · simp
    · simp [ne]
  refine ⟨Function.update items i
      (items i ++ (selfEvents (step env event (b.worker i).machine).outputs).map Item.own),
    Function.update segments i fun k => segments i k ++ sent k, ?_, ?_, ?_, ?_, ?_, ?_, ?_, ?_, ?_⟩
  · intro k
    rcases eq_or_ne k i with rfl | ne
    · simp [device, Worker.onEvent]
    · simp [ne, h.device k]
  · intro k
    rcases eq_or_ne k i with rfl | ne
    · simp [device, h.timers]
    · simp [ne, h.timers]
  · intro k
    rcases eq_or_ne k i with rfl | ne
    · have all : (b.worker k).channel.accepted
          (selfEvents (step env event (b.worker k).machine).outputs) = _ := takes
      simp [Worker.onEvent, Channel.queue_sendAll, all, h.queue]
    · simp [ne, h.queue]
  · intro k
    rcases eq_or_ne k i with rfl | ne
    · simp [device, h.channel]
    · simp [ne, h.channel]
  · intro k l
    rw [back]
    rcases eq_or_ne k i with rfl | ne
    · simp [device, h.link, messages]
    · simp [ne, h.link]
  · intro k l
    rcases eq_or_ne k i with rfl | ne
    · simpa [bytesTo, bytes] using (h.session k l).sendAll (sent l)
    · simpa [ne] using h.session k l
  · intro k
    rcases eq_or_ne k i with rfl | ne
    · simpa [Worker.onEvent] using knows_step brings (h.knows k) carries
    · simpa [ne] using h.knows k
  · intro k item hitem
    rcases eq_or_ne k i with rfl | ne
    · rw [Function.update_self, List.mem_append] at hitem
      rcases hitem with old | new
      · exact h.fits k item old
      · obtain ⟨e, he, rfl⟩ := List.mem_map.mp new
        exact ⟨isPassed_selfEvents passed he, carries_selfEvents carries he⟩
    · rw [Function.update_of_ne ne] at hitem
      exact h.fits k item hitem
  · intro k
    rcases eq_or_ne k i with rfl | ne
    · simpa using timer_process (h.timer k) passed carries
    · simpa [ne] using h.timer k

/-- The channel of `i` is left with other items. -/
theorem Matches.update (h : b.Matches id R items segments w) {b' : ByteWorld ι mmi}
    {w' : World ι} {channel : Channel CooperateEvent} (list : List (Item ι))
    {segments' : ι → ι → List Segment} (worker : b'.worker = (b.setChannel i channel).worker)
    (device : w'.device = w.device) (queue : channel.queue = list.map (Item.event id))
    (fits : ∀ item ∈ list, item.Fits R i) (timers : ∀ k, w'.timers k = b'.timers k)
    (timer : ∀ k, ∀ timer ∈ b'.timers k, IsPassed timer.2 = true ∧ timer.2.Carries Plain)
    (own : w'.channel i = list.filterMap Item.own?) (others : ∀ k ≠ i, w'.channel k = w.channel k)
    (link : ∀ k, w'.link k i =
      list.filterMap (Item.packetFrom? k) ++ Segment.packets (segments' k i))
    (links : ∀ k, ∀ l ≠ i, w'.link k l = w.link k l ∧ segments' k l = segments k l)
    (session : ∀ k l, Session (segments' k l) (b'.wire k l) (b'.circleBuffer k l)) :
    b'.Matches id R (Function.update items i list) segments' w' where
  device k := by
    rw [device, worker, machine_setChannel]
    exact h.device k
  timers := timers
  queue k := by
    rw [worker]
    rcases eq_or_ne k i with rfl | ne
    · simpa using queue
    · simpa [ne] using h.queue k
  channel k := by
    rcases eq_or_ne k i with rfl | ne
    · simpa using own
    · simpa [ne, others] using h.channel k
  link k l := by
    rcases eq_or_ne l i with rfl | ne
    · simpa using link k
    · obtain ⟨same, same'⟩ := links k l ne
      simpa [ne, same, same'] using h.link k l
  session := session
  knows k := by
    rw [worker, machine_setChannel]
    exact h.knows k
  fits k := by
    rcases eq_or_ne k i with rfl | ne
    · simpa using fits
    · simpa [ne] using h.fits k
  timer := timer

/-- The channel of `i` is sent an event from outside. -/
theorem Matches.request (h : b.Matches id R items segments w)
    (fits : (Item.client event).Fits R i) :
    (b.next arithmetic id (.request i event)).Refines id R w := by
  refine ⟨_, _, h.update id (items i ++
    if (b.worker i).channel.Accepts then [.client event] else []) rfl rfl ?_ ?_ h.timers h.timer
    ?_ (fun _ _ => rfl) ?_ (fun _ _ _ => ⟨rfl, rfl⟩) h.session⟩
  · rw [Channel.queue_send, h.queue i]
    split <;> simp [Item.event]
  · intro item hitem
    rcases List.mem_append.mp hitem with old | new
    · exact h.fits i item old
    · split at new
      · rw [List.mem_singleton.mp new]
        exact fits
      · cases new
  · rw [h.channel i]
    split <;> simp [Item.own?]
  · intro k
    rw [h.link k i]
    split <;> simp [Item.packetFrom?]

/-- Another module of `i` sends a packet to `j`. -/
theorem Matches.send (h : b.Matches id R items segments w) {packet : NetPacket}
    (other : DSoftbusWire.handles packet.msgId = none)
    (sent : (Ipc.DSoftbusAdapter.sendPacket packet).isSome) :
    (b.next arithmetic id (.send i j packet)).Refines id R w := by
  obtain ⟨segment, none, bytes⟩ := Segment.exists_of_other other sent
  have more (k l : ι) : ∃ list, Segment.packets list = Segment.packets (segments k l) ∧
      Session list ((b.next arithmetic id (.send i j packet)).wire k l) (b.circleBuffer k l) := by
    rcases eq_or_ne k i with rfl | ne
    · rcases eq_or_ne l j with rfl | ne
      · refine ⟨segments k l ++ [segment], ?_, ?_⟩
        · simp [Segment.packets, none]
        · simpa [next, sendBytes, bytes] using (h.session k l).send segment
      · exact ⟨segments k l, rfl, by simpa [next, sendBytes, ne] using h.session k l⟩
    · exact ⟨segments k l, rfl, by simpa [next, sendBytes, ne] using h.session k l⟩
  choose segments' same session using more
  exact ⟨items, segments', h.device, h.timers, h.queue, h.channel,
    fun k l => (same k l) ▸ h.link k l, session, h.knows, h.fits, h.timer⟩

/-- Some bytes from `i` reach `j`. -/
theorem Matches.deliver (h : b.Matches id R items segments w) {n : ℕ} (ne : i ≠ j)
    (looks : LooksLikePackets ((b.wire i j).take n))
    (room : (b.circleBuffer i j).content.length + ((b.wire i j).take n).length ≤
      Ipc.MAX_STREAM_BUF_SIZE)
    (takes : b.Takes j (b.arriving id i j n)) :
    (b.next arithmetic id (.deliver i j n)).Refines id R w := by
  have session := h.session i j
  rw [← List.take_append_drop n (b.wire i j)] at session
  obtain ⟨arrived, left, parts, later, events⟩ := session.deliver looks room
  have events : b.arriving id i j n =
      (Segment.packets arrived).map (DSoftbusPacket.onPacket (id i)) := events (id i)
  refine ⟨_, Function.update segments i (Function.update (segments i) j left),
    h.update id (i := j) (items j ++ (Segment.packets arrived).map (Item.packet i))
      rfl rfl ?_ ?_ h.timers h.timer ?_ (fun _ _ => rfl) ?_ ?_ ?_⟩
  · have all : (b.worker j).channel.accepted (b.arriving id i j n) = _ := takes
    rw [Channel.queue_sendAll, all, events, h.queue j]
    simp
  · intro item hitem
    rcases List.mem_append.mp hitem with old | new
    · exact h.fits j item old
    · obtain ⟨packet, hp, rfl⟩ := List.mem_map.mp new
      obtain ⟨segment, -, message⟩ := List.mem_filterMap.mp hp
      exact ⟨ne, segment.plain packet message⟩
  · simp [h.channel]
  · intro k
    rw [h.link k j]
    rcases eq_or_ne k i with rfl | other
    · simp [parts]
    · simp [other, other.symm]
  · intro k l other
    refine ⟨rfl, ?_⟩
    rcases eq_or_ne k i with rfl | different
    · simp [other]
    · simp [different]
  · intro k l
    rcases eq_or_ne k i with rfl | different
    · rcases eq_or_ne l j with rfl | other
      · simpa [next, setSession] using later
      · simpa [next, setSession, other] using h.session k l
    · simpa [next, setSession, different] using h.session k l

/-- A timer of `i` expires. -/
theorem Matches.expire (h : b.Matches id R items segments w) {n : ℕ} {timer : Timer}
    (present : (b.timers i)[n]? = some timer) (takes : b.Takes i [timer.2]) :
    (b.next arithmetic id (.expire i n)).Refines id R (w.next id (.expire i n)) := by
  have present' : (w.timers i)[n]? = some timer := by rw [h.timers i, present]
  have good := h.timer i timer (List.mem_of_getElem? present)
  have accepts : (b.worker i).channel.Accepts := by
    by_contra refused
    simp [Takes, Channel.accepted, refused] at takes
  simp only [next, World.next, present, present']
  refine ⟨_, segments, h.update id (items i ++ [.own timer.2]) rfl rfl ?_ ?_ ?_ ?_ ?_ ?_ ?_
    (fun _ _ _ => ⟨rfl, rfl⟩) h.session⟩
  · simp [Channel.queue_send, accepts, h.queue, Item.event]
  · intro item hitem
    rcases List.mem_append.mp hitem with old | new
    · exact h.fits i item old
    · rw [List.mem_singleton.mp new]
      exact good
  · intro k
    rcases eq_or_ne k i with rfl | ne
    · simp [h.timers]
    · simp [ne, h.timers]
  · intro k
    rcases eq_or_ne k i with rfl | ne
    · simp only [Function.update_self]
      exact fun timer ht => h.timer k timer (List.mem_of_mem_eraseIdx ht)
    · simp only [Function.update_of_ne ne]
      exact h.timer k
  · simp [h.channel]
  · intro k ne
    simp [ne]
  · intro k
    simp [h.link]

/-- The cooperation thread of `i` takes an item from the channel. -/
theorem Matches.pop (h : b.Matches id R items segments w) {item : Item ι} {rest : List (Item ι)}
    (head : items i = item :: rest) {channel : Channel CooperateEvent}
    (queue : channel.queue = rest.map (Item.event id)) {w' : World ι}
    (device : w'.device = w.device) (timers : w'.timers = w.timers)
    (own : w'.channel i = rest.filterMap Item.own?) (others : ∀ k ≠ i, w'.channel k = w.channel k)
    (link : ∀ k, w'.link k i =
      rest.filterMap (Item.packetFrom? k) ++ Segment.packets (segments k i))
    (links : ∀ k, ∀ l ≠ i, w'.link k l = w.link k l) :
    (b.setChannel i channel).Matches id R (Function.update items i rest) segments w' := by
  refine h.update id rest rfl device queue ?_ ?_ h.timer own others link
    (fun k l ne => ⟨links k l ne, rfl⟩) h.session
  · intro item hitem
    exact h.fits i item (head ▸ List.mem_cons_of_mem _ hitem)
  · intro k
    rw [timers]
    exact h.timers k

/-- The label of `World` for an item that the cooperation thread of `i` takes. -/
def Item.label (i : ι) (env : Env) : Item ι → Label ι
  | .client e => .request i env e
  | .own _ => .loop i env
  | .packet j _ => .deliver j i env

theorem Matches.popClient (h : b.Matches id R items segments w) {rest : List (Item ι)}
    (head : items i = .client event :: rest) {channel : Channel CooperateEvent}
    (queue : channel.queue = rest.map (Item.event id)) :
    (b.setChannel i channel).Matches id R (Function.update items i rest) segments w := by
  refine h.pop id head queue rfl rfl ?_ (fun _ _ => rfl) ?_ fun _ _ _ => rfl
  · have own := h.channel i
    rw [head] at own
    simpa [List.filterMap_cons, Item.own?] using own
  · intro k
    have link := h.link k i
    rw [head] at link
    simpa [List.filterMap_cons, Item.packetFrom?] using link

/-- An event is processed in the same way, whatever queue it has waited in. -/
theorem Matches.loop (h : b.Matches id R items segments w) (env : Env) {item : Item ι}
    {rest : List (Item ι)} (head : items i = item :: rest) {channel : Channel CooperateEvent}
    (queue : channel.queue = rest.map (Item.event id)) :
    ∃ w', (b.setChannel i channel).Matches id R (Function.update items i rest) segments w' ∧
      w.next id (item.label i env) = w'.process id i env (item.event id) := by
  have own := h.channel i
  have link (k : ι) := h.link k i
  rw [head] at own link
  cases item with
  | client e => exact ⟨w, h.popClient id head queue, rfl⟩
  | own e =>
    let popped : World ι :=
      { w with channel := Function.update w.channel i (rest.filterMap Item.own?) }
    have next : w.next id (.loop i env) = popped.process id i env e := by
      rw [List.filterMap_cons_some (Item.own_own e)] at own
      simp only [World.next, own, popped]
    refine ⟨popped, h.pop id head queue rfl rfl ?_ ?_ ?_ fun _ _ _ => rfl, next⟩
    · simp [popped]
    · intro k ne
      simp [popped, ne]
    · intro k
      simpa [List.filterMap_cons] using link k
  | packet j p =>
    have shows := link j
    rw [List.filterMap_cons_some (by simp : (Item.packet j p).packetFrom? j = some p),
      List.cons_append] at shows
    refine ⟨w.setLink j i _, h.pop id head queue rfl rfl ?_ (fun _ _ => rfl) ?_ ?_,
      World.next_deliver_cons id shows⟩
    · simpa [List.filterMap_cons] using own
    · intro k
      rcases eq_or_ne k j with rfl | ne
      · simp
      · simpa [List.filterMap_cons, ne, ne.symm] using link k
    · intro k l ne
      rcases eq_or_ne k j with rfl | other
      · simp [World.setLink, ne]
      · simp [other]

/-- What the thread keeps besides the channel and the state machine does not matter. -/
theorem Matches.setWorker (h : b.Matches id R items segments w) {worker : Worker mmi}
    (machine : worker.machine = (b.worker i).machine)
    (channel : worker.channel = (b.worker i).channel) :
    (b.setWorker i worker).Matches id R items segments w := by
  have same (k : ι) : ((b.setWorker i worker).worker k).machine = (b.worker k).machine ∧
      ((b.setWorker i worker).worker k).channel = (b.worker k).channel := by
    rcases eq_or_ne k i with rfl | ne
    · simp [machine, channel]
    · simp [ne]
  refine { h with device := ?_, queue := ?_, knows := ?_ }
  · exact fun k => (h.device k).trans (same k).1.symm
  · exact fun k => (congrArg Channel.queue (same k).2).trans (h.queue k)
  · exact fun k => (same k).1.symm ▸ h.knows k

/-- An event that the thread deals with itself. -/
theorem handle_of_not_isPassed (env : Env) (worker : Worker mmi)
    (h : IsPassed event = false) :
    (Worker.handle arithmetic env event worker).machine = worker.machine ∧
      (Worker.handle arithmetic env event worker).channel = worker.channel := by
  obtain ⟨channel, machine, -⟩ := Worker.handle_spec arithmetic env event worker
  refine ⟨?_, ?_⟩
  · simpa [h] using machine
  · simpa [Worker.sentBack, h, Channel.sendAll] using channel

omit [DecidableEq ι] in
/-- Only clients send such events. -/
theorem Item.Fits.client {item : Item ι} (fits : item.Fits R i)
    (h : IsPassed (item.event id) = false) : ∃ e, item = .client e := by
  cases item with
  | client e => exact ⟨e, rfl⟩
  | own e => exact absurd fits.1 (Bool.eq_false_iff.mp h)
  | packet j p => cases p <;> cases h

/-- What may happen in the `World` that a smooth run stands for. -/
def Permitted (F : ι → Env → Prop) (R : ι → CooperateEvent → Prop) : Label ι → Prop
  | .request i env event => F i env ∧ R i event
  | .deliver i j env => i ≠ j ∧ F j env
  | .loop i env => F i env
  | .expire _ _ => True

/-- The cooperation thread of `i` takes the next event. -/
theorem Refines.loop (h : b.Refines id R w) (smooth : b.Smooth id F R (.loop i env)) :
    (b.next arithmetic id (.loop i env)).Refines id R w ∨ ∃ l, Permitted F R l ∧
      (b.next arithmetic id (.loop i env)).Refines id R (w.next id l) := by
  obtain ⟨items, segments, h⟩ := h
  obtain ⟨good, -, brings, room⟩ := smooth
  cases received : (b.worker i).received with
  | none =>
    left
    simp only [next, received]
    exact ⟨items, segments, h⟩
  | some taken =>
    obtain ⟨event, channel⟩ := taken
    have queue := (Worker.received_spec received).2.1
    rw [h.queue i] at queue
    obtain ⟨item, rest, head, rfl, tail⟩ := List.map_eq_cons_iff.mp queue
    have fits := h.fits i item (head ▸ List.mem_cons_self)
    cases passed : IsPassed (item.event id) with
    | true =>
      right
      obtain ⟨w', popped, processed⟩ := h.loop id env head tail.symm
      refine ⟨item.label i env, ?_, ?_⟩
      · cases item with
        | client e => exact ⟨good, (fits passed).1⟩
        | own e => exact good
        | packet j p => exact ⟨fits.1, good⟩
      · have takes := room _ received
        rw [processed]
        simp only [next, received, passed, if_true]
        refine popped.process id brings passed (fits.carries id passed) ?_
        rwa [machine_setChannel]
    | false =>
      left
      simp only [next, received, passed, Bool.false_eq_true, if_false]
      obtain ⟨machine, same⟩ := handle_of_not_isPassed arithmetic env
        ((b.setChannel i channel).worker i) passed
      obtain ⟨e, rfl⟩ := fits.client id passed
      exact ⟨_, _, (h.popClient id head tail.symm).setWorker id machine same⟩

/-- Every smooth step is one step of the `World`, or none. -/
theorem Refines.next (h : b.Refines id R w) {l : ByteLabel ι} (smooth : b.Smooth id F R l) :
    (b.next arithmetic id l).Refines id R w ∨ ∃ l', Permitted F R l' ∧
      (b.next arithmetic id l).Refines id R (w.next id l') := by
  cases l with
  | loop i env => exact h.loop arithmetic id smooth
  | request i event =>
    obtain ⟨_, _, h⟩ := h
    exact .inl (h.request arithmetic id smooth)
  | send i j packet =>
    obtain ⟨_, _, h⟩ := h
    exact .inl (h.send arithmetic id smooth.1 smooth.2)
  | deliver i j n =>
    obtain ⟨_, _, h⟩ := h
    obtain ⟨ne, looks, room, takes⟩ := smooth
    exact .inl (h.deliver arithmetic id ne looks room takes)
  | expire i n =>
    cases present : (b.timers i)[n]? with
    | none =>
      left
      simp only [ByteWorld.next, present]
      exact h
    | some timer =>
      obtain ⟨_, _, h⟩ := h
      exact .inr ⟨.expire i n, trivial, h.expire arithmetic id present (smooth timer present)⟩

end Step

/-! ## Runs -/

/-- Nothing has happened yet, and no device knows a name that is not plain. -/
structure Idle (b : ByteWorld ι mmi) : Prop where
  knows : ∀ i, (b.worker i).machine.Knows Plain
  queue : ∀ i, (b.worker i).channel.queue = []
  wire : ∀ i j, b.wire i j = []
  circleBuffer : ∀ i j, b.circleBuffer i j = .new
  timers : ∀ i, b.timers i = []

/-- The devices with nothing under way. -/
def world (b : ByteWorld ι mmi) : World ι where
  device i := (b.worker i).machine
  link _ _ := []
  channel _ := []
  timers _ := []

section Runs

variable {F : ι → Env → Prop} {R : ι → CooperateEvent → Prop} {b : ByteWorld ι mmi}
  {w : World ι} {tr : List (ByteLabel ι)}

omit [DecidableEq ι] in
theorem Idle.timer (idle : b.Idle) (i : ι) :
    ∀ timer ∈ b.timers i, IsPassed timer.2 = true ∧ timer.2.Carries Plain := by
  rw [idle.timers i]
  rintro _ ⟨⟩

theorem Idle.refines (idle : b.Idle) : b.Refines id R b.world := by
  refine ⟨fun _ => [], fun _ _ => [], fun _ => rfl, fun i => (idle.timers i).symm, idle.queue,
    fun _ => rfl, fun _ _ => rfl, fun i j => ?_, idle.knows, fun _ _ => ?_, idle.timer⟩
  · rw [idle.wire, idle.circleBuffer]
    exact Link.new
  · rintro ⟨⟩

/-- When no byte is under way and no event waits, no message is under way. -/
theorem Refines.quiet (h : b.Refines id R w) (quiet : b.Quiet) :
    w.Quiet ∧ ∀ i, w.channel i = [] := by
  obtain ⟨items, segments, h⟩ := h
  have none (i : ι) : items i = [] := by
    have queue := h.queue i
    rw [quiet.queue i] at queue
    exact List.map_eq_nil_iff.mp queue.symm
  refine ⟨fun i j => ?_, fun i => ?_⟩
  · have session := h.session i j
    rw [quiet.wire i j] at session
    rw [h.link i j, none j, session.done]
    rfl
  · rw [h.channel i, none i]
    rfl

theorem Idle.exists_run (idle : b.Idle)
    (smooth : EachStep (next arithmetic id) (Smooth id F R) b tr) :
    ∃ tr', EachStep (World.next id) (fun l _ => Permitted F R l) b.world tr' ∧
      (runFrom (next arithmetic id) b tr).Refines id R (runFrom (World.next id) b.world tr') :=
  EachStep.exists_run (fun l _ _ h smooth => h.next arithmetic id (l := l) smooth)
    (idle.refines id) smooth

/-- Every smooth run of devices on byte streams is a run of devices on links that carry messages:
whatever the pieces in which the bytes arrive, and whatever waits with what in a channel, the state
machines get where they get there, with the same timers, and nothing is left on a link when no byte
and no event is left. -/
theorem refines_world (idle : b.Idle)
    (smooth : EachStep (next arithmetic id) (Smooth id F R) b tr) :
    ∃ tr' w, ((ofFun (· = b.world) (World.next id)).restrict fun _ l _ => Permitted F R l).Run
        tr' w ∧
      (∀ i, w.device i = ((runFrom (next arithmetic id) b tr).worker i).machine) ∧
      (∀ i, w.timers i = (runFrom (next arithmetic id) b tr).timers i) ∧
      ((runFrom (next arithmetic id) b tr).Quiet → w.Quiet ∧ ∀ i, w.channel i = []) := by
  obtain ⟨tr', permitted, refines⟩ := idle.exists_run arithmetic id smooth
  refine ⟨tr', _, run_restrict rfl permitted, ?_, ?_, refines.quiet id⟩
  · obtain ⟨_, _, h⟩ := refines
    exact h.device
  · obtain ⟨_, _, h⟩ := refines
    exact h.timers

end Runs

/-! ## Two devices -/

section Pair

variable {id : Side → NetworkId} {b : ByteWorld Side mmi} {tr : List (ByteLabel Side)}

theorem Permitted.pairLabel {l : Label Side}
    (h : Permitted (fun s env => env.Friendly (id s))
      (fun s event => PairRequest (id s.other) event) l) : PairLabel id l := by
  cases l with
  | request s env event => exact h
  | deliver s t env =>
    refine ⟨?_, h.2⟩
    have ne := h.1
    cases s <;> cases t <;> first | rfl | exact absurd rfl ne
  | loop s env => trivial
  | expire s n => trivial

/-- Two devices that start, stop and give back cooperations over byte streams: when all bytes have
arrived and no event waits, a device that sends its input out has a peer that takes it in. -/
theorem pair_followed (named : Named id) (idle : b.Idle) (ready : b.world.Ready)
    (smooth : EachStep (next arithmetic id) (Smooth id (fun s env => env.Friendly (id s))
      fun s event => PairRequest (id s.other) event) b tr)
    (quiet : (runFrom (next arithmetic id) b tr).Quiet) (s : Side)
    (out : (runFrom (next arithmetic id) b tr).world.OutTo id s) :
    (runFrom (next arithmetic id) b tr).world.InFrom id s.other := by
  obtain ⟨tr', permitted, refines⟩ := idle.exists_run arithmetic id smooth
  have run : (pairSystem id).Run tr' (runFrom (World.next id) b.world tr') := by
    refine run_restrict ready ?_
    intro p l hp
    exact (permitted p l hp).pairLabel
  obtain ⟨paired, abstract⟩ := (pairSimulation named).run run
  have device : ∀ i, (runFrom (World.next id) b.world tr').device i =
      ((runFrom (next arithmetic id) b tr).worker i).machine := by
    obtain ⟨_, _, h⟩ := refines
    exact h.device
  have isOut : (runFrom (World.next id) b.world tr').pair.state s = .out :=
    (congrArg (·.machine.current) (device s)).trans out.1
  have isIn := (Pair.followed_of_run abstract).quiet (refines.quiet id quiet).1.pair isOut
  have peer := (paired.device s.other).peer (ne_of_eq_of_ne isIn (by decide))
  exact ⟨(congrArg (·.machine.current) (device s.other)).symm.trans isIn,
    (congrArg Cooperate.peer (device s.other)).symm.trans peer⟩

end Pair

/-! ### A START_COOPERATE in two pieces -/

/-- Two devices that have just been enabled. -/
def twoWorkers : ByteWorld Side .sample where
  worker _ :=
    { channel := Channel.enable {}, machine := { machine := { isCooperateEnable := true } } }
  wire _ _ := []
  circleBuffer _ _ := .new
  timers _ := []

theorem idle_twoWorkers : twoWorkers.Idle where
  knows _ := ⟨plain_nil, plain_nil⟩
  queue _ := rfl
  wire _ _ := rfl
  circleBuffer _ _ := rfl
  timers _ := rfl

theorem ready_twoWorkers : twoWorkers.world.Ready where
  free _ := rfl
  inStep _ := rfl
  enabled _ := rfl
  link _ _ := rfl
  channel _ := rfl
  timers _ := rfl

/-- A starts a cooperation with B, which gets the packet in two pieces. -/
def carried : List (ByteLabel Side) :=
  [.request .a (.start Worker.oneRequest), .loop .a (calm [1]), .deliver .a .b 13,
    .deliver .a .b 28, .loop .b (calm [2])]

abbrev SmoothPair (l : ByteLabel Side) (b : ByteWorld Side .sample) : Prop :=
  b.Smooth twoNames (fun s env => env.Friendly (twoNames s))
    (fun s event => PairRequest (twoNames s.other) event) l

theorem plain_twoNames (s : Side) : Plain (twoNames s) := by
  cases s <;> exact ⟨by decide, by decide⟩

theorem smooth_loop {s : Side} {b : ByteWorld Side .sample}
    (room : ∀ item ∈ (b.worker s).received, item.2.isActive = true ∧ item.2.queue.length +
      (selfEvents (step (calm (twoNames s)) item.1 (b.worker s).machine).outputs).length ≤
        Utils.QUEUE_CAPACITY) :
    SmoothPair (.loop s (calm (twoNames s))) b := by
  refine ⟨friendly_calm _, (friendly_calm _).toReliable, ⟨plain_twoNames s, plain_nil⟩, ?_⟩
  intro item received
  obtain ⟨active, fits⟩ := room item received
  rw [Takes, worker_setChannel]
  exact Channel.accepted_of_room active fits

theorem smooth_deliver {s : Side} {n : ℕ} {b : ByteWorld Side .sample}
    (looks : LooksLikePackets ((b.wire s s.other).take n))
    (fits : (b.circleBuffer s s.other).content.length + ((b.wire s s.other).take n).length ≤
      Ipc.MAX_STREAM_BUF_SIZE)
    (active : (b.worker s.other).channel.isActive = true)
    (room : (b.worker s.other).channel.queue.length +
      (b.arriving twoNames s s.other n).length ≤ Utils.QUEUE_CAPACITY) :
    SmoothPair (.deliver s s.other n) b :=
  ⟨s.ne_other, looks, fits, Channel.accepted_of_room active room⟩

theorem smooth_carried :
    EachStep (next .atRest twoNames) SmoothPair twoWorkers carried := by
  refine .cons ?_ (.cons ?_ (.cons ?_ (.cons ?_ (.cons ?_ .nil))))
  · intro _
    refine ⟨.start _ rfl, ?_⟩
    intro networkId h
    obtain rfl := List.mem_singleton.mp h
    exact plain_twoNames .b
  · exact smooth_loop (by decide +kernel)
  · exact smooth_deliver (s := .a) ⟨by decide +kernel, by decide +kernel⟩ (by decide +kernel)
      (by decide +kernel) (by decide +kernel)
  · exact smooth_deliver (s := .a) ⟨by decide +kernel, by decide +kernel⟩ (by decide +kernel)
      (by decide +kernel) (by decide +kernel)
  · exact smooth_loop (by decide +kernel)

theorem quiet_carried : (runFrom (next .atRest twoNames) twoWorkers carried).Quiet := by
  constructor
  · intro i j
    cases i <;> cases j <;> decide +kernel
  · intro i
    refine List.length_eq_zero_iff.mp ?_
    cases i <;> decide +kernel

theorem refines_world_carried :
    ∃ tr' w, ((ofFun (· = twoWorkers.world) (World.next twoNames)).restrict fun _ l _ =>
        Permitted (fun s env => env.Friendly (twoNames s))
          (fun s event => PairRequest (twoNames s.other) event) l).Run tr' w ∧
      w.Quiet ∧ (w.device .b).machine.current = .in := by
  obtain ⟨tr', w, run, device, -, quiet⟩ :=
    refines_world .atRest twoNames idle_twoWorkers smooth_carried
  refine ⟨tr', w, run, (quiet quiet_carried).1, ?_⟩
  rw [device .b]
  decide +kernel

theorem pair_followed_carried :
    (runFrom (next .atRest twoNames) twoWorkers carried).world.InFrom twoNames .b :=
  pair_followed .atRest named_twoNames idle_twoWorkers ready_twoWorkers smooth_carried
    quiet_carried .a ⟨by decide +kernel, by decide +kernel⟩

end ByteWorld

end DeviceStatus.Cooperation
