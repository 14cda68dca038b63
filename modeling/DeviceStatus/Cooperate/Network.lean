import DeviceStatus.Cooperate.Invariants
import Mathlib.Logic.Function.Basic

/-!
# Several devices

Devices that run the state machine, one reliable FIFO link for each direction between two of
them, and for each device the events that it has sent to itself and the timers it has set. A
device is known to the others by its network id. Steps of different devices interleave in any
order.

## Main definitions

* `World` — the devices with everything that is in flight.
* `Label` — a request on a device, the arrival of a packet, an event of its own, a timer.
* `World.next` — one step.
-/

namespace DeviceStatus.Cooperation

open Transition

/-- The packets for `networkId` among the outputs of an event. -/
def packetsTo (networkId : NetworkId) (outputs : List Output) : List DSoftbusPacket :=
  outputs.filterMap fun
    | .packet receiver packet => if receiver = networkId then some packet else none
    | _ => none

/-- The events that a device sends to its own channel. -/
def selfEvents (outputs : List Output) : List CooperateEvent :=
  outputs.filterMap fun
    | .event event => some event
    | _ => none

abbrev Timer := Int32 × CooperateEvent

/-- `AddTimer` fails with a negative id. -/
def setTimer (timers : List Timer) : Output → List Timer
  | .addTimer timerId _ event => if 0 ≤ timerId then timers ++ [(timerId, event)] else timers
  | .removeTimer timerId => timers.filter (·.1 ≠ timerId)
  | _ => timers

def setTimers (timers : List Timer) (outputs : List Output) : List Timer :=
  outputs.foldl setTimer timers

section Outputs

variable {networkId : NetworkId} {outputs outputs' : List Output}
  {timers : List Timer}

@[simp] theorem packetsTo_nil : packetsTo networkId [] = [] := rfl

@[simp] theorem packetsTo_append :
    packetsTo networkId (outputs ++ outputs') =
      packetsTo networkId outputs ++ packetsTo networkId outputs' :=
  List.filterMap_append

@[simp] theorem selfEvents_nil : selfEvents [] = [] := rfl

@[simp] theorem selfEvents_append :
    selfEvents (outputs ++ outputs') = selfEvents outputs ++ selfEvents outputs' :=
  List.filterMap_append

@[simp] theorem setTimers_nil : setTimers timers [] = timers := rfl

@[simp] theorem setTimers_append :
    setTimers timers (outputs ++ outputs') = setTimers (setTimers timers outputs) outputs' :=
  List.foldl_append

section Cons

variable {packet : DSoftbusPacket} {errCode : Promise} {value : Int32} {notice : CooperateNotice}

@[simp] theorem packetsTo_packet :
    packetsTo networkId (.packet networkId packet :: outputs) =
      packet :: packetsTo networkId outputs := by
  simp [packetsTo]

@[simp] theorem packetsTo_errCode :
    packetsTo networkId (.errCode errCode value :: outputs) = packetsTo networkId outputs := rfl

@[simp] theorem packetsTo_answer :
    packetsTo networkId (.answer notice :: outputs) = packetsTo networkId outputs := rfl

variable {receiver : NetworkId} {timerId interval : Int32} {event : CooperateEvent}

@[simp] theorem packetsTo_addTimer :
    packetsTo networkId (.addTimer timerId interval event :: outputs) =
      packetsTo networkId outputs := rfl

@[simp] theorem packetsTo_removeTimer :
    packetsTo networkId (.removeTimer timerId :: outputs) = packetsTo networkId outputs := rfl

@[simp] theorem packetsTo_event :
    packetsTo networkId (.event event :: outputs) = packetsTo networkId outputs := rfl

@[simp] theorem selfEvents_addTimer :
    selfEvents (.addTimer timerId interval event :: outputs) = selfEvents outputs := rfl

@[simp] theorem selfEvents_removeTimer :
    selfEvents (.removeTimer timerId :: outputs) = selfEvents outputs := rfl

@[simp] theorem selfEvents_event :
    selfEvents (.event event :: outputs) = event :: selfEvents outputs := rfl

@[simp] theorem setTimers_event :
    setTimers timers (.event event :: outputs) = setTimers timers outputs := rfl

theorem mem_setTimers_addTimer {timer : Timer}
    (h : timer ∈ setTimers timers [.addTimer timerId interval event]) :
    timer ∈ timers ∨ timer.2 = event := by
  simp only [setTimers, setTimer, List.foldl_cons, List.foldl_nil] at h
  split at h
  · rcases List.mem_append.mp h with h | h
    · exact .inl h
    · exact .inr (by rw [List.mem_singleton.mp h])
  · exact .inl h

@[simp] theorem setTimers_removeTimer :
    setTimers timers (.removeTimer timerId :: outputs) =
      setTimers (timers.filter (·.1 ≠ timerId)) outputs := rfl

@[simp] theorem selfEvents_packet :
    selfEvents (.packet receiver packet :: outputs) = selfEvents outputs := rfl

@[simp] theorem selfEvents_errCode :
    selfEvents (.errCode errCode value :: outputs) = selfEvents outputs := rfl

@[simp] theorem selfEvents_answer :
    selfEvents (.answer notice :: outputs) = selfEvents outputs := rfl

@[simp] theorem setTimers_packet :
    setTimers timers (.packet receiver packet :: outputs) = setTimers timers outputs := rfl

@[simp] theorem setTimers_errCode :
    setTimers timers (.errCode errCode value :: outputs) = setTimers timers outputs := rfl

@[simp] theorem setTimers_answer :
    setTimers timers (.answer notice :: outputs) = setTimers timers outputs := rfl

@[simp] theorem selfEvents_map_packet (packets : List DSoftbusPacket) :
    selfEvents (packets.map (.packet receiver)) = [] := by
  induction packets with
  | nil => rfl
  | cons packet packets ih => exact ih

@[simp] theorem setTimers_map_packet (packets : List DSoftbusPacket) :
    setTimers timers (packets.map (.packet receiver)) = timers := by
  induction packets with
  | nil => rfl
  | cons packet packets ih => exact ih

end Cons

namespace Observed

variable {success : Bool} {errCode : Int32} {o : Observed}

@[simp] theorem packetsTo_answers : packetsTo networkId (o.answers success errCode) = [] := by
  unfold answers
  cases o.pending <;> simp

@[simp] theorem selfEvents_answers : selfEvents (o.answers success errCode) = [] := by
  unfold answers
  cases o.pending <;> simp

@[simp] theorem setTimers_answers : setTimers timers (o.answers success errCode) = timers := by
  unfold answers
  cases o.pending <;> simp

end Observed

end Outputs

structure World (ι : Type*) where
  device : ι → Cooperate
  /-- the packets under way from one device to another, the oldest first -/
  link : ι → ι → List DSoftbusPacket
  channel : ι → List CooperateEvent
  timers : ι → List Timer

/-- What can happen next; `env` are the answers of the surroundings while a device processes
an event. -/
inductive Label (ι : Type*) where
  /-- a request of a client or an input event on `i` -/
  | request (i : ι) (env : Env) (event : CooperateEvent)
  /-- the oldest packet from `i` reaches `j` -/
  | deliver (i j : ι) (env : Env)
  /-- `i` takes an event from its own channel -/
  | loop (i : ι) (env : Env)
  /-- the `n`-th timer of `i` expires -/
  | expire (i : ι) (n : ℕ)

namespace World

variable {ι : Type*} [DecidableEq ι] (id : ι → NetworkId)

/-- `i` processes an event. -/
def process (i : ι) (env : Env) (event : CooperateEvent) (w : World ι) : World ι :=
  let m := step env event (w.device i)
  { device := Function.update w.device i m
    link := Function.update w.link i fun j => w.link i j ++ packetsTo (id j) m.outputs
    channel := Function.update w.channel i (w.channel i ++ selfEvents m.outputs)
    timers := Function.update w.timers i (setTimers (w.timers i) m.outputs) }

/-- The link from `i` to `j` is left with `packets`. -/
def setLink (i j : ι) (packets : List DSoftbusPacket) (w : World ι) : World ι :=
  { w with link := Function.update w.link i (Function.update (w.link i) j packets) }

def next (l : Label ι) (w : World ι) : World ι :=
  match l with
  | .request i env event => w.process id i env event
  | .deliver i j env =>
    match w.link i j with
    | [] => w
    | packet :: rest => (w.setLink i j rest).process id j env (packet.onPacket (id i))
  | .loop i env =>
    match w.channel i with
    | [] => w
    | event :: rest =>
      process id i env event { w with channel := Function.update w.channel i rest }
  | .expire i n =>
    match (w.timers i)[n]? with
    | none => w
    | some timer =>
      { w with
        channel := Function.update w.channel i (w.channel i ++ [timer.2])
        timers := Function.update w.timers i ((w.timers i).eraseIdx n) }

/-- No packet is under way. -/
def Quiet (w : World ι) : Prop := ∀ i j, w.link i j = []

@[simp] theorem outputs_obs (m : Cooperate) : (obs m).outputs = m.outputs := rfl

@[simp] theorem current_obs (m : Cooperate) : (obs m).current = m.machine.current := rfl

section Fields

variable {w : World ι} {i j k : ι} {env : Env} {event : CooperateEvent}
  {packets : List DSoftbusPacket}

@[simp] theorem device_process :
    (w.process id i env event).device i = step env event (w.device i) := by
  simp [process]

@[simp] theorem device_process_of_ne (h : j ≠ i) :
    (w.process id i env event).device j = w.device j := by
  simp [process, h]

@[simp] theorem link_process :
    (w.process id i env event).link i j =
      w.link i j ++ packetsTo (id j) (step env event (w.device i)).outputs := by
  simp [process]

@[simp] theorem link_process_of_ne (h : j ≠ i) :
    (w.process id i env event).link j k = w.link j k := by
  simp [process, h]

@[simp] theorem channel_process :
    (w.process id i env event).channel i =
      w.channel i ++ selfEvents (step env event (w.device i)).outputs := by
  simp [process]

@[simp] theorem channel_process_of_ne (h : j ≠ i) :
    (w.process id i env event).channel j = w.channel j := by
  simp [process, h]

@[simp] theorem timers_process :
    (w.process id i env event).timers i =
      setTimers (w.timers i) (step env event (w.device i)).outputs := by
  simp [process]

@[simp] theorem timers_process_of_ne (h : j ≠ i) :
    (w.process id i env event).timers j = w.timers j := by
  simp [process, h]

@[simp] theorem device_setLink : (w.setLink i j packets).device = w.device := rfl

@[simp] theorem channel_setLink : (w.setLink i j packets).channel = w.channel := rfl

@[simp] theorem timers_setLink : (w.setLink i j packets).timers = w.timers := rfl

@[simp] theorem link_setLink : (w.setLink i j packets).link i j = packets := by
  simp [setLink]

@[simp] theorem link_setLink_of_ne (h : k ≠ i) :
    (w.setLink i j packets).link k = w.link k := by
  simp [setLink, h]

theorem next_deliver_cons {packet : DSoftbusPacket} (h : w.link i j = packet :: packets) :
    w.next id (.deliver i j env) =
      (w.setLink i j packets).process id j env (packet.onPacket (id i)) := by
  simp only [next, h]

theorem next_deliver_nil (h : w.link i j = []) : w.next id (.deliver i j env) = w := by
  simp only [next, h]

theorem next_loop_nil (h : w.channel i = []) : w.next id (.loop i env) = w := by
  simp only [next, h]

theorem next_expire_nil {n : ℕ} (h : w.timers i = []) : w.next id (.expire i n) = w := by
  simp only [next, h, List.getElem?_nil]

end Fields

end World

/-- The device `networkId` on reliable links: what it sends is taken over. -/
structure Env.Reliable (env : Env) (networkId : NetworkId) : Prop where
  localNetworkId : env.localNetworkId = networkId
  sendPacket : ∀ sent receiver packet, env.sendPacket sent receiver packet = RET_OK

/-- The checks succeed as well: its partner has the same account, and the input service gives
it an interceptor. -/
structure Env.Friendly (env : Env) (networkId : NetworkId) : Prop extends
    env.Reliable networkId where
  checkSameAccount : ∀ origin userId accountId,
    StateMachine.checkSameAccount env origin userId accountId = true
  addInterceptor : 0 ≤ env.addInterceptor

section Sending

variable {env : Env} {networkId own : NetworkId} {sent : ℕ} {packet : DSoftbusPacket}

theorem Env.Reliable.sendOutputs (h : env.Reliable own) :
    DSoftbusHandler.sendOutputs env sent networkId packet =
      if packet.chkRWError then [] else [.packet networkId packet] := by
  unfold DSoftbusHandler.sendOutputs
  split
  · rfl
  · rw [if_pos (h.sendPacket ..)]

theorem Env.Reliable.sendResult (h : env.Reliable own) :
    DSoftbusHandler.sendResult env sent networkId packet = RET_OK ↔ packet.chkRWError = false := by
  unfold DSoftbusHandler.sendResult
  split
  case isTrue hp => simp [hp]; decide
  case isFalse hp => simp [hp, h.sendPacket]

@[simp] theorem chkRWError_stopCooperate : DSoftbusPacket.stopCooperate.chkRWError = false := rfl

end Sending

/-- The surroundings of a device on which every call succeeds. -/
def calm (networkId : NetworkId) : Env := { localNetworkId := networkId }

theorem friendly_calm (networkId : NetworkId) : (calm networkId).Friendly networkId where
  localNetworkId := rfl
  sendPacket _ _ _ := rfl
  checkSameAccount origin userId accountId := by
    unfold StateMachine.checkSameAccount
    split <;> rfl
  addInterceptor := show (0 : Int32) ≤ 1 by decide

end DeviceStatus.Cooperation
