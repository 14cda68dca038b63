import Mathlib.Data.List.Basic

/-!
# Channels

`Channel<Event>`: a queue of bounded length between any number of senders and one receiver. A
channel that is not active or is full takes no event and says so; what it has taken is received in
the order in which it was sent.
-/

namespace DeviceStatus.Utils

def QUEUE_CAPACITY : ℕ := 1024

inductive ChannelError where
  | noError
  | queueIsFull
  /-- of a sender that belongs to no channel -/
  | noChannel
  | inactiveChannel
  deriving DecidableEq

structure Channel (Event : Type*) where
  isActive : Bool := false
  queue : List Event := []
  bounded : queue.length ≤ QUEUE_CAPACITY := by exact Nat.zero_le _

namespace Channel

variable {Event : Type*} {c : Channel Event} {event : Event} {events : List Event}

def enable (c : Channel Event) : Channel Event :=
  { c with isActive := true }

def disable (_ : Channel Event) : Channel Event := {}

def send (event : Event) (c : Channel Event) : ChannelError × Channel Event :=
  if c.isActive = false then (.inactiveChannel, c)
  else if full : QUEUE_CAPACITY ≤ c.queue.length then (.queueIsFull, c)
  else
    (.noError,
      { c with
        queue := c.queue ++ [event]
        bounded := by
          rw [List.length_append, List.length_singleton]
          exact Nat.lt_of_not_le full })

/-- `Receive`, which waits while there is no event. -/
def receive (c : Channel Event) : Option (Event × Channel Event) :=
  match c with
  | { queue := [], .. } => none
  | { isActive, queue := event :: queue, bounded } =>
    some (event, { isActive, queue, bounded := Nat.le_of_succ_le bounded })

/-- Whether the next event that is sent is taken. -/
def Accepts (c : Channel Event) : Prop :=
  c.isActive = true ∧ c.queue.length < QUEUE_CAPACITY

instance accepts_decidable (c : Channel Event) : Decidable c.Accepts :=
  inferInstanceAs (Decidable (_ ∧ _))

/-- Several events, one after another. -/
def sendAll (events : List Event) (c : Channel Event) : Channel Event :=
  events.foldl (fun c event => (c.send event).2) c

/-- Those of the events that are taken. -/
def accepted (c : Channel Event) : List Event → List Event
  | [] => []
  | event :: events =>
    if c.Accepts then event :: accepted (c.send event).2 events
    else accepted (c.send event).2 events

@[simp] theorem isActive_send : (c.send event).2.isActive = c.isActive := by
  unfold send
  split_ifs <;> rfl

theorem send_of_accepts (h : c.Accepts) :
    (c.send event).1 = .noError ∧ (c.send event).2.queue = c.queue ++ [event] := by
  obtain ⟨active, room⟩ := h
  simp [send, active, Nat.not_le.mpr room]

theorem send_of_not_accepts (h : ¬ c.Accepts) :
    (c.send event).1 ≠ .noError ∧ (c.send event).2 = c := by
  by_cases active : c.isActive = true
  · have full : QUEUE_CAPACITY ≤ c.queue.length := Nat.not_lt.mp fun room => h ⟨active, room⟩
    simp [send, active, full]
  · simp [send, active]

theorem queue_send : (c.send event).2.queue = c.queue ++ if c.Accepts then [event] else [] := by
  by_cases h : c.Accepts
  · simp [h, (send_of_accepts h).2]
  · simp [h, (send_of_not_accepts h).2]

@[simp] theorem isActive_sendAll : (c.sendAll events).isActive = c.isActive := by
  induction events generalizing c with
  | nil => rfl
  | cons event events ih => exact ih.trans isActive_send

theorem queue_sendAll : (c.sendAll events).queue = c.queue ++ c.accepted events := by
  induction events generalizing c with
  | nil => simp [sendAll, accepted]
  | cons event events ih =>
    change ((c.send event).2.sendAll events).queue = _
    rw [ih, queue_send, accepted]
    split <;> simp

theorem accepted_of_room (active : c.isActive = true)
    (room : c.queue.length + events.length ≤ QUEUE_CAPACITY) : c.accepted events = events := by
  induction events generalizing c with
  | nil => rfl
  | cons event events ih =>
    rw [List.length_cons] at room
    have accepts : c.Accepts := ⟨active, by omega⟩
    have sent : (c.send event).2.queue = _ := (send_of_accepts accepts).2
    rw [accepted, if_pos accepts, ih (isActive_send.trans active) (by
      rw [sent, List.length_append, List.length_singleton]
      omega)]

theorem mem_of_mem_accepted {x : Event} (h : x ∈ c.accepted events) : x ∈ events := by
  induction events generalizing c with
  | nil => exact h
  | cons event events ih =>
    rw [accepted] at h
    split at h
    · rcases List.mem_cons.mp h with rfl | later
      · exact List.mem_cons_self
      · exact List.mem_cons_of_mem _ (ih later)
    · exact List.mem_cons_of_mem _ (ih h)

theorem queue_of_receive {c' : Channel Event} (h : c.receive = some (event, c')) :
    c.queue = event :: c'.queue ∧ c'.isActive = c.isActive := by
  obtain ⟨active, queue, bounded⟩ := c
  cases queue with
  | nil => cases h
  | cons head rest =>
    cases h
    exact ⟨rfl, rfl⟩

end Channel

end DeviceStatus.Utils
