import DeviceStatus.Cooperate.Network
import DeviceStatus.Cooperate.Pair

/-!
# Agreement of two devices

Two devices that start, stop and give back cooperations with each other, over reliable links.
Every step of theirs is a step of `Pair`, so a device that goes out is followed once nothing
is in flight. A device that comes in is led as long as no STOP_COOPERATE and no COME_BACK of
an earlier cooperation reaches a device that has gone out anew.

## Main definitions

* `PairLabel` — the requests and deliveries between the two devices.
* `World.Paired` — what holds of each of them along every run.
* `World.pair` — the abstract pair they make up.
-/

namespace DeviceStatus.Cooperation

open Transition Observed

/-- The network ids of the two devices differ and fit in a packet. -/
structure Named (id : Side → NetworkId) : Prop where
  distinct : id .a ≠ id .b
  short : ∀ s, (id s).length + 17 ≤ MAX_STREAM_BUF_SIZE

theorem Named.ne_other {id : Side → NetworkId} (h : Named id) (s : Side) : id s ≠ id s.other := by
  cases s
  · exact h.distinct
  · exact h.distinct.symm

/-- What a packet means to the device that gets it. -/
def DSoftbusPacket.signal : DSoftbusPacket → Signal
  | .startCooperate .. => .start
  | .comeBack .. => .back
  | _ => .stop

/-- A message of a cooperation without options that names its sender as the origin. -/
def DSoftbusPacket.From (networkId : NetworkId) : DSoftbusPacket → Prop
  | .startCooperate origin .. | .comeBack origin .. => origin = networkId
  | .stopCooperate => True
  | _ => False

/-- What happens on a device besides the arrival of packets. -/
inductive PairRequest (other : NetworkId) : CooperateEvent → Prop
  | start (n : StartCooperateEvent) (h : n.remoteNetworkId = other) :
      PairRequest other (.start n)
  | stop (n : StopCooperateEvent) : PairRequest other (.stop n)
  | pointer (n : InputPointerEvent) : PairRequest other (.inputPointerEvent n)

namespace Observed

/-- A device that cooperates with `other` only. -/
structure Paired (other : NetworkId) (o : Observed) : Prop where
  inStep : o.inStep = .initial
  enabled : o.enabled = true
  peer : o.current ≠ .free → o.peer = other

/-- The device is in `c` and has sent `signals` to `other`, and nothing else. -/
structure Performed (own other : NetworkId) (o : Observed) (c : CooperateState)
    (signals : List Signal) : Prop where
  paired : o.Paired other
  current : o.current = c
  signals : (packetsTo other o.outputs).map DSoftbusPacket.signal = signals
  packets : ∀ p ∈ packetsTo other o.outputs, p.From own
  events : selfEvents o.outputs = []
  timers : setTimers [] o.outputs = []

variable {env : Env} {u : Unseen} {request : DSoftbusPacket} {e : CooperateEvent}
  {self other : NetworkId} {o o' : Observed}

/-- What has been put out so far concerns the client only. -/
structure Silent (other : NetworkId) (o : Observed) : Prop where
  packets : packetsTo other o.outputs = []
  events : selfEvents o.outputs = []
  timers : setTimers [] o.outputs = []

/-- A device in `c` has acted by itself, with the result `o`. -/
def Acted (self other : NetworkId) (c : CooperateState) (o : Observed) : Prop :=
  ∃ c' signals, Act c c' signals ∧ Performed self other o c' signals

theorem Silent.performed (silent : o.Silent other) (h : o.Paired other) :
    Performed self other o o.current [] := by
  constructor <;> simp [h, silent.packets, silent.events, silent.timers]

/-- A device that stays in its state. -/
theorem Silent.acted {c : CooperateState} (silent : o.Silent other) (h : o.Paired other)
    (hc : o.current = c) : Acted self other c o :=
  ⟨c, [], .idle c, hc ▸ silent.performed h⟩

/-! ## What a device does by itself -/

theorem FreeMove.acted (h : FreeMove env request e o o') (he : PairRequest other e)
    (friendly : env.Friendly self) (hc : o.current = .free) (ho : o.Paired other)
    (silent : o.Silent other) : Acted self other .free o' := by
  obtain ⟨hstep, henabled, -⟩ := ho
  obtain ⟨hp, hs, ht⟩ := silent
  cases h with
  | ignore => exact Silent.acted ⟨hp, hs, ht⟩ ⟨hstep, henabled, fun h => absurd hc h⟩ hc
  | refuse r | noSession r | offline =>
    refine Silent.acted ⟨?_, ?_, ?_⟩ ⟨?_, ?_, ?_⟩ ?_ <;>
      simp [ask, bind, register, out, finish_eq, motionDragAnswer, hc, hstep, henabled, hp, hs, ht]
  | notSent notice origin hr drag session online sent =>
    have fits := mt friendly.toReliable.sendResult.mpr sent
    refine Silent.acted ⟨?_, ?_, ?_⟩ ⟨?_, ?_, ?_⟩ ?_ <;>
      simp [ask, bind, register, out, send, friendly.toReliable.sendOutputs, fits, hc, hstep,
        henabled, hp, hs, ht]
  | noInterceptor _ _ _ _ _ _ _ interceptor =>
    exact absurd (.inr friendly.addInterceptor) interceptor
  | @started n _ notice origin hr drag session online sent =>
    cases he with | start _ hn => ?_
    subst hn
    have fits := friendly.toReliable.sendResult.mp sent
    have start : (DSoftbusHandler.startPacket notice).signal = .start := rfl
    have sender : (DSoftbusHandler.startPacket notice).From self :=
      origin.trans friendly.localNetworkId
    clear hr sent
    generalize DSoftbusHandler.startPacket notice = packet at *
    refine ⟨.out, [.start], .start, ?_⟩
    constructor
    case paired =>
      constructor <;>
        simp [ask, begin, bind, register, out, send, finish_eq, enableInterceptor_eq, goto,
          hstep, henabled, StartCooperateEvent.call]
    all_goals
      simp [ask, begin, bind, register, out, send, finish_eq, enableInterceptor_eq, goto,
        friendly.toReliable.sendOutputs, fits, hp, hs, ht, start, sender]
  | startedWithOptions => cases he
  | remoteStart s hs => cases he <;> cases hs

theorem Paired.stopOut (friendly : env.Friendly self) (hc : o.current = .out)
    (ho : o.Paired other) (silent : o.Silent other) :
    Performed self other (o.stopOut env) .free [.stop] := by
  obtain ⟨hstep, henabled, hpeer⟩ := ho
  obtain ⟨hp, hs, ht⟩ := silent
  have hpeer : o.peer = other := hpeer (by simp [hc])
  subst hpeer
  constructor
  case paired => constructor <;> simp [Observed.stopOut, disableInterceptor, send, out, goto, *]
  all_goals
    simp [Observed.stopOut, disableInterceptor, send, out, goto,
      friendly.toReliable.sendOutputs, hp, hs, ht, DSoftbusPacket.signal, DSoftbusPacket.From]

theorem Paired.stopIn (friendly : env.Friendly self) (hc : o.current = .in)
    (ho : o.Paired other) (silent : o.Silent other) :
    Performed self other (o.stopIn env) .free [.stop] := by
  obtain ⟨hstep, henabled, hpeer⟩ := ho
  obtain ⟨hp, hs, ht⟩ := silent
  have hpeer : o.peer = other := hpeer (by simp [hc])
  subst hpeer
  constructor
  case paired => constructor <;> simp [Observed.stopIn, disableBuilder, send, out, goto, *]
  all_goals
    simp [Observed.stopIn, disableBuilder, send, out, goto, friendly.toReliable.sendOutputs,
      hp, hs, ht, DSoftbusPacket.signal, DSoftbusPacket.From]

theorem OutMove.acted (h : OutMove env e o o') (he : PairRequest other e)
    (friendly : env.Friendly self) (hc : o.current = .out) (ho : o.Paired other)
    (silent : o.Silent other) : Acted self other .out o' := by
  cases he with
  | start n hn =>
    obtain ⟨hstep, henabled, hpeer⟩ := ho
    obtain ⟨hp, hs, ht⟩ := silent
    have hpeer : o.peer = other := hpeer (by simp [hc])
    rcases h.of_request rfl with rfl | rfl <;>
      refine Silent.acted ⟨?_, ?_, ?_⟩ ⟨?_, ?_, ?_⟩ ?_ <;>
      simp [register, out, finish_eq, motionDragAnswer, hc, hstep, henabled, hpeer, hp, hs, ht]
  | stop n =>
    obtain rfl := h.of_stop
    exact ⟨.free, [.stop], .stop (by decide), ho.stopOut friendly hc silent⟩
  | pointer n =>
    obtain rfl := h.of_pointer
    exact silent.acted ho hc

theorem InMove.acted (h : InMove env e o o') (he : PairRequest other e)
    (friendly : env.Friendly self) (ne : self ≠ other)
    (short : self.length + 17 ≤ MAX_STREAM_BUF_SIZE) (hc : o.current = .in) (ho : o.Paired other)
    (silent : o.Silent other) : Acted self other .in o' := by
  cases he with
  | start n hn =>
    obtain ⟨hstep, henabled, hpeer⟩ := ho
    obtain ⟨hp, hs, ht⟩ := silent
    have hpeer : o.peer = other := hpeer (by simp [hc])
    subst hn
    cases h with
    | ignore h | stop h => exact h.elim
    | refuse r =>
      refine Silent.acted ⟨?_, ?_, ?_⟩ ⟨?_, ?_, ?_⟩ ?_ <;>
        simp [out, motionDragAnswer, hc, hstep, henabled, hpeer, hp, hs, ht]
    | toLocal r hr _ toLocal =>
      cases hr
      exact absurd (toLocal.trans friendly.localNetworkId).symm ne
    | comeBack r packet hr drag notLocal _ isComeBack =>
      obtain ⟨notice, origin, rfl⟩ := isComeBack
      have fits : (DSoftbusHandler.comeBackPacket notice).chkRWError = false := by
        simp only [DSoftbusHandler.comeBackPacket, DSoftbusPacket.chkRWError,
          DSoftbusPacket.payloadSize, DSoftbusPacket.sizeofString, DSoftbusPacket.sizeofInt32,
          origin, friendly.localNetworkId, decide_eq_false_iff_not]
        omega
      have back : (DSoftbusHandler.comeBackPacket notice).signal = .back := rfl
      have sender : (DSoftbusHandler.comeBackPacket notice).From self :=
        origin.trans friendly.localNetworkId
      generalize DSoftbusHandler.comeBackPacket notice = packet at *
      refine ⟨.free, [.back], .back, ?_⟩
      constructor
      case paired =>
        constructor <;>
          simp [register, disableBuilder, send, out, comeBackFinish_eq, goto, hstep, henabled]
      all_goals
        simp [register, disableBuilder, send, out, comeBackFinish_eq, goto, hpeer,
          friendly.toReliable.sendOutputs, fits, hp, hs, ht, back, sender]
    | relayFail r hr _ _ notPeer | relay r _ hr _ _ notPeer =>
      cases hr
      exact absurd hpeer.symm notPeer
    | remoteStart s hs => cases hs
  | stop n =>
    obtain rfl := h.of_stop
    exact ⟨.free, [.stop], .stop (by decide), ho.stopIn friendly hc silent⟩
  | pointer n =>
    rcases h.of_pointer with rfl | rfl
    · exact silent.acted ho hc
    · exact ⟨.free, [.stop], .stop (by decide), ho.stopIn friendly hc silent⟩

theorem Transfer.acted (h : Transfer env request e o o') (he : PairRequest other e)
    (friendly : env.Friendly self) (ne : self ≠ other)
    (short : self.length + 17 ≤ MAX_STREAM_BUF_SIZE) (ho : o.Paired other)
    (silent : o.Silent other) : Acted self other o.current o' := by
  cases hc : o.current with
  | free => exact (h.of_free hc).acted he friendly hc ho silent
  | out => exact (h.of_out hc).acted he friendly hc ho silent
  | «in» => exact (h.of_in hc ho.inStep).acted he friendly ne short hc ho silent

theorem Move.acted (h : Move env u e o o') (he : PairRequest other e)
    (friendly : env.Friendly self) (ne : self ≠ other)
    (short : self.length + 17 ≤ MAX_STREAM_BUF_SIZE) (ho : o.Paired other)
    (silent : o.Silent other) : Acted self other o.current o' := by
  cases he with
  | start n hn =>
    have silent' (errCode : Promise) (value : Int32) :
        (o.out [.errCode errCode value]).Silent other := by
      constructor <;> simp [out, silent.packets, silent.events, silent.timers]
    have ho' (errCode : Promise) (value : Int32) :
        (o.out [.errCode errCode value]).Paired other := ⟨ho.inStep, ho.enabled, ho.peer⟩
    rcases h.of_request rfl with ⟨value, -, rfl⟩ | ⟨-, -, ht⟩
    · exact (silent' _ value).acted (ho' _ value) rfl
    · exact ht.acted (.start n hn) friendly ne short (ho' _ _) (silent' _ _)
  | stop n => exact (h.of_isPassedOn rfl rfl).acted (.stop n) friendly ne short ho silent
  | pointer n =>
    obtain ⟨position, ht⟩ := h.of_pointer
    exact ht.acted (.pointer _) friendly ne short ho silent

/-! ## What a device does on a packet -/

/-- A device that goes to another state and sends nothing. -/
theorem Silent.moved {c : CooperateState} (silent : o.Silent other) (h : o'.Paired other)
    (hout : o'.outputs = o.outputs) (hc : o'.current = c) : Performed self other o' c [] := by
  have silent' : o'.Silent other :=
    ⟨hout ▸ silent.packets, hout ▸ silent.events, hout ▸ silent.timers⟩
  exact hc ▸ silent'.performed h

/-- What a device that gives up its part is left with. -/
theorem Paired.released (h : o.Paired other) (hstep : o'.inStep = o.inStep)
    (henabled : o'.enabled = o.enabled) (hc : o'.current = .free) : o'.Paired other :=
  ⟨hstep.trans h.inStep, henabled.trans h.enabled, fun h => absurd hc h⟩

theorem Transfer.received {packet : DSoftbusPacket}
    (h : Transfer env request (packet.onPacket other) o o') (hp : packet.From other)
    (friendly : env.Friendly self) (ne : self ≠ other) (ho : o.Paired other)
    (silent : o.Silent other) :
    Performed self other o' (respond o.current packet.signal).1
      (respond o.current packet.signal).2 := by
  have peer (hc : o.current ≠ .free) : other = o.peer := (ho.peer hc).symm
  have same {c : CooperateState} (ho' : o' = o) (hc : o.current = c) :
      Performed self other o' c [] := by
    subst ho' hc
    exact silent.performed ho
  cases packet with
  | startCooperate origin =>
    obtain rfl : origin = other := hp
    have notLocal : origin ≠ env.localNetworkId := by
      rw [friendly.localNetworkId]
      exact ne.symm
    cases hc : o.current with
    | free =>
      have ho' := (h.of_free hc).of_remoteStart rfl
      rw [enableBuilder_eq] at ho'
      exact ho' ▸ silent.moved ⟨ho.inStep, ho.enabled, fun _ => rfl⟩ rfl rfl
    | out =>
      have ho' := (h.of_out hc).of_peerStart rfl notLocal (peer (by simp [hc]))
      exact ho' ▸ ho.stopOut friendly hc silent
    | «in» =>
      have ho' := (h.of_in hc ho.inStep).of_peerStart rfl (peer (by simp [hc]))
      exact same ho' hc
  | stopCooperate =>
    cases hc : o.current with
    | free => exact same ((h.of_free hc).idle rfl rfl) hc
    | out =>
      have ho' := (h.of_out hc).of_remoteStop
      rw [if_pos (peer (by simp [hc]))] at ho'
      exact ho' ▸ silent.moved (ho.released rfl rfl rfl) rfl rfl
    | «in» =>
      have ho' := (h.of_in hc ho.inStep).of_remoteStop
      rw [if_pos (peer (by simp [hc]))] at ho'
      exact ho' ▸ silent.moved (ho.released rfl rfl rfl) rfl rfl
  | comeBack origin =>
    cases hc : o.current with
    | free => exact same ((h.of_free hc).idle rfl rfl) hc
    | out =>
      have ho' := (h.of_out hc).of_comeBack rfl
      rw [if_pos (peer (by simp [hc]))] at ho'
      exact ho' ▸ silent.moved (ho.released rfl rfl rfl) rfl rfl
    | «in» => exact same ((h.of_in hc ho.inStep).of_comeBack rfl) hc
  | _ => exact hp.elim

theorem Move.received {packet : DSoftbusPacket} (h : Move env u (packet.onPacket other) o o')
    (hp : packet.From other) (friendly : env.Friendly self) (ne : self ≠ other)
    (ho : o.Paired other) (silent : o.Silent other) :
    Performed self other o' (respond o.current packet.signal).1
      (respond o.current packet.signal).2 := by
  have ht : Transfer env u.packet (packet.onPacket other) o o' := by
    cases packet with
    | startCooperate => exact h.of_gate rfl ⟨friendly.checkSameAccount .., ho.enabled⟩
    | stopCooperate | comeBack => exact h.of_isPassedOn rfl rfl
    | _ => exact hp.elim
  exact ht.received hp friendly ne ho silent

end Observed

/-! ## The two devices -/

namespace World

variable (id : Side → NetworkId)

/-- Both devices are enabled and FREE, and nothing is in flight. -/
structure Ready (w : World Side) : Prop where
  free : ∀ s, (w.device s).machine.current = .free
  inStep : ∀ s, (w.device s).machine.inStep = .initial
  enabled : ∀ s, (w.device s).machine.isCooperateEnable = true
  link : w.Quiet
  channel : ∀ s, w.channel s = []
  timers : ∀ s, w.timers s = []

/-- The devices cooperate with each other only, and have not left anything for later. -/
structure Paired (w : World Side) : Prop where
  device : ∀ s, (obs (w.device s)).Paired (id s.other)
  packets : ∀ s, ∀ p ∈ w.link s s.other, p.From (id s)
  channel : ∀ s, w.channel s = []
  timers : ∀ s, w.timers s = []

/-- The pair of devices, abstractly. -/
def pair (w : World Side) : Pair where
  state s := (w.device s).machine.current
  link s := (w.link s s.other).map DSoftbusPacket.signal

/-- `s` sends its input to the other device. -/
def OutTo (s : Side) (w : World Side) : Prop :=
  (w.device s).machine.current = .out ∧ (w.device s).peer = id s.other

/-- `s` gets its input from the other device. -/
def InFrom (s : Side) (w : World Side) : Prop :=
  (w.device s).machine.current = .in ∧ (w.device s).peer = id s.other

end World

/-- Requests and mouse input on both devices, and what is under way between them. -/
def PairLabel (id : Side → NetworkId) : Label Side → Prop
  | .request s env event => env.Friendly (id s) ∧ PairRequest (id s.other) event
  | .deliver s t env => s = t.other ∧ env.Friendly (id t)
  | .loop .. | .expire .. => True

def pairSystem (id : Side → NetworkId) : System (World Side) (Label Side) :=
  (System.ofFun World.Ready (World.next id)).restrict fun _ l _ => PairLabel id l

/-- A STOP_COOPERATE or a COME_BACK that reaches a device in OUT is not stale: all that the
device has sent has arrived, and the other one is no longer IN. -/
def Timely (w : World Side) : Label Side → Prop
  | .deliver s t _ =>
    ∀ packet ∈ (w.link s t).head?, packet.signal ≠ .start →
      (w.device t).machine.current = .out →
        w.link t s = [] ∧ (w.device s).machine.current ≠ .in
  | _ => True

namespace World

variable {id : Side → NetworkId} {w w' : World Side} {s : Side} {env : Env}
  {event : CooperateEvent} {c : CooperateState} {signals : List Signal}

/-- A device that has done its part leaves the world paired. -/
theorem Paired.process (h : w.Paired id)
    (hs : Performed (id s) (id s.other) (obs (step env event (w.device s))) c signals) :
    (w.process id s env event).Paired id ∧
      (w.process id s env event).pair = w.pair.put s c signals := by
  constructor
  · constructor
    case device =>
      exact Side.forall_of s (by simpa using hs.paired) (by simpa using h.device s.other)
    case channel =>
      refine Side.forall_of s ?_ (by simpa using h.channel s.other)
      simpa [h.channel s] using hs.events
    case timers =>
      refine Side.forall_of s ?_ (by simpa using h.timers s.other)
      simpa [h.timers s] using hs.timers
    case packets =>
      refine Side.forall_of s ?_ (by simpa using h.packets s.other)
      intro p hp
      rw [link_process, List.mem_append] at hp
      rcases hp with hp | hp
      · exact h.packets s p hp
      · exact hs.packets p hp
  · refine Pair.ext (funext (Side.forall_of s ?_ ?_)) (funext (Side.forall_of s ?_ ?_))
    · simpa [pair] using hs.current
    · simp [pair]
    · simpa [pair] using hs.signals
    · simp [pair]

theorem silent_obs (m : Cooperate) (other : NetworkId) :
    Observed.Silent other { obs m with outputs := [] } := by
  constructor <;> rfl

/-- Taking a packet from a link leaves the world paired. -/
theorem Paired.setLink (h : w.Paired id) {packet : DSoftbusPacket} {rest : List DSoftbusPacket}
    (hlink : w.link s.other s = packet :: rest) :
    (w.setLink s.other s rest).Paired id ∧
      (w.setLink s.other s rest).pair = w.pair.take s.other (rest.map DSoftbusPacket.signal) := by
  have hself (t : Side) : (w.setLink s.other s rest).link t t.other =
      if t = s.other then rest else w.link t t.other := by
    by_cases ht : t = s.other
    · subst ht
      simp
    · simp [ht]
  constructor
  · refine ⟨h.device, fun t p hp => ?_, h.channel, h.timers⟩
    rw [hself] at hp
    split at hp
    case isTrue ht =>
      subst ht
      refine h.packets s.other p ?_
      rw [Side.other_other, hlink]
      exact .tail _ hp
    case isFalse => exact h.packets t p hp
  · refine Pair.ext rfl (funext fun t => ?_)
    simp only [pair, Pair.take, hself]
    split <;> rfl

/-- Every label leaves the world paired and is a step of the abstract pair. -/
theorem Paired.next (named : Named id) (h : w.Paired id) {l : Label Side} (hl : PairLabel id l) :
    (w.next id l).Paired id ∧
      Pair.Step (fun p s signal => Timely w l → Pair.Current p s signal) w.pair
        (w.next id l).pair := by
  cases l with
  | request s env event =>
    obtain ⟨friendly, he⟩ := hl
    have hm := step_move env (w.device s) event
    have ⟨c, signals, act, hs⟩ := hm.acted he friendly (named.ne_other s) (named.short s)
      ⟨(h.device s).inStep, (h.device s).enabled, (h.device s).peer⟩ (silent_obs ..)
    obtain ⟨hw, hp⟩ := h.process hs
    exact ⟨hw, hp ▸ .act s act⟩
  | deliver s t env =>
    obtain ⟨rfl, friendly⟩ := hl
    cases hlink : w.link t.other t with
    | nil =>
      rw [next_deliver_nil id hlink]
      exact ⟨h, .stay⟩
    | cons packet rest =>
      rw [next_deliver_cons id hlink]
      have from_other : packet.From (id t.other) := by
        refine h.packets t.other packet ?_
        rw [Side.other_other, hlink]
        exact .head _
      obtain ⟨hw, hp⟩ := h.setLink hlink
      have hm := step_move env (w.device t) (packet.onPacket (id t.other))
      have hs := hm.received from_other friendly (named.ne_other t)
        ⟨(h.device t).inStep, (h.device t).enabled, (h.device t).peer⟩ (silent_obs ..)
      obtain ⟨hw', hp'⟩ := hw.process hs
      refine ⟨hw', ?_⟩
      rw [hp', hp]
      refine .receive t ?_ fun timely => ?_
      · simp [pair, hlink]
      · have hc := timely packet (by simp [hlink])
        cases hsig : packet.signal with
        | start => trivial
        | stop | back =>
          intro ho
          simpa [pair] using hc (by simp [hsig]) ho
  | loop s env =>
    rw [next_loop_nil id (h.channel s)]
    exact ⟨h, .stay⟩
  | expire s n =>
    rw [next_expire_nil id (h.timers s)]
    exact ⟨h, .stay⟩

theorem Ready.paired (h : w.Ready) : w.Paired id where
  device s := ⟨h.inStep s, h.enabled s, fun hc => absurd (h.free s) hc⟩
  packets s p hp := by simp [h.link s s.other] at hp
  channel := h.channel
  timers := h.timers

theorem Ready.pair (h : w.Ready) (s : Side) : w.pair.state s = .free ∧ w.pair.link s = [] :=
  ⟨h.free s, by simp [World.pair, h.link s s.other]⟩

theorem Quiet.pair (h : w.Quiet) (s : Side) : w.pair.link s = [] := by
  simp [World.pair, h s s.other]

end World

/-- The two devices make up a pair of which one is followed. -/
def pairSimulation {id : Side → NetworkId} (named : Named id) :
    Simulation (pairSystem id) (Pair.system (Label Side) fun _ _ _ => True) (World.Paired id) where
  abs := World.pair
  init _ h := ⟨World.Ready.paired h, World.Ready.pair h⟩
  step w l w' hw h := by
    obtain ⟨rfl, hl⟩ := h
    obtain ⟨hw', hp⟩ := hw.next named hl
    exact ⟨hw', hp.mono fun _ _ _ => trivial⟩

/-- As long as what arrives is timely, one is also led. -/
def timelySimulation {id : Side → NetworkId} (named : Named id) :
    Simulation ((pairSystem id).restrict fun w l _ => Timely w l)
      (Pair.system (Label Side) Pair.Current) (World.Paired id) where
  abs := World.pair
  init _ h := ⟨World.Ready.paired h, World.Ready.pair h⟩
  step w l w' hw h := by
    obtain ⟨⟨rfl, hl⟩, timely⟩ := h
    obtain ⟨hw', hp⟩ := hw.next named hl
    exact ⟨hw', hp.mono fun _ _ ht => ht timely⟩

/-- Two devices that start, stop and give back cooperations: when nothing is in flight, a
device in OUT has its peer in IN; along runs on which no STOP_COOPERATE and no COME_BACK is
stale, a device in IN has its peer in OUT as well. -/
theorem pair_agreement {id : Side → NetworkId} (named : Named id) {w : World Side}
    (quiet : w.Quiet) (s : Side) :
    (∀ tr, (pairSystem id).Run tr w → w.OutTo id s → w.InFrom id s.other) ∧
    (∀ tr, ((pairSystem id).restrict fun w l _ => Timely w l).Run tr w →
      (w.OutTo id s ↔ w.InFrom id s.other)) := by
  have out (tr) (run : (pairSystem id).Run tr w) (ho : w.OutTo id s) : w.InFrom id s.other := by
    obtain ⟨hw, hrun⟩ := (pairSimulation named).run run
    have hin := (Pair.followed_of_run hrun).quiet quiet.pair ho.1
    exact ⟨hin, (hw.device s.other).peer (ne_of_eq_of_ne hin (by decide))⟩
  refine ⟨out, fun tr run => ⟨out tr run.of_restrict, fun hi => ?_⟩⟩
  obtain ⟨hw, hrun⟩ := (timelySimulation named).run run
  have ho := (Pair.led_of_run hrun).quiet quiet.pair hi.1
  rw [Side.other_other] at ho
  exact ⟨ho, (hw.device s).peer (ne_of_eq_of_ne ho (by decide))⟩

/-! ## A run on which a COME_BACK is stale -/

def twoNames : Side → NetworkId
  | .a => [1]
  | .b => [2]

theorem named_twoNames : Named twoNames where
  distinct := by decide
  short s := by cases s <;> decide

/-- Two devices that have just been enabled. -/
def twoDevices : World Side where
  device _ := { machine := { isCooperateEnable := true } }
  link _ _ := []
  channel _ := []
  timers _ := []

theorem ready_twoDevices : twoDevices.Ready := by
  constructor <;> intro s <;> cases s <;> first | rfl | (intro t; cases t <;> rfl)

def startLabel (s : Side) : Label Side :=
  .request s (calm (twoNames s)) <| .start
    { pid := 1, userData := 1, remoteNetworkId := twoNames s.other, startDeviceId := 1,
      errCode := 0 }

def stopLabel (s : Side) : Label Side :=
  .request s (calm (twoNames s)) (.stop {})

def deliverLabel (s : Side) : Label Side :=
  .deliver s.other s (calm (twoNames s))

/-- What happens to the two devices, one label after the other. -/
def play (tr : List (Label Side)) : World Side :=
  System.runFrom (World.next twoNames) twoDevices tr

theorem run_play {tr : List (Label Side)} (h : ∀ l ∈ tr, PairLabel twoNames l) :
    (pairSystem twoNames).Run tr (play tr) := by
  refine System.run_restrict ready_twoDevices ?_
  intro p l hp
  exact h l (hp.mem (by simp))

theorem pairLabel_start (s : Side) : PairLabel twoNames (startLabel s) :=
  ⟨friendly_calm _, .start _ rfl⟩

theorem pairLabel_stop (s : Side) : PairLabel twoNames (stopLabel s) :=
  ⟨friendly_calm _, .stop _⟩

theorem pairLabel_deliver (s : Side) : PairLabel twoNames (deliverLabel s) :=
  ⟨rfl, friendly_calm _⟩

theorem quiet_of_forall {w : World Side} (h : w.link .a .a = [] ∧ w.link .a .b = [] ∧
    w.link .b .a = [] ∧ w.link .b .b = []) : w.Quiet := by
  intro s t
  obtain ⟨haa, hab, hba, hbb⟩ := h
  cases s <;> cases t <;> assumption

/-- B gives back what A has started; A stops and starts anew before it hears of that. -/
def crossingRun : List (Label Side) :=
  [startLabel .a, deliverLabel .b, startLabel .b, stopLabel .a, startLabel .a,
    deliverLabel .a, deliverLabel .b, deliverLabel .b]

/-- A starts B, B gives the cooperation back and then starts A. -/
def givenBack : List (Label Side) :=
  [startLabel .a, deliverLabel .b, startLabel .b, deliverLabel .a, startLabel .b, deliverLabel .a]

/-- At the end B is OUT to A, and A is IN from B. -/
theorem pair_agreement_givenBack :
    (play givenBack).OutTo twoNames .b ∧ (play givenBack).InFrom twoNames .a := by
  have run : ((pairSystem twoNames).restrict fun w l _ => Timely w l).Run givenBack
      (play givenBack) := by
    refine System.run_restrict_restrict ready_twoDevices ?_
    have start (s : Side) (w : World Side) : PairLabel twoNames (startLabel s) ∧
        Timely w (startLabel s) := ⟨pairLabel_start s, trivial⟩
    refine .cons (start .a _) (.cons ⟨pairLabel_deliver .b, ?_⟩ (.cons (start .b _)
      (.cons ⟨pairLabel_deliver .a, ?_⟩ (.cons (start .b _)
        (.cons ⟨pairLabel_deliver .a, ?_⟩ .nil)))))
    · rintro packet ⟨⟩ other
      exact absurd rfl other
    · rintro packet ⟨⟩ - -
      exact ⟨rfl, by decide⟩
    · rintro packet ⟨⟩ other
      exact absurd rfl other
  have quiet : (play givenBack).Quiet := quiet_of_forall ⟨rfl, rfl, rfl, rfl⟩
  have inFrom : (play givenBack).InFrom twoNames .a := ⟨rfl, rfl⟩
  exact ⟨((pair_agreement named_twoNames quiet .b).2 _ run).mpr inFrom, inFrom⟩

/-- The COME_BACK of the first cooperation ends the second one on A only. -/
theorem stale_comeBack_disagrees :
    ¬ ∀ (id : Side → NetworkId) (tr : List (Label Side)) (w : World Side), Named id →
      (pairSystem id).Run tr w → w.Quiet → ∀ s, (w.OutTo id s ↔ w.InFrom id s.other) := by
  intro claim
  have run : (pairSystem twoNames).Run crossingRun (play crossingRun) := by
    refine run_play ?_
    simp [crossingRun, pairLabel_start, pairLabel_stop, pairLabel_deliver]
  have quiet : (play crossingRun).Quiet := quiet_of_forall ⟨rfl, rfl, rfl, rfl⟩
  have comesIn : (play crossingRun).InFrom twoNames .b := ⟨rfl, rfl⟩
  have stopped : ((play crossingRun).device .a).machine.current = .free := rfl
  have out := (claim twoNames crossingRun _ named_twoNames run quiet .a).mpr comesIn
  exact absurd (stopped.symm.trans out.1) (by decide)

end DeviceStatus.Cooperation
