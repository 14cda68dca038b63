import DeviceStatus.Cooperate.SpeedMoves
import DeviceStatus.Cooperate.Invariants

/-!
# Speeds over whole runs

The user's own speeds come back whenever a run is in FREE again, unless a DISABLE in FREE
resets to speeds that were saved for an earlier cooperation. In IN the peer's speeds have been
set, unless the device was bound while it was in OUT or IN: on these two paths the speeds of the
message are cleared, or never stored, before they are applied.

## Main definitions

* `StaleReset` — the DISABLE in FREE that changes the user's speeds.
* `Ledger` — a device with the speeds of its binding message and those last asked for.
* `LosesSpeeds` — the binding start message whose speeds are not applied.
-/

namespace DeviceStatus.Cooperation

open Transition Observed Speeds

/-! ## The user's own speeds -/

/-- The settings hold values that the input service takes as they are. -/
structure Admits (env : Env) (settings : InputSettings) : Prop where
  pointer : ∀ current, env.applyPointerSpeed current settings.pointerSpeed = settings.pointerSpeed
  touchPad : ∀ current,
    env.applyTouchPadSpeed current settings.touchPadSpeed = settings.touchPadSpeed
  le_max : settings.touchPadSpeed ≤ Context.MAX_MOUSE_SPEED

/-- The user's speeds are in force, or saved for the way back. -/
structure Restorable (settings : InputSettings) (s : Speeds) : Prop where
  inForce : s.current ≠ .in →
    s.pointer = settings.pointerSpeed ∧ s.touchPad = settings.touchPadSpeed
  saved : s.current ≠ .free →
    s.originPointer = settings.pointerSpeed ∧ s.originTouchPad = settings.touchPadSpeed

/-- Resetting to the saved speeds would change the speeds in force. -/
def ResetChanges (env : Env) (m : Cooperate) : Prop :=
  ¬ (env.applyPointerSpeed m.input.pointerSpeed m.context.originPointerSpeed =
      m.input.pointerSpeed ∧
    (m.context.originTouchPadSpeed ≤ Context.MAX_MOUSE_SPEED →
      env.applyTouchPadSpeed m.input.touchPadSpeed m.context.originTouchPadSpeed =
        m.input.touchPadSpeed))

/-- A DISABLE in FREE, while something is dragged from another device, that resets the speeds
although what is saved is not the user's. -/
def StaleReset (l : Stimulus) (m : Cooperate) : Prop :=
  (∃ n, l.2 = .disable n) ∧ m.machine.current = .free ∧ l.1.dragState = .start ∧
    l.1.isCrossDragging = true ∧ ResetChanges l.1 m

namespace Speeds

variable {env : Env} {settings : InputSettings} {s : Speeds}

theorem origin_reset :
    (s.reset env).originPointer = s.originPointer ∧
      (s.reset env).originTouchPad = s.originTouchPad := by
  unfold reset setTouchPad setPointer
  split <;> exact ⟨rfl, rfl⟩

theorem pointer_reset :
    (s.reset env).pointer = env.applyPointerSpeed s.pointer s.originPointer := by
  unfold reset setTouchPad setPointer
  split <;> rfl

theorem touchPad_reset :
    (s.reset env).touchPad =
      if Context.MAX_MOUSE_SPEED < s.originTouchPad then s.touchPad
      else env.applyTouchPadSpeed s.touchPad s.originTouchPad := by
  unfold reset setTouchPad setPointer
  dsimp only
  split <;> rfl

/-- A reset to saved speeds that the input service admits puts them in force. -/
theorem inForce_reset (admits : Admits env settings)
    (saved : s.originPointer = settings.pointerSpeed ∧
      s.originTouchPad = settings.touchPadSpeed) :
    (s.reset env).pointer = settings.pointerSpeed ∧
      (s.reset env).touchPad = settings.touchPadSpeed := by
  rw [pointer_reset, touchPad_reset, saved.1, saved.2,
    if_neg (Int32.not_lt.mpr admits.le_max)]
  exact ⟨admits.pointer _, admits.touchPad _⟩

theorem origin_transitionIn :
    (s.transitionIn env).originPointer = s.pointer ∧
      (s.transitionIn env).originTouchPad = s.touchPad := by
  unfold transitionIn setTouchPad setPointer
  dsimp only
  split <;> exact ⟨rfl, rfl⟩

end Speeds

theorem SpeedMove.restorable {env : Env} {e : CooperateEvent} {o : Observed} {s s' : Speeds}
    {settings : InputSettings} (h : SpeedMove env e o s s') (admits : Admits env settings)
    (hs : Restorable settings s)
    (kept : (∃ n, e = .disable n) → s.current = .free → env.dragState = .start →
      env.isCrossDragging = true →
      (s.reset env).pointer = s.pointer ∧ (s.reset env).touchPad = s.touchPad) :
    Restorable settings s' := by
  cases h with
  | keep => exact ⟨hs.inForce, hs.saved⟩
  | begin _ hc =>
    have inForce := hs.inForce (by simp [hc])
    exact ⟨fun _ => inForce, fun _ => inForce⟩
  | pair _ hc =>
    have inForce := hs.inForce (by simp [hc])
    refine ⟨fun h => absurd (current_transitionIn ..) h, fun _ => ?_⟩
    rw [origin_transitionIn.1, origin_transitionIn.2]
    exact inForce
  | pairOut _ hc =>
    have inForce := inForce_reset admits (hs.saved (by simp [hc]))
    refine ⟨fun h => absurd (current_transitionIn ..) h, fun _ => ?_⟩
    rw [origin_transitionIn.1, origin_transitionIn.2]
    exact inForce
  | @pairIn v _ hc =>
    have inForce := inForce_reset (s := s.storePeer v) admits (hs.saved (by simp [hc]))
    have stays : (((s.storePeer v).reset env).transitionIn env).current = .in := by
      rw [current_transitionIn, current_reset]
      exact hc
    refine ⟨fun h => absurd stays h, fun _ => ?_⟩
    rw [origin_transitionIn.1, origin_transitionIn.2]
    exact inForce
  | leave _ hc =>
    have inForce := inForce_reset (s := s.goto .free) admits (hs.saved hc)
    exact ⟨fun _ => inForce, fun h => absurd (current_reset ..) h⟩
  | leaveTwice _ hc =>
    have saved := hs.saved (by simp [hc])
    have savedStill : (((s.goto .free).reset env).goto .free).originPointer =
          settings.pointerSpeed ∧
        (((s.goto .free).reset env).goto .free).originTouchPad = settings.touchPadSpeed := by
      have := @origin_reset env (s.goto .free)
      exact ⟨this.1.trans saved.1, this.2.trans saved.2⟩
    exact ⟨fun _ => inForce_reset admits savedStill, fun h => absurd (current_reset ..) h⟩
  | resetFree he hc drag cross =>
    obtain ⟨pointer, touchPad⟩ := kept ⟨_, he⟩ hc drag cross
    have inForce := hs.inForce (by simp [hc])
    refine ⟨fun _ => ⟨pointer.trans inForce.1, touchPad.trans inForce.2⟩, fun h => ?_⟩
    exact absurd ((current_reset ..).trans hc) h

theorem not_resetChanges_iff {env : Env} {m : Cooperate} {s : Speeds}
    (hs : s = { spd m with asked := [] }) :
    ¬ ResetChanges env m ↔
      (s.reset env).pointer = s.pointer ∧ (s.reset env).touchPad = s.touchPad := by
  have touchPad : (s.reset env).touchPad = s.touchPad ↔
      (m.context.originTouchPadSpeed ≤ Context.MAX_MOUSE_SPEED →
        env.applyTouchPadSpeed m.input.touchPadSpeed m.context.originTouchPadSpeed =
          m.input.touchPadSpeed) := by
    have origin : s.originTouchPad = m.context.originTouchPadSpeed := by rw [hs]; rfl
    have current : s.touchPad = m.input.touchPadSpeed := by rw [hs]; rfl
    rw [touchPad_reset, origin, current]
    split
    · next above => simp only [Int32.not_le.mpr above, false_imp_iff]
    · next below => simp only [Int32.not_lt.mp below, true_imp_iff]
  rw [ResetChanges, not_not, pointer_reset, touchPad, hs]
  rfl

theorem restorable_next {settings : InputSettings} {l : Stimulus} {m : Cooperate}
    (admits : Admits l.1 settings) (hm : Restorable settings (spd m)) (ok : ¬ StaleReset l m) :
    Restorable settings (spd (next l m)) := by
  refine (step_speedMove l.1 m l.2).restorable admits ⟨hm.inForce, hm.saved⟩ ?_
  rintro ⟨n, he⟩ hc drag cross
  have disable : l.2 = .disable n := by
    cases hr : l.2.remoteStart? with
    | none => rwa [handled_of_none l.1 hr] at he
    | some r =>
      unfold handled at he
      rw [hr] at he
      dsimp only at he
      split at he
      · exact he
      · cases he
  have keeps : ¬ ResetChanges l.1 m := fun changes =>
    ok ⟨⟨n, disable⟩, hc, drag, cross, changes⟩
  exact (not_resetChanges_iff rfl).mp keeps

/-- What DISABLE does in FREE while something is dragged from another device. -/
theorem spd_disable_dragging {l : Stimulus} {m : Cooperate} {n : DisableCooperateEvent}
    (he : l.2 = .disable n) (hc : m.machine.current = .free) (drag : l.1.dragState = .start)
    (cross : l.1.isCrossDragging = true) :
    spd (next l m) = { spd m with asked := [] }.reset l.1 := by
  obtain ⟨env, e⟩ := l
  obtain rfl : e = .disable n := he
  dsimp only at drag cross ⊢
  have free (mo : Cooperate) (h : spd mo = { spd m with asked := [] }) :
      spd (StateMachine.transfer env (.disable n) mo) = { spd m with asked := [] }.reset env := by
    have hc' : mo.machine.current = .free := (congrArg Speeds.current h).trans hc
    simp [StateMachine.transfer, hc', Free.onEvent, Free.onDisable, drag, cross, ← h]
  refine free _ ?_
  rw [spd_isCooperateEnable]
  simp [EventManager.disableCooperate]
  rfl

theorem not_staleReset {l : Stimulus} {m : Cooperate} (h : ∀ n, l.2 ≠ .disable n) :
    ¬ StaleReset l m := by
  rintro ⟨⟨n, he⟩, -⟩
  exact h n he

/-- A device that has cooperated and is FREE again, where the user then picks new speeds. -/
def newSpeedsPicked : Cooperate :=
  let env : Env := { localNetworkId := [65] }
  { after (fresh {})
      [(env, .start ⟨1, 1, [66], 1, 1, 0, -1, [], true⟩), (env, .stop {})] with
    input := { pointerSpeed := 15, touchPadSpeed := 15 } }

namespace SpeedCall

def pointer? : SpeedCall → Option Int32
  | .pointer speed => some speed
  | .touchPad _ => none

def touchPad? : SpeedCall → Option Int32
  | .pointer _ => none
  | .touchPad speed => some speed

end SpeedCall

/-- A device, the speeds that the message carried which bound it to its peer, and the speeds
that it has last asked the input service for. -/
structure Ledger where
  device : Cooperate
  paired : Option (Int32 × Int32) := none
  pointer : Option Int32 := none
  touchPad : Option Int32 := none

/-- The speeds of the event, if it binds the device to a peer. -/
def bindingSpeeds (l : Stimulus) (m : Cooperate) : Option (Int32 × Int32) :=
  pairedSpeeds l.1 (handled l.1 l.2 (obs m)) (obs m)

namespace Ledger

def record (l : Stimulus) (r : Ledger) : Ledger :=
  let device := next l r.device
  let asked := (spd device).asked
  { device
    paired := (bindingSpeeds l r.device).or r.paired
    pointer := (asked.filterMap SpeedCall.pointer?).getLast?.or r.pointer
    touchPad := (asked.filterMap SpeedCall.touchPad?).getLast?.or r.touchPad }

def after (r : Ledger) (tr : List Stimulus) : Ledger :=
  System.runFrom record r tr

theorem after_snoc (r : Ledger) (tr : List Stimulus) (l : Stimulus) :
    r.after (tr ++ [l]) = (r.after tr).record l := by
  simp only [after, System.runFrom, List.foldl_append, List.foldl_cons, List.foldl_nil]

end Ledger

/-- The calls end with these speeds; a touch pad speed above the maximum is not called for. -/
def AskedFor (v : Int32 × Int32) (pointer touchPad : Option Int32) : Prop :=
  pointer = some v.1 ∧ (v.2 ≤ Context.MAX_MOUSE_SPEED → touchPad = some v.2)

/-- In IN the speeds last asked for are those of the binding message. -/
def PeerSpeedsApplied (r : Ledger) : Prop :=
  r.device.machine.current = .in →
    ∃ v, r.paired = some v ∧ AskedFor v r.pointer r.touchPad

/-- A start message that binds the device although it is not FREE, other than one that carries
the cleared speeds. -/
def LosesSpeeds (l : Stimulus) (m : Cooperate) : Prop :=
  ∃ v, bindingSpeeds l m = some v ∧ m.machine.current ≠ .free ∧
    ¬ (v.1 = -1 ∧ (v.2 ≤ Context.MAX_MOUSE_SPEED → v.2 = -1))

namespace Speeds

variable {env : Env} {s : Speeds}

theorem peer_reset : (s.reset env).peerPointer = -1 ∧ (s.reset env).peerTouchPad = -1 := by
  unfold reset setTouchPad setPointer
  split <;> exact ⟨rfl, rfl⟩

/-- `OnTransitionIn` asks for the speeds that are stored of the peer. -/
theorem askedFor_transitionIn :
    AskedFor (s.peerPointer, s.peerTouchPad)
      ((s.transitionIn env).asked.filterMap SpeedCall.pointer?).getLast?
      ((s.transitionIn env).asked.filterMap SpeedCall.touchPad?).getLast? := by
  unfold transitionIn setTouchPad setPointer
  constructor
  · dsimp only
    split <;> simp [SpeedCall.pointer?, List.filterMap_cons]
  · intro h
    have notAbove : ¬ Context.MAX_MOUSE_SPEED < s.peerTouchPad := Int32.not_lt.mpr h
    dsimp only
    rw [if_neg notAbove]
    simp [SpeedCall.touchPad?, List.filterMap_cons]

end Speeds

/-- A move that ends in IN is no binding and asks for nothing, or it binds and asks for the
speeds of the message if it comes from FREE, otherwise for the cleared ones. -/
theorem SpeedMove.askedFor {env : Env} {e : CooperateEvent} {o : Observed} {s s' : Speeds}
    (h : SpeedMove env e o s s') (hc : s'.current = .in) :
    (pairedSpeeds env e o = none ∧ s.current = .in ∧ s'.asked = s.asked) ∨
      ∃ v, pairedSpeeds env e o = some v ∧
        AskedFor (if s.current = .free then v else (-1, -1))
          (s'.asked.filterMap SpeedCall.pointer?).getLast?
          (s'.asked.filterMap SpeedCall.touchPad?).getLast? := by
  cases h with
  | keep unpaired => exact .inl ⟨unpaired, hc, rfl⟩
  | begin => cases hc
  | @pair v paired free =>
    refine .inr ⟨v, paired, ?_⟩
    rw [if_pos free]
    exact askedFor_transitionIn (s := (s.storePeer v).goto .in)
  | @pairOut v paired out =>
    refine .inr ⟨v, paired, ?_⟩
    have stored : ((s.reset env).goto .in).peerPointer = -1 ∧
        ((s.reset env).goto .in).peerTouchPad = -1 := peer_reset
    have asked := @askedFor_transitionIn env ((s.reset env).goto .in)
    rw [stored.1, stored.2] at asked
    rw [if_neg (by simp [out])]
    exact asked
  | @pairIn v paired inside =>
    refine .inr ⟨v, paired, ?_⟩
    have asked := @askedFor_transitionIn env ((s.storePeer v).reset env)
    rw [peer_reset.1, peer_reset.2] at asked
    rw [if_neg (by simp [inside])]
    exact asked
  | leave => exact absurd hc (by simp)
  | leaveTwice => exact absurd hc (by simp)
  | resetFree _ free => exact absurd hc (by simp [free])

theorem SpeedMove.current_of_paired {env : Env} {e : CooperateEvent} {o : Observed}
    {s s' : Speeds} {v : Int32 × Int32} (h : SpeedMove env e o s s')
    (paired : pairedSpeeds env e o = some v) : s'.current = .in := by
  cases h with
  | pair | pairOut => rw [current_transitionIn]; rfl
  | pairIn _ inside => rw [current_transitionIn, current_reset]; exact inside
  | resetFree he => subst he; cases paired
  | keep unpaired | begin unpaired | leave unpaired | leaveTwice unpaired =>
    cases unpaired.symm.trans paired

/-- What an event adds to the ledger when it leaves the device in IN. -/
theorem record_in {l : Stimulus} {r : Ledger} (hc : (next l r.device).machine.current = .in) :
    (bindingSpeeds l r.device = none ∧ r.device.machine.current = .in ∧
        r.record l = { r with device := next l r.device }) ∨
      ∃ v, bindingSpeeds l r.device = some v ∧ (r.record l).paired = some v ∧
        AskedFor (if r.device.machine.current = .free then v else (-1, -1))
          (r.record l).pointer (r.record l).touchPad := by
  rcases (step_speedMove l.1 r.device l.2).askedFor hc with
    ⟨unpaired, inside, asked⟩ | ⟨v, paired, pointer, touchPad⟩
  · refine .inl ⟨unpaired, inside, ?_⟩
    have asked : (spd (next l r.device)).asked = [] := asked
    have unpaired : bindingSpeeds l r.device = none := unpaired
    simp only [Ledger.record, asked, unpaired, List.filterMap_nil, List.getLast?_nil,
      Option.none_or]
  · have paired : bindingSpeeds l r.device = some v := paired
    refine .inr ⟨v, paired, by simp only [Ledger.record, paired, Option.some_or], ?_, ?_⟩
    · exact Option.or_eq_some_iff.mpr (.inl pointer)
    · exact fun le => Option.or_eq_some_iff.mpr (.inl (touchPad le))

theorem peerSpeedsApplied_record {l : Stimulus} {r : Ledger} (h : PeerSpeedsApplied r)
    (ok : ¬ LosesSpeeds l r.device) : PeerSpeedsApplied (r.record l) := by
  intro hc
  rcases record_in hc with ⟨-, inside, same⟩ | ⟨v, bound, paired, asked⟩
  · rw [same]
    exact h inside
  · refine ⟨v, paired, ?_⟩
    by_cases free : r.device.machine.current = .free
    · rwa [if_pos free] at asked
    · rw [if_neg free] at asked
      have cleared : v.1 = -1 ∧ (v.2 ≤ Context.MAX_MOUSE_SPEED → v.2 = -1) := by
        by_contra other
        exact ok ⟨v, bound, free, other⟩
      refine ⟨asked.1.trans (congrArg some cleared.1.symm), fun le => ?_⟩
      rw [cleared.2 le]
      exact asked.2 (by decide)

/-- A binding in OUT or IN leaves the device in IN, with the cleared speeds asked for. -/
theorem not_peerSpeedsApplied_record {l : Stimulus} {r : Ledger} (loses : LosesSpeeds l r.device) :
    ¬ PeerSpeedsApplied (r.record l) := by
  obtain ⟨v, bound, notFree, other⟩ := loses
  have hc : (next l r.device).machine.current = .in := by
    have move := step_speedMove l.1 r.device l.2
    exact move.current_of_paired bound
  intro h
  obtain ⟨w, recorded, asked⟩ := h hc
  rcases record_in hc with ⟨unbound, -⟩ | ⟨v', bound', paired, cleared⟩
  · cases unbound.symm.trans bound
  · obtain rfl : v' = v := Option.some.inj (bound'.symm.trans bound)
    obtain rfl : w = v' := Option.some.inj (recorded.symm.trans paired)
    rw [if_neg notFree] at cleared
    refine other ⟨Option.some.inj (asked.1.symm.trans cleared.1), fun le => ?_⟩
    exact Option.some.inj ((asked.2 le).symm.trans (cleared.2 (by decide)))

/-- The peer's speeds have been asked for in every state of IN, exactly when no start message
binds the device while it is in OUT or IN, other than one that carries the cleared speeds. -/
theorem peerSpeeds_applied_iff (settings : InputSettings) (tr : List Stimulus) :
    (∀ p, p <+: tr → PeerSpeedsApplied (Ledger.after { device := fresh settings } p)) ↔
      System.EachStep Ledger.record (fun l r => ¬ LosesSpeeds l r.device)
        { device := fresh settings } tr := by
  constructor
  · intro h p l hp loses
    have applied := h _ hp
    rw [Ledger.after_snoc] at applied
    exact not_peerSpeedsApplied_record loses applied
  · intro each p
    induction p using List.reverseRecOn with
    | nil => exact fun _ hc => by cases hc
    | append_singleton p l ih =>
      intro hp
      rw [Ledger.after_snoc]
      exact peerSpeedsApplied_record (ih ((List.prefix_append p [l]).trans hp)) (each p l hp)

/-- A device that is re-paired while it is in IN. -/
def repairedInside : List Stimulus :=
  let env : Env := { localNetworkId := [65] }
  [(env, .enable { tokenId := 1, pid := 1, userData := 1 }),
    (env, .dsoftbusStartCooperate
      { networkId := [66], originNetworkId := [66], pointerSpeed := 7, touchPadSpeed := 8 }),
    (env, .dsoftbusStartCooperate
      { networkId := [67], originNetworkId := [67], pointerSpeed := 3, touchPadSpeed := 4 })]

/-- Speed 7 is asked for first, but -1 and not 3 for the next peer. -/
theorem repaired_without_speeds :
    ¬ ∀ (settings : InputSettings) (tr p : List Stimulus), p <+: tr →
      PeerSpeedsApplied (Ledger.after { device := fresh settings } p) := by
  intro applied
  let r := Ledger.after { device := fresh {} } repairedInside
  have inside : r.device.machine.current = .in := by decide
  have paired : r.paired = some (3, 4) := by decide
  have asked : r.pointer = some (-1) := by decide
  obtain ⟨v, bound, pointer, -⟩ :=
    applied {} repairedInside repairedInside List.prefix_rfl inside
  obtain rfl := Option.some.inj (bound.symm.trans paired)
  exact absurd (asked.symm.trans pointer) (by decide)

end DeviceStatus.Cooperation
