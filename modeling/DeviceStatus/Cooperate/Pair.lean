import DeviceStatus.Cooperate.Context
import DeviceStatus.Library.Transition

/-!
# Two devices, abstractly

What a cooperation of two devices is for: input goes out on one of them and comes in on the
other. A device is a state, a message is one of three signals, and each direction has a FIFO
link. Going out implies that the other side comes in as soon as nothing is in flight; the
converse needs that no signal of an earlier cooperation ends a later one.

## Main definitions

* `Pair`, `Pair.Step` — the two states and links, and what can happen to them.
* `Pair.Followed` — a device that goes out is followed by the other.
* `Pair.Led` — a device that comes in is led by the other.
-/

namespace DeviceStatus.Cooperation

inductive Side where
  | a | b
  deriving DecidableEq

def Side.other : Side → Side
  | .a => .b
  | .b => .a

@[simp] theorem Side.other_other (s : Side) : s.other.other = s := by cases s <;> rfl

@[simp] theorem Side.other_ne (s : Side) : s.other ≠ s := by cases s <;> simp [other]

@[simp] theorem Side.ne_other (s : Side) : s ≠ s.other := s.other_ne.symm

theorem Side.forall_of {P : Side → Prop} (s : Side) (self : P s) (other : P s.other) :
    ∀ t, P t := by
  intro t
  cases s <;> cases t <;> assumption

/-- START_COOPERATE, STOP_COOPERATE and COME_BACK. -/
inductive Signal where
  | start | stop | back
  deriving DecidableEq

/-- What a device does on a signal of the other: the state it goes to and the signals it
sends. -/
def respond : CooperateState → Signal → CooperateState × List Signal
  | .out, .start => (.free, [.stop])
  | _, .start => (.in, [])
  | _, .stop => (.free, [])
  | .out, .back => (.free, [])
  | c, .back => (c, [])

/-- What a device does by itself. -/
inductive Act : CooperateState → CooperateState → List Signal → Prop
  | idle (c : CooperateState) : Act c c []
  | start : Act .free .out [.start]
  | back : Act .in .free [.back]
  | stop {c : CooperateState} (h : c ≠ .free) : Act c .free [.stop]

theorem Act.of_out {c : CooperateState} {sent : List Signal} (h : Act c .out sent) :
    (c = .out ∧ sent = []) ∨ sent = [.start] := by
  cases h with
  | idle => exact .inl ⟨rfl, rfl⟩
  | start => exact .inr rfl

/-- An act is silent only when it does nothing. -/
theorem Act.eq_or_sent {c c' : CooperateState} {sent : List Signal} (h : Act c c' sent) :
    (c' = c ∧ sent = []) ∨ sent ≠ [] := by
  cases h with
  | idle => exact .inl ⟨rfl, rfl⟩
  | start | back | stop => exact .inr (by simp)

/-- Nothing a device does by itself leads to IN. -/
theorem Act.of_in {c c' : CooperateState} {sent : List Signal} (h : Act c c' sent)
    (hc : c' = .in) : c = .in := by
  cases h <;> first | exact hc | cases hc

/-- `link s` leads from `s` to the other side, its oldest signal first. -/
@[ext] structure Pair where
  state : Side → CooperateState
  link : Side → List Signal

namespace Pair

variable {p p' : Pair} {s t : Side}

/-- `s` goes to the state `c` and sends. -/
def put (s : Side) (c : CooperateState) (sent : List Signal) (p : Pair) : Pair where
  state t := if t = s then c else p.state t
  link t := if t = s then p.link t ++ sent else p.link t

/-- The link of `s` loses its oldest signal. -/
def take (s : Side) (rest : List Signal) (p : Pair) : Pair :=
  { p with link := fun t => if t = s then rest else p.link t }

section Fields

variable (s : Side) (c : CooperateState) (sent rest : List Signal) (p : Pair)

@[simp] theorem state_put_self : (p.put s c sent).state s = c := if_pos rfl

@[simp] theorem state_put_other : (p.put s c sent).state s.other = p.state s.other :=
  if_neg s.other_ne

@[simp] theorem link_put_self : (p.put s c sent).link s = p.link s ++ sent := if_pos rfl

@[simp] theorem link_put_other : (p.put s c sent).link s.other = p.link s.other :=
  if_neg s.other_ne

@[simp] theorem state_take : (p.take s rest).state = p.state := rfl

@[simp] theorem link_take_self : (p.take s rest).link s = rest := if_pos rfl

@[simp] theorem link_take_other : (p.take s rest).link s.other = p.link s.other :=
  if_neg s.other_ne

@[simp] theorem link_take_of_other : (p.take s.other rest).link s = p.link s :=
  if_neg s.ne_other

@[simp] theorem put_idle : p.put s (p.state s) [] = p := by
  refine Pair.ext (funext (Side.forall_of s ?_ ?_)) (funext (Side.forall_of s ?_ ?_)) <;> simp

end Fields

/-- One side acts, or takes a signal from its link; `ok` restricts the latter. -/
inductive Step (ok : Pair → Side → Signal → Prop) : Pair → Pair → Prop
  | act (s : Side) {c : CooperateState} {sent : List Signal} {p : Pair}
      (h : Act (p.state s) c sent) : Step ok p (p.put s c sent)
  | receive (s : Side) {signal : Signal} {rest : List Signal} {p : Pair}
      (h : p.link s.other = signal :: rest) (fits : ok p s signal) :
      Step ok p ((p.take s.other rest).put s (respond (p.state s) signal).1
        (respond (p.state s) signal).2)

theorem Step.stay {ok : Pair → Side → Signal → Prop} : Step ok p p := by
  have h : Step ok p (p.put .a (p.state .a) []) := .act .a (.idle _)
  rwa [put_idle] at h

theorem Step.mono {ok ok' : Pair → Side → Signal → Prop} (h : Step ok p p')
    (le : ∀ s signal, ok p s signal → ok' p s signal) : Step ok' p p' := by
  cases h with
  | act s h => exact .act s h
  | receive s h fits => exact .receive s h (le _ _ fits)

/-- The pair of devices as a system, whatever its labels are called. -/
def system (Label : Type*) (ok : Pair → Side → Signal → Prop) :
    Transition.System Pair Label where
  init p := ∀ s, p.state s = .free ∧ p.link s = []
  step p _ p' := Step ok p p'

/-! ## Who goes out is followed -/

/-- If `s` is OUT, its last signal was START; once that has arrived, the other side is IN or
has answered. -/
def FollowedAt (p : Pair) (s : Side) : Prop :=
  p.state s = .out → (∃ before, p.link s = before ++ [.start]) ∨
    (p.link s = [] ∧ (p.state s.other = .in ∨ p.link s.other ≠ []))

def Followed (p : Pair) : Prop := ∀ s, p.FollowedAt s

theorem respond_ne_out (c : CooperateState) (signal : Signal) : (respond c signal).1 ≠ .out := by
  cases c <;> cases signal <;> simp [respond]

/-- START is answered by IN or by a signal. -/
theorem respond_start (c : CooperateState) :
    (respond c .start).1 = .in ∨ (respond c .start).2 ≠ [] := by
  cases c <;> simp [respond]

theorem Step.followed {ok : Pair → Side → Signal → Prop} (h : Step ok p p')
    (hp : p.Followed) : p'.Followed := by
  cases h with
  | @act s c sent _ h =>
    refine Side.forall_of s ?_ ?_
    · intro hc
      simp only [state_put_self] at hc
      subst hc
      rcases h.of_out with ⟨hc, rfl⟩ | rfl
      · simpa using hp s hc
      · exact .inl ⟨p.link s, by simp⟩
    · intro hc
      simp only [state_put_other] at hc
      rcases hp s.other hc with hl | ⟨hl, ho⟩
      · exact .inl (by simpa using hl)
      · refine .inr ⟨by simpa using hl, ?_⟩
        simp only [Side.other_other, state_put_self, link_put_self] at ho ⊢
        rcases h.eq_or_sent with ⟨rfl, rfl⟩ | hs
        · simpa using ho
        · exact .inr (by simp [hs])
  | @receive s signal rest _ h fits =>
    refine Side.forall_of s ?_ ?_
    · intro hc
      simp only [state_put_self] at hc
      exact absurd hc (respond_ne_out _ _)
    · intro hc
      simp only [state_put_other, state_take] at hc
      rcases hp s.other hc with ⟨before, hl⟩ | ⟨hl, -⟩
      · rw [h] at hl
        cases before with
        | nil =>
          obtain ⟨rfl, rfl⟩ : signal = .start ∧ rest = [] := by simpa using hl
          refine .inr ⟨by simp, ?_⟩
          simp only [Side.other_other, state_put_self, link_put_self]
          rcases respond_start (p.state s) with hr | hr
          · exact .inl hr
          · exact .inr (by simp [hr])
        | cons first before =>
          obtain ⟨rfl, rfl⟩ : signal = first ∧ rest = before ++ [.start] := by simpa using hl
          exact .inl ⟨before, by simp⟩
      · simp [h] at hl

/-- Going out with nothing in flight means that the other side is IN. -/
theorem Followed.quiet (h : p.Followed) (quiet : ∀ s, p.link s = []) (hc : p.state s = .out) :
    p.state s.other = .in := by
  rcases h s hc with ⟨before, hl⟩ | ⟨-, ho | hl⟩
  · simp [quiet s] at hl
  · exact ho
  · exact absurd (quiet s.other) hl

/-! ## Who comes in is led -/

/-- No STOP and no BACK of an earlier cooperation: they find a device in OUT only when all it
has sent has arrived and the other side is no longer IN. -/
def Current (p : Pair) (s : Side) : Signal → Prop
  | .start => True
  | .stop | .back => p.state s = .out → p.link s = [] ∧ p.state s.other ≠ .in

/-- What a signal that arrives makes of a device that is IN, or not. -/
def arrive (isIn : Bool) : Signal → Bool
  | .start => true
  | .stop => false
  | .back => isIn

/-- Whether a device is IN once all signals that are in flight to it have arrived, if it does
not turn them down. -/
def willBeIn (c : CooperateState) (signals : List Signal) : Bool :=
  signals.foldl arrive (c = .in)

/-- If the other side is or will be IN, then `s` is OUT. -/
def Led (p : Pair) : Prop :=
  ∀ s, willBeIn (p.state s.other) (p.link s) = true → p.state s = .out

theorem foldl_arrive_mono (signals : List Signal) (h : signals.foldl arrive false = true) :
    signals.foldl arrive true = true := by
  induction signals with
  | nil => cases h
  | cons signal signals ih =>
    cases signal with
    | start => exact h
    | stop => exact h
    | back => exact ih h

/-- A device that leaves IN is less likely to be IN. -/
theorem willBeIn_mono {c c' : CooperateState} {signals : List Signal}
    (hc : c' = .in → c = .in) (h : willBeIn c' signals = true) : willBeIn c signals = true := by
  unfold willBeIn at h ⊢
  by_cases hin : c' = .in
  · simpa [hin, hc hin] using h
  · by_cases hin' : c = .in
    · simpa [hin'] using foldl_arrive_mono signals (by simpa [hin] using h)
    · simpa [hin, hin'] using h

theorem willBeIn_append (c : CooperateState) (signals : List Signal) (signal : Signal) :
    willBeIn c (signals ++ [signal]) = arrive (willBeIn c signals) signal := by
  simp [willBeIn]

theorem willBeIn_respond {c : CooperateState} {signal : Signal} {rest : List Signal}
    (h : willBeIn (respond c signal).1 rest = true) : willBeIn c (signal :: rest) = true := by
  unfold willBeIn at h ⊢
  rw [List.foldl_cons]
  cases c <;> cases signal <;> first | exact h | exact foldl_arrive_mono rest h

theorem Step.led (h : Step Current p p') (hp : p.Led) : p'.Led := by
  cases h with
  | @act s c sent _ h =>
    refine Side.forall_of s ?_ ?_
    · intro hin
      simp only [state_put_self, state_put_other, link_put_self] at hin ⊢
      generalize hc : p.state s = c' at h
      cases h with
      | idle => exact hc.symm.trans (hp s (by simpa using hin))
      | start => rfl
      | back =>
        have ho := hp s (by simpa [willBeIn_append, arrive] using hin)
        simp [hc] at ho
      | stop => simp [willBeIn_append, arrive] at hin
    · intro hin
      simp only [Side.other_other, state_put_self, state_put_other, link_put_other] at hin ⊢
      have hin := willBeIn_mono h.of_in hin
      exact hp s.other (by simpa using hin)
  | @receive s signal rest _ h current =>
    refine Side.forall_of s ?_ ?_
    · intro hin
      simp only [state_put_self, state_put_other, state_take, link_put_self,
        link_take_of_other] at hin ⊢
      cases hc : p.state s with
      | out =>
        rw [hc] at hin
        cases signal with
        | start => simp [respond, willBeIn_append, arrive] at hin
        | stop | back =>
          obtain ⟨hl, ho⟩ := current hc
          simp [respond, hl, willBeIn, ho] at hin
      | free | «in» =>
        rw [hc] at hin
        have ho := hp s (by cases signal <;> simpa [respond] using hin)
        simp [hc] at ho
    · intro hin
      simp only [Side.other_other, state_put_self, state_put_other, state_take, link_put_other,
        link_take_self] at hin ⊢
      have hin := willBeIn_respond hin
      rw [← h] at hin
      exact hp s.other (by simpa using hin)

/-- Being IN with nothing in flight means that the other side is OUT. -/
theorem Led.quiet (h : p.Led) (quiet : ∀ s, p.link s = []) (hc : p.state s = .in) :
    p.state s.other = .out :=
  h s.other (by simp [willBeIn, quiet, hc])

/-! ## Runs -/

variable {Label : Type*} {tr : List Label}

theorem followed_of_run {ok : Pair → Side → Signal → Prop} (run : (system Label ok).Run tr p) :
    p.Followed := by
  refine run.invariant ?_ ?_
  · intro p init s hc
    simp [(init s).1] at hc
  · intro p l p' hp h
    exact Step.followed h hp

theorem led_of_run (run : (system Label Current).Run tr p) : p.Led := by
  refine run.invariant ?_ ?_
  · intro p init s hin
    simp [willBeIn, (init s).2, (init s.other).1] at hin
  · intro p l p' hp h
    exact Step.led h hp

end Pair

end DeviceStatus.Cooperation
