import DeviceStatus.Library.Transition
import Mathlib.Tactic.Common

/-!
# Handing a cooperation over, abstractly

A sends its input to B, and B asks A to send it to C from now on. A turns to C when it grants
the request, before B has told C anything; from then on the cooperation depends on B, which
alone starts C. What has to hold is that A does not go on sending to a device that does not
listen. Once A has stopped nothing can go wrong any more, and its state is not kept.

## Main definitions

* `Handover`, `Handover.Step` — the roles, the messages in flight, and what can happen.
* `Handover.Phase` — the phases of a hand-over that goes as it should.
-/

namespace DeviceStatus.Cooperation

/-- Where A sends its input. -/
inductive Direction where
  | toB | toC
  deriving DecidableEq

/-- Whether B listens to A, and whether it waits for the answer to its request. -/
inductive Holder where
  | free | listening | asking
  deriving DecidableEq

/-- What B has to say to A: RELAY_COOPERATE and STOP_COOPERATE. -/
inductive Request where
  | relay | stop
  deriving DecidableEq

/-- A sends its input. -/
structure Handover where
  direction : Direction
  holder : Holder
  /-- C listens to A -/
  target : Bool
  /-- from B to A -/
  requests : List Request
  /-- from A to B, whether the request was granted -/
  answers : List Bool
  /-- START_COOPERATE under way from B to C -/
  starts : ℕ
  /-- STOP_COOPERATE under way from C to A -/
  stops : ℕ
  deriving DecidableEq

namespace Handover

/-- What can happen, with `none` for A having stopped, by itself or because the device it sends
to has left. B leaves its confirmation step only for
an answer once A has turned to C (`leave`), A grants only a request that B still waits on
(`grant`), and C listens once it is started (`start`). -/
inductive Step : Handover → Option Handover → Prop
  | stay {h : Handover} : Step h (some h)
  | stop {h : Handover} : Step h none
  | ask {h : Handover} {sent : List Request} (listening : h.holder = .listening)
      (hs : sent = [.relay] ∨ sent = []) :
      Step h (some { h with holder := .asking, requests := h.requests ++ sent })
  | leave {h : Handover} (notFree : h.holder ≠ .free)
      (orderly : ¬ (h.holder = .asking ∧ h.direction = .toC)) :
      Step h (some { h with holder := .free, requests := h.requests ++ [.stop] })
  | refused {h : Handover} {rest : List Bool} (asking : h.holder = .asking)
      (ha : h.answers = false :: rest) :
      Step h (some { h with
        holder := .free, requests := h.requests ++ [.stop], answers := rest })
  | granted {h : Handover} {rest : List Bool} (asking : h.holder = .asking)
      (ha : h.answers = true :: rest) :
      Step h (some { h with holder := .free, answers := rest, starts := h.starts + 1 })
  | unasked {h : Handover} {answer : Bool} {rest : List Bool} (notAsking : h.holder ≠ .asking)
      (ha : h.answers = answer :: rest) : Step h (some { h with answers := rest })
  | grant {h : Handover} {rest : List Request} (dir : h.direction = .toB)
      (hr : h.requests = .relay :: rest) (asking : h.holder = .asking) :
      Step h (some { h with
        direction := .toC, requests := rest, answers := h.answers ++ [true] })
  | refuse {h : Handover} {rest : List Request} (dir : h.direction = .toB)
      (hr : h.requests = .relay :: rest) :
      Step h (some { h with requests := rest, answers := h.answers ++ [false] })
  | notPeer {h : Handover} {request : Request} {rest : List Request}
      (dir : h.direction = .toC) (hr : h.requests = request :: rest) :
      Step h (some { h with requests := rest })
  | notTarget {h : Handover} {n : ℕ} (dir : h.direction = .toB) (hs : h.stops = n + 1) :
      Step h (some { h with stops := n })
  | start {h : Handover} {n : ℕ} (hs : h.starts = n + 1) :
      Step h (some { h with
        target := true, starts := n, stops := if h.target then h.stops + 1 else h.stops })
  | leaveTarget {h : Handover} (target : h.target = true) :
      Step h (some { h with target := false, stops := h.stops + 1 })

/-- The phases of a hand-over, from the cooperation of A with B to that of A with C. -/
inductive Phase : Handover → Prop
  | connected : Phase ⟨.toB, .listening, false, [], [], 0, 0⟩
  | asked {requests : List Request} (hr : requests = [.relay] ∨ requests = []) :
      Phase ⟨.toB, .asking, false, requests, [], 0, 0⟩
  | refused : Phase ⟨.toB, .asking, false, [], [false], 0, 0⟩
  | granted : Phase ⟨.toC, .asking, false, [], [true], 0, 0⟩
  | leaving {requests : List Request} {answers : List Bool}
      (hr : requests = [.relay, .stop] ∧ answers = [] ∨
        requests = [.stop] ∧ (answers = [] ∨ answers = [false])) :
      Phase ⟨.toB, .free, false, requests, answers, 0, 0⟩
  | starting : Phase ⟨.toC, .free, false, [], [], 1, 0⟩
  | handedOver : Phase ⟨.toC, .free, true, [], [], 0, 0⟩
  | targetLeaving : Phase ⟨.toC, .free, false, [], [], 0, 1⟩

theorem Step.phase {h h' : Handover} (step : Step h (some h')) (hp : Phase h) : Phase h' := by
  cases step with
  | stay => exact hp
  | ask listening hs =>
    cases hp <;> cases listening
    exact .asked (by simpa using hs)
  | leave notFree orderly =>
    cases hp with
    | connected => exact .leaving (by simp)
    | asked hr =>
      refine .leaving ?_
      rcases hr with rfl | rfl <;> simp
    | refused => exact .leaving (by simp)
    | granted => simp at orderly
    | _ => simp at notFree
  | refused asking ha =>
    cases hp <;> cases asking <;> cases ha
    exact .leaving (by simp)
  | granted asking ha =>
    cases hp <;> cases asking <;> cases ha
    exact .starting
  | unasked notAsking ha =>
    cases hp with
    | leaving hr =>
      obtain ⟨rfl, rfl⟩ | ⟨rfl, rfl | rfl⟩ := hr <;> cases ha
      exact .leaving (by simp)
    | refused | granted => simp at notAsking
    | _ => cases ha
  | grant dir hr asking =>
    cases hp with
    | asked hq =>
      rcases hq with rfl | rfl <;> cases hr
      exact .granted
    | refused => cases hr
    | granted => cases dir
    | _ => cases asking
  | refuse dir hr =>
    cases hp with
    | asked hq =>
      rcases hq with rfl | rfl <;> cases hr
      exact .refused
    | leaving hq =>
      rcases hq with ⟨rfl, rfl⟩ | ⟨rfl, -⟩ <;> cases hr
      exact .leaving (by simp)
    | _ => cases hr
  | notPeer dir hr => cases hp <;> first | (cases dir; done) | cases hr
  | notTarget dir hs => cases hp <;> cases hs; cases dir
  | start hs =>
    cases hp <;> cases hs
    exact .handedOver
  | leaveTarget target =>
    cases hp <;> cases target
    exact .targetLeaving

/-- With nothing in flight, whoever A sends to listens. -/
theorem Phase.listens {h : Handover} (hp : Phase h) (requests : h.requests = [])
    (answers : h.answers = []) (starts : h.starts = 0) (stops : h.stops = 0) :
    (h.direction = .toB → h.holder ≠ .free) ∧ (h.direction = .toC → h.target = true) := by
  cases hp with
  | connected | asked | refused => simp
  | granted => cases answers
  | leaving hr => rcases hr with ⟨rfl, -⟩ | ⟨rfl, -⟩ <;> cases requests
  | starting => cases starts
  | handedOver => simp
  | targetLeaving => cases stops

/-- A step of the hand-over, which is over once A has stopped. -/
def Next : Option Handover → Option Handover → Prop
  | none, o' => o' = none
  | some h, o' => Step h o'

/-- The hand-over as a system, whatever its labels are called. -/
def system (Label : Type*) : Transition.System (Option Handover) Label where
  init o := o = some ⟨.toB, .listening, false, [], [], 0, 0⟩
  step o _ o' := Next o o'

theorem phase_of_run {Label : Type*} {tr : List Label} {o : Option Handover}
    (run : (system Label).Run tr o) : ∀ h ∈ o, Phase h := by
  refine run.invariant (I := fun o => ∀ h ∈ o, Phase h) ?_ ?_
  · intro o init h hh
    obtain rfl : o = some _ := init
    obtain rfl : _ = h := by simpa using hh
    exact .connected
  · intro o l o' hp step h' hh'
    cases o with
    | none =>
      obtain rfl : o' = none := step
      cases hh'
    | some h =>
      obtain rfl : o' = some h' := hh'
      exact Step.phase step (hp h rfl)

end Handover

end DeviceStatus.Cooperation
