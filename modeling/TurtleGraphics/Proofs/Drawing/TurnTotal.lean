import Mathlib.Algebra.BigOperators.Group.List.Basic
import Mathlib.Algebra.Ring.Int.Defs
import TurtleGraphics.Canvas.Trail
import TurtleGraphics.Proofs.Drawing.Retracing

/-!
# The heading as a total of turns

A move never turns the turtle, whether or not it succeeds, and a turn never fails. So after any
calls to move and to turn the heading is what all turns come to, counted modulo a full turn. The
total may grow beyond all bounds, but the turtle keeps only its remainder, and what it computes from
that stays small (`Checked`). A total has no order, and neither has the heading.
-/

namespace TurtleGraphics

def Motion.turn (motion : Motion) (amount : Int) : Int :=
  match motion with
  | .forward => 0
  | .back => 0
  | .left => amount
  | .right => -amount

namespace Call

def IsMotion : Call → Prop
  | run _ => False
  | _ => True

def left? : Call → Option Int
  | turnLeft degrees => some degrees
  | apply .left degrees => some degrees
  | _ => none

def right? : Call → Option Int
  | turnRight degrees => some degrees
  | apply .right degrees => some degrees
  | _ => none

def turn : Call → Int
  | turnLeft degrees => degrees
  | turnRight degrees => -degrees
  | apply motion amount => motion.turn amount
  | _ => 0

theorem turn_eq (call : Call) : call.turn = call.left?.getD 0 - call.right?.getD 0 := by
  cases call with
  | apply motion amount => cases motion <;> simp [turn, Motion.turn, left?, right?]
  | _ => simp [turn, left?, right?]

theorem sum_map_turn (calls : List Call) :
    (calls.map turn).sum = (calls.filterMap left?).sum - (calls.filterMap right?).sum := by
  have hsum (f : Call → Option Int) (call : Call) (calls : List Call) :
      ((call :: calls).filterMap f).sum = (f call).getD 0 + (calls.filterMap f).sum := by
    cases h : f call <;> simp [h]
  induction calls with
  | nil => rfl
  | cons call calls ih =>
    rw [List.map_cons, List.sum_cons, ih, hsum, hsum, turn_eq]
    omega

end Call

variable {C : Type} [Canvas C] {t : Turtle C}

namespace Turtle

theorem heading_apply (ht : 0 ≤ t.heading ∧ t.heading < 360) (motion : Motion) (amount : Int) :
    (finalState (motion.apply amount t)).heading = (t.heading + motion.turn amount) % 360 := by
  have hmove (orient : Point → Point) :
      (finalState (travel orient amount t)).heading = (t.heading + 0) % 360 := by
    rw [heading_travel]
    omega
  cases motion with
  | forward => exact hmove _
  | back => exact hmove _
  | left => exact Heading.turnLeft_eq t.heading amount
  | right => exact Heading.turnRight_eq t.heading amount

theorem heading_perform (ht : 0 ≤ t.heading ∧ t.heading < 360) {call : Call}
    (hcall : call.IsMotion) :
    (finalState (call.perform t)).heading = (t.heading + call.turn) % 360 := by
  have hmotion (motion : Motion) (amount : Int) :
      (finalState (Call.unlocated (motion.apply amount) t)).heading =
        (t.heading + motion.turn amount) % 360 := by
    rw [Call.unlocated, finalState_adaptExcept]
    exact heading_apply ht motion amount
  cases call with
  | forward steps => exact hmotion .forward steps
  | backward steps => exact hmotion .back steps
  | turnLeft degrees => exact hmotion .left degrees
  | turnRight degrees => exact hmotion .right degrees
  | apply motion amount => exact hmotion motion amount
  | run command => cases hcall

/-- Every call adds its turn, and the remainders add up. -/
theorem heading_performAll (ht : 0 ≤ t.heading ∧ t.heading < 360) {calls : List Call}
    (hcalls : ∀ call ∈ calls, call.IsMotion) :
    (Call.performAll calls t).heading = (t.heading + (calls.map Call.turn).sum) % 360 := by
  induction calls generalizing t with
  | nil =>
    change t.heading = (t.heading + 0) % 360
    omega
  | cons call calls ih =>
    have hfirst := heading_perform ht (hcalls call List.mem_cons_self)
    have hmem : 0 ≤ (finalState (call.perform t)).heading ∧
        (finalState (call.perform t)).heading < 360 := by
      rw [hfirst]
      omega
    have hrest := ih hmem fun call hcall => hcalls call (List.mem_cons_of_mem _ hcall)
    change (Call.performAll calls (finalState (call.perform t))).heading = _
    rw [hrest, hfirst, List.map_cons, List.sum_cons]
    omega

theorem heading_start {canvas : C} (h : start canvas = .ok () t) : t.heading = 0 := by
  have henter := heading_enter (center (Canvas.size canvas))
    (⟨canvas, center (Canvas.size canvas), 0⟩ : Turtle C)
  change (finalState (start canvas)).heading = 0 at henter
  rwa [h] at henter

end Turtle

/-- Wherever a turtle starts and however it is then called to move and to turn, moves that fail
included, its heading is the total of its turns to the left less the total of its turns to the
right, modulo a full turn. The next turn, by any amount, computes nothing that is beyond 64 bits.
Other calls with the same turns, in another order and between other moves, lead to the same heading.
-/
theorem heading_is_turn_total {canvas : C} {start : Turtle C}
    (hstart : Turtle.start canvas = .ok () start) (calls : List Call)
    (hcalls : ∀ call ∈ calls, call.IsMotion) :
    let t := Call.performAll calls start
    t.heading = ((calls.filterMap Call.left?).sum - (calls.filterMap Call.right?).sum) % 360 ∧
      (∀ degrees,
        Checked.perform (.turnLeft degrees) t = raised (Call.perform (.turnLeft degrees) t) ∧
          Checked.perform (.turnRight degrees) t = raised (Call.perform (.turnRight degrees) t)) ∧
        ∀ calls' : List Call, (∀ call ∈ calls', call.IsMotion) →
          (calls'.filterMap Call.left?).Perm (calls.filterMap Call.left?) →
            (calls'.filterMap Call.right?).Perm (calls.filterMap Call.right?) →
              (Call.performAll calls' start).heading = t.heading := by
  have hzero := Turtle.heading_start hstart
  have hmem : 0 ≤ start.heading ∧ start.heading < 360 := by
    rw [hzero]
    decide
  have htotal {calls : List Call} (hcalls : ∀ call ∈ calls, call.IsMotion) :
      (Call.performAll calls start).heading =
        ((calls.filterMap Call.left?).sum - (calls.filterMap Call.right?).sum) % 360 := by
    rw [Turtle.heading_performAll hmem hcalls, hzero, Call.sum_map_turn, Int.zero_add]
  intro t
  have ht : 0 ≤ t.heading ∧ t.heading < 360 := by
    rw [htotal hcalls]
    omega
  refine ⟨htotal hcalls, fun degrees => ⟨?_, ?_⟩, ?_⟩
  · exact (Checked.agrees_turnLeft degrees).adapt _ t ht
  · exact (Checked.agrees_turnRight degrees).adapt _ t ht
  · intro calls' hcalls' hleft hright
    rw [htotal hcalls', htotal hcalls, hleft.sum_eq, hright.sum_eq]

/-- The walls of the field stop the turtle at its first step, and its heading then has no direction
for the second. The turns to the left alone come to twice the largest amount there is. -/
theorem heading_is_turn_total_walls :
    let canvas : Field := ⟨4, [⟨2, 1⟩]⟩
    let start : Turtle Field := ⟨canvas, ⟨2, 2⟩, 0⟩
    let calls : List Call := [.forward 3, .turnLeft 9223372036854775807,
      .turnRight (-9223372036854775808), .backward 1, .turnLeft 9223372036854775807, .turnLeft 45]
    let calls' : List Call := [.turnLeft 9223372036854775807, .turnLeft 45, .forward 0,
      .turnRight (-9223372036854775808), .turnLeft 9223372036854775807]
    (Turtle.start canvas = .ok () start ∧ ∀ call ∈ calls ++ calls', call.IsMotion) ∧
      (Call.performAll calls start).heading = 67 ∧ (Call.performAll calls' start).heading = 67 := by
  intro canvas start calls calls'
  have hstart : Turtle.start canvas = .ok () start := by
    with_unfolding_all rfl
  have hmotions : ∀ call ∈ calls ++ calls', call.IsMotion := by
    simp [calls, calls', Call.IsMotion]
  have hcalls := fun call hcall => hmotions call (List.mem_append_left _ hcall)
  have hcalls' := fun call hcall => hmotions call (List.mem_append_right _ hcall)
  obtain ⟨hheading, -, hother⟩ := heading_is_turn_total hstart calls hcalls
  have htotal : (Call.performAll calls start).heading = 67 := hheading.trans (by decide)
  exact ⟨⟨hstart, hmotions⟩, htotal,
    (hother calls' hcalls' (by decide) (by decide)).trans htotal⟩

end TurtleGraphics
