import TurtleGraphics.Proofs.Drawing.Retracing
import TurtleGraphics.Proofs.Drawing.Symmetry

/-!
# Lowering to single steps

Every command can be said in single steps forward and turns to the left by less than a full turn. A
move becomes a loop over one step, a move back is made with the face turned round, and a turn to the
right is the rest of a full turn to the left. A lowered program draws what the program draws and
fails where it fails. Only a move back without a direction can tell the two apart: the lowered
turtle has turned round before it finds out, and so reports the opposite heading.
-/

namespace TurtleGraphics

open Text

mutual

def Command.lower : Command → List Command
  | .step .forward amount span => [.loop amount [.step .forward 1 span] span]
  | .step .back amount span =>
    [.step .left 180 span, .loop amount [.step .forward 1 span] span, .step .left 180 span]
  | .step .left amount span => [.step .left (amount % 360) span]
  | .step .right amount span => [.step .left ((-amount) % 360) span]
  | .loop count body span => [.loop count (Command.lowerAll body) span]

def Command.lowerAll : List Command → List Command
  | [] => []
  | c :: cs => c.lower ++ Command.lowerAll cs

end

/-- A command made of single steps forward and turns to the left by less than a full turn. -/
inductive Command.Elementary : Command → Prop
  | forward (span : Span) : Elementary (.step .forward 1 span)
  | left {amount : Int} (hamount : 0 ≤ amount ∧ amount < 360) (span : Span) :
    Elementary (.step .left amount span)
  | loop (count : Int) {body : List Command} (hbody : ∀ c ∈ body, Elementary c) (span : Span) :
    Elementary (.loop count body span)

namespace Stride

def lower : Stride → List Stride
  | ⟨.forward, amount, span⟩ => List.replicate amount.toNat ⟨.forward, 1, span⟩
  | ⟨.back, amount, span⟩ =>
    ⟨.left, 180, span⟩ ::
      (List.replicate amount.toNat ⟨.forward, 1, span⟩ ++ [⟨.left, 180, span⟩])
  | ⟨.left, amount, span⟩ => [⟨.left, amount % 360, span⟩]
  | ⟨.right, amount, span⟩ => [⟨.left, (-amount) % 360, span⟩]

/-- Every round of a loop is lowered alike. -/
theorem flatMap_lower_flatten_replicate (n : Nat) (strides : List Stride) :
    (List.replicate n strides).flatten.flatMap lower =
      (List.replicate n (strides.flatMap lower)).flatten := by
  rw [List.flatten_eq_flatMap, List.flatMap_assoc, List.flatMap_replicate]
  rfl

end Stride

namespace Command

mutual

theorem elementary_of_mem_lower (c : Command) : ∀ d ∈ c.lower, d.Elementary := by
  cases c with
  | step motion amount span =>
    have hmove : Elementary (.loop amount [.step .forward 1 span] span) := by
      refine .loop amount (fun d hd => ?_) span
      obtain rfl := List.mem_singleton.mp hd
      exact .forward span
    have hturn (degrees : Int) : Elementary (.step .left (degrees % 360) span) :=
      .left (by omega) span
    cases motion with
    | forward =>
      rw [lower, List.forall_mem_singleton]
      exact hmove
    | back =>
      rw [lower, List.forall_mem_cons, List.forall_mem_cons, List.forall_mem_singleton]
      exact ⟨hturn 180, hmove, hturn 180⟩
    | left =>
      rw [lower, List.forall_mem_singleton]
      exact hturn amount
    | right =>
      rw [lower, List.forall_mem_singleton]
      exact hturn (-amount)
  | loop count body span =>
    rw [lower, List.forall_mem_singleton]
    exact .loop count (elementary_of_mem_lowerAll body) span

theorem elementary_of_mem_lowerAll (cs : List Command) : ∀ d ∈ lowerAll cs, d.Elementary := by
  cases cs with
  | nil =>
    rw [lowerAll]
    exact List.forall_mem_nil _
  | cons c cs =>
    rw [lowerAll, List.forall_mem_append]
    exact ⟨elementary_of_mem_lower c, elementary_of_mem_lowerAll cs⟩

end

theorem unroll_loop_singleton_step (count : Int) (motion : Motion) (amount : Int) (span : Span) :
    unroll (.loop count [.step motion amount span] span) =
      List.replicate count.toNat ⟨motion, amount, span⟩ := by
  rw [unroll, unrollAll_singleton, unroll, List.flatten_replicate_singleton]

mutual

theorem unrollAll_lower (c : Command) : unrollAll c.lower = c.unroll.flatMap Stride.lower := by
  cases c with
  | step motion amount span =>
    rw [unroll, List.flatMap_singleton]
    cases motion with
    | forward => rw [lower, unrollAll_singleton, unroll_loop_singleton_step, Stride.lower]
    | back =>
      rw [lower, unrollAll, unrollAll, unrollAll_singleton, unroll_loop_singleton_step, unroll,
        Stride.lower]
      rfl
    | left => rw [lower, unrollAll_singleton, unroll, Stride.lower]
    | right => rw [lower, unrollAll_singleton, unroll, Stride.lower]
  | loop count body span =>
    rw [lower, unrollAll_singleton, unroll, unrollAll_lowerAll body, unroll,
      Stride.flatMap_lower_flatten_replicate]

theorem unrollAll_lowerAll (cs : List Command) :
    unrollAll (lowerAll cs) = (unrollAll cs).flatMap Stride.lower := by
  cases cs with
  | nil =>
    rw [lowerAll, unrollAll]
    rfl
  | cons c cs =>
    rw [lowerAll, unrollAll_append, unrollAll_lower c, unrollAll_lowerAll cs, unrollAll,
      List.flatMap_append]

end

end Command

namespace Heading

variable {facing : Int}

def opposite (facing : Int) : Int := (facing + 180) % 360

theorem turnLeft_half (facing : Int) : turnLeft facing 180 = opposite facing := rfl

theorem opposite_opposite (h : 0 ≤ facing ∧ facing < 360) :
    opposite (opposite facing) = facing := by
  simp only [opposite]
  omega

/-- A quarter turn twice. -/
theorem unitStep?_opposite (h : 0 ≤ facing ∧ facing < 360) :
    unitStep? (opposite facing) = (unitStep? facing).map (-·) := by
  have hmem : 0 ≤ quarterTurn facing ∧ quarterTurn facing < 360 := by
    simp only [quarterTurn]
    omega
  have htwice : opposite facing = quarterTurn (quarterTurn facing) := by
    simp only [opposite, quarterTurn]
    omega
  rw [htwice, unitStep?_quarterTurn hmem, unitStep?_quarterTurn h, Option.map_map]
  rfl

end Heading

namespace Turtle

section Facing

variable {C : Type} [Canvas C]

def faced {ε : Type} (facing : Int) :
    EStateM.Result ε (Turtle C) Unit → EStateM.Result ε (Turtle C) Unit
  | .ok _ t => .ok () { t with heading := facing }
  | .error e t => .error e { t with heading := facing }

theorem enter_faced (p : Point) (t : Turtle C) (facing : Int) :
    enter p { t with heading := facing } = faced facing (enter p t) := by
  cases hvisit : Canvas.visit p t.canvas with
  | ok _ canvas =>
    have hfaced : Canvas.visit p { t with heading := facing }.canvas = .ok () canvas := hvisit
    rw [enter_of_visit_ok hvisit, enter_of_visit_ok hfaced, faced]
  | error e canvas =>
    have hfaced : Canvas.visit p { t with heading := facing }.canvas = .error e canvas := hvisit
    rw [enter_of_visit_error hvisit, enter_of_visit_error hfaced, faced]

/-- A walk in a given direction does not ask where the turtle faces. -/
theorem walk_faced (step : Point) (n : Nat) (t : Turtle C) (facing : Int) :
    walk step n { t with heading := facing } = faced facing (walk step n t) := by
  induction n generalizing t with
  | zero => rfl
  | succ n ih =>
    rw [walk_succ, walk_succ]
    simp only [enter_faced]
    cases enter (t.position + step) t with
    | ok _ t' => exact ih t'
    | error e t' => rfl

theorem take_turn (amount : Int) (span : Span) (t : Turtle C) :
    Stride.take ⟨.left, amount, span⟩ t =
      .ok () { t with heading := Heading.turnLeft t.heading amount } := rfl

theorem take_unit {t : Turtle C} {step : Point} (h : Heading.unitStep? t.heading = some step)
    (span : Span) :
    Stride.take ⟨.forward, 1, span⟩ t = located span (enter (t.position + step) t) := by
  have hstep : stepAlong t.heading = .ok step := by rw [stepAlong, h]
  have htravel : travel (fun step => step) 1 t = walk step 1 t := by
    simp only [travel, hstep]
    rfl
  change located span (travel (fun step => step) 1 t) = _
  rw [htravel, walk_one]

/-- Single steps along the heading make up a walk. -/
theorem takeAll_units {t : Turtle C} {step : Point} (h : Heading.unitStep? t.heading = some step)
    (span : Span) (n : Nat) :
    Stride.takeAll (List.replicate n ⟨.forward, 1, span⟩) t = located span (walk step n t) := by
  induction n generalizing t with
  | zero => rfl
  | succ n ih =>
    have hheading := heading_enter (t.position + step) t
    rw [List.replicate_succ, Stride.takeAll_cons, take_unit h, walk_succ]
    cases henter : enter (t.position + step) t with
    | ok _ t' =>
      rw [henter] at hheading
      have ht' : Heading.unitStep? t'.heading = some step := hheading ▸ h
      exact ih ht'
    | error e t' => rfl

theorem takeAll_units_stuck {t : Turtle C} (h : Heading.unitStep? t.heading = none) (span : Span)
    {n : Nat} (hn : 0 < n) :
    Stride.takeAll (List.replicate n ⟨.forward, 1, span⟩) t =
      .error ⟨.unsupportedHeading t.heading, some span⟩ t := by
  obtain ⟨n, rfl⟩ := Nat.exists_eq_succ_of_ne_zero (Nat.ne_of_gt hn)
  have hstep : stepAlong t.heading = .error (.unsupportedHeading t.heading) := by
    rw [stepAlong, h]
  have hfirst : Stride.take ⟨.forward, 1, span⟩ t =
      .error ⟨.unsupportedHeading t.heading, some span⟩ t := by
    change located span (travel (fun step => step) 1 t) = _
    simp only [travel, hstep]
    rfl
  rw [Nat.succ_eq_add_one, List.replicate_succ, Stride.takeAll_cons, hfirst]
  rfl

end Facing

/-- On a grid a walk can only fail by leaving it, and never turns. -/
theorem walk_cases (step : Point) (n : Nat) (t : Turtle Grid) :
    (∃ t', walk step n t = .ok () t' ∧ t'.heading = t.heading) ∨
      ∃ cell size t', walk step n t = .error (.outOfBounds cell size) t' := by
  induction n generalizing t with
  | zero => exact .inl ⟨t, rfl, rfl⟩
  | succ n ih =>
    rw [walk_succ]
    by_cases hp : t.canvas.Contains (t.position + step)
    · rw [enter_of_contains hp]
      exact ih _
    · rw [enter_of_not_contains hp]
      exact .inr ⟨_, _, _, rfl⟩

end Turtle

inductive Stride.FailsAt : List Stride → Turtle Grid → Stride → Prop
  | here {s : Stride} {strides : List Stride} {t t' : Turtle Grid} {e : RunError}
      (fails : s.take t = .error e t') : FailsAt (s :: strides) t s
  | later {s failing : Stride} {strides : List Stride} {t t' : Turtle Grid}
      (taken : s.take t = .ok () t') (fails : FailsAt strides t' failing) :
    FailsAt (s :: strides) t failing

/-- The headings that a move without a direction and its lowered form report. -/
def Motion.Reports : Motion → Int → Int → Prop
  | .forward, facing, facing' => facing' = facing
  | .back, facing, facing' => facing' = (facing + 180) % 360
  | .left, _, _ => False
  | .right, _, _ => False

/-- How strides and their lowered form end, if `fails` holds of the stride that finds no
direction. -/
inductive Lowered (fails : Stride → Prop) : EStateM.Result RunError (Turtle Grid) Unit →
    EStateM.Result RunError (Turtle Grid) Unit → Prop
  | ok {t : Turtle Grid} (h : 0 ≤ t.heading ∧ t.heading < 360) :
    Lowered fails (.ok () t) (.ok () t)
  | outside (cell : Point) (size : Nat) (span : Option Span) (t t' : Turtle Grid) :
    Lowered fails (.error ⟨.outOfBounds cell size, span⟩ t)
      (.error ⟨.outOfBounds cell size, span⟩ t')
  | stuck {s : Stride} (hs : fails s) {facing facing' : Int}
      (hfacing : s.motion.Reports facing facing') (t t' : Turtle Grid) :
    Lowered fails (.error ⟨.unsupportedHeading facing, some s.span⟩ t)
      (.error ⟨.unsupportedHeading facing', some s.span⟩ t')

theorem Lowered.mono {fails fails' : Stride → Prop}
    {result result' : EStateM.Result RunError (Turtle Grid) Unit} (h : Lowered fails result result')
    (hfails : ∀ s, fails s → fails' s) : Lowered fails' result result' := by
  cases h with
  | ok h => exact .ok h
  | outside cell size span t t' => exact .outside cell size span t t'
  | stuck hs hfacing t t' => exact .stuck (hfails _ hs) hfacing t t'

namespace Turtle

variable {t : Turtle Grid}

theorem lowered_forward (ht : 0 ≤ t.heading ∧ t.heading < 360) (amount : Int) (span : Span) :
    let s : Stride := ⟨.forward, amount, span⟩
    Lowered (Eq s) (s.take t) (Stride.takeAll s.lower t) := by
  intro s
  rw [Stride.take, Stride.lower]
  change Lowered (Eq s) (located span (travel (fun step => step) amount t)) _
  by_cases hamount : amount ≤ 0
  · have hzero : amount.toNat = 0 := by omega
    rw [travel, if_pos hamount, hzero]
    exact .ok ht
  · rw [travel, if_neg hamount, stepAlong]
    cases hstep : Heading.unitStep? t.heading with
    | none =>
      rw [takeAll_units_stuck hstep span (by omega)]
      exact .stuck (s := s) rfl (Eq.refl t.heading) t t
    | some step =>
      rw [takeAll_units hstep]
      obtain ⟨t', hwalk, hheading⟩ | ⟨cell, size, t', hwalk⟩ := walk_cases step amount.toNat t
      · simp only [hwalk]
        exact .ok (hheading ▸ ht)
      · simp only [hwalk]
        exact .outside cell size (some span) t' t'

theorem lowered_back (ht : 0 ≤ t.heading ∧ t.heading < 360) (amount : Int) (span : Span) :
    let s : Stride := ⟨.back, amount, span⟩
    Lowered (Eq s) (s.take t) (Stride.takeAll s.lower t) := by
  intro s
  let round : Turtle Grid := { t with heading := Heading.opposite t.heading }
  have hlower : Stride.takeAll s.lower t =
      andThen (Stride.takeAll (List.replicate amount.toNat ⟨.forward, 1, span⟩) round)
        (Stride.take ⟨.left, 180, span⟩) := by
    rw [Stride.lower, Stride.takeAll_cons, take_turn, Heading.turnLeft_half]
    change Stride.takeAll _ round = _
    rw [Stride.takeAll_append]
    exact congrArg _ (funext (Stride.takeAll_singleton _))
  have hround := Heading.unitStep?_opposite ht
  rw [hlower, Stride.take]
  change Lowered (Eq s) (located span (travel (fun step => -step) amount t)) _
  by_cases hamount : amount ≤ 0
  · have hzero : amount.toNat = 0 := by omega
    have hback : Stride.take ⟨.left, 180, span⟩ round = .ok () t := by
      rw [take_turn, Heading.turnLeft_half, Heading.opposite_opposite ht]
    rw [travel, if_pos hamount, hzero]
    change Lowered _ _ (Stride.take ⟨.left, 180, span⟩ round)
    rw [hback]
    exact .ok ht
  · rw [travel, if_neg hamount, stepAlong]
    cases hstep : Heading.unitStep? t.heading with
    | none =>
      rw [hstep, Option.map_none] at hround
      rw [takeAll_units_stuck hround span (by omega)]
      exact .stuck (s := s) rfl (Eq.refl round.heading) t round
    | some step =>
      rw [hstep, Option.map_some] at hround
      rw [takeAll_units hround, walk_faced]
      -- Having arrived, the lowered turtle turns round again; where it is refused, it does not.
      obtain ⟨t', hwalk, hheading⟩ | ⟨cell, size, t', hwalk⟩ := walk_cases (-step) amount.toNat t
      · have hback : Stride.take ⟨.left, 180, span⟩
            { t' with heading := Heading.opposite t.heading } = .ok () t' := by
          rw [take_turn, Heading.turnLeft_half, Heading.opposite_opposite ht, ← hheading]
        simp only [hwalk, faced]
        change Lowered _ _ (Stride.take _ _)
        rw [hback]
        exact .ok (hheading ▸ ht)
      · simp only [hwalk, faced]
        exact .outside cell size (some span) _ _

/-- One step and its lowered form. -/
theorem lowered_take (ht : 0 ≤ t.heading ∧ t.heading < 360) (s : Stride) :
    Lowered (Eq s) (s.take t) (Stride.takeAll s.lower t) := by
  obtain ⟨motion, amount, span⟩ := s
  cases motion with
  | forward => exact lowered_forward ht amount span
  | back => exact lowered_back ht amount span
  | left =>
    have hturn : Heading.turnLeft t.heading (amount % 360) = Heading.turnLeft t.heading amount := by
      simp only [Heading.turnLeft_eq]
      omega
    rw [Stride.lower, Stride.takeAll_singleton, take_turn, take_turn, hturn]
    exact .ok (Heading.turnLeft_mem t.heading amount)
  | right =>
    have hturn : Heading.turnLeft t.heading ((-amount) % 360) =
        Heading.turnRight t.heading amount := by
      rw [Heading.turnLeft_eq, Heading.turnRight_eq]
      omega
    rw [Stride.lower, Stride.takeAll_singleton, take_turn, hturn]
    exact .ok (Heading.turnRight_mem t.heading amount)

/-- All steps and their lowered forms: as long as none fails, both turtles are the same. -/
theorem lowered_takeAll (ht : 0 ≤ t.heading ∧ t.heading < 360) (strides : List Stride) :
    Lowered (Stride.FailsAt strides t) (Stride.takeAll strides t)
      (Stride.takeAll (strides.flatMap Stride.lower) t) := by
  induction strides generalizing t with
  | nil => exact .ok ht
  | cons s strides ih =>
    have hfirst := lowered_take ht s
    rw [List.flatMap_cons, Stride.takeAll_append, Stride.takeAll_cons]
    generalize htake : s.take t = result at hfirst
    generalize Stride.takeAll s.lower t = result' at hfirst
    cases hfirst with
    | @ok t' ht' =>
      exact (ih ht').mono fun _ => .later htake
    | outside cell size span t t' => exact .outside cell size span t t'
    | stuck hs hfacing t t' =>
      subst hs
      exact .stuck (.here htake) hfacing t t'

end Turtle

/-- The second drawing ends as the first one does, up to the heading that is reported when there is
no direction; `fails` says at which stride the first one fails. -/
structure EndsAlike (fails : Stride → Prop) (result result' : Except RunError Grid) : Prop where
  picture : ∀ g, result' = .ok g ↔ result = .ok g
  size : ∀ size span, result' = .error ⟨.invalidSize size, span⟩ ↔
    result = .error ⟨.invalidSize size, span⟩
  outside : ∀ cell size span, result' = .error ⟨.outOfBounds cell size, span⟩ ↔
    result = .error ⟨.outOfBounds cell size, span⟩
  stuck : ∀ span, (∃ facing, result' = .error ⟨.unsupportedHeading facing, span⟩) ↔
    ∃ facing, result = .error ⟨.unsupportedHeading facing, span⟩
  facing : ∀ facing facing' span, result = .error ⟨.unsupportedHeading facing, span⟩ →
    result' = .error ⟨.unsupportedHeading facing', span⟩ →
      ∃ s, fails s ∧ span = some s.span ∧
        (s.motion = .forward ∧ facing' = facing ∨
          s.motion = .back ∧ facing' = (facing + 180) % 360)

theorem Motion.Reports.cases {motion : Motion} {facing facing' : Int}
    (h : motion.Reports facing facing') :
    motion = .forward ∧ facing' = facing ∨ motion = .back ∧ facing' = (facing + 180) % 360 := by
  cases motion with
  | forward => exact .inl ⟨rfl, h⟩
  | back => exact .inr ⟨rfl, h⟩
  | left => exact h.elim
  | right => exact h.elim

theorem EndsAlike.mono {fails fails' : Stride → Prop} {result result' : Except RunError Grid}
    (h : EndsAlike fails result result') (hfails : ∀ s, fails s → fails' s) :
    EndsAlike fails' result result' where
  picture := h.picture
  size := h.size
  outside := h.outside
  stuck := h.stuck
  facing facing facing' span hfirst hsecond := by
    obtain ⟨s, hs, hspan, hmotion⟩ := h.facing facing facing' span hfirst hsecond
    exact ⟨s, hfails s hs, hspan, hmotion⟩

theorem Lowered.endsAlike {fails : Stride → Prop}
    {result result' : EStateM.Result RunError (Turtle Grid) Unit}
    (h : Lowered fails result result') :
    EndsAlike fails (pictureOf result) (pictureOf result') := by
  cases h with
  | ok h => constructor <;> simp [pictureOf]
  | outside cell size span t t' => constructor <;> simp [pictureOf]
  | stuck hs hfacing t t' =>
    constructor
    case facing =>
      intro facing facing' span hfirst hsecond
      simp only [pictureOf, Except.error.injEq, RunError.mk.injEq,
        DrawError.unsupportedHeading.injEq] at hfirst hsecond
      obtain ⟨rfl, rfl⟩ := hfirst
      obtain ⟨rfl, -⟩ := hsecond
      exact ⟨_, hs, rfl, hfacing.cases⟩
    all_goals simp [pictureOf]

namespace Program

def DrawFailsAt (grid : Grid) (commands : List Command) (s : Stride) : Prop :=
  ∃ t, Turtle.start grid = .ok () t ∧ Stride.FailsAt (Command.unrollAll commands) t s

def FailsAt (allocator : Allocator) (p : Program) (s : Stride) : Prop :=
  ∃ grid, Grid.create allocator p.size = .ok grid ∧ DrawFailsAt grid p.commands s

theorem endsAlike_draw_lowerAll (grid : Grid) (commands : List Command) :
    EndsAlike (DrawFailsAt grid commands) (draw grid commands)
      (draw grid (Command.lowerAll commands)) := by
  obtain ⟨t, hstart, ht⟩ := Turtle.OnGrid.exists_start grid
  have hlowered := Turtle.lowered_takeAll ht.heading_mem (Command.unrollAll commands)
  rw [draw_of_start hstart, draw_of_start hstart, Command.runAll_eq_takeAll,
    Command.runAll_eq_takeAll, Command.unrollAll_lowerAll]
  exact (hlowered.mono fun s hs => ⟨t, hstart, hs⟩).endsAlike

end Program

/-- All commands can be lowered to single steps forward and turns to the left by less than a full
turn. On every grid, and as programs of every size, the lowered commands end as the commands do:
with the same picture, at the same cell outside and at the same place, or without a direction at the
same place. The heading that they then report is the same, or the opposite one if it is a move back
that fails. -/
theorem lowered_commands_end_alike (commands : List Command) :
    (∀ c ∈ Command.lowerAll commands, c.Elementary) ∧
      (∀ grid, EndsAlike (Program.DrawFailsAt grid commands) (Program.draw grid commands)
        (Program.draw grid (Command.lowerAll commands))) ∧
        ∀ allocator size, EndsAlike (Program.FailsAt allocator ⟨size, commands⟩)
          (Program.run allocator ⟨size, commands⟩)
          (Program.run allocator ⟨size, Command.lowerAll commands⟩) := by
  have hdraw (grid : Grid) := Program.endsAlike_draw_lowerAll grid commands
  refine ⟨Command.elementary_of_mem_lowerAll commands, hdraw, fun allocator size => ?_⟩
  cases hgrid : Grid.create allocator size with
  | error cause =>
    obtain rfl := Grid.create_eq_error hgrid
    simp only [Program.run, hgrid]
    constructor <;> simp
  | ok grid =>
    rw [Program.run_of_create hgrid, Program.run_of_create hgrid]
    exact (hdraw grid).mono fun s hs => ⟨grid, hgrid, hs⟩

/-- After a turn by 60 there is no direction, forward or back. The lowered move back has turned
round before that shows. -/
theorem lowered_commands_end_alike_back :
    let turn : Span := ⟨2, 4, 1, 3⟩
    let move : Span := ⟨8, 10, 1, 9⟩
    let grid := Grid.blank 3 (by decide)
    let commands : List Command := [.step .right 300 turn, .step .back 2 move]
    let lowered : List Command :=
      [.step .left 60 turn, .step .left 180 move, .loop 2 [.step .forward 1 move] move,
        .step .left 180 move]
    Command.lowerAll commands = lowered ∧
      Program.draw grid commands = .error ⟨.unsupportedHeading 60, some move⟩ ∧
        Program.draw grid lowered = .error ⟨.unsupportedHeading 240, some move⟩ ∧
          ∃ s, Program.DrawFailsAt grid commands s ∧ s.motion = .back ∧ s.span = move := by
  have hends := (lowered_commands_end_alike
    [.step .right 300 ⟨2, 4, 1, 3⟩, .step .back 2 ⟨8, 10, 1, 9⟩]).2.1 (Grid.blank 3 (by decide))
  obtain ⟨s, hs, hspan, hmotion⟩ := hends.facing 60 240 (some ⟨8, 10, 1, 9⟩) rfl rfl
  refine ⟨rfl, rfl, rfl, s, hs, ?_, (Option.some.inj hspan).symm⟩
  rcases hmotion with ⟨-, hsame⟩ | ⟨hback, -⟩
  · cases hsame
  · exact hback

end TurtleGraphics
