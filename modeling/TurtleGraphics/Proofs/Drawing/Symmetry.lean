import TurtleGraphics.Proofs.Drawing.Placement

/-!
# Turned and mirrored drawings

On a square of odd size the turtle starts on the one cell that every symmetry of the square leaves
in place. A turtle that turns a quarter to the left before anything else draws the picture turned a
quarter counter-clockwise, and a turtle that takes every left turn to the right and every right turn
to the left draws the picture as a mirror shows it. Failures turn and mirror with the picture.
-/

namespace TurtleGraphics

open Text

/-- The second drawing is the image of the first: it shows the image of the picture, or it fails in
the same step over the image of the same cell or heading. -/
inductive Carried (cell : Point → Point) (heading : Int → Int) :
    Except RunError Grid → Except RunError Grid → Prop
  | ok {g g' : Grid} (hsize : g'.size = g.size)
      (hvisited : ∀ p, g'.isVisited (cell p) = g.isVisited p) :
    Carried cell heading (.ok g) (.ok g')
  | outOfBounds (p : Point) (size : Nat) (span : Option Span) :
    Carried cell heading (.error ⟨.outOfBounds p size, span⟩)
      (.error ⟨.outOfBounds (cell p) size, span⟩)
  | unsupportedHeading (facing : Int) (span : Option Span) :
    Carried cell heading (.error ⟨.unsupportedHeading facing, span⟩)
      (.error ⟨.unsupportedHeading (heading facing), span⟩)

variable {n : Nat}

/-- A placement of a square into itself that reaches every cell carries the whole drawing. -/
theorem Placement.Matches.carried {φ : Placement n n} {heading : Int → Int}
    {result result' : EStateM.Result RunError (Turtle Grid) Unit} (h : φ.Matches result result')
    (hwithin : ∀ p, (φ.cell p).Within n → p.Within n)
    (hheading : ∀ facing, 0 ≤ facing ∧ facing < 360 → Heading.unitStep? facing = none →
      heading facing = φ.heading facing) :
    Carried φ.cell heading (pictureOf result) (pictureOf result') := by
  cases h with
  | ok h => exact .ok (h.size_eq'.trans h.size_eq.symm) h.isVisited_cell
  | stuck facing hmem hstuck span t t' =>
    rw [pictureOf, pictureOf, ← hheading facing hmem hstuck]
    exact .unsupportedHeading facing span
  | outside p hp hp' span t t' => exact .outOfBounds p n span
  | beyond p hp hp' span t result => exact absurd (hwithin p hp') hp

namespace Point

/-- Where a cell of a square of size `n` is after a quarter turn counter-clockwise. -/
def quarterTurn (n : Int) (p : Point) : Point := ⟨p.y, n - 1 - p.x⟩

def turned (d : Point) : Point := ⟨d.y, -d.x⟩

def mirror (n : Int) (p : Point) : Point := ⟨n - 1 - p.x, p.y⟩

theorem quarterTurn_add (n : Int) (p d : Point) :
    (p + d).quarterTurn n = p.quarterTurn n + d.turned := by
  ext
  · rfl
  · simp only [quarterTurn, turned, add_x, add_y]
    omega

theorem quarterTurn_injective (n : Int) : Function.Injective (quarterTurn n) := by
  intro p q h
  simp only [quarterTurn, mk.injEq] at h
  ext <;> omega

theorem within_quarterTurn (p : Point) : (p.quarterTurn n).Within n ↔ p.Within n := by
  simp only [quarterTurn, Within]
  omega

theorem mirror_add (n : Int) (p d : Point) : (p + d).mirror n = p.mirror n + d.flip := by
  ext
  · simp only [mirror, add_x, flip_x]
    omega
  · rfl

theorem mirror_injective (n : Int) : Function.Injective (mirror n) := by
  intro p q h
  simp only [mirror, mk.injEq] at h
  ext <;> omega

theorem within_mirror (p : Point) : (p.mirror n).Within n ↔ p.Within n := by
  simp only [mirror, Within]
  omega

end Point

/-- Only a square of odd size has a cell in the middle, which then stays in place. -/
theorem Turtle.quarterTurn_center (hodd : n % 2 = 1) :
    (center n).quarterTurn n = center n := by
  simp only [center, Point.quarterTurn, Point.mk.injEq, true_and]
  omega

theorem Turtle.mirror_center (hodd : n % 2 = 1) : (center n).mirror n = center n := by
  simp only [center, Point.mirror, Point.mk.injEq, and_true]
  omega

namespace Heading

def quarterTurn (facing : Int) : Int := (facing + 90) % 360

def mirror (facing : Int) : Int := -facing % 360

theorem quarterTurn_turn (facing degrees : Int) :
    quarterTurn ((facing + degrees) % 360) = (quarterTurn facing + degrees) % 360 := by
  simp only [quarterTurn]
  omega

theorem mirror_turn (facing degrees : Int) :
    mirror ((facing + degrees) % 360) = (mirror facing + -degrees) % 360 := by
  simp only [mirror]
  omega

variable {facing : Int}

theorem eq_of_dvd (h : 0 ≤ facing ∧ facing < 360) (hdvd : 45 ∣ facing) :
    facing = 0 ∨ facing = 45 ∨ facing = 90 ∨ facing = 135 ∨ facing = 180 ∨ facing = 225 ∨
      facing = 270 ∨ facing = 315 := by
  omega

/-- Only the eight headings that have a direction need a table. -/
theorem unitStep?_image {image : Int} {direction : Point → Point}
    (h : 0 ≤ facing ∧ facing < 360) (himage : 0 ≤ image ∧ image < 360)
    (hdvd : 45 ∣ image → 45 ∣ facing)
    (htable : 45 ∣ facing → unitStep? image = (unitStep? facing).map direction) :
    unitStep? image = (unitStep? facing).map direction := by
  by_cases hfacing : 45 ∣ facing
  · exact htable hfacing
  · rw [unitStep?_eq h, unitStep?_eq himage, if_neg hfacing, if_neg (mt hdvd hfacing),
      Option.map_none]

theorem unitStep?_quarterTurn (h : 0 ≤ facing ∧ facing < 360) :
    unitStep? (quarterTurn facing) = (unitStep? facing).map Point.turned := by
  have hmem : 0 ≤ quarterTurn facing ∧ quarterTurn facing < 360 := by
    simp only [quarterTurn]
    omega
  have hdvd : 45 ∣ quarterTurn facing → 45 ∣ facing := by
    simp only [quarterTurn]
    omega
  apply unitStep?_image h hmem hdvd
  intro hfacing
  rcases eq_of_dvd h hfacing with rfl | rfl | rfl | rfl | rfl | rfl | rfl | rfl <;> rfl

theorem unitStep?_mirror (h : 0 ≤ facing ∧ facing < 360) :
    unitStep? (mirror facing) = (unitStep? facing).map Point.flip := by
  have hmem : 0 ≤ mirror facing ∧ mirror facing < 360 := by
    simp only [mirror]
    omega
  have hdvd : 45 ∣ mirror facing → 45 ∣ facing := by
    simp only [mirror]
    omega
  apply unitStep?_image h hmem hdvd
  intro hfacing
  rcases eq_of_dvd h hfacing with rfl | rfl | rfl | rfl | rfl | rfl | rfl | rfl <;> rfl

/-- The headings that have no direction leave out 0, so that 360 less such a heading is a heading
again. -/
theorem mirror_of_stuck (h : 0 ≤ facing ∧ facing < 360) (hstuck : unitStep? facing = none) :
    360 - facing = mirror facing := by
  have hfacing : facing ≠ 0 := by
    rintro rfl
    cases hstuck
  simp only [mirror]
  omega

end Heading

namespace Placement

def quarterTurn (n : Nat) : Placement n n where
  cell := Point.quarterTurn n
  direction := Point.turned
  heading := Heading.quarterTurn
  mirrors := false
  cell_add := Point.quarterTurn_add n
  cell_injective := Point.quarterTurn_injective n
  within_cell := (Point.within_quarterTurn _).mpr
  direction_neg _ := rfl
  heading_turn := Heading.quarterTurn_turn
  unitStep?_heading := Heading.unitStep?_quarterTurn

def mirror (n : Nat) : Placement n n where
  cell := Point.mirror n
  direction := Point.flip
  heading := Heading.mirror
  mirrors := true
  cell_add := Point.mirror_add n
  cell_injective := Point.mirror_injective n
  within_cell := (Point.within_mirror _).mpr
  direction_neg _ := rfl
  heading_turn := Heading.mirror_turn
  unitStep?_heading := Heading.unitStep?_mirror

end Placement

mutual

def Command.flip : Command → Command
  | .step motion amount span => .step motion.flip amount span
  | .loop count body span => .loop count (Command.flipAll body) span

def Command.flipAll : List Command → List Command
  | [] => []
  | c :: cs => c.flip :: Command.flipAll cs

end

namespace Command

mutual

theorem unroll_flip (c : Command) :
    c.flip.unroll = c.unroll.map fun s => { s with motion := s.motion.flip } := by
  cases c with
  | step motion amount span =>
    rw [flip, unroll, unroll]
    rfl
  | loop count body span =>
    rw [flip, unroll, unroll, unrollAll_flipAll body, List.map_flatten, List.map_replicate]

theorem unrollAll_flipAll (cs : List Command) :
    unrollAll (flipAll cs) = (unrollAll cs).map fun s => { s with motion := s.motion.flip } := by
  cases cs with
  | nil =>
    rw [flipAll, unrollAll]
    rfl
  | cons c cs =>
    rw [flipAll, unrollAll, unrollAll, List.map_append, unroll_flip c, unrollAll_flipAll cs]

end

end Command

namespace Program

theorem carried_draw_quarterTurn (hn : 0 < n) (hodd : n % 2 = 1) (commands : List Command)
    (span : Span) :
    Carried (Point.quarterTurn n) Heading.quarterTurn (draw (Grid.blank n hn) commands)
      (draw (Grid.blank n hn) (.step .left 90 span :: commands)) := by
  have hcommands : ∀ t : Turtle Grid, t.heading = 0 →
      Command.runAll (.step .left 90 span :: commands) t =
        Stride.takeAll ((Command.unrollAll commands).map (Placement.quarterTurn n).stride)
          { t with heading := Heading.quarterTurn 0 } := by
    intro t ht
    have hturn : Motion.apply .left 90 t = .ok () { t with heading := 90 } := by
      change EStateM.Result.ok () { t with heading := Heading.turnLeft t.heading 90 } = _
      rw [ht]
      rfl
    rw [Placement.map_stride_of_not_mirrors _ rfl, ← Command.runAll_eq_takeAll,
      Command.runAll_cons, Command.run_step, hturn]
    rfl
  obtain ⟨result, result', hmatches, hdraw, hdraw'⟩ :=
    (Placement.quarterTurn n).exists_matches_draw hn hn (Turtle.quarterTurn_center hodd) hcommands
  rw [hdraw, hdraw']
  exact hmatches.carried (fun p => (Point.within_quarterTurn p).mp) fun _ _ _ => rfl

theorem carried_draw_mirror (hn : 0 < n) (hodd : n % 2 = 1) (commands : List Command) :
    Carried (Point.mirror n) (fun facing => 360 - facing)
      (draw (Grid.blank n hn) commands) (draw (Grid.blank n hn) (Command.flipAll commands)) := by
  obtain ⟨result, result', hmatches, hdraw, hdraw'⟩ :=
    (Placement.mirror n).exists_matches_draw_of_unrollAll hn hn (Turtle.mirror_center hodd) rfl
      (Command.unrollAll_flipAll commands)
  rw [hdraw, hdraw']
  exact hmatches.carried (fun p => (Point.within_mirror p).mp) fun _ => Heading.mirror_of_stuck

end Program

namespace Grid

variable {g g' : Grid}

def renderBackwards (g : Grid) : String :=
  String.join ((List.range g.size).map fun y => rowText (g.row y).reverse)

theorem row_eq_reverse (hsize : g'.size = g.size)
    (hvisited : ∀ p : Point, g'.isVisited (p.mirror g.size) = g.isVisited p) (y : Nat) :
    g'.row y = (g.row y).reverse := by
  apply List.ext_getElem
  · simp only [row, List.length_reverse, List.length_map, List.length_range, hsize]
  · intro x hx hx'
    simp only [row, List.length_map, List.length_range, hsize] at hx
    simp only [row, List.getElem_reverse, List.getElem_map, List.getElem_range, List.length_map,
      List.length_range]
    rw [← hvisited]
    congr 1
    simp only [Point.mirror, Point.mk.injEq, and_true]
    omega

theorem render_eq_renderBackwards (hsize : g'.size = g.size)
    (hvisited : ∀ p : Point, g'.isVisited (p.mirror g.size) = g.isVisited p) :
    g'.render = g.renderBackwards := by
  rw [render, renderBackwards, hsize]
  simp only [row_eq_reverse hsize hvisited]

end Grid

/-- A turtle that first turns a quarter to the left draws what it would have drawn without, turned a
quarter counter-clockwise, or fails where that takes the failure. -/
theorem left_quarter_turns_drawing (commands : List Command) (span : Span) :
    (∀ (n : Nat) (hn : 0 < n), n % 2 = 1 →
      Carried (fun p => ⟨p.y, n - 1 - p.x⟩) (fun facing => (facing + 90) % 360)
        (Program.draw (Grid.blank n hn) commands)
        (Program.draw (Grid.blank n hn) (.step .left 90 span :: commands))) ∧
      ∀ (allocator : Allocator) (n : Int) (grid : Grid), n % 2 = 1 →
        Grid.create allocator n = .ok grid →
          Carried (fun p => ⟨p.y, n - 1 - p.x⟩) (fun facing => (facing + 90) % 360)
            (Program.run allocator ⟨n, commands⟩)
            (Program.run allocator ⟨n, .step .left 90 span :: commands⟩) := by
  refine ⟨fun n hn hodd => Program.carried_draw_quarterTurn hn hodd commands span, ?_⟩
  intro allocator n grid hodd hgrid
  obtain ⟨n, hn, rfl, hrun⟩ := Program.exists_run_eq_draw hgrid
  rw [hrun, hrun]
  exact Program.carried_draw_quarterTurn hn (by omega) commands span

/-- The second round of the loop leaves a square of five over the upper edge, in the column right of
the middle. After the quarter turn it leaves over the left edge, in the row above the middle. -/
theorem left_quarter_turns_drawing_edge :
    let move : Span := ⟨11, 13, 1, 12⟩
    let turn : Span := ⟨16, 18, 1, 17⟩
    let commands : List Command :=
      [.loop 2 [.step .forward 2 move, .step .right 45 turn] ⟨2, 8, 1, 3⟩]
    let allocator : Allocator := fun _ => true
    Grid.create allocator 5 = .ok (Grid.blank 5 (by decide)) ∧
      Program.run allocator ⟨5, commands⟩ = .error ⟨.outOfBounds ⟨3, -1⟩ 5, some move⟩ ∧
        Program.run allocator ⟨5, .step .left 90 ⟨2, 4, 1, 3⟩ :: commands⟩ =
          .error ⟨.outOfBounds ⟨-1, 1⟩ 5, some move⟩ := by
  intro move turn commands allocator
  have hgrid : Grid.create allocator 5 = .ok (Grid.blank 5 (by decide)) := rfl
  have hrun : Program.run allocator ⟨5, commands⟩ =
      .error ⟨.outOfBounds ⟨3, -1⟩ 5, some move⟩ := by
    rw [Program.run_of_create hgrid]
    rfl
  have hcarried := (left_quarter_turns_drawing commands ⟨2, 4, 1, 3⟩).2 allocator 5 _ rfl hgrid
  rw [hrun] at hcarried
  generalize Program.run allocator ⟨5, .step .left 90 ⟨2, 4, 1, 3⟩ :: commands⟩ = result
    at hcarried ⊢
  cases hcarried
  exact ⟨hgrid, hrun, rfl⟩

/-- What swapping left and right makes of a drawing on a square of this size. -/
structure Mirrored (n : Int) (result result' : Except RunError Grid) : Prop where
  carried : Carried (fun p => ⟨n - 1 - p.x, p.y⟩) (fun facing => 360 - facing) result result'
  render_eq : ∀ g g', result = .ok g → result' = .ok g' → g'.render = g.renderBackwards

theorem Program.mirrored_draw (hn : 0 < n) (hodd : n % 2 = 1) (commands : List Command) :
    Mirrored n (draw (Grid.blank n hn) commands)
      (draw (Grid.blank n hn) (Command.flipAll commands)) where
  carried := carried_draw_mirror hn hodd commands
  render_eq g g' hg hg' := by
    have hsize : g.size = n := ((isOutcome_draw hn commands).picture g hg).1
    have hcarried := carried_draw_mirror hn hodd commands
    rw [hg, hg'] at hcarried
    cases hcarried with
    | ok hsize' hvisited =>
      apply Grid.render_eq_renderBackwards hsize'
      rw [hsize]
      exact hvisited

/-- Commands with left and right swapped at every level of nesting draw the mirror image, whose rows
are those of the picture read backwards, or fail where the mirror shows the failure. -/
theorem flipped_commands_mirror_drawing (commands : List Command) :
    (∀ (n : Nat) (hn : 0 < n), n % 2 = 1 →
      Mirrored n (Program.draw (Grid.blank n hn) commands)
        (Program.draw (Grid.blank n hn) (Command.flipAll commands))) ∧
      ∀ (allocator : Allocator) (n : Int) (grid : Grid), n % 2 = 1 →
        Grid.create allocator n = .ok grid →
          Mirrored n (Program.run allocator ⟨n, commands⟩)
            (Program.run allocator ⟨n, Command.flipAll commands⟩) := by
  refine ⟨fun n hn hodd => Program.mirrored_draw hn hodd commands, ?_⟩
  intro allocator n grid hodd hgrid
  obtain ⟨n, hn, rfl, hrun⟩ := Program.exists_run_eq_draw hgrid
  rw [hrun, hrun]
  exact Program.mirrored_draw hn (by omega) commands

/-- After three turns in a loop the turtle can still move, on either side; after a fourth one, in a
loop of its own, it faces no direction. -/
theorem flipped_commands_mirror_drawing_stuck :
    let turn : Span := ⟨11, 13, 1, 12⟩
    let move : Span := ⟨19, 21, 1, 20⟩
    let commands : List Command :=
      [.loop 3 [.step .left 15 turn] ⟨2, 8, 1, 3⟩, .step .forward 1 move,
        .loop 1 [.step .left 15 turn, .step .back 2 move] ⟨2, 8, 1, 3⟩]
    let flipped : List Command :=
      [.loop 3 [.step .right 15 turn] ⟨2, 8, 1, 3⟩, .step .forward 1 move,
        .loop 1 [.step .right 15 turn, .step .back 2 move] ⟨2, 8, 1, 3⟩]
    let allocator : Allocator := fun _ => true
    (Grid.create allocator 3 = .ok (Grid.blank 3 (by decide)) ∧
        Command.flipAll commands = flipped) ∧
      Program.run allocator ⟨3, commands⟩ = .error ⟨.unsupportedHeading 60, some move⟩ ∧
        Program.run allocator ⟨3, flipped⟩ = .error ⟨.unsupportedHeading 300, some move⟩ := by
  intro turn move commands flipped allocator
  have hgrid : Grid.create allocator 3 = .ok (Grid.blank 3 (by decide)) := rfl
  have hrun : Program.run allocator ⟨3, commands⟩ =
      .error ⟨.unsupportedHeading 60, some move⟩ := by
    rw [Program.run_of_create hgrid]
    rfl
  have hcarried := ((flipped_commands_mirror_drawing commands).2 allocator 3 _ rfl hgrid).carried
  rw [hrun, show Command.flipAll commands = flipped from rfl] at hcarried
  generalize Program.run allocator ⟨3, flipped⟩ = result at hcarried ⊢
  cases hcarried
  exact ⟨⟨hgrid, rfl⟩, hrun, rfl⟩

end TurtleGraphics
