import TurtleGraphics.Proofs.Drawing.Placement

/-!
# Drawings with a margin

A drawing that fits on a square fits on every larger one. The turtle starts in the middle of both,
so the picture moves by the distance of the two middles and gets a margin on all sides. A square of
even size has no middle cell, and the turtle starts right of and below the middle; even so, no
margin is negative.
-/

namespace TurtleGraphics

open Text

/-- The second drawing is the first one moved by `d` in both directions, or stuck where that one
is. A drawing that leaves its square says nothing about larger ones. -/
structure HasMargin (d : Int) (result result' : Except RunError Grid) : Prop where
  picture : ∀ g, result = .ok g → ∃ g', result' = .ok g' ∧
    g'.visitedCount = g.visitedCount ∧
      (∀ p, g.Contains p → g'.isVisited ⟨p.x + d, p.y + d⟩ = g.isVisited p) ∧
        ∀ p, g'.isVisited p = true → g.Contains ⟨p.x - d, p.y - d⟩
  stuck : ∀ facing span, result = .error ⟨.unsupportedHeading facing, span⟩ →
    result' = .error ⟨.unsupportedHeading facing, span⟩

namespace Point

def shift (d : Int) (p : Point) : Point := ⟨p.x + d, p.y + d⟩

theorem shift_add (d : Int) (p q : Point) : (p + q).shift d = p.shift d + q := by
  ext
  · simp only [shift, add_x]
    omega
  · simp only [shift, add_y]
    omega

theorem shift_injective (d : Int) : Function.Injective (shift d) := by
  intro p q h
  simp only [shift, mk.injEq] at h
  ext <;> omega

/-- Whatever the parities, there is room on all four sides. -/
theorem Within.shift {n m : Nat} (h : n ≤ m) {p : Point} (hp : p.Within n) :
    (p.shift (m / 2 - n / 2)).Within m := by
  simp only [Within, Point.shift] at hp ⊢
  omega

end Point

theorem Turtle.shift_center (n m : Nat) : (center n).shift (m / 2 - n / 2) = center m := by
  simp only [center, Point.shift, Point.mk.injEq]
  omega

namespace Placement

variable {n m : Nat}

def margin (h : n ≤ m) : Placement n m where
  cell := Point.shift (m / 2 - n / 2)
  direction d := d
  heading facing := facing
  mirrors := false
  cell_add := Point.shift_add _
  cell_injective := Point.shift_injective _
  within_cell := Point.Within.shift h
  direction_neg _ := rfl
  heading_turn _ _ := rfl
  unitStep?_heading _ := Option.map_id'.symm

theorem Matches.hasMargin {h : n ≤ m}
    {result result' : EStateM.Result RunError (Turtle Grid) Unit}
    (hmatches : (margin h).Matches result result') :
    HasMargin (m / 2 - n / 2) (pictureOf result) (pictureOf result') where
  picture g hg := by
    cases hmatches with
    | ok hrelated =>
      obtain rfl := Except.ok.inj hg
      refine ⟨_, rfl, hrelated.visitedCount_eq, fun p _ => hrelated.isVisited_cell p, ?_⟩
      intro p hp
      obtain ⟨c, hc, rfl⟩ := hrelated.exists_of_isVisited hp
      simp only [margin, Point.shift, Int.add_sub_cancel]
      exact Grid.contains_of_isVisited hc
    | stuck facing hmem hstuck span t t' => cases hg
    | outside p hp hp' span t t' => cases hg
    | beyond p hp hp' span t result => cases hg
  stuck facing span hstuck := by
    cases hmatches with
    | ok hrelated => cases hstuck
    | stuck facing' hmem hnone span' t t' =>
      obtain ⟨rfl, rfl⟩ : facing' = facing ∧ span' = span := by
        simpa only [pictureOf, Except.error.injEq, RunError.mk.injEq,
          DrawError.unsupportedHeading.injEq] using hstuck
      rfl
    | outside p hp hp' span' t t' => cases hstuck
    | beyond p hp hp' span' t result => cases hstuck

end Placement

theorem Program.hasMargin_draw {n m : Nat} (hn : 0 < n) (hm : 0 < m) (h : n ≤ m)
    (commands : List Command) :
    HasMargin (m / 2 - n / 2) (draw (Grid.blank n hn) commands)
      (draw (Grid.blank m hm) commands) := by
  have hunroll := (Placement.margin h).map_stride_of_not_mirrors rfl (Command.unrollAll commands)
  obtain ⟨result, result', hmatches, hdraw, hdraw'⟩ :=
    (Placement.margin h).exists_matches_draw_of_unrollAll hn hm (Turtle.shift_center n m) rfl
      hunroll.symm
  rw [hdraw, hdraw']
  exact hmatches.hasMargin

/-- On a larger grid a program draws the same picture around the other middle, and nothing else, and
what has no direction on the smaller grid has none on the larger one. -/
theorem larger_grid_adds_margin (commands : List Command) :
    (∀ (n m : Nat) (hn : 0 < n) (hm : 0 < m), n ≤ m →
      HasMargin (m / 2 - n / 2) (Program.draw (Grid.blank n hn) commands)
        (Program.draw (Grid.blank m hm) commands)) ∧
      ∀ (allocator : Allocator) (n m : Int) (grid grid' : Grid), n ≤ m →
        Grid.create allocator n = .ok grid → Grid.create allocator m = .ok grid' →
          HasMargin (m / 2 - n / 2) (Program.run allocator ⟨n, commands⟩)
            (Program.run allocator ⟨m, commands⟩) := by
  refine ⟨fun n m hn hm h => Program.hasMargin_draw hn hm h commands, ?_⟩
  intro allocator n m grid grid' h hgrid hgrid'
  obtain ⟨n, hn, rfl, hrun⟩ := Program.exists_run_eq_draw hgrid
  obtain ⟨m, hm, rfl, hrun'⟩ := Program.exists_run_eq_draw hgrid'
  rw [hrun, hrun']
  exact Program.hasMargin_draw hn hm (by omega) commands

/-- On a square of four the turtle starts right of and below the middle and gets to the upper left
corner. On a square of seven that corner has a margin of one. -/
theorem larger_grid_adds_margin_corner :
    let place : Span := ⟨2, 4, 1, 3⟩
    let commands : List Command := [.loop 2 [.step .forward 2 place, .step .left 90 place] place]
    let allocator : Allocator := fun _ => true
    (Grid.create allocator 4 = .ok (Grid.blank 4 (by decide)) ∧
        Grid.create allocator 7 = .ok (Grid.blank 7 (by decide))) ∧
      ∃ g g', Program.run allocator ⟨4, commands⟩ = .ok g ∧
        Program.run allocator ⟨7, commands⟩ = .ok g' ∧
          g.isVisited ⟨0, 0⟩ = true ∧ g'.isVisited ⟨1, 1⟩ = true ∧
            g'.visitedCount = g.visitedCount := by
  intro place commands allocator
  have hgrid : Grid.create allocator 4 = .ok (Grid.blank 4 (by decide)) := rfl
  have hgrid' : Grid.create allocator 7 = .ok (Grid.blank 7 (by decide)) := rfl
  have houtcome : IsOutcome 4 commands (Program.run allocator ⟨4, commands⟩) := by
    rw [Program.run_of_create hgrid]
    exact Program.isOutcome_draw (by decide) commands
  have hfits : Event.misfit? 4 (Command.course 4 commands) = none := rfl
  have hsize : 0 < 4 := by decide
  obtain ⟨g, hrun⟩ :=
    houtcome.succeeds_iff.mpr ((Command.misfit?_course_eq_none_iff hsize).mp hfits)
  have hcorner : g.isVisited ⟨0, 0⟩ = true :=
    ((houtcome.picture g hrun).2.1 ⟨0, 0⟩).mpr (by decide)
  have hmargin := (larger_grid_adds_margin commands).2 allocator 4 7 _ _ (by decide) hgrid hgrid'
  obtain ⟨g', hrun', hcount, hvisited, -⟩ := hmargin.picture g hrun
  exact ⟨⟨hgrid, hgrid'⟩, g, g', hrun, hrun', hcorner,
    (hvisited ⟨0, 0⟩ (Grid.contains_of_isVisited hcorner)).trans hcorner, hcount⟩

end TurtleGraphics
