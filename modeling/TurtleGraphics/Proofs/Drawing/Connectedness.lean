import Mathlib.Logic.Relation
import TurtleGraphics.Proofs.Drawing.Culprit

/-!
# Connected drawings

A turtle only ever enters cells next to the one it stands on, and that one it has visited. So the
cells that it visits on a fresh grid hang together: king's moves over visited cells lead from the
cell where it started to each of them. `Turtle.OnTrail` is the invariant. A step adds at most one
cell, next to where the turtle stands (`Grid.ConnectedFrom.mark`), and a step that is refused adds
none, so the invariant outlives walks that are cut short.
-/

namespace TurtleGraphics

namespace Grid

def IsFresh (g : Grid) : Prop :=
  ∀ p, g.isVisited p = false

theorem isFresh_of_create {allocator : Allocator} {n : Int} {grid : Grid}
    (h : create allocator n = .ok grid) : grid.IsFresh := by
  obtain ⟨hn, rfl⟩ := create_eq_ok h
  exact isVisited_blank n.toNat hn

/-- King's moves, each of them to a visited cell, lead from the one cell to the other. -/
def Links (g : Grid) : Point → Point → Prop :=
  Relation.ReflTransGen fun p q => p.Adjacent q ∧ g.isVisited q = true

/-- The cell `start` is visited, and visited cells link it to every other one. -/
structure ConnectedFrom (start : Point) (g : Grid) : Prop where
  start_visited : g.isVisited start = true
  links : ∀ {p : Point}, g.isVisited p = true → g.Links start p

variable {g : Grid} {start p q : Point}

/-- A mark breaks no link. -/
theorem Links.mark (h : g.Links start q) (hp : g.Contains p) : (g.mark p hp).Links start q := by
  refine Relation.ReflTransGen.mono ?_ _ _ h
  rintro r s ⟨hadjacent, hvisited⟩
  exact ⟨hadjacent, isVisited_mark_of_isVisited hp hvisited⟩

namespace ConnectedFrom

theorem isVisited_iff (h : g.ConnectedFrom start) (p : Point) :
    g.isVisited p = true ↔ g.Links start p := by
  refine ⟨h.links, fun hlinks => ?_⟩
  cases hlinks with
  | refl => exact h.start_visited
  | tail _ hlast => exact hlast.2

/-- On a fresh grid the first mark is alone. -/
theorem of_isFresh (hg : g.IsFresh) (hp : g.Contains p) : (g.mark p hp).ConnectedFrom p where
  start_visited := isVisited_mark_self hp
  links {q} hq := by
    rw [isVisited_mark, hg q, Bool.or_false, decide_eq_true_eq] at hq
    subst hq
    exact .refl

/-- A cell next to a visited one may be marked, visited or not. -/
theorem mark (h : g.ConnectedFrom start) (hq : g.isVisited q = true) (hp : g.Contains p)
    (hadjacent : q ≠ p → q.Adjacent p) : (g.mark p hp).ConnectedFrom start where
  start_visited := isVisited_mark_of_isVisited hp h.start_visited
  links {r} hr := by
    have hlinks : (g.mark p hp).Links start q := (h.links hq).mark hp
    rw [isVisited_mark, Bool.or_eq_true, decide_eq_true_eq] at hr
    obtain rfl | hr := hr
    · by_cases hqr : q = r
      · exact hqr ▸ hlinks
      · exact hlinks.tail ⟨hadjacent hqr, isVisited_mark_self hp⟩
    · exact (h.links hr).mark hp

end ConnectedFrom

end Grid

theorem Turtle.isStep_of_stepAlong {heading : Int} {d : Point} (h : stepAlong heading = .ok d) :
    d.IsStep := by
  unfold stepAlong at h
  split at h
  · next step hstep =>
    obtain rfl := Except.ok.inj h
    exact Heading.isStep_of_unitStep? hstep
  · cases h

structure Turtle.OnTrail (start : Point) (t : Turtle Grid) : Prop where
  connected : t.canvas.ConnectedFrom start
  visited : t.canvas.isVisited t.position = true

namespace Turtle.OnTrail

variable {start : Point} {t : Turtle Grid}

/-- One step, taken or refused. -/
theorem enter (ht : t.OnTrail start) {d : Point} (hd : d.IsStep) :
    (finalState (enter (t.position + d) t)).OnTrail start := by
  by_cases hp : t.canvas.Contains (t.position + d)
  · rw [enter_of_contains hp]
    exact ⟨ht.connected.mark ht.visited hp hd.adjacent_add, Grid.isVisited_mark_self hp⟩
  · rw [enter_of_not_contains hp]
    exact ht

theorem travel (ht : t.OnTrail start) {orient : Point → Point}
    (horient : ∀ {d : Point}, d.IsStep → (orient d).IsStep) (steps : Int) :
    (finalState (travel orient steps t)).OnTrail start := by
  apply finalState_travel_of_walk ht
  intro step hstep
  have horiented : (orient step).IsStep := horient (isStep_of_stepAlong hstep)
  exact finalState_walk_of_enter (fun ht => ht.enter horiented) steps.toNat ht

theorem keptByMotions (start : Point) : KeptByMotions (OnTrail start) := by
  intro t motion amount ht
  cases motion with
  | forward => exact ht.travel id amount
  | back => exact ht.travel Point.IsStep.neg amount
  | left => exact ⟨ht.connected, ht.visited⟩
  | right => exact ⟨ht.connected, ht.visited⟩

theorem exists_start {grid : Grid} (hgrid : grid.IsFresh) :
    ∃ t, Turtle.start grid = .ok () t ∧ t.OnTrail (center grid.size) := by
  have hcenter := contains_center grid
  exact ⟨_, start_eq grid, .of_isFresh hgrid hcenter, Grid.isVisited_mark_self hcenter⟩

end Turtle.OnTrail

/-- Whatever a turtle is called to do on a grid that was fresh when it started, calls that fail
included, the drawing is one trail: the visited cells are those that king's moves over visited cells
lead to from the middle of the grid. -/
theorem drawing_is_connected :
    (∀ allocator n grid, Grid.create allocator n = .ok grid → grid.IsFresh) ∧
      ∀ grid : Grid, grid.IsFresh →
        ∃ start, Turtle.start grid = .ok () start ∧ ∀ calls : List Call,
          let g := (Call.performAll calls start).canvas
          g.isVisited (Turtle.center grid.size) = true ∧
            ∀ p, g.isVisited p = true ↔ g.Links (Turtle.center grid.size) p := by
  refine ⟨fun allocator n grid hgrid => Grid.isFresh_of_create hgrid, ?_⟩
  intro grid hgrid
  obtain ⟨start, hstart, htrail⟩ := Turtle.OnTrail.exists_start hgrid
  refine ⟨start, hstart, ?_⟩
  intro calls g
  have hconnected : g.ConnectedFrom (Turtle.center grid.size) :=
    ((Turtle.OnTrail.keptByMotions _).performAll calls htrail).connected
  exact ⟨hconnected.start_visited, hconnected.isVisited_iff⟩

/-- On a square of five the turtle is stopped by the upper edge, and then inside of a loop by the
left one. The corner that it has come to is two rows and two columns away from the middle, and
linked to it. The corner on the other side is not. -/
theorem drawing_is_connected_corner :
    let grid := Grid.blank 5 (by decide)
    let place : Text.Span := ⟨0, 0, 1, 1⟩
    let calls : List Call :=
      [.forward 9, .turnLeft 90, .run (.loop 3 [.step .forward 1 place] place), .turnRight 1,
        .backward 1]
    let allocator : Allocator := fun _ => true
    Grid.create allocator 5 = .ok grid ∧
      ∃ start, Turtle.start grid = .ok () start ∧
        let g := (Call.performAll calls start).canvas
        g.Links ⟨2, 2⟩ ⟨0, 0⟩ ∧ ¬ g.Links ⟨2, 2⟩ ⟨4, 4⟩ := by
  have hmarked : Turtle.start (Grid.blank 5 (by decide)) =
      .ok () ⟨(Grid.blank 5 (by decide)).mark ⟨2, 2⟩ (by decide), ⟨2, 2⟩, 0⟩ := rfl
  have hmiddle : Turtle.center 5 = ⟨2, 2⟩ := rfl
  intro grid place calls allocator
  have hgrid : Grid.create allocator 5 = .ok grid := rfl
  obtain ⟨hcreate, hdrawing⟩ := drawing_is_connected
  obtain ⟨start, hstart, hcalls⟩ := hdrawing grid (hcreate allocator 5 grid hgrid)
  obtain ⟨-, rfl⟩ := EStateM.Result.ok.inj (hmarked.symm.trans hstart)
  obtain ⟨-, hlinks⟩ := hcalls calls
  rw [Grid.size_blank, hmiddle] at hlinks
  refine ⟨hgrid, _, hstart, (hlinks ⟨0, 0⟩).mp ?_, mt (hlinks ⟨4, 4⟩).mpr ?_⟩
  · decide +kernel +zetaReduce
  · decide +kernel +zetaReduce

end TurtleGraphics
