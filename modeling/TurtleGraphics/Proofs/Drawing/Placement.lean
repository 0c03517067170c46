import Mathlib.Data.Finset.Image
import TurtleGraphics.Proofs.Drawing.Outcome

/-!
# Placements

A placement lays a square into another one: it turns, mirrors or shifts the plane, and says what
becomes of cells, directions and headings, and whether left becomes right. A turtle in the one
square and its image in the other take the same strides side by side, and each step of the first
has its image in a step of the second. `Matches` says how their results compare. They may part only
where the first turtle leaves its square for a cell that the other square still has.
-/

namespace TurtleGraphics

open Text

def Motion.flip : Motion → Motion
  | forward => forward
  | back => back
  | left => right
  | right => left

theorem Grid.contains_iff_within {g : Grid} {size : Nat} (h : g.size = size) (p : Point) :
    g.Contains p ↔ p.Within size := by
  rw [← h]
  rfl

def pictureOf : EStateM.Result RunError (Turtle Grid) Unit → Except RunError Grid
  | .ok _ t => .ok t.canvas
  | .error e _ => .error e

theorem Program.draw_of_start {grid : Grid} {t : Turtle Grid} (h : Turtle.start grid = .ok () t)
    (commands : List Command) : draw grid commands = pictureOf (Command.runAll commands t) := by
  rw [draw, h]
  cases hrun : Command.runAll commands t with
  | ok _ t' => simp only [hrun, pictureOf]
  | error e t' => simp only [hrun, pictureOf]

/-- A map of the plane that takes the square of size `n` into the square of size `m`, with what it
makes of the steps and headings that turtles take. -/
structure Placement (n m : Nat) where
  cell : Point → Point
  direction : Point → Point
  heading : Int → Int
  /-- Whether left and right are swapped. -/
  mirrors : Bool
  cell_add : ∀ p d, cell (p + d) = cell p + direction d
  cell_injective : Function.Injective cell
  within_cell : ∀ {p}, p.Within n → (cell p).Within m
  direction_neg : ∀ d, direction (-d) = -direction d
  heading_turn : ∀ facing degrees, heading ((facing + degrees) % 360) =
    (heading facing + if mirrors then -degrees else degrees) % 360
  unitStep?_heading : ∀ {facing}, 0 ≤ facing ∧ facing < 360 →
    Heading.unitStep? (heading facing) = (Heading.unitStep? facing).map direction

namespace Placement

variable {n m : Nat} (φ : Placement n m)

def motion (motion : Motion) : Motion :=
  if φ.mirrors then motion.flip else motion

def stride (s : Stride) : Stride := { s with motion := φ.motion s.motion }

theorem map_stride_of_not_mirrors (h : φ.mirrors = false) (strides : List Stride) :
    strides.map φ.stride = strides := by
  have hstride : φ.stride = id := by
    funext s
    simp only [stride, motion, h, Bool.false_eq_true, if_false, id]
  rw [hstride, List.map_id]

theorem motion_forward : φ.motion .forward = .forward := ite_self _

theorem motion_back : φ.motion .back = .back := ite_self _

theorem apply_motion_left (amount : Int) (t : Turtle Grid) :
    (φ.motion .left).apply amount t =
      .ok () { t with heading := (t.heading + if φ.mirrors then -amount else amount) % 360 } := by
  unfold motion
  by_cases hmirrors : φ.mirrors
  · rw [if_pos hmirrors, if_pos hmirrors, ← Int.sub_eq_add_neg, ← Heading.turnRight_eq]
    rfl
  · rw [if_neg hmirrors, if_neg hmirrors, ← Heading.turnLeft_eq]
    rfl

/-- A turn to the right is a turn to the left by the opposite amount. -/
theorem apply_motion_right (amount : Int) (t : Turtle Grid) :
    (φ.motion .right).apply amount t = (φ.motion .left).apply (-amount) t := by
  rw [apply_motion_left]
  unfold motion
  by_cases hmirrors : φ.mirrors
  · rw [if_pos hmirrors, if_pos hmirrors, Int.neg_neg, ← Heading.turnLeft_eq]
    rfl
  · rw [if_neg hmirrors, if_neg hmirrors, ← Int.sub_eq_add_neg, ← Heading.turnRight_eq]
    rfl

/-- The second turtle stands as the image of the first, on a grid that shows the image of what the
first has visited. -/
structure Related (t t' : Turtle Grid) : Prop where
  size_eq : t.canvas.size = n
  size_eq' : t'.canvas.size = m
  position_eq : t'.position = φ.cell t.position
  heading_eq : t'.heading = φ.heading t.heading
  heading_mem : 0 ≤ t.heading ∧ t.heading < 360
  shows : ∃ cells, t.canvas.Shows cells ∧ t'.canvas.Shows (cells.image φ.cell)

/-- How a run in the first square and one in the second end. -/
inductive Matches : EStateM.Result RunError (Turtle Grid) Unit →
    EStateM.Result RunError (Turtle Grid) Unit → Prop
  | ok {t t' : Turtle Grid} (h : φ.Related t t') : Matches (.ok () t) (.ok () t')
  | stuck (facing : Int) (hmem : 0 ≤ facing ∧ facing < 360)
      (hstuck : Heading.unitStep? facing = none) (span : Option Span) (t t' : Turtle Grid) :
    Matches (.error ⟨.unsupportedHeading facing, span⟩ t)
      (.error ⟨.unsupportedHeading (φ.heading facing), span⟩ t')
  | outside (p : Point) (hp : ¬ p.Within n) (hp' : ¬ (φ.cell p).Within m) (span : Option Span)
      (t t' : Turtle Grid) :
    Matches (.error ⟨.outOfBounds p n, span⟩ t) (.error ⟨.outOfBounds (φ.cell p) m, span⟩ t')
  /-- Only the first square ends here, and the second turtle may go on to any result. -/
  | beyond (p : Point) (hp : ¬ p.Within n) (hp' : (φ.cell p).Within m) (span : Option Span)
      (t : Turtle Grid) (result : EStateM.Result RunError (Turtle Grid) Unit) :
    Matches (.error ⟨.outOfBounds p n, span⟩ t) result

variable {φ} {t t' : Turtle Grid}

theorem Matches.andThen {result result' : EStateM.Result RunError (Turtle Grid) Unit}
    {next next' : Turtle Grid → EStateM.Result RunError (Turtle Grid) Unit}
    (h : φ.Matches result result')
    (hnext : ∀ t t', φ.Related t t' → φ.Matches (next t) (next' t')) :
    φ.Matches (andThen result next) (andThen result' next') := by
  cases h with
  | ok h => exact hnext _ _ h
  | stuck facing hmem hstuck span t t' => exact .stuck facing hmem hstuck span t t'
  | outside p hp hp' span t t' => exact .outside p hp hp' span t t'
  | beyond p hp hp' span t result => exact .beyond p hp hp' span t _

namespace Related

theorem isVisited_cell (h : φ.Related t t') (p : Point) :
    t'.canvas.isVisited (φ.cell p) = t.canvas.isVisited p := by
  obtain ⟨cells, hshows, hshows'⟩ := h.shows
  rw [Bool.eq_iff_iff, hshows.isVisited_iff, hshows'.isVisited_iff,
    φ.cell_injective.mem_finset_image]

theorem exists_of_isVisited (h : φ.Related t t') {p : Point}
    (hp : t'.canvas.isVisited p = true) :
    ∃ c, t.canvas.isVisited c = true ∧ φ.cell c = p := by
  obtain ⟨cells, hshows, hshows'⟩ := h.shows
  obtain ⟨c, hc, hcell⟩ := Finset.mem_image.mp ((hshows'.isVisited_iff p).mp hp)
  exact ⟨c, (hshows.isVisited_iff c).mpr hc, hcell⟩

theorem visitedCount_eq (h : φ.Related t t') :
    t'.canvas.visitedCount = t.canvas.visitedCount := by
  obtain ⟨cells, hshows, hshows'⟩ := h.shows
  rw [hshows.visitedCount_eq, hshows'.visitedCount_eq,
    Finset.card_image_of_injective _ φ.cell_injective]

/-- One step: a cell that the first turtle may enter has an image that the second may enter. -/
theorem matches_enter (h : φ.Related t t') (p : Point) (span : Span) :
    φ.Matches (located span (Turtle.enter p t))
      (located span (Turtle.enter (φ.cell p) t')) := by
  have hcontains := Grid.contains_iff_within h.size_eq p
  have hcontains' := Grid.contains_iff_within h.size_eq' (φ.cell p)
  by_cases hp : p.Within n
  · have hp' := φ.within_cell hp
    rw [Turtle.enter_of_contains (hcontains.mpr hp),
      Turtle.enter_of_contains (hcontains'.mpr hp')]
    obtain ⟨cells, hshows, hshows'⟩ := h.shows
    refine .ok ⟨h.size_eq, h.size_eq', rfl, h.heading_eq, h.heading_mem, insert p cells, ?_, ?_⟩
    · exact hshows.mark (hcontains.mpr hp)
    · rw [Finset.image_insert]
      exact hshows'.mark (hcontains'.mpr hp')
  · -- The first turtle stops here. The second does so only if its own square ends here too.
    rw [Turtle.enter_of_not_contains (mt hcontains.mp hp), h.size_eq]
    by_cases hp' : (φ.cell p).Within m
    · exact .beyond p hp hp' _ _ _
    · rw [Turtle.enter_of_not_contains (mt hcontains'.mp hp'), h.size_eq']
      exact .outside p hp hp' _ _ _

theorem matches_walk (h : φ.Related t t') (step : Point) (span : Span) (steps : Nat) :
    φ.Matches (located span (Turtle.walk step steps t))
      (located span (Turtle.walk (φ.direction step) steps t')) := by
  induction steps generalizing t t' with
  | zero => exact .ok h
  | succ steps ih =>
    rw [Turtle.located_walk_succ, Turtle.located_walk_succ, h.position_eq, ← φ.cell_add]
    exact (h.matches_enter (t.position + step) span).andThen fun _ _ => ih

theorem matches_travel (h : φ.Related t t') (orient : Point → Point)
    (horient : ∀ d, φ.direction (orient d) = orient (φ.direction d)) (span : Span)
    (steps : Int) :
    φ.Matches (located span (Turtle.travel orient steps t))
      (located span (Turtle.travel orient steps t')) := by
  unfold Turtle.travel
  by_cases hsteps : steps ≤ 0
  · rw [if_pos hsteps, if_pos hsteps]
    exact .ok h
  · rw [if_neg hsteps, if_neg hsteps, h.heading_eq, Turtle.stepAlong, Turtle.stepAlong,
      φ.unitStep?_heading h.heading_mem]
    cases hstep : Heading.unitStep? t.heading with
    | none => exact .stuck t.heading h.heading_mem hstep _ _ _
    | some step =>
      have hwalk := h.matches_walk (orient step) span steps.toNat
      rwa [horient] at hwalk

theorem matches_turn (h : φ.Related t t') (amount : Int) (span : Span) :
    φ.Matches (.ok () { t with heading := (t.heading + amount) % 360 })
      (located span ((φ.motion .left).apply amount t')) := by
  have hmem : 0 ≤ (t.heading + amount) % 360 ∧ (t.heading + amount) % 360 < 360 := by omega
  rw [φ.apply_motion_left]
  refine .ok ⟨h.size_eq, h.size_eq', h.position_eq, ?_, hmem, h.shows⟩
  rw [φ.heading_turn, h.heading_eq]

theorem matches_take (h : φ.Related t t') (s : Stride) :
    φ.Matches (s.take t) ((φ.stride s).take t') := by
  obtain ⟨motion, amount, span⟩ := s
  change φ.Matches (located span (motion.apply amount t))
    (located span ((φ.motion motion).apply amount t'))
  cases motion with
  | forward =>
    rw [φ.motion_forward]
    exact h.matches_travel (fun step => step) (fun _ => rfl) span amount
  | back =>
    rw [φ.motion_back]
    exact h.matches_travel (fun step => -step) φ.direction_neg span amount
  | left =>
    have hturn := h.matches_turn amount span
    rwa [← Heading.turnLeft_eq] at hturn
  | right =>
    have hturn := h.matches_turn (-amount) span
    rwa [← Int.sub_eq_add_neg, ← Heading.turnRight_eq, ← φ.apply_motion_right] at hturn

/-- Both turtles take all their strides side by side. -/
theorem matches_takeAll (h : φ.Related t t') (strides : List Stride) :
    φ.Matches (Stride.takeAll strides t) (Stride.takeAll (strides.map φ.stride) t') := by
  induction strides generalizing t t' with
  | nil => exact .ok h
  | cons s strides ih => exact (h.matches_take s).andThen fun _ _ => ih

end Related

theorem related_start {t t' : Turtle Grid} (ht : t.Stands n [Turtle.center n] (Pose.start n))
    (ht' : t'.Stands m [Turtle.center m] (Pose.start m))
    (hcenter : φ.cell (Turtle.center n) = Turtle.center m) :
    φ.Related t { t' with heading := φ.heading 0 } where
  size_eq := ht.size_eq
  size_eq' := ht'.size_eq
  position_eq := by
    rw [ht.position_eq, Pose.start, hcenter]
    exact ht'.position_eq
  heading_eq := by
    rw [ht.heading_eq]
    rfl
  heading_mem := by
    rw [ht.heading_eq]
    exact ht.heading_mem
  shows := by
    refine ⟨_, ht.shows, ?_⟩
    rw [List.toFinset_cons, List.toFinset_nil, Finset.image_insert, Finset.image_empty, hcenter]
    exact ht'.shows

/-- The drawings of two command lists match if the second list puts its turtle on the image of the
heading that the first one starts with and then takes the images of its strides. -/
theorem exists_matches_draw (φ : Placement n m) (hn : 0 < n) (hm : 0 < m)
    (hcenter : φ.cell (Turtle.center n) = Turtle.center m) {commands commands' : List Command}
    (hcommands : ∀ t : Turtle Grid, t.heading = 0 → Command.runAll commands' t =
      Stride.takeAll ((Command.unrollAll commands).map φ.stride)
        { t with heading := φ.heading 0 }) :
    ∃ result result', φ.Matches result result' ∧
      Program.draw (Grid.blank n hn) commands = pictureOf result ∧
        Program.draw (Grid.blank m hm) commands' = pictureOf result' := by
  obtain ⟨t, hstart, ht⟩ := Turtle.exists_start_blank hn
  obtain ⟨t', hstart', ht'⟩ := Turtle.exists_start_blank hm
  refine ⟨_, _, (related_start ht ht' hcenter).matches_takeAll (Command.unrollAll commands), ?_, ?_⟩
  · rw [Program.draw_of_start hstart, Command.runAll_eq_takeAll]
  · rw [Program.draw_of_start hstart', hcommands t' ht'.heading_eq]

theorem exists_matches_draw_of_unrollAll (φ : Placement n m) (hn : 0 < n) (hm : 0 < m)
    (hcenter : φ.cell (Turtle.center n) = Turtle.center m) (hheading : φ.heading 0 = 0)
    {commands commands' : List Command}
    (hunroll : Command.unrollAll commands' = (Command.unrollAll commands).map φ.stride) :
    ∃ result result', φ.Matches result result' ∧
      Program.draw (Grid.blank n hn) commands = pictureOf result ∧
        Program.draw (Grid.blank m hm) commands' = pictureOf result' := by
  apply φ.exists_matches_draw hn hm hcenter
  intro t ht
  rw [hheading, ← ht, Command.runAll_eq_takeAll, hunroll]

end Placement

/-- A program runs by drawing on a blank square of its size, if there can be one. -/
theorem Program.exists_run_eq_draw {allocator : Allocator} {size : Int} {grid : Grid}
    (h : Grid.create allocator size = .ok grid) :
    ∃ (n : Nat) (hn : 0 < n), size = n ∧
      ∀ commands, run allocator ⟨size, commands⟩ = draw (Grid.blank n hn) commands := by
  obtain ⟨hn, rfl⟩ := Grid.create_eq_ok h
  exact ⟨size.toNat, hn, by omega, fun _ => run_of_create h⟩

end TurtleGraphics
