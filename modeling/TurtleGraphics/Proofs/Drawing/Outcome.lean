import TurtleGraphics.Program
import TurtleGraphics.Proofs.Drawing.Course
import TurtleGraphics.Proofs.Drawing.Picture

/-!
# The outcome of a drawing

A turtle on a grid follows the course of its commands up to the first event that does not fit. If
every event fits, the grid shows the cells of the course, and otherwise the drawing fails with
what that event says. `Follows` is the invariant: it ties the result of some strides to their
part of the course, and parts are joined by `Follows.append`.
-/

namespace TurtleGraphics

open Text

/-- The turtle stands as the pose says on a grid that shows the cells `seen`. -/
structure Turtle.Stands (size : Nat) (seen : List Point) (q : Pose) (t : Turtle Grid) : Prop where
  size_eq : t.canvas.size = size
  position_eq : t.position = q.position
  heading_eq : t.heading = q.heading
  heading_mem : 0 ≤ q.heading ∧ q.heading < 360
  shows : t.canvas.Shows seen.toFinset

/-- The result that `events` call for: the turtle ends in the pose `q` and has seen their cells,
or the first of them that does not fit is the failure. -/
def Follows (size : Nat) (seen : List Point) (events : List Event) (q : Pose) :
    EStateM.Result RunError (Turtle Grid) Unit → Prop
  | .ok _ t => Event.misfit? size events = none ∧ t.Stands size (seen ++ Event.cells events) q
  | .error e _ => ∃ event, Event.misfit? size events = some event ∧ e = event.error size

variable {size : Nat} {seen : List Point} {q : Pose} {t : Turtle Grid}

theorem Turtle.Stands.follows_nil (ht : t.Stands size seen q) :
    Follows size seen [] q (.ok () t) := by
  refine ⟨rfl, ?_⟩
  rw [show Event.cells [] = [] from rfl, List.append_nil]
  exact ht

theorem Follows.append {before after : List Event} {q' : Pose}
    {result : EStateM.Result RunError (Turtle Grid) Unit}
    {next : Turtle Grid → EStateM.Result RunError (Turtle Grid) Unit}
    (h : Follows size seen before q result)
    (hnext : ∀ t : Turtle Grid, t.Stands size (seen ++ Event.cells before) q →
      Follows size (seen ++ Event.cells before) after q' (next t)) :
    Follows size seen (before ++ after) q' (andThen result next) := by
  cases result with
  | error e t =>
    obtain ⟨event, hevent, he⟩ := h
    refine ⟨event, ?_, he⟩
    rw [Event.misfit?_append, hevent, Option.some_or]
  | ok _ t =>
    obtain ⟨hfits, ht⟩ := h
    have hafter := hnext t ht
    change Follows size seen (before ++ after) q' (next t)
    cases hresult : next t with
    | error e t' =>
      rw [hresult] at hafter
      obtain ⟨event, hevent, he⟩ := hafter
      refine ⟨event, ?_, he⟩
      rw [Event.misfit?_append, hfits, Option.none_or, hevent]
    | ok _ t' =>
      rw [hresult] at hafter
      obtain ⟨hfits', ht'⟩ := hafter
      refine ⟨?_, ?_⟩
      · rw [Event.misfit?_append, hfits, Option.none_or, hfits']
      · rw [Event.cells_append, ← List.append_assoc]
        exact ht'

namespace Turtle

theorem enter_of_visit_ok {C : Type} [Canvas C] {t : Turtle C} {p : Point} {canvas : C}
    (h : Canvas.visit p t.canvas = .ok () canvas) :
    enter p t = .ok () ⟨canvas, p, t.heading⟩ := by
  obtain ⟨before, position, heading⟩ := t
  simp only at h
  simp only [enter, h]

theorem enter_of_visit_error {C : Type} [Canvas C] {t : Turtle C} {p : Point} {canvas : C}
    {e : DrawError} (h : Canvas.visit p t.canvas = .error e canvas) :
    enter p t = .error e ⟨canvas, t.position, t.heading⟩ := by
  obtain ⟨before, position, heading⟩ := t
  simp only at h
  simp only [enter, h]

theorem enter_of_contains {p : Point} (h : t.canvas.Contains p) :
    enter p t = .ok () ⟨t.canvas.mark p h, p, t.heading⟩ :=
  enter_of_visit_ok (dif_pos h)

theorem enter_of_not_contains {p : Point} (h : ¬ t.canvas.Contains p) :
    enter p t = .error (.outOfBounds p t.canvas.size) t :=
  enter_of_visit_error (dif_neg h)

/-- One step: the cell is entered if it fits, and refused otherwise. -/
theorem Stands.follows_enter (ht : t.Stands size seen q) (p : Point) (span : Span) :
    Follows size seen [.enter p span] ⟨p, q.heading⟩ (located span (enter p t)) := by
  have hcontains : (Event.enter p span).Fits size ↔ t.canvas.Contains p := by
    rw [← ht.size_eq]
    rfl
  by_cases h : t.canvas.Contains p
  · rw [enter_of_contains h]
    refine ⟨?_, ht.size_eq, rfl, ht.heading_eq, ht.heading_mem, ?_⟩
    · rw [Event.misfit?_eq_none]
      intro event hevent
      rw [List.mem_singleton.mp hevent]
      exact hcontains.mpr h
    · have hcells : (seen ++ Event.cells [.enter p span]).toFinset = insert p seen.toFinset := by
        ext c
        simp [Event.cells, Event.cell?]
      rw [hcells]
      exact ht.shows.mark h
  · rw [enter_of_not_contains h, ht.size_eq]
    refine ⟨.enter p span, ?_, rfl⟩
    exact List.find?_cons_of_pos (by simpa using mt hcontains.mp h)

theorem located_walk_succ (span : Span) (step : Point) (n : Nat) :
    located span (walk step (n + 1) t) =
      andThen (located span (enter (t.position + step) t)) fun t =>
        located span (walk step n t) := by
  rw [walk_succ]
  cases enter (t.position + step) t <;> rfl

/-- A straight walk enters the cells along its direction, one after the other. -/
theorem Stands.follows_walk (ht : t.Stands size seen q) (direction : Point) (span : Span)
    (n : Nat) :
    Follows size seen
      ((List.range n).map fun i => .enter (q.position.along direction (i + 1)) span)
      ⟨q.position.along direction n, q.heading⟩ (located span (walk direction n t)) := by
  induction n generalizing seen q t with
  | zero =>
    rw [Point.along_zero]
    exact ht.follows_nil
  | succ n ih =>
    rw [located_walk_succ, ht.position_eq]
    have hfirst := ht.follows_enter (q.position + direction) span
    have hevents : (List.range (n + 1)).map (fun i =>
          Event.enter (q.position.along direction (i + 1)) span) =
        [.enter (q.position + direction) span] ++ (List.range n).map fun i =>
          .enter ((q.position + direction).along direction (i + 1)) span := by
      rw [List.range_succ_eq_map, List.map_cons, List.map_map, List.singleton_append,
        Point.along_succ, Point.along_zero]
      simp only [Function.comp_def, Point.along_succ]
    rw [hevents, Point.along_succ]
    exact hfirst.append fun t' ht' => ih ht'

/-- A move asks for its direction only if there is a step to take. -/
theorem Stands.follows_travel (ht : t.Stands size seen q) (orient : Point → Point) (s : Stride) :
    let direction := orient (Heading.compass q.heading)
    Follows size seen (q.moves direction s)
      ⟨q.position.along direction s.amount.toNat, q.heading⟩
      (located s.span (travel orient s.amount t)) := by
  intro direction
  unfold travel Pose.moves
  by_cases hamount : s.amount ≤ 0
  · have hzero : s.amount.toNat = 0 := by omega
    rw [if_pos hamount, if_pos hamount, hzero, Point.along_zero]
    exact ht.follows_nil
  · rw [if_neg hamount, if_neg hamount, stepAlong, ht.heading_eq,
      Heading.unitStep?_eq ht.heading_mem]
    by_cases hdvd : 45 ∣ q.heading
    · rw [if_pos hdvd, if_pos hdvd]
      exact ht.follows_walk direction s.span s.amount.toNat
    · rw [if_neg hdvd, if_neg hdvd]
      exact ⟨.stuck q.heading s.span, rfl, rfl⟩

theorem Stands.follows_turn (ht : t.Stands size seen q) {heading : Int}
    (hmem : 0 ≤ heading ∧ heading < 360) :
    Follows size seen [] ⟨q.position, heading⟩ (.ok () { t with heading := heading }) :=
  Stands.follows_nil ⟨ht.size_eq, ht.position_eq, rfl, hmem, ht.shows⟩

theorem Stands.follows_take (ht : t.Stands size seen q) (s : Stride) :
    Follows size seen (q.events s) (q.after s) (s.take t) := by
  obtain ⟨motion, amount, span⟩ := s
  cases motion with
  | forward => exact ht.follows_travel (fun step => step) ⟨.forward, amount, span⟩
  | back => exact ht.follows_travel (fun step => -step) ⟨.back, amount, span⟩
  | left =>
    have hheading : (q.heading + amount) % 360 = Heading.turnLeft t.heading amount := by
      rw [Heading.turnLeft_eq, ht.heading_eq]
    change Follows size seen [] ⟨q.position, (q.heading + amount) % 360⟩ _
    rw [hheading]
    exact ht.follows_turn (Heading.turnLeft_mem t.heading amount)
  | right =>
    have hheading : (q.heading - amount) % 360 = Heading.turnRight t.heading amount := by
      rw [Heading.turnRight_eq, ht.heading_eq]
    change Follows size seen [] ⟨q.position, (q.heading - amount) % 360⟩ _
    rw [hheading]
    exact ht.follows_turn (Heading.turnRight_mem t.heading amount)

/-- The turtle follows the whole course. -/
theorem Stands.follows_takeAll (ht : t.Stands size seen q) (strides : List Stride) :
    Follows size seen (q.course strides) (strides.foldl Pose.after q)
      (Stride.takeAll strides t) := by
  induction strides generalizing seen q t with
  | nil => exact ht.follows_nil
  | cons s strides ih =>
    rw [Stride.takeAll_cons, Pose.course, List.foldl_cons]
    exact (ht.follows_take s).append fun t' ht' => ih ht'

theorem within_center (hsize : 0 < size) : (center size).Within size := by
  simp only [Point.Within, center]
  omega

theorem contains_center (grid : Grid) : grid.Contains (center grid.size) :=
  within_center grid.size_pos

/-- The middle of a grid is a cell of it, so that a turtle can always start. -/
theorem start_eq (grid : Grid) :
    start grid =
      .ok () ⟨grid.mark (center grid.size) (contains_center grid), center grid.size, 0⟩ := by
  let t : Turtle Grid := ⟨grid, center grid.size, 0⟩
  have hcenter : t.canvas.Contains (center grid.size) := contains_center grid
  exact enter_of_contains hcenter

theorem exists_start_blank (hsize : 0 < size) :
    ∃ t : Turtle Grid, start (Grid.blank size hsize) = .ok () t ∧
      t.Stands size [center size] (Pose.start size) := by
  have hheading : (0 : Int) ≤ 0 ∧ (0 : Int) < 360 := by decide
  refine ⟨_, start_eq (Grid.blank size hsize), rfl, rfl, rfl, hheading, ?_⟩
  exact (Grid.shows_blank size hsize).mark (within_center hsize)

end Turtle

/-- What a drawing of `commands` on a square has to come to. -/
structure IsOutcome (size : Nat) (commands : List Command) (result : Except RunError Grid) :
    Prop where
  /-- It succeeds when every move has a direction and every cell of the walk is in the square. -/
  succeeds_iff : (∃ g, result = .ok g) ↔
    (∀ heading span, .stuck heading span ∉ Command.course size commands) ∧
      ∀ p ∈ Command.path size commands, p.Within size
  /-- It then shows the cells of the walk and counts each once. -/
  picture : ∀ g, result = .ok g → g.size = size ∧
    (∀ p, g.isVisited p = true ↔ p ∈ Command.path size commands) ∧
      g.visitedCount = (Command.path size commands).toFinset.card
  /-- Otherwise it fails with the first event of the walk that does not fit. -/
  fails_iff : ∀ e, result = .error e ↔
    ∃ event, Event.misfit? size (Command.course size commands) = some event ∧
      e = event.error size

namespace Command

variable {commands : List Command}

theorem misfit?_course_eq_none_iff (hsize : 0 < size) :
    Event.misfit? size (course size commands) = none ↔
      (∀ heading span, .stuck heading span ∉ course size commands) ∧
        ∀ p ∈ path size commands, p.Within size := by
  rw [Event.misfit?_eq_none_iff, path, List.forall_mem_cons]
  exact and_congr_right fun _ => (and_iff_right (Turtle.within_center hsize)).symm

theorem isOutcome_ok (hsize : 0 < size)
    (hfits : Event.misfit? size (course size commands) = none)
    (ht : t.Stands size (path size commands) q) : IsOutcome size commands (.ok t.canvas) where
  succeeds_iff := ⟨fun _ => (misfit?_course_eq_none_iff hsize).mp hfits, fun _ => ⟨_, rfl⟩⟩
  picture g hg := by
    obtain rfl : t.canvas = g := Except.ok.inj hg
    refine ⟨ht.size_eq, fun p => ?_, ht.shows.visitedCount_eq⟩
    rw [ht.shows.isVisited_iff, List.mem_toFinset]
  fails_iff e := by
    constructor
    · intro h
      cases h
    · rintro ⟨event, hevent, -⟩
      rw [hfits] at hevent
      cases hevent

theorem isOutcome_error (hsize : 0 < size) {event : Event}
    (hevent : Event.misfit? size (course size commands) = some event) :
    IsOutcome size commands (.error (event.error size)) where
  succeeds_iff := by
    constructor
    · rintro ⟨g, hg⟩
      cases hg
    · intro h
      rw [(misfit?_course_eq_none_iff hsize).mpr h] at hevent
      cases hevent
  picture g hg := by cases hg
  fails_iff e := by
    constructor
    · intro h
      exact ⟨event, hevent, (Except.error.inj h).symm⟩
    · rintro ⟨event', hevent', rfl⟩
      obtain rfl : event = event' := Option.some.inj (hevent.symm.trans hevent')
      rfl

end Command

/-- On a blank grid of any size a drawing comes to what its course says. -/
theorem Program.isOutcome_draw (hsize : 0 < size) (commands : List Command) :
    IsOutcome size commands (draw (Grid.blank size hsize) commands) := by
  obtain ⟨t, hstart, ht⟩ := Turtle.exists_start_blank hsize
  have hfollows := ht.follows_takeAll (Command.unrollAll commands)
  rw [draw, hstart]
  simp only [Command.runAll_eq_takeAll]
  cases hresult : Stride.takeAll (Command.unrollAll commands) t with
  | ok _ t' =>
    rw [hresult] at hfollows
    exact Command.isOutcome_ok hsize hfollows.1 hfollows.2
  | error e t' =>
    rw [hresult] at hfollows
    obtain ⟨event, hevent, rfl⟩ := hfollows
    exact Command.isOutcome_error hsize hevent

namespace Grid

variable {allocator : Allocator} {n : Int} {grid : Grid}

/-- A grid is created if it has cells, they can be counted and there is room for them. -/
theorem create_eq_ok_iff :
    create allocator n = .ok grid ↔
      n.toNat * n.toNat < UInt64.size ∧ allocator (n.toNat * n.toNat) = true ∧
        ∃ hn : 0 < n.toNat, grid = blank n.toNat hn := by
  unfold create cellCount?
  split
  · next hn =>
    by_cases hcount : n.toNat * n.toNat < UInt64.size
    · by_cases hroom : allocator (n.toNat * n.toNat) = true
      · simp [hcount, hroom, hn, eq_comm]
      · simp [hcount, hroom]
    · simp [hcount]
  · next hn => simp [hn]

theorem create_eq_ok (h : create allocator n = .ok grid) :
    ∃ hn : 0 < n.toNat, grid = blank n.toNat hn :=
  (create_eq_ok_iff.mp h).2.2

theorem create_eq_error {cause : DrawError} (h : create allocator n = .error cause) :
    cause = .invalidSize n := by
  unfold create at h
  split at h
  · split at h
    · exact (Except.error.inj h).symm
    · split at h
      · cases h
      · exact (Except.error.inj h).symm
  · exact (Except.error.inj h).symm

end Grid

/-- A program draws exactly the walk of its unrolled commands, whatever they are, or fails at the
first event of it that has no place on the grid. -/
theorem draws_exactly_course (p : Program) :
    (∀ (n : Nat) (hn : 0 < n),
        IsOutcome n p.commands (Program.draw (Grid.blank n hn) p.commands)) ∧
      ∀ allocator grid, Grid.create allocator p.size = .ok grid →
        (grid.size : Int) = p.size ∧ IsOutcome grid.size p.commands (p.run allocator) := by
  refine ⟨fun n hn => Program.isOutcome_draw hn p.commands, ?_⟩
  intro allocator grid hgrid
  obtain ⟨hn, rfl⟩ := Grid.create_eq_ok hgrid
  refine ⟨?_, ?_⟩
  · rw [Grid.size_blank]
    omega
  · rw [Program.run, hgrid]
    exact Program.isOutcome_draw hn p.commands

/-- On a square of three the second round of the loop leaves through the upper edge. -/
theorem draws_exactly_course_loop :
    let turn : Span := ⟨13, 15, 1, 14⟩
    let move : Span := ⟨20, 22, 1, 21⟩
    let p : Program := ⟨3, [.loop 2 [.step .left 360 turn, .step .forward 1 move] ⟨2, 8, 1, 3⟩]⟩
    let allocator : Allocator := fun _ => true
    Grid.create allocator p.size = .ok (Grid.blank 3 (by decide)) ∧
      p.run allocator = .error ⟨.outOfBounds ⟨1, -1⟩ 3, some move⟩ := by
  intro turn move p allocator
  have hgrid : Grid.create allocator p.size = .ok (Grid.blank 3 (by decide)) := rfl
  have hevent : Event.misfit? 3 (Command.course 3 p.commands) = some (.enter ⟨1, -1⟩ move) := rfl
  have hrun := ((draws_exactly_course p).2 allocator _ hgrid).2
  exact ⟨hgrid, (hrun.fails_iff _).mpr ⟨_, hevent, rfl⟩⟩

end TurtleGraphics
