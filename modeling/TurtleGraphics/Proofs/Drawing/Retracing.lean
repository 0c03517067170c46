import TurtleGraphics.Proofs.Drawing.Arithmetic

/-!
# Retracing

Commands that have run without failing can be taken back: their order is reversed at every level of
nesting, and every motion gives way to its opposite. The way back leads over cells that are already
marked, so it cannot fail and marks nothing. `Retraces` is the invariant. It asks this of every grid
that has the marks of the way out, because between a stride and the stride that takes it back there
may be others that have marked more.
-/

namespace TurtleGraphics

open Text

def Motion.inverse : Motion → Motion
  | forward => back
  | back => forward
  | left => right
  | right => left

theorem eq_ok_of_located_eq_ok {σ : Type} {span : Span}
    {result : EStateM.Result DrawError σ Unit} {s : σ} (h : located span result = .ok () s) :
    result = .ok () s := by
  cases result with
  | ok _ s' => exact congrArg (EStateM.Result.ok ()) (EStateM.Result.ok.inj h).2
  | error e s' => cases h

/-- What succeeds in two parts succeeds in each. -/
theorem exists_of_andThen_eq_ok {ε σ : Type} {result : EStateM.Result ε σ Unit}
    {next : σ → EStateM.Result ε σ Unit} {s : σ} (h : andThen result next = .ok () s) :
    ∃ s', result = .ok () s' ∧ next s' = .ok () s := by
  cases result with
  | ok _ s' => exact ⟨s', rfl, h⟩
  | error e s' => cases h

mutual

def Command.inverse : Command → Command
  | .step motion amount span => .step motion.inverse amount span
  | .loop count body span => .loop count (Command.inverseAll body) span

def Command.inverseAll : List Command → List Command
  | [] => []
  | c :: cs => Command.inverseAll cs ++ [c.inverse]

end

namespace Stride

def inverse (s : Stride) : Stride := { s with motion := s.motion.inverse }

def inverseAll (strides : List Stride) : List Stride :=
  (strides.map inverse).reverse

theorem inverseAll_cons (s : Stride) (strides : List Stride) :
    inverseAll (s :: strides) = inverseAll strides ++ [s.inverse] := by
  rw [inverseAll, List.map_cons, List.reverse_cons, inverseAll]

theorem inverseAll_append (before after : List Stride) :
    inverseAll (before ++ after) = inverseAll after ++ inverseAll before := by
  rw [inverseAll, List.map_append, List.reverse_append, inverseAll, inverseAll]

/-- All rounds of a loop are taken back by as many rounds of the inverse. -/
theorem inverseAll_flatten_replicate (n : Nat) (strides : List Stride) :
    inverseAll (List.replicate n strides).flatten =
      (List.replicate n (inverseAll strides)).flatten := by
  rw [inverseAll, List.map_flatten, List.map_replicate, List.reverse_flatten, List.map_replicate,
    List.reverse_replicate, inverseAll]

end Stride

namespace Command

theorem unrollAll_append (cs ds : List Command) :
    unrollAll (cs ++ ds) = unrollAll cs ++ unrollAll ds := by
  induction cs with
  | nil => rw [List.nil_append, unrollAll, List.nil_append]
  | cons c cs ih => rw [List.cons_append, unrollAll, ih, unrollAll, List.append_assoc]

theorem unrollAll_singleton (c : Command) : unrollAll [c] = c.unroll := by
  rw [unrollAll, unrollAll, List.append_nil]

mutual

theorem unroll_inverse (c : Command) : c.inverse.unroll = Stride.inverseAll c.unroll := by
  cases c with
  | step motion amount span =>
    rw [inverse, unroll, unroll]
    rfl
  | loop count body span =>
    rw [inverse, unroll, unroll, unrollAll_inverseAll body, Stride.inverseAll_flatten_replicate]

theorem unrollAll_inverseAll (cs : List Command) :
    unrollAll (inverseAll cs) = Stride.inverseAll (unrollAll cs) := by
  cases cs with
  | nil =>
    rw [inverseAll, unrollAll]
    rfl
  | cons c cs =>
    rw [inverseAll, unrollAll_append, unrollAll_singleton, unrollAll_inverseAll cs,
      unroll_inverse c, unrollAll, Stride.inverseAll_append]

end

end Command

theorem Point.add_neg_cancel (p d : Point) : p + d + -d = p := by
  ext
  · simp only [add_x, neg_x]
    omega
  · simp only [add_y, neg_y]
    omega

theorem Point.neg_neg (d : Point) : - -d = d := by
  ext <;> simp

namespace Heading

variable {heading : Int}

theorem turnRight_turnLeft (h : 0 ≤ heading ∧ heading < 360) (degrees : Int) :
    turnRight (turnLeft heading degrees) degrees = heading := by
  rw [turnRight_eq, turnLeft_eq]
  omega

theorem turnLeft_turnRight (h : 0 ≤ heading ∧ heading < 360) (degrees : Int) :
    turnLeft (turnRight heading degrees) degrees = heading := by
  rw [turnLeft_eq, turnRight_eq]
  omega

end Heading

/-- A second mark on a cell changes nothing. -/
theorem Grid.mark_of_isVisited {g : Grid} {p : Point} (hp : g.Contains p)
    (h : g.isVisited p = true) : g.mark p hp = g := by
  have hi := index_lt hp
  have hcell : g.cells[g.index p] = true := by
    rwa [isVisited, dif_pos hp] at h
  have hcells : g.cells.set (g.index p) true hi = g.cells := by
    rw [← hcell, Vector.set_getElem_self]
  rw [mark, hcells]

namespace Turtle

section Walk

variable {C : Type} [Canvas C]

theorem heading_enter (p : Point) (t : Turtle C) :
    (finalState (enter p t)).heading = t.heading := by
  cases hvisit : Canvas.visit p t.canvas with
  | ok _ canvas => rw [enter_of_visit_ok hvisit, finalState]
  | error e canvas => rw [enter_of_visit_error hvisit, finalState]

theorem heading_walk (step : Point) (n : Nat) (t : Turtle C) :
    (finalState (walk step n t)).heading = t.heading := by
  induction n generalizing t with
  | zero => rfl
  | succ n ih =>
    have hfirst := heading_enter (t.position + step) t
    rw [walk_succ]
    cases hresult : enter (t.position + step) t with
    | ok _ t' =>
      rw [hresult] at hfirst
      exact (ih t').trans hfirst
    | error e t' =>
      rw [hresult] at hfirst
      exact hfirst

theorem heading_travel (orient : Point → Point) (steps : Int) (t : Turtle C) :
    (finalState (travel orient steps t)).heading = t.heading := by
  unfold travel
  split
  · rfl
  · cases stepAlong t.heading with
    | error e => rfl
    | ok step => exact heading_walk (orient step) steps.toNat t

/-- A walk can be interrupted and taken up again. -/
theorem walk_add (step : Point) (m n : Nat) (t : Turtle C) :
    walk step (m + n) t = andThen (walk step m t) (walk step n) := by
  induction m generalizing t with
  | zero =>
    rw [Nat.zero_add, walk_zero]
    rfl
  | succ m ih =>
    rw [Nat.add_right_comm, walk_succ, walk_succ]
    cases enter (t.position + step) t with
    | ok _ t => exact ih t
    | error e t => rfl

theorem walk_one (step : Point) (t : Turtle C) :
    walk step 1 t = enter (t.position + step) t := by
  rw [walk_succ]
  cases enter (t.position + step) t <;> rfl

end Walk

theorem enter_of_isVisited {t : Turtle Grid} {p : Point} (h : t.canvas.isVisited p = true) :
    enter p t = .ok () ⟨t.canvas, p, t.heading⟩ := by
  have hp := Grid.contains_of_isVisited h
  rw [enter_of_contains hp, Grid.mark_of_isVisited hp h]

end Turtle

/-- From where `t'` stands, on every grid that has the marks of `t'`, the action `back` leads to
where `t` stands and marks nothing. -/
def Retraces {ε : Type} (t t' : Turtle Grid)
    (back : Turtle Grid → EStateM.Result ε (Turtle Grid) Unit) : Prop :=
  ∀ canvas : Grid, (∀ p, t'.canvas.isVisited p = true → canvas.isVisited p = true) →
    back ⟨canvas, t'.position, t'.heading⟩ = .ok () ⟨canvas, t.position, t.heading⟩

namespace Retraces

variable {ε : Type} {t t' t'' : Turtle Grid}
variable {back back' : Turtle Grid → EStateM.Result ε (Turtle Grid) Unit}

/-- The later part of the way is taken back first. -/
theorem trans (h : Retraces t t' back) (h' : Retraces t' t'' back')
    (hkeeps : t''.OnGrid t'.canvas) : Retraces t t'' fun s => andThen (back' s) back := by
  intro canvas hcanvas
  have hlater := h' canvas hcanvas
  have hearlier := h canvas fun p hp => hcanvas p (hkeeps.keeps p hp)
  simp only [hlater]
  exact hearlier

theorem located {back : Turtle Grid → EStateM.Result DrawError (Turtle Grid) Unit}
    (h : Retraces t t' back) (span : Span) :
    Retraces t t' fun s => TurtleGraphics.located span (back s) := by
  intro canvas hcanvas
  simp only [h canvas hcanvas]
  rfl

end Retraces

namespace Turtle

variable {t t' : Turtle Grid}

theorem OnGrid.of_walk_eq_ok (ht : t.OnGrid t.canvas) {step : Point} {n : Nat}
    (h : walk step n t = .ok () t') : t'.OnGrid t.canvas := by
  have hkept := (OnGrid.kept t.canvas).walk step n ht
  rwa [h] at hkept

theorem OnGrid.of_takeAll_eq_ok (ht : t.OnGrid t.canvas) {strides : List Stride}
    (h : Stride.takeAll strides t = .ok () t') : t'.OnGrid t.canvas := by
  have hkept := (OnGrid.kept t.canvas).takeAll strides ht
  rwa [h] at hkept

/-- The cell that a step leaves is marked, so the step back can be taken. -/
theorem retraces_step (ht : t.OnGrid t.canvas) {step : Point}
    (h : walk step 1 t = .ok () t') : Retraces t t' (walk (-step) 1) := by
  rw [walk_one] at h
  have hp : t.canvas.Contains (t.position + step) := by
    by_contra hp
    rw [enter_of_not_contains hp] at h
    cases h
  rw [enter_of_contains hp] at h
  obtain ⟨-, rfl⟩ := EStateM.Result.ok.inj h
  intro canvas hcanvas
  have hvisited : canvas.isVisited t.position = true := by
    apply hcanvas
    exact Grid.isVisited_mark_of_isVisited hp ht.visited
  rw [walk_one, Point.add_neg_cancel]
  exact enter_of_isVisited hvisited

theorem retraces_walk (ht : t.OnGrid t.canvas) {step : Point} {n : Nat}
    (h : walk step n t = .ok () t') : Retraces t t' (walk (-step) n) := by
  induction n generalizing t with
  | zero =>
    obtain ⟨-, rfl⟩ := EStateM.Result.ok.inj h
    exact fun _ _ => rfl
  | succ n ih =>
    -- The first step out is the last step back, so the two walks are cut at different ends.
    rw [Nat.add_comm, walk_add] at h
    obtain ⟨t₁, hfirst, hrest⟩ := exists_of_andThen_eq_ok h
    have ht₁ : t₁.OnGrid t₁.canvas := OnGrid.self (ht.of_walk_eq_ok hfirst)
    intro canvas hcanvas
    rw [walk_add]
    exact (retraces_step ht hfirst).trans (ih ht₁ hrest) (ht₁.of_walk_eq_ok hrest) canvas hcanvas

theorem retraces_travel (ht : t.OnGrid t.canvas) {orient opposite : Point → Point}
    (hopposite : ∀ step, opposite step = -orient step) {steps : Int}
    (h : travel orient steps t = .ok () t') : Retraces t t' (travel opposite steps) := by
  unfold travel at h
  split at h
  · next hsteps =>
    obtain ⟨-, rfl⟩ := EStateM.Result.ok.inj h
    intro canvas _
    rw [travel, if_pos hsteps]
  · next hsteps =>
    cases hstep : stepAlong t.heading with
    | error e =>
      rw [hstep] at h
      cases h
    | ok step =>
      rw [hstep] at h
      have hheading : t'.heading = t.heading := by
        have hwalk := heading_walk (orient step) steps.toNat t
        rwa [show walk (orient step) steps.toNat t = .ok () t' from h] at hwalk
      intro canvas hcanvas
      have hback := retraces_walk ht h canvas hcanvas
      rw [hheading] at hback ⊢
      rw [travel, if_neg hsteps]
      simp only [hstep, hopposite]
      exact hback

theorem retraces_turn {heading : Int} {turn : Int → Int} (h : turn heading = t.heading) :
    Retraces t { t with heading := heading }
      (modify fun s => { s with heading := turn s.heading } : Drawing Grid Unit) := by
  intro canvas _
  rw [← h]
  rfl

theorem retraces_apply (ht : t.OnGrid t.canvas) {motion : Motion} {amount : Int}
    (h : motion.apply amount t = .ok () t') : Retraces t t' (motion.inverse.apply amount) := by
  cases motion with
  | forward => exact retraces_travel ht (fun _ => rfl) h
  | back => exact retraces_travel ht (fun step => (Point.neg_neg step).symm) h
  | left =>
    obtain ⟨-, rfl⟩ := EStateM.Result.ok.inj h
    exact retraces_turn (Heading.turnRight_turnLeft ht.heading_mem amount)
  | right =>
    obtain ⟨-, rfl⟩ := EStateM.Result.ok.inj h
    exact retraces_turn (Heading.turnLeft_turnRight ht.heading_mem amount)

theorem retraces_take (ht : t.OnGrid t.canvas) {s : Stride} (h : s.take t = .ok () t') :
    Retraces t t' s.inverse.take := by
  have happly : s.motion.apply s.amount t = .ok () t' := eq_ok_of_located_eq_ok h
  exact (retraces_apply ht happly).located s.span

/-- The way back of a whole run, by induction on the strides of the way out. -/
theorem retraces_takeAll (ht : t.OnGrid t.canvas) {strides : List Stride}
    (h : Stride.takeAll strides t = .ok () t') :
    Retraces t t' (Stride.takeAll (Stride.inverseAll strides)) := by
  induction strides generalizing t with
  | nil =>
    obtain ⟨-, rfl⟩ := EStateM.Result.ok.inj h
    exact fun _ _ => rfl
  | cons s strides ih =>
    obtain ⟨t₁, hfirst, hrest⟩ := exists_of_andThen_eq_ok h
    have htaken : Stride.takeAll [s] t = .ok () t₁ := by
      rw [Stride.takeAll_singleton, hfirst]
    have ht₁ : t₁.OnGrid t₁.canvas := OnGrid.self (ht.of_takeAll_eq_ok htaken)
    intro canvas hcanvas
    have hback := (retraces_take ht hfirst).trans (ih ht₁ hrest) (ht₁.of_takeAll_eq_ok hrest)
      canvas hcanvas
    rw [Stride.inverseAll_cons, Stride.takeAll_append]
    rwa [funext (Stride.takeAll_singleton s.inverse)]

end Turtle

namespace Command

variable {t t' : Turtle Grid}

theorem runAll_inverseAll (ht : t.OnGrid t.canvas) {commands : List Command}
    (h : runAll commands t = .ok () t') :
    runAll (inverseAll commands) t' = .ok () ⟨t'.canvas, t.position, t.heading⟩ := by
  rw [runAll_eq_takeAll] at h
  rw [runAll_eq_takeAll, unrollAll_inverseAll]
  exact Turtle.retraces_takeAll ht h t'.canvas fun _ hp => hp

end Command

namespace Program

theorem draw_append_inverseAll {grid g : Grid} {commands : List Command}
    (h : draw grid commands = .ok g) :
    draw grid (commands ++ Command.inverseAll commands) = .ok g := by
  obtain ⟨start, hstart, hon⟩ := Turtle.OnGrid.exists_start grid
  rw [draw, hstart] at h
  rw [draw, hstart]
  simp only [Command.runAll_append] at h ⊢
  cases hrun : Command.runAll commands start with
  | error e t =>
    rw [hrun] at h
    cases h
  | ok _ t =>
    rw [hrun] at h
    obtain rfl : t.canvas = g := Except.ok.inj h
    simp only [Command.runAll_inverseAll hon.self hrun]

end Program

/-- A turtle that has been called to do whatever it may be, and then runs commands without failing,
is taken back by their inverse to where it was and to the heading it had; the grid stays as the
commands have left it. A program that goes on with its own inverse therefore draws the same. -/
theorem inverse_retraces_commands :
    (∀ grid : Grid, ∃ start, Turtle.start grid = .ok () start ∧
      ∀ (calls : List Call) (commands : List Command) (t' : Turtle Grid),
        let t := Call.performAll calls start
        Command.runAll commands t = .ok () t' →
          Command.runAll (Command.inverseAll commands) t' =
            .ok () ⟨t'.canvas, t.position, t.heading⟩) ∧
      (∀ (grid : Grid) (commands : List Command) (g : Grid),
        Program.draw grid commands = .ok g →
          Program.draw grid (commands ++ Command.inverseAll commands) = .ok g) ∧
        ∀ (allocator : Allocator) (size : Int) (commands : List Command) (g : Grid),
          Program.run allocator ⟨size, commands⟩ = .ok g →
            Program.run allocator ⟨size, commands ++ Command.inverseAll commands⟩ = .ok g := by
  refine ⟨fun grid => ?_, fun grid commands g => Program.draw_append_inverseAll, ?_⟩
  · obtain ⟨start, hstart, hon⟩ := Turtle.OnGrid.exists_start grid
    refine ⟨start, hstart, ?_⟩
    intro calls commands t' t h
    have ht : t.OnGrid grid := (Turtle.OnGrid.kept grid).performAll calls hon
    exact Command.runAll_inverseAll ht.self h
  · intro allocator size commands g h
    cases hgrid : Grid.create allocator size with
    | error cause =>
      simp only [Program.run, hgrid] at h
      cases h
    | ok grid =>
      rw [Program.run_of_create hgrid] at h ⊢
      exact Program.draw_append_inverseAll h

/-- On a square of three the turtle is first called to walk off the upper edge. From the cell where
that leaves it, it goes round two sides of a loop in which one move does nothing, and back. From the
middle of a square of five the same commands make up a program. -/
theorem inverse_retraces_commands_loop :
    let place : Span := ⟨0, 0, 1, 1⟩
    let commands : List Command :=
      [.step .right 135 place,
        .loop 2 [.step .forward 1 place, .step .back (-4) place, .step .right 90 place] place]
    let inverse : List Command :=
      [.loop 2 [.step .left 90 place, .step .forward (-4) place, .step .back 1 place] place,
        .step .left 135 place]
    let allocator : Allocator := fun _ => true
    Command.inverseAll commands = inverse ∧
      (∃ start, Turtle.start (Grid.blank 3 (by decide)) = .ok () start ∧
        let t := Call.performAll [.forward 9] start
        (t.position = ⟨1, 0⟩ ∧ t.heading = 0) ∧
          ∃ t' : Turtle Grid, Command.runAll commands t = .ok () t' ∧
            (t'.position = ⟨1, 2⟩ ∧ t'.heading = 45) ∧
              Command.runAll inverse t' = .ok () ⟨t'.canvas, ⟨1, 0⟩, 0⟩) ∧
        ∃ g, Program.run allocator ⟨5, commands⟩ = .ok g ∧
          Program.run allocator ⟨5, commands ++ inverse⟩ = .ok g := by
  have hmarked : Turtle.start (Grid.blank 3 (by decide)) =
      .ok () ⟨(Grid.blank 3 (by decide)).mark ⟨1, 1⟩ (by decide), ⟨1, 1⟩, 0⟩ := rfl
  intro place commands inverse allocator
  obtain ⟨hturtle, -, hprogram⟩ := inverse_retraces_commands
  obtain ⟨start, hstart, hretraces⟩ := hturtle (Grid.blank 3 (by decide))
  obtain ⟨-, rfl⟩ := EStateM.Result.ok.inj (hmarked.symm.trans hstart)
  refine ⟨rfl, ⟨_, hstart, ⟨rfl, rfl⟩, _, rfl, ⟨rfl, rfl⟩, ?_⟩, ?_⟩
  · exact hretraces [.forward 9] commands _ rfl
  · have hgrid : Grid.create allocator 5 = .ok (Grid.blank 5 (by decide)) := rfl
    obtain ⟨g, hg⟩ : ∃ g, Program.draw (Grid.blank 5 (by decide)) commands = .ok g := ⟨_, rfl⟩
    have hrun : Program.run allocator ⟨5, commands⟩ = .ok g :=
      (Program.run_of_create hgrid).trans hg
    exact ⟨g, hrun, hprogram allocator 5 commands g hrun⟩

end TurtleGraphics
