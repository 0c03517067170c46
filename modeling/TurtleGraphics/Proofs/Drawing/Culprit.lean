import TurtleGraphics.Proofs.Drawing.Arithmetic
import TurtleGraphics.Proofs.Drawing.FirstFailure

/-!
# What a failed drawing points at

A drawing that fails names the place of a step, and that step is to blame: it is a move by at least
one cell, and no loop around it is empty. What the error says fits the turtle that the failure
leaves behind. Either the turtle faces none of the eight directions, or the cell in the error lies
right outside the grid and next to a cell that the turtle has visited. Only a grid that cannot be
made is an error without a place.
-/

namespace TurtleGraphics

open Text

namespace Point

def Adjacent (p q : Point) : Prop :=
  p ≠ q ∧ (-1 ≤ q.x - p.x ∧ q.x - p.x ≤ 1) ∧ -1 ≤ q.y - p.y ∧ q.y - p.y ≤ 1

def OnRim (size : Nat) (p : Point) : Prop :=
  (-1 ≤ p.x ∧ p.x ≤ size) ∧ (-1 ≤ p.y ∧ p.y ≤ size) ∧
    (p.x = -1 ∨ p.x = size ∨ p.y = -1 ∨ p.y = size)

variable {size : Nat} {p d : Point}

theorem Within.onRim_add (hp : p.Within size) (hd : d.IsStep) (h : ¬ (p + d).Within size) :
    (p + d).OnRim size := by
  simp only [Within, IsStep, OnRim, add_x, add_y] at hp hd h ⊢
  omega

theorem IsStep.adjacent_add (hd : d.IsStep) (hne : p ≠ p + d) : p.Adjacent (p + d) := by
  refine ⟨hne, ?_⟩
  simp only [IsStep, add_x, add_y] at hd ⊢
  omega

theorem Within.adjacent_add (hp : p.Within size) (hd : d.IsStep) (h : ¬ (p + d).Within size) :
    p.Adjacent (p + d) :=
  hd.adjacent_add fun heq => h (heq ▸ hp)

theorem IsStep.neg (hd : d.IsStep) : (-d).IsStep := by
  simp only [IsStep, neg_x, neg_y] at hd ⊢
  omega

end Point

/-- The steps of a tree that are not inside of a loop with nothing to do. -/
inductive Command.Live : List Command → Stride → Prop
  | step {commands : List Command} {motion : Motion} {amount : Int} {span : Span}
      (mem : .step motion amount span ∈ commands) : Live commands ⟨motion, amount, span⟩
  | loop {commands body : List Command} {count : Int} {span : Span} {s : Stride}
      (mem : .loop count body span ∈ commands) (count_pos : 1 ≤ count) (inside : Live body s) :
    Live commands s

namespace Command

theorem Live.mono {cs ds : List Command} {s : Stride} (h : Live cs s) (hsub : cs ⊆ ds) :
    Live ds s := by
  cases h with
  | step mem => exact .step (hsub mem)
  | loop mem count_pos inside => exact .loop (hsub mem) count_pos inside

mutual

theorem live_of_mem_unroll (c : Command) {s : Stride} (h : s ∈ c.unroll) : Live [c] s := by
  cases c with
  | step motion amount span =>
    rw [unroll, List.mem_singleton] at h
    subst h
    exact .step List.mem_cons_self
  | loop count body span =>
    rw [unroll, List.mem_flatten] at h
    obtain ⟨round, hround, hs⟩ := h
    obtain ⟨hcount, rfl⟩ := List.mem_replicate.mp hround
    exact .loop List.mem_cons_self (by omega) (live_of_mem_unrollAll body hs)

/-- Only live steps are ever taken. -/
theorem live_of_mem_unrollAll (cs : List Command) {s : Stride} (h : s ∈ unrollAll cs) :
    Live cs s := by
  cases cs with
  | nil =>
    rw [unrollAll] at h
    cases h
  | cons c cs =>
    rw [unrollAll, List.mem_append] at h
    obtain h | h := h
    · exact (live_of_mem_unroll c h).mono (List.cons_subset_cons c (List.nil_subset cs))
    · exact (live_of_mem_unrollAll cs h).mono (List.subset_cons_self c cs)

end

end Command

/-- What an error says is true of the turtle that it leaves behind on a grid of this size. -/
inductive DrawError.Explained (size : Nat) (t : Turtle Grid) : DrawError → Prop
  | stuck (heading_mem : 0 ≤ t.heading ∧ t.heading < 360) (undirected : ¬ 45 ∣ t.heading) :
    Explained size t (.unsupportedHeading t.heading)
  | outside {cell visited : Point} (rim : cell.OnRim size)
      (isVisited : t.canvas.isVisited visited = true) (adjacent : visited.Adjacent cell) :
    Explained size t (.outOfBounds cell size)

namespace Turtle.OnGrid

variable {grid : Grid} {t t' : Turtle Grid} {cause : DrawError}

/-- A refused step goes from a visited cell of the grid to a cell right outside. -/
theorem explained_refusal (ht : t.OnGrid grid) {step : Point} (hstep : step.IsStep)
    (h : ¬ t.canvas.Contains (t.position + step)) :
    (DrawError.outOfBounds (t.position + step) t.canvas.size).Explained grid.size t := by
  have hp : t.position.Within t.canvas.size := ht.contains
  rw [← ht.size_eq]
  exact .outside (hp.onRim_add hstep h) ht.visited (hp.adjacent_add hstep h)

theorem explained_walk (ht : t.OnGrid grid) {step : Point} (hstep : step.IsStep) {n : Nat}
    (h : walk step n t = .error cause t') : cause.Explained grid.size t' := by
  induction n generalizing t with
  | zero => cases h
  | succ n ih =>
    rw [walk_succ] at h
    have henter := (kept grid).enter (t.position + step) ht
    by_cases hp : t.canvas.Contains (t.position + step)
    · rw [enter_of_contains hp] at h henter
      exact ih henter h
    · rw [enter_of_not_contains hp] at h
      obtain ⟨rfl, rfl⟩ := EStateM.Result.error.inj h
      exact ht.explained_refusal hstep hp

theorem explained_travel (ht : t.OnGrid grid) {orient : Point → Point}
    (horient : ∀ {d : Point}, d.IsStep → (orient d).IsStep) {steps : Int}
    (h : travel orient steps t = .error cause t') :
    1 ≤ steps ∧ cause.Explained grid.size t' := by
  unfold travel at h
  split at h
  · cases h
  · next hsteps =>
    refine ⟨by omega, ?_⟩
    cases hunit : Heading.unitStep? t.heading with
    | none =>
      rw [stepAlong, hunit] at h
      obtain ⟨rfl, rfl⟩ := EStateM.Result.error.inj h
      refine .stuck ht.heading_mem fun hdvd => ?_
      rw [Heading.unitStep?_eq ht.heading_mem, if_pos hdvd] at hunit
      cases hunit
    | some step =>
      rw [stepAlong, hunit] at h
      exact ht.explained_walk (horient (Heading.isStep_of_unitStep? hunit)) h

theorem explained_apply (ht : t.OnGrid grid) {motion : Motion} {amount : Int}
    (h : motion.apply amount t = .error cause t') :
    (motion = .forward ∨ motion = .back) ∧ 1 ≤ amount ∧ cause.Explained grid.size t' := by
  cases motion with
  | forward => exact ⟨.inl rfl, ht.explained_travel id h⟩
  | back => exact ⟨.inr rfl, ht.explained_travel Point.IsStep.neg h⟩
  | left => cases h
  | right => cases h

theorem of_leads (ht : t.OnGrid grid) {strides : List Stride} (h : Stride.Leads t strides t') :
    t'.OnGrid grid := by
  have hkept := (kept grid).takeAll strides ht
  rwa [h.takeAll_eq] at hkept

end Turtle.OnGrid

/-- The step `s` of `commands` is to blame for a failure on a grid of this size, which leaves the
turtle `t` behind. -/
structure Culprit (commands : List Command) (size : Nat) (e : RunError) (t : Turtle Grid)
    (s : Stride) : Prop where
  live : Command.Live commands s
  moves : s.motion = .forward ∨ s.motion = .back
  amount_pos : 1 ≤ s.amount
  span_eq : e.span = some s.span
  explained : e.cause.Explained size t

theorem Stride.BreaksAt.culprit {commands : List Command} {grid : Grid} {s : Stride}
    {cause : DrawError} {t t' : Turtle Grid} (ht : t.OnGrid grid)
    (h : BreaksAt s cause t (Command.unrollAll commands) t') :
    Culprit commands grid.size ⟨cause, some s.span⟩ t' s := by
  have hlive := Command.live_of_mem_unrollAll commands h.mem
  generalize Command.unrollAll commands = strides at h
  obtain ⟨taken, fails⟩ := h
  obtain ⟨hmoves, hamount, hexplained⟩ := (ht.of_leads taken).explained_apply fails
  exact ⟨hlive, hmoves, hamount, rfl, hexplained⟩

namespace Program

def Abandons (grid : Grid) (commands : List Command) (e : RunError) (t : Turtle Grid) : Prop :=
  ∃ start, Turtle.start grid = .ok () start ∧ Command.runAll commands start = .error e t

theorem exists_culprit_of_draw {grid : Grid} {commands : List Command} {e : RunError}
    (h : draw grid commands = .error e) :
    ∃ t s, Abandons grid commands e t ∧ Culprit commands grid.size e t s := by
  obtain ⟨start, hstart, hon⟩ := Turtle.OnGrid.exists_start grid
  rw [draw, hstart] at h
  cases hrun : Command.runAll commands start with
  | ok _ t =>
    simp only [hrun] at h
    cases h
  | error e' t =>
    simp only [hrun] at h
    obtain rfl : e' = e := Except.error.inj h
    have hbreaks := hrun
    rw [Command.runAll_eq_takeAll, Stride.takeAll_eq_error_iff] at hbreaks
    obtain ⟨s, cause, hbreaks, rfl⟩ := hbreaks
    exact ⟨t, s, ⟨start, hstart, hrun⟩, hbreaks.culprit hon⟩

/-- A program fails for want of a grid, or by the fault of a step. -/
theorem run_eq_error_cases {allocator : Allocator} {p : Program} {e : RunError}
    (h : p.run allocator = .error e) :
    (e = ⟨.invalidSize p.size, none⟩ ∧
        Grid.create allocator p.size = .error (.invalidSize p.size)) ∨
      ∃ grid t s, Grid.create allocator p.size = .ok grid ∧ (grid.size : Int) = p.size ∧
        Abandons grid p.commands e t ∧ Culprit p.commands grid.size e t s := by
  cases hgrid : Grid.create allocator p.size with
  | error cause =>
    obtain rfl := Grid.create_eq_error hgrid
    rw [run, hgrid] at h
    exact .inl ⟨(Except.error.inj h).symm, rfl⟩
  | ok grid =>
    rw [run_of_create hgrid] at h
    obtain ⟨t, s, habandons, hculprit⟩ := exists_culprit_of_draw h
    obtain ⟨hn, rfl⟩ := Grid.create_eq_ok hgrid
    have hsize : ((Grid.blank p.size.toNat hn).size : Int) = p.size := by
      rw [Grid.size_blank]
      omega
    exact .inr ⟨_, t, s, rfl, hsize, habandons, hculprit⟩

end Program

/-- Whatever its size and its commands, a program that fails either has no grid, and then the error
has no place, or there is a step in it that is to blame for the failure on its grid, and then the
error has the place of that step. The last part says the same of blank grids of every size, whether
or not there is room for them. -/
theorem run_error_has_culprit (p : Program) :
    (∀ allocator e, p.run allocator = .error e →
      (e = ⟨.invalidSize p.size, none⟩ ∧
          Grid.create allocator p.size = .error (.invalidSize p.size)) ∨
        ∃ grid t s, Grid.create allocator p.size = .ok grid ∧ (grid.size : Int) = p.size ∧
          Program.Abandons grid p.commands e t ∧ Culprit p.commands grid.size e t s) ∧
      (∀ allocator e, p.run allocator = .error e → e.span = none →
        ∃ cause, Grid.create allocator p.size = .error cause) ∧
        ∀ (n : Nat) (hn : 0 < n) (e : RunError),
          Program.draw (Grid.blank n hn) p.commands = .error e →
            ∃ t s, Program.Abandons (Grid.blank n hn) p.commands e t ∧
              Culprit p.commands n e t s := by
  refine ⟨fun allocator e => Program.run_eq_error_cases, ?_,
    fun n hn e => Program.exists_culprit_of_draw⟩
  intro allocator e h hspan
  obtain ⟨-, hgrid⟩ | ⟨grid, t, s, -, -, -, hculprit⟩ := Program.run_eq_error_cases h
  · exact ⟨_, hgrid⟩
  · rw [hculprit.span_eq] at hspan
    cases hspan

/-- On a square of three the first loop has nothing to do, and the second one leaves through the
upper edge in its second round. The step in the second loop is to blame, as the other has another
place. On a grid of no size there is none to blame. -/
theorem run_error_has_culprit_rounds :
    let idle : Span := ⟨13, 15, 1, 14⟩
    let move : Span := ⟨33, 35, 1, 34⟩
    let place : Span := ⟨2, 8, 1, 3⟩
    let p : Program :=
      ⟨3, [.loop 0 [.step .forward 9 idle] place, .loop 2 [.step .forward 1 move] place]⟩
    let e : RunError := ⟨.outOfBounds ⟨1, -1⟩ 3, some move⟩
    let allocator : Allocator := fun _ => true
    (p.run allocator = .error e ∧ ∃ grid t s, Grid.create allocator p.size = .ok grid ∧
        Program.Abandons grid p.commands e t ∧ Culprit p.commands grid.size e t s ∧
          s.span = move) ∧
      (Program.run allocator ⟨0, p.commands⟩ = .error ⟨.invalidSize 0, none⟩ ∧
          ∃ cause, Grid.create allocator 0 = .error cause) ∧
        Program.draw (Grid.blank 3 (by decide)) p.commands = .error e ∧
          ∃ t s, Program.Abandons (Grid.blank 3 (by decide)) p.commands e t ∧
            Culprit p.commands 3 e t s := by
  intro idle move place p e allocator
  have hgrid : Grid.create allocator p.size = .ok (Grid.blank 3 (by decide)) := rfl
  have hdraw : Program.draw (Grid.blank 3 (by decide)) p.commands = .error e := rfl
  have hrun : p.run allocator = .error e := (Program.run_of_create hgrid).trans hdraw
  have hnone : Program.run allocator ⟨0, p.commands⟩ = .error ⟨.invalidSize 0, none⟩ := rfl
  refine ⟨⟨hrun, ?_⟩, ⟨hnone, (run_error_has_culprit ⟨0, p.commands⟩).2.1 allocator _ hnone rfl⟩,
    hdraw, (run_error_has_culprit p).2.2 3 (by decide) e hdraw⟩
  obtain ⟨he, -⟩ | ⟨grid, t, s, hgrid, -, habandons, hculprit⟩ :=
    (run_error_has_culprit p).1 allocator e hrun
  · have hspan : some move = none := congrArg RunError.span he
    cases hspan
  · exact ⟨grid, t, s, hgrid, habandons, hculprit, Option.some.inj hculprit.span_eq.symm⟩

end TurtleGraphics
