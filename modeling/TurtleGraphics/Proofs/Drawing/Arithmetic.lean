import TurtleGraphics.Proofs.Drawing.Calls
import TurtleGraphics.Proofs.Drawing.Outcome

/-!
# Arithmetic in 64 bits

`Checked` is the turtle once more, with every sum, difference and product held in 64 bits: one that
does not fit is a fault of its own, and the turtle goes no further. A turtle on a grid whose size
fits in 64 bits always stands on a cell of it and faces a heading below 360, so nothing it computes
comes near the bounds, and the checked turtle does what the turtle does, in every call.
-/

namespace TurtleGraphics

open Text

/-- What can go wrong when numbers are bounded. -/
inductive Fault (ε : Type) where
  | overflow
  | failure (error : ε)

def Fault.map {ε ε' : Type} (f : ε → ε') : Fault ε → Fault ε'
  | overflow => overflow
  | failure error => failure (f error)

def raised {ε σ α : Type} : EStateM.Result ε σ α → EStateM.Result (Fault ε) σ α
  | .ok a s => .ok a s
  | .error e s => .error (.failure e) s

namespace Checked

section Word

variable {ε σ α : Type}

def word (n : Int) : EStateM (Fault ε) σ Int :=
  if Numeral.InRange n then pure n else throw .overflow

theorem word_bind {n : Int} (h : Numeral.InRange n) (f : Int → EStateM (Fault ε) σ α) (s : σ) :
    (word n >>= f) s = f n s := by
  rw [word, if_pos h]
  rfl

theorem get_bind (f : σ → EStateM (Fault ε) σ α) (s : σ) :
    ((get : EStateM (Fault ε) σ σ) >>= f) s = f s s := rfl

def lift (action : EStateM ε σ α) : EStateM (Fault ε) σ α := fun s =>
  raised (action s)

end Word

variable {C : Type} [Canvas C]

abbrev Drawing (C : Type) := EStateM (Fault DrawError) (Turtle C)

def turnLeft (degrees : Int) : Drawing C Unit := do
  let t ← get
  let sum ← word (t.heading + degrees % 360)
  -- The remainder of division towards zero, which is the usual one if the sum is not negative.
  set { t with heading := sum.tmod 360 }

def turnRight (degrees : Int) : Drawing C Unit := do
  let t ← get
  let difference ← word (t.heading - degrees % 360)
  set { t with heading := difference % 360 }

def unitStep (heading : Int) : Drawing C Point :=
  if 180 < heading then do
    let mirrored ← word (360 - heading)
    match Heading.leftward? mirrored with
    | none => throw (.failure (.unsupportedHeading heading))
    | some step =>
      let x ← word (-step.x)
      return ⟨x, step.y⟩
  else
    match Heading.leftward? heading with
    | none => throw (.failure (.unsupportedHeading heading))
    | some step => return step

def walk (sign : Int) (step : Point) : Nat → Drawing C Unit
  | 0 => pure ()
  | n + 1 => do
    let t ← get
    let dx ← word (sign * step.x)
    let x ← word (t.position.x + dx)
    let dy ← word (sign * step.y)
    let y ← word (t.position.y + dy)
    lift (Turtle.enter ⟨x, y⟩)
    walk sign step n

def travel (sign : Int) (steps : Int) : Drawing C Unit :=
  if steps ≤ 0 then pure ()
  else do
    let t ← get
    let step ← unitStep t.heading
    walk sign step steps.toNat

def apply (motion : Motion) (amount : Int) : Drawing C Unit :=
  match motion with
  | .forward => travel 1 amount
  | .back => travel (-1) amount
  | .left => turnLeft amount
  | .right => turnRight amount

mutual

def run : Command → EStateM (Fault RunError) (Turtle C) Unit
  | .step motion amount span =>
    EStateM.adaptExcept (Fault.map fun cause => ⟨cause, some span⟩) (apply motion amount)
  | .loop count body _ => times (runAll body) count.toNat

def runAll : List Command → EStateM (Fault RunError) (Turtle C) Unit
  | [] => pure ()
  | c :: cs => do
    run c
    runAll cs

end

def unlocated (action : Drawing C Unit) : EStateM (Fault RunError) (Turtle C) Unit :=
  EStateM.adaptExcept (Fault.map fun cause => ⟨cause, none⟩) action

def perform : Call → EStateM (Fault RunError) (Turtle C) Unit
  | .forward steps => unlocated (travel 1 steps)
  | .backward steps => unlocated (travel (-1) steps)
  | .turnLeft degrees => unlocated (turnLeft degrees)
  | .turnRight degrees => unlocated (turnRight degrees)
  | .apply motion amount => unlocated (apply motion amount)
  | .run command => run command

end Checked

/-- The turtle stands on a visited cell of a grid like `grid`, where nothing of `grid` is lost. -/
structure Turtle.OnGrid (grid : Grid) (t : Turtle Grid) : Prop where
  size_eq : t.canvas.size = grid.size
  cells_size : t.canvas.cells.toArray.size = grid.size * grid.size
  contains : t.canvas.Contains t.position
  visited : t.canvas.isVisited t.position = true
  heading_mem : 0 ≤ t.heading ∧ t.heading < 360
  keeps : ∀ p, grid.isVisited p = true → t.canvas.isVisited p = true

namespace Turtle.OnGrid

variable {grid : Grid} {t : Turtle Grid}

theorem self (ht : t.OnGrid grid) : t.OnGrid t.canvas where
  size_eq := rfl
  cells_size := t.canvas.cells.size_toArray
  contains := ht.contains
  visited := ht.visited
  heading_mem := ht.heading_mem
  keeps _ hp := hp

/-- Entering a cell of the grid puts the turtle on it, whatever else it has visited. -/
theorem of_mark {canvas : Grid} {p : Point} {heading : Int} (hsize : canvas.size = grid.size)
    (hp : canvas.Contains p) (hheading : 0 ≤ heading ∧ heading < 360)
    (hkeeps : ∀ q, grid.isVisited q = true → canvas.isVisited q = true) :
    Turtle.OnGrid grid ⟨canvas.mark p hp, p, heading⟩ where
  size_eq := hsize
  cells_size := by
    rw [Vector.size_toArray, ← hsize]
    rfl
  contains := hp
  visited := Grid.isVisited_mark_self hp
  heading_mem := hheading
  keeps q hq := Grid.isVisited_mark_of_isVisited hp (hkeeps q hq)

theorem kept (grid : Grid) : Kept (OnGrid grid) where
  enter {t} p ht := by
    by_cases hp : t.canvas.Contains p
    · rw [enter_of_contains hp]
      exact of_mark ht.size_eq hp ht.heading_mem ht.keeps
    · rw [enter_of_not_contains hp]
      exact ht
  turn ht hheading := { ht with heading_mem := hheading }

theorem exists_start (grid : Grid) : ∃ t, start grid = .ok () t ∧ t.OnGrid grid := by
  have hheading : (0 : Int) ≤ 0 ∧ (0 : Int) < 360 := by decide
  exact ⟨_, start_eq grid, of_mark rfl _ hheading fun _ hq => hq⟩

end Turtle.OnGrid

def Point.IsStep (d : Point) : Prop :=
  (-1 ≤ d.x ∧ d.x ≤ 1) ∧ -1 ≤ d.y ∧ d.y ≤ 1

theorem Heading.isStep_of_leftward? {heading : Int} {d : Point}
    (h : leftward? heading = some d) : d.IsStep := by
  unfold leftward? at h
  split at h <;> cases h <;> simp [Point.IsStep]

theorem Heading.isStep_of_unitStep? {heading : Int} {d : Point}
    (h : unitStep? heading = some d) : d.IsStep := by
  unfold unitStep? at h
  split at h
  · obtain ⟨e, he, rfl⟩ := Option.map_eq_some_iff.mp h
    have hstep := isStep_of_leftward? he
    simp only [Point.IsStep, Point.flip_x, Point.flip_y] at hstep ⊢
    omega
  · exact isStep_of_leftward? h

def Point.scale (sign : Int) (d : Point) : Point := ⟨sign * d.x, sign * d.y⟩

theorem Point.scale_one : scale 1 = fun d => d := by
  funext d
  ext <;> simp [scale]

theorem Point.scale_neg_one : scale (-1) = fun d => -d := by
  funext d
  ext <;> simp [scale]

namespace Checked

/-- From every state with the property `P` the checked action ends as the unchecked one does. -/
def Agrees {ε σ α : Type} (P : σ → Prop) (checked : EStateM (Fault ε) σ α)
    (action : EStateM ε σ α) : Prop :=
  ∀ s, P s → checked s = raised (action s)

namespace Agrees

variable {ε ε' σ : Type} {P : σ → Prop}

theorem lift (action : EStateM ε σ Unit) : Agrees P (lift action) action :=
  fun _ _ => rfl

theorem adapt {checked : EStateM (Fault ε) σ Unit} {action : EStateM ε σ Unit}
    (h : Agrees P checked action) (f : ε → ε') :
    Agrees P (EStateM.adaptExcept (Fault.map f) checked) (EStateM.adaptExcept f action) := by
  intro s hs
  unfold EStateM.adaptExcept
  rw [h s hs]
  cases action s <;> rfl

theorem seq {checked checked' : EStateM (Fault ε) σ Unit} {action action' : EStateM ε σ Unit}
    (h : Agrees P checked action) (hkept : ∀ s, P s → P (finalState (action s)))
    (h' : Agrees P checked' action') :
    Agrees P (do checked; checked') (do action; action') := by
  intro s hs
  have hnext := hkept s hs
  change EStateM.bind checked (fun _ => checked') s =
    raised (EStateM.bind action (fun _ => action') s)
  unfold EStateM.bind
  rw [h s hs]
  cases hresult : action s with
  | ok _ s' =>
    rw [hresult] at hnext
    exact h' s' hnext
  | error e s' => rfl

theorem times {checked : EStateM (Fault ε) σ Unit} {action : EStateM ε σ Unit}
    (h : Agrees P checked action) (hkept : ∀ s, P s → P (finalState (action s))) (n : Nat) :
    Agrees P (times checked n) (times action n) := by
  induction n with
  | zero => exact fun _ _ => rfl
  | succ n ih => exact h.seq hkept ih

end Agrees

variable {C : Type} {grid : Grid}

theorem agrees_turnLeft (degrees : Int) :
    Agrees (fun t : Turtle C => 0 ≤ t.heading ∧ t.heading < 360) (turnLeft degrees)
      (Turtle.turnLeft degrees) := by
  rintro t ⟨hlow, hhigh⟩
  have hsum : Numeral.InRange (t.heading + degrees % 360) := by
    simp only [Numeral.InRange]
    omega
  have hnonneg : 0 ≤ t.heading + degrees % 360 := by omega
  rw [turnLeft, get_bind, word_bind hsum, Int.tmod_eq_emod_of_nonneg hnonneg]
  rfl

theorem agrees_turnRight (degrees : Int) :
    Agrees (fun t : Turtle C => 0 ≤ t.heading ∧ t.heading < 360) (turnRight degrees)
      (Turtle.turnRight degrees) := by
  rintro t ⟨hlow, hhigh⟩
  have hdifference : Numeral.InRange (t.heading - degrees % 360) := by
    simp only [Numeral.InRange]
    omega
  rw [turnRight, get_bind, word_bind hdifference]
  rfl

theorem unitStep_eq {heading : Int} (h : 0 ≤ heading ∧ heading < 360) (t : Turtle C) :
    unitStep heading t =
      match Turtle.stepAlong heading with
      | .ok step => .ok step t
      | .error e => .error (.failure e) t := by
  unfold unitStep Turtle.stepAlong Heading.unitStep?
  by_cases hbeyond : 180 < heading
  · have hmirrored : Numeral.InRange (360 - heading) := by
      simp only [Numeral.InRange]
      omega
    rw [if_pos hbeyond, if_pos hbeyond, word_bind hmirrored]
    cases hstep : Heading.leftward? (360 - heading) with
    | none => rfl
    | some step =>
      have hmem := Heading.isStep_of_leftward? hstep
      have hx : Numeral.InRange (-step.x) := by
        simp only [Point.IsStep, Numeral.InRange] at hmem ⊢
        omega
      simp only [word_bind hx]
      rfl
  · rw [if_neg hbeyond, if_neg hbeyond]
    cases Heading.leftward? heading <;> rfl

theorem agrees_walk (hsize : Numeral.InRange grid.size) {sign : Int} {step : Point}
    (hstep : (step.scale sign).IsStep) (n : Nat) :
    Agrees (Turtle.OnGrid grid) (walk sign step n) (Turtle.walk (step.scale sign) n) := by
  induction n with
  | zero => exact fun _ _ => rfl
  | succ n ih =>
    intro t ht
    -- One step away from the grid is the furthest that a sum can lead to.
    obtain ⟨⟨hdx, hdx'⟩, hdy, hdy'⟩ := hstep
    obtain ⟨⟨hx, hx'⟩, hy, hy'⟩ := ht.contains
    rw [ht.size_eq] at hx' hy'
    simp only [Point.scale, Numeral.InRange] at hdx hdx' hdy hdy' hsize
    have hfits : Numeral.InRange (sign * step.x) ∧ Numeral.InRange (t.position.x + sign * step.x) ∧
        Numeral.InRange (sign * step.y) ∧ Numeral.InRange (t.position.y + sign * step.y) := by
      simp only [Numeral.InRange]
      omega
    obtain ⟨hfdx, hfx, hfdy, hfy⟩ := hfits
    rw [walk, get_bind, word_bind hfdx, word_bind hfx, word_bind hfdy, word_bind hfy]
    have hfirst : Agrees (Turtle.OnGrid grid) _ (Turtle.enter (t.position + step.scale sign)) :=
      Agrees.lift _
    exact hfirst.seq (fun _ => (Turtle.OnGrid.kept grid).enter _) ih t ht

theorem agrees_travel (hsize : Numeral.InRange grid.size) {sign : Int}
    (hsign : sign = 1 ∨ sign = -1) (steps : Int) :
    Agrees (Turtle.OnGrid grid) (travel sign steps) (Turtle.travel (Point.scale sign) steps) := by
  intro t ht
  unfold travel Turtle.travel
  split
  · rfl
  · rw [get_bind]
    change EStateM.bind (unitStep t.heading) (fun step => walk sign step steps.toNat) t = _
    unfold EStateM.bind
    rw [unitStep_eq ht.heading_mem, Turtle.stepAlong]
    cases hunit : Heading.unitStep? t.heading with
    | none => rfl
    | some step =>
      have hstep : (step.scale sign).IsStep := by
        have hmem := Heading.isStep_of_unitStep? hunit
        rcases hsign with rfl | rfl <;> simp only [Point.IsStep, Point.scale] at hmem ⊢ <;> omega
      exact agrees_walk hsize hstep steps.toNat t ht

theorem agrees_apply (hsize : Numeral.InRange grid.size) (motion : Motion) (amount : Int) :
    Agrees (Turtle.OnGrid grid) (apply motion amount) (motion.apply amount) := by
  cases motion with
  | forward =>
    change Agrees _ (travel 1 amount) (Turtle.travel (fun step => step) amount)
    rw [← Point.scale_one]
    exact agrees_travel hsize (.inl rfl) amount
  | back =>
    change Agrees _ (travel (-1) amount) (Turtle.travel (fun step => -step) amount)
    rw [← Point.scale_neg_one]
    exact agrees_travel hsize (.inr rfl) amount
  | left => exact fun t ht => agrees_turnLeft amount t ht.heading_mem
  | right => exact fun t ht => agrees_turnRight amount t ht.heading_mem

mutual

theorem agrees_run (hsize : Numeral.InRange grid.size) (c : Command) :
    Agrees (Turtle.OnGrid grid) (run c) c.run := by
  cases c with
  | step motion amount span =>
    rw [run, Command.run]
    exact (agrees_apply hsize motion amount).adapt _
  | loop count body span =>
    rw [run, Command.run]
    refine (agrees_runAll hsize body).times (fun t ht => ?_) count.toNat
    rw [Command.runAll_eq_takeAll]
    exact (Turtle.OnGrid.kept grid).takeAll (Command.unrollAll body) ht

theorem agrees_runAll (hsize : Numeral.InRange grid.size) (cs : List Command) :
    Agrees (Turtle.OnGrid grid) (runAll cs) (Command.runAll cs) := by
  cases cs with
  | nil =>
    rw [runAll, Command.runAll]
    exact fun _ _ => rfl
  | cons c cs =>
    rw [runAll, Command.runAll]
    refine (agrees_run hsize c).seq (fun t ht => ?_) (agrees_runAll hsize cs)
    rw [Command.run_eq_takeAll]
    exact (Turtle.OnGrid.kept grid).takeAll c.unroll ht

end

/-- No call takes a turtle on the grid beyond 64 bits. -/
theorem agrees_perform (hsize : Numeral.InRange grid.size) (call : Call) :
    Agrees (Turtle.OnGrid grid) (perform call) call.perform := by
  cases call with
  | forward steps => exact (agrees_apply hsize .forward steps).adapt _
  | backward steps => exact (agrees_apply hsize .back steps).adapt _
  | turnLeft degrees => exact (agrees_apply hsize .left degrees).adapt _
  | turnRight degrees => exact (agrees_apply hsize .right degrees).adapt _
  | apply motion amount => exact (agrees_apply hsize motion amount).adapt _
  | run command => exact agrees_run hsize command

end Checked

theorem Grid.inRange_size {allocator : Allocator} {n : Int} {grid : Grid} (hn : Numeral.InRange n)
    (h : create allocator n = .ok grid) : Numeral.InRange grid.size := by
  obtain ⟨hpos, rfl⟩ := create_eq_ok h
  simp only [Numeral.InRange, size_blank] at hn ⊢
  omega

/-- A turtle can start on every grid. Whatever it is then called to do, it stays on the grid, facing
a heading below 360; it forgets no cell that it has visited at any time; and none of the numbers it
computes in a call is beyond 64 bits. -/
theorem turtle_stays_on_grid :
    (∀ allocator n grid, Numeral.InRange n → Grid.create allocator n = .ok grid →
      Numeral.InRange grid.size) ∧
      ∀ grid : Grid, Numeral.InRange grid.size →
        ∃ start, Turtle.start grid = .ok () start ∧ ∀ calls : List Call,
          let t := Call.performAll calls start
          t.OnGrid grid ∧
            (∀ more, (Call.performAll more t).OnGrid t.canvas) ∧
              ∀ call, Checked.perform call t = raised (call.perform t) := by
  refine ⟨fun allocator n grid hn hgrid => Grid.inRange_size hn hgrid, ?_⟩
  intro grid hsize
  obtain ⟨start, hstart, hon⟩ := Turtle.OnGrid.exists_start grid
  refine ⟨start, hstart, ?_⟩
  intro calls t
  have ht : t.OnGrid grid := (Turtle.OnGrid.kept grid).performAll calls hon
  refine ⟨ht, fun more => ?_, fun call => ?_⟩
  · exact (Turtle.OnGrid.kept t.canvas).performAll more ht.self
  · exact Checked.agrees_perform hsize call t ht

/-- Of the calls that a turtle on a square of three gets here, the first walks off the upper edge,
the second turns by the least number there is, and the third then has no direction to walk in. -/
theorem turtle_stays_on_grid_refused :
    let grid := Grid.blank 3 (by decide)
    let calls : List Call :=
      [.forward 9223372036854775807, .turnLeft (-9223372036854775808), .backward 1]
    let allocator : Allocator := fun _ => true
    (Numeral.InRange 3 ∧ Grid.create allocator 3 = .ok grid) ∧
      ∃ start, Turtle.start grid = .ok () start ∧
        let t := Call.performAll calls start
        (t.position = ⟨1, 0⟩ ∧ t.heading = 352) ∧ t.OnGrid grid ∧
          Checked.perform (.turnRight 9223372036854775807) t =
            raised (Call.perform (.turnRight 9223372036854775807) t) := by
  have hmarked : Turtle.start (Grid.blank 3 (by decide)) =
      .ok () ⟨(Grid.blank 3 (by decide)).mark ⟨1, 1⟩ (by decide), ⟨1, 1⟩, 0⟩ := rfl
  intro grid calls allocator
  have hn : Numeral.InRange 3 := by decide
  have hgrid : Grid.create allocator 3 = .ok grid := rfl
  obtain ⟨hcreate, hstay⟩ := turtle_stays_on_grid
  obtain ⟨start, hstart, hcalls⟩ := hstay grid (hcreate allocator 3 grid hn hgrid)
  obtain ⟨-, rfl⟩ := EStateM.Result.ok.inj (hmarked.symm.trans hstart)
  obtain ⟨hon, -, hchecked⟩ := hcalls calls
  exact ⟨⟨hn, hgrid⟩, _, hstart, ⟨rfl, rfl⟩, hon, hchecked _⟩

end TurtleGraphics
