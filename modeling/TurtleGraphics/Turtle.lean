import TurtleGraphics.Canvas.Basic
import TurtleGraphics.Heading

/-!
# The turtle

A turtle stands on a cell of a canvas and faces a heading. Walking visits every cell on the way.
When the canvas refuses a cell the turtle stays where the last step took it, and may go on from
there, so an action keeps its state when it fails.
-/

namespace TurtleGraphics

structure Turtle (C : Type) where
  canvas : C
  position : Point
  heading : Int

abbrev Drawing (C : Type) := EStateM DrawError (Turtle C)

namespace Turtle

variable {C : Type} [Canvas C]

/-- Visits `p` and, unless the canvas refuses, stands there. -/
def enter (p : Point) : Drawing C Unit := fun ⟨canvas, position, heading⟩ =>
  match Canvas.visit p canvas with
  | .ok _ canvas => .ok () ⟨canvas, p, heading⟩
  | .error e canvas => .error e ⟨canvas, position, heading⟩

/-- The middle cell, or for an even size the one right of and below the middle. -/
def center (size : Nat) : Point :=
  ⟨(size / 2 : Nat), (size / 2 : Nat)⟩

/-- A turtle in the middle of `canvas`, facing up, which has visited the cell it stands on. -/
def start (canvas : C) : EStateM.Result DrawError (Turtle C) Unit :=
  let middle := center (Canvas.size canvas)
  enter middle ⟨canvas, middle, 0⟩

def walk (step : Point) : Nat → Drawing C Unit
  | 0 => pure ()
  | n + 1 => do
    let t ← get
    enter (t.position + step)
    walk step n

@[simp] theorem walk_zero (step : Point) (t : Turtle C) : walk step 0 t = .ok () t := rfl

theorem walk_succ (step : Point) (n : Nat) (t : Turtle C) :
    walk step (n + 1) t =
      match enter (t.position + step) t with
      | .ok _ t => walk step n t
      | .error e t => .error e t := by
  change EStateM.bind (enter (t.position + step)) (fun _ => walk step n) t = _
  unfold EStateM.bind
  cases enter (t.position + step) t <;> rfl

def stepAlong (heading : Int) : Except DrawError Point :=
  match Heading.unitStep? heading with
  | some step => .ok step
  | none => .error (.unsupportedHeading heading)

/-- Walks `steps` steps; `orient` says which way the step along the heading is taken. A turtle
that is not to take a step may face any heading. -/
def travel (orient : Point → Point) (steps : Int) : Drawing C Unit := fun t =>
  if steps ≤ 0 then .ok () t
  else
    match stepAlong t.heading with
    | .error e => .error e t
    | .ok step => walk (orient step) steps.toNat t

def forward (steps : Int) : Drawing C Unit :=
  travel (fun step => step) steps

def backward (steps : Int) : Drawing C Unit :=
  travel (fun step => -step) steps

def turnLeft (degrees : Int) : Drawing C Unit :=
  modify fun t => { t with heading := Heading.turnLeft t.heading degrees }

def turnRight (degrees : Int) : Drawing C Unit :=
  modify fun t => { t with heading := Heading.turnRight t.heading degrees }

end Turtle

end TurtleGraphics
