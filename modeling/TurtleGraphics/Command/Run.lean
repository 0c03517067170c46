import TurtleGraphics.Command.Basic
import TurtleGraphics.Turtle

/-!
# Running commands

A loop runs its body as often as its count says, and never if the count is negative. The first
step that fails ends the run, and its error carries the place of that step, however many loops
are around it.
-/

namespace TurtleGraphics

open Text

/-- A failure while drawing, with the place of the step that failed, if it was in one. -/
structure RunError where
  cause : DrawError
  span : Option Span
  deriving DecidableEq, Repr

variable {C : Type} [Canvas C]

def Motion.apply (motion : Motion) (amount : Int) : Drawing C Unit :=
  match motion with
  | .forward => Turtle.forward amount
  | .back => Turtle.backward amount
  | .left => Turtle.turnLeft amount
  | .right => Turtle.turnRight amount

def times {ε σ : Type} (action : EStateM ε σ Unit) : Nat → EStateM ε σ Unit
  | 0 => pure ()
  | n + 1 => do
    action
    times action n

mutual

def Command.run : Command → EStateM RunError (Turtle C) Unit
  | .step motion amount span =>
    EStateM.adaptExcept (fun cause => ⟨cause, some span⟩) (motion.apply amount)
  | .loop count body _ => times (Command.runAll body) count.toNat

def Command.runAll : List Command → EStateM RunError (Turtle C) Unit
  | [] => pure ()
  | c :: cs => do
    c.run
    Command.runAll cs

end

theorem times_succ {ε σ : Type} (action : EStateM ε σ Unit) (n : Nat) (s : σ) :
    times action (n + 1) s =
      match action s with
      | .ok _ s => times action n s
      | .error e s => .error e s := by
  change EStateM.bind action (fun _ => times action n) s = _
  unfold EStateM.bind
  cases action s <;> rfl

namespace Command

theorem run_step (motion : Motion) (amount : Int) (span : Span) (t : Turtle C) :
    (step motion amount span).run t =
      match motion.apply amount t with
      | .ok _ t => .ok () t
      | .error cause t => .error ⟨cause, some span⟩ t := by
  rw [run]
  unfold EStateM.adaptExcept
  cases motion.apply amount t <;> rfl

theorem run_loop (count : Int) (body : List Command) (span : Span) (t : Turtle C) :
    (loop count body span).run t = times (runAll body) count.toNat t := by
  rw [run]

@[simp] theorem runAll_nil (t : Turtle C) : runAll [] t = .ok () t := by
  rw [runAll]
  rfl

theorem runAll_cons (c : Command) (cs : List Command) (t : Turtle C) :
    runAll (c :: cs) t =
      match c.run t with
      | .ok _ t => runAll cs t
      | .error e t => .error e t := by
  rw [runAll]
  change EStateM.bind c.run (fun _ => runAll cs) t = _
  unfold EStateM.bind
  cases c.run t <;> rfl

theorem runAll_append (cs ds : List Command) (t : Turtle C) :
    runAll (cs ++ ds) t =
      match runAll cs t with
      | .ok _ t => runAll ds t
      | .error e t => .error e t := by
  induction cs generalizing t with
  | nil => rw [runAll_nil, List.nil_append]
  | cons c cs ih =>
    rw [List.cons_append, runAll_cons, runAll_cons]
    cases c.run t with
    | ok _ t => exact ih t
    | error e t => rfl

end Command

end TurtleGraphics
