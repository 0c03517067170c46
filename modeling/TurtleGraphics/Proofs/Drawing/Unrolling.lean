import TurtleGraphics.Command.Run

/-!
# Unrolling loops

A stride is a step without a place in a tree. Unrolling writes the body of every loop out as often
as the count says and so turns commands into a list of strides. Whatever it is that a single stride
does, the strides taken in order until one fails end exactly as the commands do (`RunsBy`), and so
they do for a turtle on any canvas.
-/

namespace TurtleGraphics

open Text

structure Stride where
  motion : Motion
  amount : Int
  span : Span
  deriving DecidableEq, Repr

mutual

def Command.unroll : Command → List Stride
  | .step motion amount span => [⟨motion, amount, span⟩]
  | .loop count body _ => (List.replicate count.toNat (Command.unrollAll body)).flatten

def Command.unrollAll : List Command → List Stride
  | [] => []
  | c :: cs => c.unroll ++ Command.unrollAll cs

end

section Follow

variable {ε σ : Type}

def andThen (result : EStateM.Result ε σ Unit) (next : σ → EStateM.Result ε σ Unit) :
    EStateM.Result ε σ Unit :=
  match result with
  | .ok _ s => next s
  | .error e s => .error e s

theorem andThen_assoc (result : EStateM.Result ε σ Unit)
    (next last : σ → EStateM.Result ε σ Unit) :
    andThen (andThen result next) last = andThen result fun s => andThen (next s) last := by
  cases result <;> rfl

/-- Strides taken one after the other until one fails, each of them as `take` does it. -/
def follow (take : Stride → σ → EStateM.Result ε σ Unit) :
    List Stride → σ → EStateM.Result ε σ Unit
  | [], s => .ok () s
  | stride :: strides, s => andThen (take stride s) (follow take strides)

theorem follow_append (take : Stride → σ → EStateM.Result ε σ Unit) (before after : List Stride)
    (s : σ) :
    follow take (before ++ after) s = andThen (follow take before s) (follow take after) := by
  induction before generalizing s with
  | nil => rfl
  | cons stride before ih =>
    rw [List.cons_append, follow, follow, andThen_assoc]
    exact congrArg (andThen (take stride s)) (funext ih)

theorem follow_singleton (take : Stride → σ → EStateM.Result ε σ Unit) (stride : Stride) (s : σ) :
    follow take [stride] s = take stride s := by
  rw [follow]
  cases take stride s <;> rfl

/-- An action that follows `strides` follows them again and again when it is repeated. -/
theorem times_eq_follow {take : Stride → σ → EStateM.Result ε σ Unit}
    {action : EStateM ε σ Unit} {strides : List Stride}
    (h : ∀ s, action s = follow take strides s) (n : Nat) (s : σ) :
    times action n s = follow take (List.replicate n strides).flatten s := by
  induction n generalizing s with
  | zero => rfl
  | succ n ih =>
    rw [times_succ, List.replicate_succ, List.flatten_cons, follow_append, h]
    cases follow take strides s with
    | ok _ s => exact ih s
    | error e s => rfl

/-- `run` and `runAll` take a step as `take` does, a loop again and again, and a list in order until
a command fails. -/
structure RunsBy (take : Stride → σ → EStateM.Result ε σ Unit)
    (run : Command → EStateM ε σ Unit) (runAll : List Command → EStateM ε σ Unit) : Prop where
  step : ∀ motion amount span s, run (.step motion amount span) s = take ⟨motion, amount, span⟩ s
  loop : ∀ count body span s, run (.loop count body span) s = times (runAll body) count.toNat s
  nil : ∀ s, runAll [] s = .ok () s
  cons : ∀ c cs s, runAll (c :: cs) s = andThen (run c s) (runAll cs)

namespace RunsBy

variable {take : Stride → σ → EStateM.Result ε σ Unit}
  {run : Command → EStateM ε σ Unit} {runAll : List Command → EStateM ε σ Unit}

mutual

theorem run_eq_follow (h : RunsBy take run runAll) (c : Command) (s : σ) :
    run c s = follow take c.unroll s := by
  cases c with
  | step motion amount span => rw [h.step, Command.unroll, follow_singleton]
  | loop count body span =>
    rw [h.loop, Command.unroll]
    exact times_eq_follow (runAll_eq_follow h body) count.toNat s

theorem runAll_eq_follow (h : RunsBy take run runAll) (cs : List Command) (s : σ) :
    runAll cs s = follow take (Command.unrollAll cs) s := by
  cases cs with
  | nil => rw [h.nil, Command.unrollAll, follow]
  | cons c cs =>
    rw [h.cons, Command.unrollAll, follow_append, run_eq_follow h c s]
    exact congrArg (andThen _) (funext (runAll_eq_follow h cs))

end

end RunsBy

end Follow

def located {σ : Type} (span : Span) :
    EStateM.Result DrawError σ Unit → EStateM.Result RunError σ Unit
  | .ok _ s => .ok () s
  | .error cause s => .error ⟨cause, some span⟩ s

variable {C : Type} [Canvas C]

namespace Stride

def take (s : Stride) (t : Turtle C) : EStateM.Result RunError (Turtle C) Unit :=
  located s.span (s.motion.apply s.amount t)

def takeAll : List Stride → Turtle C → EStateM.Result RunError (Turtle C) Unit :=
  follow take

theorem takeAll_cons (s : Stride) (strides : List Stride) (t : Turtle C) :
    takeAll (s :: strides) t = andThen (s.take t) (takeAll strides) := rfl

theorem takeAll_append (before after : List Stride) (t : Turtle C) :
    takeAll (before ++ after) t = andThen (takeAll before t) (takeAll after) :=
  follow_append take before after t

theorem takeAll_singleton (s : Stride) (t : Turtle C) : takeAll [s] t = s.take t :=
  follow_singleton take s t

end Stride

namespace Command

theorem runsBy_take :
    RunsBy Stride.take (run : Command → EStateM RunError (Turtle C) Unit) runAll where
  step motion amount span t := by
    rw [run_step, Stride.take]
    cases motion.apply amount t <;> rfl
  loop := run_loop
  nil := runAll_nil
  cons c cs t := by
    rw [runAll_cons]
    cases c.run t <;> rfl

theorem run_eq_takeAll (c : Command) (t : Turtle C) : c.run t = Stride.takeAll c.unroll t :=
  runsBy_take.run_eq_follow c t

theorem runAll_eq_takeAll (cs : List Command) (t : Turtle C) :
    runAll cs t = Stride.takeAll (unrollAll cs) t :=
  runsBy_take.runAll_eq_follow cs t

end Command

end TurtleGraphics
