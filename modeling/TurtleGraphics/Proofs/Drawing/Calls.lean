import TurtleGraphics.Proofs.Drawing.Unrolling

/-!
# Calls on a turtle

A turtle can be called again and again: to move, to turn, or to run a command. A call that fails
leaves the turtle where it has got to, and the next call goes on from there. Every call comes down
to motions, so a property that motions keep (`Turtle.KeptByMotions`) is kept by every sequence of
calls. All that a motion ever does is to enter cells and to turn, so it is enough that these keep
the property (`Turtle.Kept`).
-/

namespace TurtleGraphics

open Text

def finalState {ε σ α : Type} : EStateM.Result ε σ α → σ
  | .ok _ s => s
  | .error _ s => s

@[simp] theorem finalState_located {σ : Type} (span : Span)
    (result : EStateM.Result DrawError σ Unit) :
    finalState (located span result) = finalState result := by
  cases result <;> rfl

@[simp] theorem finalState_adaptExcept {ε ε' σ α : Type} (f : ε → ε') (action : EStateM ε σ α)
    (s : σ) : finalState (EStateM.adaptExcept f action s) = finalState (action s) := by
  unfold EStateM.adaptExcept
  cases action s <;> rfl

inductive Call where
  | forward (steps : Int)
  | backward (steps : Int)
  | turnLeft (degrees : Int)
  | turnRight (degrees : Int)
  | apply (motion : Motion) (amount : Int)
  | run (command : Command)

variable {C : Type} [Canvas C]

namespace Call

def unlocated (action : Drawing C Unit) : EStateM RunError (Turtle C) Unit :=
  EStateM.adaptExcept (fun cause => ⟨cause, none⟩) action

def perform : Call → EStateM RunError (Turtle C) Unit
  | forward steps => unlocated (Turtle.forward steps)
  | backward steps => unlocated (Turtle.backward steps)
  | turnLeft degrees => unlocated (Turtle.turnLeft degrees)
  | turnRight degrees => unlocated (Turtle.turnRight degrees)
  | apply motion amount => unlocated (motion.apply amount)
  | run command => command.run

/-- The turtle after some calls, each made whether or not the ones before failed. -/
def performAll (calls : List Call) (t : Turtle C) : Turtle C :=
  calls.foldl (fun t call => finalState (call.perform t)) t

end Call

namespace Turtle

section FinalState

variable {P : Turtle C → Prop} {t : Turtle C}

/-- What the steps of a walk keep is kept by the walk, wherever it ends. -/
theorem finalState_walk_of_enter {step : Point}
    (henter : ∀ {t : Turtle C}, P t → P (finalState (enter (t.position + step) t))) (n : Nat)
    (ht : P t) : P (finalState (walk step n t)) := by
  induction n generalizing t with
  | zero => exact ht
  | succ n ih =>
    have hfirst := henter ht
    rw [walk_succ]
    cases hresult : enter (t.position + step) t with
    | ok _ t' =>
      rw [hresult] at hfirst
      exact ih hfirst
    | error e t' =>
      rw [hresult] at hfirst
      exact hfirst

/-- A turtle that is to move walks along its heading or stays as it is. -/
theorem finalState_travel_of_walk {orient : Point → Point} {steps : Int} (ht : P t)
    (hwalk : ∀ step, stepAlong t.heading = .ok step →
      P (finalState (walk (orient step) steps.toNat t))) :
    P (finalState (travel orient steps t)) := by
  unfold travel
  split
  · exact ht
  · cases hstep : stepAlong t.heading with
    | error e => exact ht
    | ok step => exact hwalk step hstep

end FinalState

def KeptByMotions (P : Turtle C → Prop) : Prop :=
  ∀ ⦃t : Turtle C⦄ (motion : Motion) (amount : Int), P t → P (finalState (motion.apply amount t))

namespace KeptByMotions

variable {P : Turtle C → Prop} {t : Turtle C}

theorem takeAll (hP : KeptByMotions P) (strides : List Stride) (ht : P t) :
    P (finalState (Stride.takeAll strides t)) := by
  induction strides generalizing t with
  | nil => exact ht
  | cons s strides ih =>
    have hfirst : P (finalState (s.take t)) := by
      rw [Stride.take, finalState_located]
      exact hP s.motion s.amount ht
    rw [Stride.takeAll_cons]
    cases hresult : s.take t with
    | ok _ t' =>
      rw [hresult] at hfirst
      exact ih hfirst
    | error e t' =>
      rw [hresult] at hfirst
      exact hfirst

theorem unlocated (hP : KeptByMotions P) (motion : Motion) (amount : Int) (ht : P t) :
    P (finalState (Call.unlocated (motion.apply amount) t)) := by
  rw [Call.unlocated, finalState_adaptExcept]
  exact hP motion amount ht

theorem perform (hP : KeptByMotions P) (call : Call) (ht : P t) :
    P (finalState (call.perform t)) := by
  cases call with
  | forward steps => exact hP.unlocated .forward steps ht
  | backward steps => exact hP.unlocated .back steps ht
  | turnLeft degrees => exact hP.unlocated .left degrees ht
  | turnRight degrees => exact hP.unlocated .right degrees ht
  | apply motion amount => exact hP.unlocated motion amount ht
  | run command =>
    rw [Call.perform, Command.run_eq_takeAll]
    exact hP.takeAll command.unroll ht

/-- What motions keep is kept by every sequence of calls, failing ones included. -/
theorem performAll (hP : KeptByMotions P) (calls : List Call) (ht : P t) :
    P (Call.performAll calls t) := by
  induction calls generalizing t with
  | nil => exact ht
  | cons call calls ih => exact ih (hP.perform call ht)

end KeptByMotions

structure Kept (P : Turtle C → Prop) : Prop where
  enter : ∀ {t : Turtle C} (p : Point), P t → P (finalState (enter p t))
  turn : ∀ {t : Turtle C} {heading : Int}, P t → 0 ≤ heading ∧ heading < 360 →
    P { t with heading := heading }

namespace Kept

variable {P : Turtle C → Prop} {t : Turtle C}

theorem walk (hP : Kept P) (step : Point) (n : Nat) (ht : P t) :
    P (finalState (walk step n t)) :=
  finalState_walk_of_enter (hP.enter _) n ht

theorem travel (hP : Kept P) (orient : Point → Point) (steps : Int) (ht : P t) :
    P (finalState (travel orient steps t)) :=
  finalState_travel_of_walk ht fun step _ => hP.walk (orient step) steps.toNat ht

theorem keptByMotions (hP : Kept P) : KeptByMotions P := by
  intro t motion amount ht
  cases motion with
  | forward => exact hP.travel (fun step => step) amount ht
  | back => exact hP.travel (fun step => -step) amount ht
  | left => exact hP.turn ht (Heading.turnLeft_mem t.heading amount)
  | right => exact hP.turn ht (Heading.turnRight_mem t.heading amount)

theorem takeAll (hP : Kept P) (strides : List Stride) (ht : P t) :
    P (finalState (Stride.takeAll strides t)) :=
  hP.keptByMotions.takeAll strides ht

theorem performAll (hP : Kept P) (calls : List Call) (ht : P t) : P (Call.performAll calls t) :=
  hP.keptByMotions.performAll calls ht

end Kept

end Turtle

end TurtleGraphics
