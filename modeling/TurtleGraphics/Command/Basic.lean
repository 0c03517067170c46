import TurtleGraphics.Text.Position

/-!
# Commands

A command is a single step of the turtle or a loop over commands. Each carries the place of the
keyword that introduced it, so that a failure can be traced to it.
-/

namespace TurtleGraphics

open Text

inductive Motion where
  | forward
  | back
  | left
  | right
  deriving DecidableEq, Repr

inductive Command where
  | step (motion : Motion) (amount : Int) (span : Span)
  | loop (count : Int) (body : List Command) (span : Span)

namespace Command

def span : Command → Span
  | step _ _ span => span
  | loop _ _ span => span

mutual

def decEq : (c d : Command) → Decidable (c = d)
  | step m a s, step m' a' s' => decidable_of_iff (m = m' ∧ a = a' ∧ s = s') (by simp)
  | loop n b s, loop n' b' s' =>
    match decEqList b b' with
    | isTrue h => decidable_of_iff (n = n' ∧ s = s') (by simp [h])
    | isFalse h => isFalse (by simp [h])
  | step _ _ _, loop _ _ _ => isFalse (by simp)
  | loop _ _ _, step _ _ _ => isFalse (by simp)

def decEqList : (cs ds : List Command) → Decidable (cs = ds)
  | [], [] => isTrue rfl
  | c :: cs, d :: ds =>
    match decEq c d, decEqList cs ds with
    | isTrue h, isTrue h' => isTrue (by rw [h, h'])
    | isFalse h, _ => isFalse (by simp [h])
    | _, isFalse h' => isFalse (by simp [h'])
  | [], _ :: _ => isFalse (by simp)
  | _ :: _, [] => isFalse (by simp)

end

instance : DecidableEq Command := decEq

end Command

end TurtleGraphics
