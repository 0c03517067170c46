import TurtleGraphics.FailureKind
import TurtleGraphics.Plane

/-!
# Canvases

A canvas is what a turtle walks over and marks. It is square, has a size, and may refuse a cell;
whether or not it refuses, the visit may change it.
-/

namespace TurtleGraphics

inductive DrawError where
  | invalidSize (size : Int)
  | outOfBounds (cell : Point) (size : Nat)
  | unsupportedHeading (heading : Int)
  deriving DecidableEq, Repr

namespace DrawError

def message : DrawError → String
  | invalidSize size => toString size ++ " is not a valid grid size"
  | outOfBounds cell size =>
    "(" ++ toString cell.x ++ ", " ++ toString cell.y ++ ") is off the edge of the " ++
      toString size ++ "x" ++ toString size ++ " grid"
  | unsupportedHeading heading =>
    "can't move along heading " ++ toString heading ++ ", only multiples of 45 degrees work"

def kind : DrawError → FailureKind
  | invalidSize _ => .invalidSize
  | outOfBounds _ _ => .outOfBounds
  | unsupportedHeading _ => .unsupportedHeading

end DrawError

class Canvas (C : Type) where
  size : C → Nat
  visit : Point → EStateM DrawError C Unit

end TurtleGraphics
