import TurtleGraphics.Plane

/-!
# Headings

A heading is an angle in whole degrees. Heading 0 points up and angles grow counter-clockwise, so
90 points left. A turtle's heading stays between 0 and 359; only the eight multiples of 45 among
those have a cell to step to.
-/

namespace TurtleGraphics.Heading

def leftward? (heading : Int) : Option Point :=
  match heading with
  | 0 => some ⟨0, -1⟩
  | 45 => some ⟨-1, -1⟩
  | 90 => some ⟨-1, 0⟩
  | 135 => some ⟨-1, 1⟩
  | 180 => some ⟨0, 1⟩
  | _ => none

/-- The unit step along a heading. Beyond 180 the steps are those of the opposite turn, flipped;
so 360 still has the step of 0, and anything larger has none. -/
def unitStep? (heading : Int) : Option Point :=
  if 180 < heading then (leftward? (360 - heading)).map Point.flip else leftward? heading

def turnLeft (heading degrees : Int) : Int :=
  (heading + degrees % 360) % 360

def turnRight (heading degrees : Int) : Int :=
  (heading - degrees % 360) % 360

theorem turnLeft_eq (heading degrees : Int) :
    turnLeft heading degrees = (heading + degrees) % 360 := by
  simp only [turnLeft]
  omega

theorem turnRight_eq (heading degrees : Int) :
    turnRight heading degrees = (heading - degrees) % 360 := by
  simp only [turnRight]
  omega

theorem turnLeft_mem (heading degrees : Int) :
    0 ≤ turnLeft heading degrees ∧ turnLeft heading degrees < 360 := by
  simp only [turnLeft]
  omega

theorem turnRight_mem (heading degrees : Int) :
    0 ≤ turnRight heading degrees ∧ turnRight heading degrees < 360 := by
  simp only [turnRight]
  omega

end TurtleGraphics.Heading
