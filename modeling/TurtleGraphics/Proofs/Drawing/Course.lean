import TurtleGraphics.Proofs.Drawing.Unrolling

/-!
# Courses on the endless plane

The course of a list of strides is what a turtle meets when it takes them on a plane that has no
edge: the cells it enters, one after the other, and the moves that it cannot make because it faces
none of the eight directions. What fits into a square is decided afterwards, event by event.
-/

namespace TurtleGraphics

open Text

namespace Heading

/-- The directions of the eight headings that have one, counter-clockwise from up. -/
def compass (heading : Int) : Point :=
  match heading / 45 % 8 with
  | 0 => ⟨0, -1⟩
  | 1 => ⟨-1, -1⟩
  | 2 => ⟨-1, 0⟩
  | 3 => ⟨-1, 1⟩
  | 4 => ⟨0, 1⟩
  | 5 => ⟨1, 1⟩
  | 6 => ⟨1, 0⟩
  | _ => ⟨1, -1⟩

theorem leftward?_eq_none {heading : Int} (h : ¬ 45 ∣ heading) : leftward? heading = none := by
  unfold leftward?
  split
  all_goals first | rfl | exact absurd (by decide) h

/-- The mirrored table has the step of the compass for every multiple of 45, and no other. -/
theorem unitStep?_eq {heading : Int} (h : 0 ≤ heading ∧ heading < 360) :
    unitStep? heading = if 45 ∣ heading then some (compass heading) else none := by
  by_cases hd : 45 ∣ heading
  · obtain ⟨k, rfl⟩ := hd
    have hk : k = 0 ∨ k = 1 ∨ k = 2 ∨ k = 3 ∨ k = 4 ∨ k = 5 ∨ k = 6 ∨ k = 7 := by omega
    rw [if_pos (Int.dvd_mul_right 45 k)]
    rcases hk with rfl | rfl | rfl | rfl | rfl | rfl | rfl | rfl <;> decide
  · rw [if_neg hd, unitStep?]
    have hd' : ¬ 45 ∣ 360 - heading := by omega
    rw [leftward?_eq_none hd, leftward?_eq_none hd']
    split <;> rfl

end Heading

def Point.along (p direction : Point) (n : Nat) : Point :=
  ⟨p.x + n * direction.x, p.y + n * direction.y⟩

@[simp] theorem Point.along_zero (p direction : Point) : p.along direction 0 = p := by
  ext <;> simp [along]

theorem Point.along_succ (p direction : Point) (n : Nat) :
    p.along direction (n + 1) = (p + direction).along direction n := by
  ext
  · simp only [along, add_x, Int.natCast_succ, Int.add_mul]
    omega
  · simp only [along, add_y, Int.natCast_succ, Int.add_mul]
    omega

/-- The cells of a square of this size with its corner at the origin. -/
def Point.Within (size : Nat) (p : Point) : Prop :=
  (0 ≤ p.x ∧ p.x < size) ∧ 0 ≤ p.y ∧ p.y < size

instance (size : Nat) (p : Point) : Decidable (p.Within size) :=
  inferInstanceAs (Decidable ((_ ∧ _) ∧ _ ∧ _))

/-- Something that happens on a course, with the place of the stride in which it does. -/
inductive Event where
  | enter (cell : Point) (span : Span)
  | stuck (heading : Int) (span : Span)
  deriving DecidableEq, Repr

namespace Event

def cell? : Event → Option Point
  | enter cell _ => some cell
  | stuck _ _ => none

def Fits (size : Nat) : Event → Prop
  | enter cell _ => cell.Within size
  | stuck _ _ => False

instance (size : Nat) (event : Event) : Decidable (event.Fits size) :=
  match event with
  | enter cell _ => inferInstanceAs (Decidable (cell.Within size))
  | stuck _ _ => .isFalse id

def error (size : Nat) : Event → RunError
  | enter cell span => ⟨.outOfBounds cell size, some span⟩
  | stuck heading span => ⟨.unsupportedHeading heading, some span⟩

def cells (events : List Event) : List Point :=
  events.filterMap cell?

theorem cells_append (before after : List Event) :
    cells (before ++ after) = cells before ++ cells after :=
  List.filterMap_append

def misfit? (size : Nat) (events : List Event) : Option Event :=
  events.find? fun event => decide ¬ event.Fits size

theorem misfit?_append (size : Nat) (before after : List Event) :
    misfit? size (before ++ after) = (misfit? size before).or (misfit? size after) :=
  List.find?_append

theorem misfit?_eq_none {size : Nat} {events : List Event} :
    misfit? size events = none ↔ ∀ event ∈ events, event.Fits size := by
  rw [misfit?, List.find?_eq_none]
  simp

theorem mem_cells {p : Point} {events : List Event} :
    p ∈ cells events ↔ ∃ span, enter p span ∈ events := by
  rw [cells, List.mem_filterMap]
  constructor
  · rintro ⟨event, hevent, hp⟩
    cases event with
    | enter cell span =>
      obtain rfl : cell = p := Option.some.inj hp
      exact ⟨span, hevent⟩
    | stuck heading span => cases hp
  · rintro ⟨span, hevent⟩
    exact ⟨_, hevent, rfl⟩

/-- All events fit when none is stuck and every cell lies in the square. -/
theorem misfit?_eq_none_iff {size : Nat} {events : List Event} :
    misfit? size events = none ↔
      (∀ heading span, stuck heading span ∉ events) ∧ ∀ p ∈ cells events, p.Within size := by
  rw [misfit?_eq_none]
  constructor
  · intro h
    refine ⟨fun heading span hevent => h _ hevent, ?_⟩
    intro p hp
    obtain ⟨span, hevent⟩ := mem_cells.mp hp
    exact h _ hevent
  · rintro ⟨hstuck, hcells⟩ event hevent
    cases event with
    | enter cell span => exact hcells cell (mem_cells.mpr ⟨span, hevent⟩)
    | stuck heading span => exact hstuck heading span hevent

end Event

structure Pose where
  position : Point
  heading : Int
  deriving DecidableEq, Repr

namespace Pose

def moves (q : Pose) (direction : Point) (s : Stride) : List Event :=
  if s.amount ≤ 0 then []
  else if 45 ∣ q.heading then
    (List.range s.amount.toNat).map fun i => .enter (q.position.along direction (i + 1)) s.span
  else [.stuck q.heading s.span]

def events (q : Pose) (s : Stride) : List Event :=
  match s.motion with
  | .forward => q.moves (Heading.compass q.heading) s
  | .back => q.moves (-Heading.compass q.heading) s
  | .left => []
  | .right => []

def after (q : Pose) (s : Stride) : Pose :=
  match s.motion with
  | .forward => ⟨q.position.along (Heading.compass q.heading) s.amount.toNat, q.heading⟩
  | .back => ⟨q.position.along (-Heading.compass q.heading) s.amount.toNat, q.heading⟩
  | .left => ⟨q.position, (q.heading + s.amount) % 360⟩
  | .right => ⟨q.position, (q.heading - s.amount) % 360⟩

def course : Pose → List Stride → List Event
  | _, [] => []
  | q, s :: strides => q.events s ++ (q.after s).course strides

def start (size : Nat) : Pose := ⟨Turtle.center size, 0⟩

end Pose

namespace Command

/-- The course of commands from the middle of a square, with every loop unrolled. -/
def course (size : Nat) (commands : List Command) : List Event :=
  (Pose.start size).course (unrollAll commands)

def path (size : Nat) (commands : List Command) : List Point :=
  Turtle.center size :: Event.cells (course size commands)

end Command

end TurtleGraphics
