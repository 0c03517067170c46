/-!
# The plane

Cells are points of the integer plane. `x` grows to the right and `y` grows downwards, the way
the rows of a picture are printed.
-/

namespace TurtleGraphics

structure Point where
  x : Int
  y : Int
  deriving DecidableEq, Repr, Inhabited

namespace Point

instance : Add Point := ⟨fun p q => ⟨p.x + q.x, p.y + q.y⟩⟩

instance : Neg Point := ⟨fun p => ⟨-p.x, -p.y⟩⟩

def flip (p : Point) : Point := ⟨-p.x, p.y⟩

@[simp] theorem add_x (p q : Point) : (p + q).x = p.x + q.x := rfl

@[simp] theorem add_y (p q : Point) : (p + q).y = p.y + q.y := rfl

@[simp] theorem neg_x (p : Point) : (-p).x = -p.x := rfl

@[simp] theorem neg_y (p : Point) : (-p).y = -p.y := rfl

@[simp] theorem flip_x (p : Point) : p.flip.x = -p.x := rfl

@[simp] theorem flip_y (p : Point) : p.flip.y = p.y := rfl

@[ext] theorem ext {p q : Point} (hx : p.x = q.x) (hy : p.y = q.y) : p = q := by
  cases p
  cases q
  simp only at hx hy
  rw [hx, hy]

end Point

end TurtleGraphics
