import TurtleGraphics.Canvas.Basic

/-!
# Grids

A grid is a square of cells, each of which is visited or not. As a canvas it refuses the cells
outside the square and is then left as it was. Whether there is room for the cells of a new grid is
not for the grid to say: this is asked of an allocator.
-/

namespace TurtleGraphics

/-- Tells of a number of cells whether room can be had for them. -/
abbrev Allocator := Nat → Bool

structure Grid where
  size : Nat
  size_pos : 0 < size
  /-- Row after row, each from left to right. -/
  cells : Vector Bool (size * size)

namespace Grid

def blank (size : Nat) (h : 0 < size) : Grid :=
  ⟨size, h, Vector.replicate (size * size) false⟩

/-- The number of cells of a square, if it fits in a machine word. -/
def cellCount? (size : Nat) : Option Nat :=
  if size * size < UInt64.size then some (size * size) else none

def create (allocator : Allocator) (size : Int) : Except DrawError Grid :=
  if h : 0 < size.toNat then
    match cellCount? size.toNat with
    | none => .error (.invalidSize size)
    | some count =>
      if allocator count then .ok (blank size.toNat h) else .error (.invalidSize size)
  else .error (.invalidSize size)

def Contains (g : Grid) (p : Point) : Prop :=
  (0 ≤ p.x ∧ p.x < g.size) ∧ 0 ≤ p.y ∧ p.y < g.size

instance (g : Grid) (p : Point) : Decidable (g.Contains p) :=
  inferInstanceAs (Decidable ((_ ∧ _) ∧ _ ∧ _))

def index (g : Grid) (p : Point) : Nat :=
  p.y.toNat * g.size + p.x.toNat

theorem index_lt {g : Grid} {p : Point} (h : g.Contains p) : g.index p < g.size * g.size := by
  obtain ⟨⟨hx, hx'⟩, hy, hy'⟩ := h
  have hrow : p.y.toNat + 1 ≤ g.size := by omega
  calc g.index p < p.y.toNat * g.size + g.size := by simp only [index]; omega
    _ = (p.y.toNat + 1) * g.size := (Nat.succ_mul _ _).symm
    _ ≤ g.size * g.size := Nat.mul_le_mul_right _ hrow

/-- No cell has the place of another. -/
theorem index_inj {g : Grid} {p q : Point} (hp : g.Contains p) (hq : g.Contains q)
    (h : g.index p = g.index q) : p = q := by
  obtain ⟨⟨hpx, hpx'⟩, hpy, hpy'⟩ := hp
  obtain ⟨⟨hqx, hqx'⟩, hqy, hqy'⟩ := hq
  have column (a b : Nat) (hb : b < g.size) : (a * g.size + b) % g.size = b := by
    rw [Nat.mul_add_mod_self_right, Nat.mod_eq_of_lt hb]
  have hx : p.x.toNat = q.x.toNat := by
    have := congrArg (· % g.size) h
    simpa only [index, column _ _ (show p.x.toNat < g.size by omega),
      column _ _ (show q.x.toNat < g.size by omega)] using this
  have hy : p.y.toNat = q.y.toNat := by
    simp only [index, hx] at h
    exact Nat.eq_of_mul_eq_mul_right g.size_pos (Nat.add_right_cancel h)
  exact Point.ext (by omega) (by omega)

def isVisited (g : Grid) (p : Point) : Bool :=
  if h : g.Contains p then
    have := index_lt h
    g.cells[g.index p]
  else false

def visitedCount (g : Grid) : Nat :=
  g.cells.count true

def mark (g : Grid) (p : Point) (h : g.Contains p) : Grid :=
  { g with cells := g.cells.set (g.index p) true (index_lt h) }

theorem isVisited_of_not_contains {g : Grid} {p : Point} (h : ¬ g.Contains p) :
    g.isVisited p = false :=
  dif_neg h

theorem contains_of_isVisited {g : Grid} {p : Point} (h : g.isVisited p = true) :
    g.Contains p := by
  by_cases hp : g.Contains p
  · exact hp
  · rw [isVisited_of_not_contains hp] at h
    cases h

theorem isVisited_blank (size : Nat) (h : 0 < size) (p : Point) :
    (blank size h).isVisited p = false := by
  unfold isVisited
  split
  · simp [blank]
  · rfl

theorem isVisited_mark (g : Grid) {p : Point} (hp : g.Contains p) (q : Point) :
    (g.mark p hp).isVisited q = (decide (q = p) || g.isVisited q) := by
  by_cases hq : g.Contains q
  · have hq' : (g.mark p hp).Contains q := hq
    have hi := index_lt hq
    rw [isVisited, dif_pos hq', isVisited, dif_pos hq]
    change (g.cells.set (g.index p) true (index_lt hp))[g.index q] = _
    rw [Vector.getElem_set]
    by_cases h : q = p
    · simp [h]
    · have hi : ¬ g.index p = g.index q := fun hi => h (index_inj hq hp hi.symm)
      simp [h, hi]
  · have hq' : ¬ (g.mark p hp).Contains q := hq
    have h : q ≠ p := fun h => hq (h ▸ hp)
    simp [isVisited_of_not_contains hq, isVisited_of_not_contains hq', h]

theorem isVisited_mark_self {g : Grid} {p : Point} (hp : g.Contains p) :
    (g.mark p hp).isVisited p = true := by
  rw [isVisited_mark, decide_eq_true rfl, Bool.true_or]

theorem isVisited_mark_of_isVisited {g : Grid} {p q : Point} (hp : g.Contains p)
    (hq : g.isVisited q = true) : (g.mark p hp).isVisited q = true := by
  rw [isVisited_mark, hq, Bool.or_true]

def visit (p : Point) : EStateM DrawError Grid Unit := fun g =>
  if h : g.Contains p then .ok () (g.mark p h) else .error (.outOfBounds p g.size) g

instance : Canvas Grid where
  size := size
  visit := visit

def row (g : Grid) (y : Nat) : List Bool :=
  (List.range g.size).map fun (x : Nat) => g.isVisited ⟨x, y⟩

def cellMark (visited : Bool) : Char :=
  if visited then 'X' else '.'

def rowText (row : List Bool) : String :=
  String.ofList ((row.map cellMark).intersperse ' ' ++ ['\n'])

def render (g : Grid) : String :=
  String.join ((List.range g.size).map fun y => rowText (g.row y))

end Grid

end TurtleGraphics
