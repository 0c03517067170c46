import Mathlib.Data.Finset.Card
import Mathlib.Data.Finset.Dedup
import TurtleGraphics.Canvas.Grid

/-!
# What a grid shows

A grid shows a set of cells if these are the cells that are visited and as many as are counted.
A blank grid shows no cell, and a mark adds its own to what is shown.
-/

namespace TurtleGraphics.Grid

structure Shows (g : Grid) (cells : Finset Point) : Prop where
  isVisited_iff : ∀ p, g.isVisited p = true ↔ p ∈ cells
  visitedCount_eq : g.visitedCount = cells.card

@[simp] theorem size_blank (size : Nat) (h : 0 < size) : (blank size h).size = size := rfl

theorem shows_blank (size : Nat) (h : 0 < size) : (blank size h).Shows ∅ where
  isVisited_iff p := by
    rw [isVisited_blank]
    simp
  visitedCount_eq := by
    have hcount : (blank size h).visitedCount = 0 := by
      rw [visitedCount, blank, Vector.count_replicate]
      rfl
    rw [hcount, Finset.card_empty]

/-- A mark counts once, however often its cell is marked. -/
theorem visitedCount_mark (g : Grid) {p : Point} (hp : g.Contains p) :
    (g.mark p hp).visitedCount = g.visitedCount + if g.isVisited p = true then 0 else 1 := by
  have hi := index_lt hp
  have hvisited : g.isVisited p = g.cells[g.index p] := dif_pos hp
  have hmark : (g.mark p hp).visitedCount =
      g.visitedCount - (if g.cells[g.index p] == true then 1 else 0) + 1 := by
    change (g.cells.set (g.index p) true hi).count true = _
    rw [Vector.count_set]
    rfl
  rw [hmark, hvisited]
  by_cases hcell : g.cells[g.index p] = true
  · have hmem : true ∈ g.cells := hcell ▸ Vector.getElem_mem hi
    have hpos : 0 < g.visitedCount := Vector.count_pos_iff.mpr hmem
    simp only [hcell, beq_self_eq_true, if_true]
    omega
  · have hfalse : g.cells[g.index p] = false := Bool.eq_false_iff.mpr hcell
    simp [hfalse]

theorem Shows.mark {g : Grid} {cells : Finset Point} (hg : g.Shows cells) {p : Point}
    (hp : g.Contains p) : (g.mark p hp).Shows (insert p cells) where
  isVisited_iff q := by
    rw [isVisited_mark, Bool.or_eq_true, decide_eq_true_eq, Finset.mem_insert,
      hg.isVisited_iff q]
  visitedCount_eq := by
    rw [visitedCount_mark, hg.visitedCount_eq]
    by_cases h : p ∈ cells
    · rw [if_pos ((hg.isVisited_iff p).mpr h), Finset.insert_eq_of_mem h, Nat.add_zero]
    · have hp' : ¬ g.isVisited p = true := fun hv => h ((hg.isVisited_iff p).mp hv)
      rw [if_neg hp', Finset.card_insert_of_notMem h]

end TurtleGraphics.Grid
