import Mathlib.Data.String.Basic
import TurtleGraphics.Proofs.Drawing.Visits

/-!
# The text of a grid

The text of a grid has a line for each row and, on each line, a mark for each cell with a space
between every two. All lines have one length, so that a mark stands at a place of the text that can
be computed: as far in as its cell is in the row of cells, twice over (`getElem?_render_cell`). Size
and cells can therefore be read back, and no two grids have the same text.
-/

namespace TurtleGraphics.Grid

section Lists

variable {α : Type} {l : List α} {a sep : α}

/-- Lists of one length, joined: where an entry of one of them is found. -/
theorem getElem?_flatten_of_length {rows : List (List α)} {k j : Nat}
    (hrows : ∀ row ∈ rows, row.length = k) (hj : j < k) (i : Nat) :
    rows.flatten[i * k + j]? = rows[i]?.bind fun row => row[j]? := by
  induction rows generalizing i with
  | nil => simp
  | cons row rows ih =>
    have hrow : row.length = k := hrows row List.mem_cons_self
    have hrest := ih fun row hmem => hrows row (List.mem_cons_of_mem _ hmem)
    rw [List.flatten_cons]
    cases i with
    | zero =>
      rw [Nat.zero_mul, Nat.zero_add, List.getElem?_append_left (by omega)]
      rfl
    | succ i =>
      have hnext : (i + 1) * k + j = row.length + (i * k + j) := by
        rw [hrow, Nat.add_mul]
        omega
      rw [hnext, List.getElem?_append_right (Nat.le_add_right _ _), Nat.add_sub_cancel_left, hrest]
      rfl

theorem count_intersperse [DecidableEq α] (h : a ≠ sep) :
    (l.intersperse sep).count a = l.count a := by
  induction l with
  | nil => rfl
  | cons b l ih =>
    cases l with
    | nil => rfl
    | cons c l =>
      rw [List.intersperse_cons_cons, List.count_cons, List.count_cons_of_ne h.symm, ih]
      exact List.count_cons.symm

theorem eq_or_mem_of_mem_intersperse [DecidableEq α] (h : a ∈ l.intersperse sep) :
    a = sep ∨ a ∈ l := by
  by_cases ha : a = sep
  · exact .inl ha
  · rw [← List.count_pos_iff, count_intersperse ha] at h
    exact .inr (List.count_pos_iff.mp h)

end Lists

variable (g : Grid)

@[simp] theorem length_row (y : Nat) : (g.row y).length = g.size := by
  rw [row, List.length_map, List.length_range]

variable {g}

theorem contains_natCast {x y : Nat} (hx : x < g.size) (hy : y < g.size) :
    g.Contains ⟨x, y⟩ :=
  ⟨⟨Int.natCast_nonneg x, Int.ofNat_lt.mpr hx⟩, Int.natCast_nonneg y, Int.ofNat_lt.mpr hy⟩

theorem getElem?_row {x y : Nat} (hx : x < g.size) :
    (g.row y)[x]? = some (g.isVisited ⟨x, y⟩) := by
  rw [row, List.getElem?_map, List.getElem?_range hx]
  rfl

theorem getElem?_cells {x y : Nat} (hx : x < g.size) (hy : y < g.size) :
    g.cells.toList[y * g.size + x]? = some (g.isVisited ⟨x, y⟩) := by
  have hp := contains_natCast hx hy
  have hi := index_lt hp
  have hindex : g.index ⟨x, y⟩ = y * g.size + x := by
    simp only [index, Int.toNat_natCast]
  rw [isVisited, dif_pos hp, ← hindex, Vector.getElem?_toList, Vector.getElem?_eq_getElem hi]

/-- A row of the picture is a stretch of the row of cells. -/
theorem row_eq_take_drop {y : Nat} (hy : y < g.size) :
    g.row y = (g.cells.toList.drop (y * g.size)).take g.size := by
  apply List.ext_getElem?
  intro x
  by_cases hx : x < g.size
  · rw [getElem?_row hx, List.getElem?_take_of_lt hx, List.getElem?_drop, getElem?_cells hx hy]
  · rw [List.getElem?_eq_none (by simpa using hx),
      List.getElem?_eq_none ((List.length_take_le _ _).trans (Nat.le_of_not_lt hx))]

/-- The rows of the picture are the row of cells, cut into pieces. -/
theorem flatMap_row (g : Grid) : (List.range g.size).flatMap g.row = g.cells.toList := by
  have hrows : ∀ row ∈ (List.range g.size).map g.row, row.length = g.size := by
    intro row hrow
    obtain ⟨y, -, rfl⟩ := List.mem_map.mp hrow
    exact length_row g y
  rw [List.flatMap_def]
  apply List.ext_getElem?
  intro i
  have hcolumn : i % g.size < g.size := Nat.mod_lt i g.size_pos
  rw [← Nat.div_add_mod' i g.size, getElem?_flatten_of_length hrows hcolumn, List.getElem?_map]
  by_cases hrow : i / g.size < g.size
  · rw [List.getElem?_range hrow, getElem?_cells hcolumn hrow]
    exact getElem?_row hcolumn
  · have hi : g.size * g.size ≤ i / g.size * g.size + i % g.size :=
      (Nat.mul_le_mul_right g.size (Nat.le_of_not_lt hrow)).trans (Nat.le_add_right _ _)
    rw [List.getElem?_eq_none (by simpa using hrow), List.getElem?_eq_none (by simpa using hi)]
    rfl

theorem cellMark_injective : Function.Injective cellMark := by
  unfold Function.Injective
  decide

def line (g : Grid) (y : Nat) : List Char :=
  ((g.row y).map cellMark).intersperse ' '

theorem toList_render (g : Grid) :
    g.render.toList = (List.range g.size).flatMap fun y => g.line y ++ ['\n'] := by
  rw [render, String.toList_join, List.flatMap_map]
  apply List.flatMap_congr
  intro y _
  exact String.toList_ofList

section Line

variable {c : Char} {x y : Nat}

theorem length_line (g : Grid) (y : Nat) : (g.line y).length = 2 * g.size - 1 := by
  rw [line, List.length_intersperse, List.length_map, length_row]

theorem length_line_append (g : Grid) (y : Nat) : (g.line y ++ ['\n']).length = 2 * g.size := by
  have hpos := g.size_pos
  rw [List.length_append, length_line, List.length_singleton]
  omega

theorem getElem?_line_cell (hx : x < g.size) :
    (g.line y)[2 * x]? = some (cellMark (g.isVisited ⟨x, y⟩)) := by
  rw [line, List.getElem?_intersperse_two_mul, List.getElem?_map, getElem?_row hx]
  rfl

theorem getElem?_line_space (hx : x + 1 < g.size) : (g.line y)[2 * x + 1]? = some ' ' := by
  apply List.getElem?_intersperse_two_mul_add_one
  rwa [List.length_map, length_row]

theorem eq_of_mem_line (h : c ∈ g.line y) : c = 'X' ∨ c = '.' ∨ c = ' ' := by
  obtain rfl | hmark := eq_or_mem_of_mem_intersperse h
  · exact .inr (.inr rfl)
  · obtain ⟨visited, -, rfl⟩ := List.mem_map.mp hmark
    cases visited
    · exact .inr (.inl rfl)
    · exact .inl rfl

theorem newline_notMem_line : '\n' ∉ g.line y := by
  intro h
  have hmark := eq_of_mem_line h
  revert hmark
  decide

theorem count_line_append (g : Grid) (y : Nat) :
    (g.line y ++ ['\n']).count 'X' = (g.row y).count true := by
  rw [List.count_append, line, count_intersperse (by decide)]
  exact List.count_map_of_injective (g.row y) cellMark cellMark_injective true

theorem count_newline_line_append (g : Grid) (y : Nat) : (g.line y ++ ['\n']).count '\n' = 1 := by
  rw [List.count_append, List.count_eq_zero_of_not_mem newline_notMem_line]
  rfl

/-- A mark stands as far into the text as its cell is in the row of cells, twice over. -/
theorem getElem?_render_cell (hx : x < g.size) (hy : y < g.size) :
    g.render.toList[2 * (y * g.size + x)]? = some (cellMark (g.isVisited ⟨x, y⟩)) := by
  have hlines : ∀ l ∈ (List.range g.size).map fun y => g.line y ++ ['\n'],
      l.length = 2 * g.size := by
    intro l hl
    obtain ⟨y, -, rfl⟩ := List.mem_map.mp hl
    exact length_line_append g y
  have hplace : 2 * (y * g.size + x) = y * (2 * g.size) + 2 * x := by
    rw [Nat.mul_add, Nat.mul_left_comm]
  have hinside : 2 * x < (g.line y).length := by
    rw [length_line]
    omega
  rw [toList_render, List.flatMap_def, hplace, getElem?_flatten_of_length hlines (by omega),
    List.getElem?_map, List.getElem?_range hy]
  exact (List.getElem?_append_left hinside).trans (getElem?_line_cell hx)

end Line

section Totals

variable (g)

theorem length_render : g.render.length = 2 * g.size * g.size := by
  rw [← String.length_toList, toList_render, List.length_flatMap]
  simp only [length_line_append, List.map_const', List.length_range, List.sum_replicate_nat]
  exact Nat.mul_comm _ _

theorem count_visited_render : g.render.toList.count 'X' = g.visitedCount := by
  rw [visitedCount, ← Vector.count_toList, ← flatMap_row, List.count_flatMap, toList_render,
    List.count_flatMap]
  simp only [Function.comp_def, count_line_append]

theorem count_newline_render : g.render.toList.count '\n' = g.size := by
  rw [toList_render, List.count_flatMap]
  simp only [Function.comp_def, count_newline_line_append, List.map_const', List.length_range,
    List.sum_replicate_nat, Nat.mul_one]

/-- A text of characters of one byte has as many bytes as characters. -/
theorem utf8ByteSize_eq_length {text : String} (h : ∀ c ∈ text.toList, c.utf8Size = 1) :
    text.utf8ByteSize = text.length := by
  have hlen (cs : List Char) (hcs : ∀ c ∈ cs, c.utf8Size = 1) : String.utf8Len cs = cs.length := by
    induction cs with
    | nil => rfl
    | cons c cs ih =>
      rw [String.utf8Len_cons, ih fun c hc => hcs c (List.mem_cons_of_mem _ hc),
        hcs c List.mem_cons_self, List.length_cons]
  rw [← String.length_toList, ← hlen text.toList h, ← String.utf8ByteSize_ofList,
    String.ofList_toList]

theorem utf8ByteSize_render : g.render.utf8ByteSize = 2 * g.size * g.size := by
  rw [utf8ByteSize_eq_length, length_render]
  intro c hc
  rw [toList_render] at hc
  obtain ⟨y, -, hline⟩ := List.mem_flatMap.mp hc
  obtain hmark | hnewline := List.mem_append.mp hline
  · obtain rfl | rfl | rfl := eq_of_mem_line hmark <;> rfl
  · rw [List.mem_singleton.mp hnewline]
    rfl

end Totals

def sizeIn (text : String) : Nat :=
  text.toList.count '\n'

def isVisitedIn (text : String) (x y : Nat) : Bool :=
  text.toList[2 * (y * sizeIn text + x)]? == some 'X'

theorem sizeIn_render (g : Grid) : sizeIn g.render = g.size :=
  count_newline_render g

theorem isVisitedIn_render {x y : Nat} (hx : x < g.size) (hy : y < g.size) :
    isVisitedIn g.render x y = g.isVisited ⟨x, y⟩ := by
  rw [isVisitedIn, sizeIn_render, getElem?_render_cell hx hy]
  cases g.isVisited ⟨x, y⟩ <;> rfl

/-- No two grids have the same text. -/
theorem render_injective : Function.Injective render := by
  intro g g' h
  have hsize : g.size = g'.size := by
    rw [← sizeIn_render, ← sizeIn_render, h]
  apply eq_of_isVisited_eq hsize
  intro p
  by_cases hp : g.Contains p
  · obtain ⟨⟨hx, hx'⟩, hy, hy'⟩ := hp
    obtain ⟨x, hpx⟩ := Int.eq_ofNat_of_zero_le hx
    obtain ⟨y, hpy⟩ := Int.eq_ofNat_of_zero_le hy
    obtain rfl : p = ⟨x, y⟩ := Point.ext hpx hpy
    have hcolumn : x < g.size := Int.ofNat_lt.mp hx'
    have hrow : y < g.size := Int.ofNat_lt.mp hy'
    rw [← isVisitedIn_render hcolumn hrow, h,
      isVisitedIn_render (hcolumn.trans_eq hsize) (hrow.trans_eq hsize)]
  · have hp' : ¬ g'.Contains p := by
      rwa [Contains, ← hsize]
    rw [isVisited_of_not_contains hp, isVisited_of_not_contains hp']

/-- What the text of a grid is, line by line and as a whole. -/
structure Depicts (lines : List (List Char)) (g : Grid) : Prop where
  text_eq : g.render = String.ofList (lines.map (· ++ ['\n'])).flatten
  length_lines : lines.length = g.size
  length_line : ∀ l ∈ lines, l.length = 2 * g.size - 1
  newline_notMem : ∀ l ∈ lines, '\n' ∉ l
  cell : ∀ x y : Nat, x < g.size → y < g.size → ∃ l, lines[y]? = some l ∧
    l[2 * x]? = some (if g.isVisited ⟨x, y⟩ then 'X' else '.')
  space : ∀ l ∈ lines, ∀ x : Nat, x + 1 < g.size → l[2 * x + 1]? = some ' '
  /-- The lines are what the row of cells is cut into. -/
  cut : ∀ y < g.size, lines[y]? =
    some ((((g.cells.toList.drop (y * g.size)).take g.size).map cellMark).intersperse ' ')
  length_text : g.render.length = 2 * g.size * g.size
  bytes_text : g.render.utf8ByteSize = 2 * g.size * g.size
  count_visited : g.render.toList.count 'X' = g.visitedCount

theorem depicts_lines (g : Grid) : Depicts ((List.range g.size).map g.line) g := by
  have hline {l : List Char} (hl : l ∈ (List.range g.size).map g.line) : ∃ y, l = g.line y := by
    obtain ⟨y, -, rfl⟩ := List.mem_map.mp hl
    exact ⟨y, rfl⟩
  have hget {y : Nat} (hy : y < g.size) :
      ((List.range g.size).map g.line)[y]? = some (g.line y) := by
    rw [List.getElem?_map, List.getElem?_range hy]
    rfl
  refine ⟨?_, by simp, ?_, ?_, ?_, ?_, ?_, length_render g, utf8ByteSize_render g,
    count_visited_render g⟩
  · rw [← String.ofList_toList (s := g.render), toList_render, List.map_map, List.flatMap_def]
    rfl
  · intro l hl
    obtain ⟨y, rfl⟩ := hline hl
    exact Grid.length_line g y
  · intro l hl
    obtain ⟨y, rfl⟩ := hline hl
    exact newline_notMem_line
  · intro x y hx hy
    exact ⟨_, hget hy, getElem?_line_cell hx⟩
  · intro l hl x hx
    obtain ⟨y, rfl⟩ := hline hl
    exact getElem?_line_space hx
  · intro y hy
    rw [hget hy, ← row_eq_take_drop hy, line]

end TurtleGraphics.Grid

namespace TurtleGraphics

/-- The text of a grid shows its size and every cell, in lines of one length, and it shows each at a
place from which it can be read back; so grids that have the same text are the same. This holds of
all grids that come of a blank one by visits, which keep its size. -/
theorem text_shows_grid_exactly :
    (∀ g : Grid, (∃ lines, Grid.Depicts lines g) ∧ Grid.sizeIn g.render = g.size ∧
      ∀ x y : Nat, x < g.size → y < g.size →
        Grid.isVisitedIn g.render x y = g.isVisited ⟨x, y⟩) ∧
      (∀ g g' : Grid, g.render = g'.render → g = g') ∧
        (∀ (n : Nat) (hn : 0 < n) (asked : List Point),
          (Grid.visitAll asked (Grid.blank n hn)).size = n) ∧
          ∀ (allocator : Allocator) (n : Int) (grid : Grid) (asked : List Point),
            Grid.create allocator n = .ok grid →
              ((Grid.visitAll asked grid).size : Int) = n := by
  have hsize (n : Nat) (hn : 0 < n) (asked : List Point) :
      (Grid.visitAll asked (Grid.blank n hn)).size = n :=
    ((Grid.records_blank hn).visitAll asked).size_eq
  refine ⟨fun g => ⟨⟨_, g.depicts_lines⟩, g.sizeIn_render, ?_⟩, Grid.render_injective, hsize, ?_⟩
  · intro x y hx hy
    exact Grid.isVisitedIn_render hx hy
  · intro allocator n grid asked hgrid
    obtain ⟨hn, rfl⟩ := Grid.create_eq_ok hgrid
    rw [hsize]
    omega

/-- On a square of two the cell right of the corner is shown on the first line. Two ways to ask for
it have the same text, so they lead to the same grid. -/
theorem text_shows_grid_exactly_corner :
    let grid := Grid.blank 2 (by decide)
    let g := Grid.visitAll [⟨1, 0⟩, ⟨2, 0⟩] grid
    let g' := Grid.visitAll [⟨-1, 1⟩, ⟨1, 0⟩, ⟨1, 0⟩] grid
    let allocator : Allocator := fun _ => true
    (Grid.create allocator 2 = .ok grid ∧ g.render = ". X\n. .\n" ∧
        g'.render = ". X\n. .\n") ∧
      g = g' ∧ g.isVisited ⟨1, 0⟩ = true ∧ g.isVisited ⟨0, 1⟩ = false := by
  intro grid g g' allocator
  have hgrid : Grid.create allocator 2 = .ok grid := rfl
  have htext : g.render = ". X\n. .\n" := by decide
  have htext' : g'.render = ". X\n. .\n" := by decide
  obtain ⟨hread, hinjective, -, hsize⟩ := text_shows_grid_exactly
  have hg : g.size = 2 := Int.ofNat_inj.mp (hsize allocator 2 grid _ hgrid)
  have hcell := (hread g).2.2
  rw [hg, htext] at hcell
  refine ⟨⟨hgrid, htext, htext'⟩, hinjective g g' (htext.trans htext'.symm), ?_, ?_⟩
  · exact (hcell 1 0 (by decide) (by decide)).symm.trans (by decide)
  · exact (hcell 0 1 (by decide) (by decide)).symm.trans (by decide)

end TurtleGraphics
