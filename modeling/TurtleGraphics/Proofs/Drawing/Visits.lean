import TurtleGraphics.Proofs.Drawing.Calls
import TurtleGraphics.Proofs.Drawing.Placement

/-!
# Visits to a grid

A grid is asked for one cell after the other and refuses those outside its square. `Records` is the
invariant: the grid shows those of the cells asked for so far that are in the square. A grid is
determined by its size and by the cells that are visited (`Grid.eq_of_isVisited_eq`), so neither the
order in which cells are asked for nor how often makes a difference to it.
-/

namespace TurtleGraphics.Grid

section Cells

variable {g g' : Grid} {i : Nat}

def cellAt (g : Grid) (i : Nat) : Point :=
  ⟨(i % g.size : Nat), (i / g.size : Nat)⟩

theorem contains_cellAt (hi : i < g.size * g.size) : g.Contains (g.cellAt i) := by
  have hcolumn : i % g.size < g.size := Nat.mod_lt i g.size_pos
  have hrow : i / g.size < g.size := Nat.div_lt_of_lt_mul hi
  exact ⟨⟨Int.natCast_nonneg _, Int.ofNat_lt.mpr hcolumn⟩,
    Int.natCast_nonneg _, Int.ofNat_lt.mpr hrow⟩

theorem index_cellAt (g : Grid) (i : Nat) : g.index (g.cellAt i) = i := by
  simp only [index, cellAt, Int.toNat_natCast]
  exact Nat.div_add_mod' i g.size

theorem getElem_cells (hi : i < g.size * g.size) : g.cells[i] = g.isVisited (g.cellAt i) := by
  rw [isVisited, dif_pos (contains_cellAt hi)]
  simp only [index_cellAt]

/-- A grid is determined by its size and by the cells that are visited. -/
theorem eq_of_isVisited_eq (hsize : g.size = g'.size)
    (h : ∀ p, g.isVisited p = g'.isVisited p) : g = g' := by
  obtain ⟨size, hpos, cells⟩ := g
  obtain ⟨size', hpos', cells'⟩ := g'
  obtain rfl : size = size' := hsize
  congr 1
  apply Vector.ext
  intro i hi
  have hcell := getElem_cells (g := ⟨size, hpos, cells⟩) hi
  have hcell' := getElem_cells (g := ⟨size, hpos', cells'⟩) hi
  exact hcell.trans ((h _).trans hcell'.symm)

end Cells

/-- The grid after some visits, each asked for whether or not the ones before were refused. -/
def visitAll (asked : List Point) (g : Grid) : Grid :=
  asked.foldl (fun g p => finalState (visit p g)) g

theorem visit_of_contains {g : Grid} {p : Point} (h : g.Contains p) :
    visit p g = .ok () (g.mark p h) :=
  dif_pos h

theorem visit_of_not_contains {g : Grid} {p : Point} (h : ¬ g.Contains p) :
    visit p g = .error (.outOfBounds p g.size) g :=
  dif_neg h

/-- The grid has size `n` and shows those of the cells `asked` for that are in its square. -/
structure Records (n : Nat) (asked : List Point) (g : Grid) : Prop where
  size_eq : g.size = n
  shows : g.Shows (asked.toFinset.filter (Point.Within n))

theorem records_blank {n : Nat} (hn : 0 < n) : Records n [] (blank n hn) where
  size_eq := rfl
  shows := shows_blank n hn

namespace Records

variable {n : Nat} {asked : List Point} {g g' : Grid} {p : Point}

theorem contains_iff (h : Records n asked g) (p : Point) : g.Contains p ↔ p.Within n :=
  contains_iff_within h.size_eq p

theorem isVisited_iff (h : Records n asked g) (p : Point) :
    g.isVisited p = true ↔ p ∈ asked ∧ p.Within n := by
  rw [h.shows.isVisited_iff, Finset.mem_filter, List.mem_toFinset]

/-- One visit: the cell is added to those shown if it is in the square. -/
theorem visit (h : Records n asked g) (p : Point) :
    Records n (asked ++ [p]) (finalState (visit p g)) := by
  have happend : (asked ++ [p]).toFinset = insert p asked.toFinset := by
    ext q
    simp
  by_cases hp : p.Within n
  · have hcontains := (h.contains_iff p).mpr hp
    rw [visit_of_contains hcontains]
    refine ⟨h.size_eq, ?_⟩
    rw [happend, Finset.filter_insert, if_pos hp]
    exact h.shows.mark hcontains
  · rw [visit_of_not_contains (mt (h.contains_iff p).mp hp)]
    refine ⟨h.size_eq, ?_⟩
    rw [happend, Finset.filter_insert, if_neg hp]
    exact h.shows

theorem visitAll (h : Records n asked g) (more : List Point) :
    Records n (asked ++ more) (visitAll more g) := by
  induction more generalizing asked g with
  | nil => rwa [List.append_nil]
  | cons p more ih =>
    have hrest := ih (h.visit p)
    rwa [List.append_assoc] at hrest

/-- Two grids that were asked for the same cells of the square are the same. -/
theorem eq_of_mem_iff {asked' : List Point} (h : Records n asked g) (h' : Records n asked' g')
    (hasked : ∀ p, p.Within n → (p ∈ asked ↔ p ∈ asked')) : g = g' := by
  apply eq_of_isVisited_eq (h.size_eq.trans h'.size_eq.symm)
  intro p
  rw [Bool.eq_iff_iff, h.isVisited_iff, h'.isVisited_iff]
  exact and_congr_left (hasked p)

theorem succeeds_iff (h : Records n asked g) (p : Point) :
    (∃ g', Grid.visit p g = .ok () g') ↔ p.Within n := by
  rw [← h.contains_iff]
  by_cases hp : g.Contains p
  · rw [visit_of_contains hp]
    exact ⟨fun _ => hp, fun _ => ⟨_, rfl⟩⟩
  · rw [visit_of_not_contains hp]
    refine ⟨?_, fun hcontains => absurd hcontains hp⟩
    rintro ⟨g', hg'⟩
    cases hg'

theorem eq_of_refused (h : Records n asked g) {e : DrawError}
    (hvisit : Grid.visit p g = .error e g') : e = .outOfBounds p n ∧ g' = g := by
  by_cases hp : g.Contains p
  · rw [visit_of_contains hp] at hvisit
    cases hvisit
  · rw [visit_of_not_contains hp, h.size_eq] at hvisit
    obtain ⟨rfl, rfl⟩ := EStateM.Result.error.inj hvisit
    exact ⟨rfl, rfl⟩

end Records

/-- The place of a cell as it is computed in machine words, which wrap around. -/
def indexWord (g : Grid) (p : Point) : UInt64 :=
  UInt64.ofNat p.y.toNat * UInt64.ofNat g.size + UInt64.ofNat p.x.toNat

/-- Where the cells can be counted in a machine word, so can the places before any of them. -/
theorem toNat_indexWord {g : Grid} {p : Point} (hcells : g.size * g.size < UInt64.size)
    (hp : g.Contains p) : (g.indexWord p).toNat = g.index p := by
  have hplace : g.index p < UInt64.size := (index_lt hp).trans hcells
  have hword : g.indexWord p = UInt64.ofNat (g.index p) := by
    rw [indexWord, index, UInt64.ofNat_add, UInt64.ofNat_mul]
  rw [hword, UInt64.toNat_ofNat_of_lt' hplace]

/-- What comes of a grid of size `n` when it is asked for cells, one after the other: what each
visit says, and what the grid is then. -/
structure ShowsVisits (n : Nat) (grid : Grid) : Prop where
  size_eq : ∀ asked, (visitAll asked grid).size = n
  succeeds_iff : ∀ asked p, (∃ g, visit p (visitAll asked grid) = .ok () g) ↔ p.Within n
  refuses : ∀ asked p e g, visit p (visitAll asked grid) = .error e g →
    e = .outOfBounds p n ∧ g = visitAll asked grid
  isVisited_iff : ∀ asked p, (visitAll asked grid).isVisited p = true ↔ p ∈ asked ∧ p.Within n
  /-- A cell counts once, however often it was asked for. -/
  visitedCount_eq : ∀ asked,
    (visitAll asked grid).visitedCount = (asked.toFinset.filter (Point.Within n)).card
  /-- Only the set of the cells asked for matters. -/
  visitAll_eq : ∀ asked asked', (∀ p, p.Within n → (p ∈ asked ↔ p ∈ asked')) →
    visitAll asked grid = visitAll asked' grid
  cells_size : ∀ asked, (visitAll asked grid).cells.toArray.size = n * n
  index_lt : ∀ asked p, p.Within n → (visitAll asked grid).index p < n * n

theorem showsVisits_blank {n : Nat} (hn : 0 < n) : ShowsVisits n (blank n hn) := by
  have h (asked : List Point) : Records n asked (visitAll asked (blank n hn)) :=
    (records_blank hn).visitAll asked
  refine ⟨fun asked => (h asked).size_eq, fun asked => (h asked).succeeds_iff,
    fun asked _ _ _ => (h asked).eq_of_refused, fun asked => (h asked).isVisited_iff,
    fun asked => (h asked).shows.visitedCount_eq,
    fun asked asked' => (h asked).eq_of_mem_iff (h asked'), fun asked => ?_, fun asked p hp => ?_⟩
  · rw [Vector.size_toArray, (h asked).size_eq]
  · have hindex := Grid.index_lt (((h asked).contains_iff p).mpr hp)
    rwa [(h asked).size_eq] at hindex

end TurtleGraphics.Grid

namespace TurtleGraphics

/-- A grid is exactly the set of the cells visited. Whatever it is asked for, it refuses the cells
outside its square, each by name and without a change, and shows those inside. The order in which
cells are asked for, how often, and what is asked for outside make no difference. The place of a
cell is always one of the row of cells, and on a grid that can be created, however much room there
is, computing it in machine words does not overflow. -/
theorem grid_shows_exactly_visits :
    (∀ (n : Nat) (hn : 0 < n), (Grid.blank n hn).ShowsVisits n) ∧
      ∀ (allocator : Allocator) (n : Int) (grid : Grid), Grid.create allocator n = .ok grid →
        (n.toNat : Int) = n ∧ n.toNat * n.toNat < UInt64.size ∧ grid.ShowsVisits n.toNat ∧
          ∀ asked p, p.Within n.toNat →
            let g := Grid.visitAll asked grid
            p.y.toNat * g.size < UInt64.size ∧ g.index p < UInt64.size ∧
              (g.indexWord p).toNat = g.index p := by
  refine ⟨fun n hn => Grid.showsVisits_blank hn, ?_⟩
  intro allocator n grid hgrid
  obtain ⟨hcells, -, hn, rfl⟩ := Grid.create_eq_ok_iff.mp hgrid
  have hshows := Grid.showsVisits_blank hn
  refine ⟨by omega, hcells, hshows, ?_⟩
  intro asked p hp g
  have hsize : g.size = n.toNat := hshows.size_eq asked
  have hcontains : g.Contains p := (Grid.contains_iff_within hsize p).mpr hp
  have hindex : g.index p < UInt64.size := (hshows.index_lt asked p hp).trans hcells
  exact ⟨(Nat.le_add_right _ _).trans_lt hindex, hindex,
    Grid.toNat_indexWord (by rwa [hsize]) hcontains⟩

/-- Right of the first row of a square of three, and left of the second one, there is nothing that
could be visited, even though the places of cells run on from row to row. -/
theorem grid_shows_exactly_visits_rows :
    let grid := Grid.blank 3 (by decide)
    let g := Grid.visitAll [⟨2, 0⟩, ⟨3, 0⟩, ⟨-1, 2⟩, ⟨0, 2⟩, ⟨2, 0⟩] grid
    let allocator : Allocator := fun _ => true
    Grid.create allocator 3 = .ok grid ∧
      (Grid.visit ⟨3, 0⟩ g = .error (.outOfBounds ⟨3, 0⟩ 3) g ∧ g.isVisited ⟨0, 1⟩ = false) ∧
        g.visitedCount = 2 ∧ g = Grid.visitAll [⟨0, 2⟩, ⟨2, 0⟩] grid := by
  intro grid g allocator
  have hgrid : Grid.create allocator 3 = .ok grid := rfl
  obtain ⟨-, -, hshows, -⟩ := grid_shows_exactly_visits.2 allocator 3 grid hgrid
  refine ⟨hgrid, ⟨?_, ?_⟩, ?_, ?_⟩
  · cases hvisit : Grid.visit ⟨3, 0⟩ g with
    | ok _ g' => exact absurd ((hshows.succeeds_iff _ _).mp ⟨g', hvisit⟩) (by decide)
    | error e g' =>
      obtain ⟨rfl, rfl⟩ := hshows.refuses _ _ _ _ hvisit
      rfl
  · rw [Bool.eq_false_iff]
    exact mt (hshows.isVisited_iff _ _).mp (by decide)
  · exact (hshows.visitedCount_eq _).trans (by decide)
  · apply hshows.visitAll_eq
    intro p hp
    have hright : p ≠ ⟨3, 0⟩ := fun h => absurd (h ▸ hp) (by decide)
    have hleft : p ≠ ⟨-1, 2⟩ := fun h => absurd (h ▸ hp) (by decide)
    simp only [List.mem_cons, List.not_mem_nil, hright, hleft, false_or, or_false]
    tauto

end TurtleGraphics
