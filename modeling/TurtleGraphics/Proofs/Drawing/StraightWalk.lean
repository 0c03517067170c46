import Mathlib.Data.Nat.Find
import Mathlib.Order.Bounds.Defs
import TurtleGraphics.Canvas.Trail
import TurtleGraphics.Proofs.Drawing.Retracing

/-!
# Straight walks on a grid

A walk goes step by step, but on a grid it need not be followed step by step: in every direction the
turtle has room for a number of steps, which is smaller than the size of the grid, and this number
tells whether a walk succeeds, where it ends and which cells it marks. The cells between two cells
of the grid are cells of it too, so a walk succeeds as soon as its last cell is on the grid. To
count what the grid is asked for, the turtle is also put on a trail.
-/

namespace TurtleGraphics

namespace Point

variable {p d : Point} {size i j n : Nat}

theorem along_add_one (p d : Point) (n : Nat) : p.along d (n + 1) = p.along d n + d := by
  ext
  · simp only [along, add_x, Int.natCast_succ, Int.add_mul]
    omega
  · simp only [along, add_y, Int.natCast_succ, Int.add_mul]
    omega

def line (p d : Point) (n : Nat) : List Point :=
  (List.range n).map fun i => p.along d (i + 1)

theorem line_succ (p d : Point) (n : Nat) :
    p.line d (n + 1) = p.line d n ++ [p.along d (n + 1)] := by
  rw [line, List.range_succ, List.map_append, line]
  rfl

@[simp] theorem length_line (p d : Point) (n : Nat) : (p.line d n).length = n := by
  rw [line, List.length_map, List.length_range]

def IsDirection (d : Point) : Prop :=
  d.IsStep ∧ (d.x ≠ 0 ∨ d.y ≠ 0)

theorem IsDirection.neg (hd : d.IsDirection) : (-d).IsDirection := by
  simp only [IsDirection, IsStep, neg_x, neg_y] at hd ⊢
  omega

/-- What lies between two places on an axis, seen from a step of at most one. -/
theorem between {a s m i j : Int} (hs : -1 ≤ s ∧ s ≤ 1) (ha : 0 ≤ a ∧ a < m)
    (hj : 0 ≤ a + j * s ∧ a + j * s < m) (hi : 0 ≤ i ∧ i ≤ j) :
    0 ≤ a + i * s ∧ a + i * s < m := by
  obtain rfl | rfl | rfl : s = -1 ∨ s = 0 ∨ s = 1 := by omega
  all_goals omega

theorem Within.along_of_le (hp : p.Within size) (hd : d.IsStep)
    (hj : (p.along d j).Within size) (hij : i ≤ j) : (p.along d i).Within size := by
  have hi : (0 : Int) ≤ i ∧ (i : Int) ≤ j := by omega
  exact ⟨between hd.1 hp.1 hj.1 hi, between hd.2 hp.2 hj.2 hi⟩

theorem Within.lt_of_along (hp : p.Within size) (hd : d.IsDirection)
    (hj : (p.along d j).Within size) : j < size := by
  obtain ⟨⟨hdx, hdy⟩, hne⟩ := hd
  have away {a s : Int} (hs : s = -1 ∨ s = 1) (ha : 0 ≤ a ∧ a < size)
      (haj : 0 ≤ a + j * s ∧ a + j * s < size) : j < size := by
    obtain rfl | rfl := hs <;> omega
  obtain hx | hy := hne
  · exact away (by omega) hp.1 hj.1
  · exact away (by omega) hp.2 hj.2

/-- In every direction there is an end to the square. -/
theorem Within.exists_room (hp : p.Within size) (hd : d.IsDirection) :
    ∃ k, IsGreatest {j : Nat | (p.along d j).Within size} k ∧ k < size := by
  have hzero : (p.along d 0).Within size := by rwa [along_zero]
  have hlast := Nat.findGreatest_spec (P := fun j => (p.along d j).Within size)
    (Nat.zero_le size) hzero
  refine ⟨_, ⟨hlast, ?_⟩, hp.lt_of_along hd hlast⟩
  intro j hj
  exact Nat.le_findGreatest (hp.lt_of_along hd hj).le hj

end Point

theorem Heading.exists_direction {heading : Int} (h : 0 ≤ heading ∧ heading < 360)
    (hdvd : 45 ∣ heading) : ∃ d, unitStep? heading = some d ∧ d.IsDirection := by
  have hstep : unitStep? heading = some (compass heading) := by rw [unitStep?_eq h, if_pos hdvd]
  refine ⟨_, hstep, isStep_of_unitStep? hstep, ?_⟩
  unfold compass
  split <;> simp

namespace Turtle

section AnyCanvas

variable {C : Type} [Canvas C] {t t' t₁ : Turtle C} {d : Point} {k n : Nat}

theorem position_of_enter {p : Point} (h : enter p t = .ok () t') : t'.position = p := by
  cases hvisit : Canvas.visit p t.canvas with
  | ok _ canvas =>
    rw [enter_of_visit_ok hvisit] at h
    obtain ⟨-, rfl⟩ := EStateM.Result.ok.inj h
    rfl
  | error e canvas =>
    rw [enter_of_visit_error hvisit] at h
    cases h

/-- The walk before its last step. -/
theorem exists_of_walk_succ (h : walk d (n + 1) t = .ok () t') :
    ∃ t₁, walk d n t = .ok () t₁ ∧ enter (t₁.position + d) t₁ = .ok () t' := by
  rw [walk_add] at h
  obtain ⟨t₁, hfirst, hlast⟩ := exists_of_andThen_eq_ok h
  rw [walk_one] at hlast
  exact ⟨t₁, hfirst, hlast⟩

theorem walk_succ_of_ok (h : walk d n t = .ok () t₁) :
    walk d (n + 1) t = enter (t₁.position + d) t₁ := by
  rw [walk_add, h]
  exact walk_one d t₁

theorem position_of_walk (h : walk d n t = .ok () t') : t'.position = t.position.along d n := by
  induction n generalizing t' with
  | zero =>
    obtain ⟨-, rfl⟩ := EStateM.Result.ok.inj h
    rw [Point.along_zero]
  | succ n ih =>
    obtain ⟨t₁, hfirst, hlast⟩ := exists_of_walk_succ h
    rw [position_of_enter hlast, ih hfirst, Point.along_add_one]

/-- A step that is refused ends the walk, however much of it is left. -/
theorem walk_of_refused {e : DrawError} (h : walk d k t = .ok () t₁)
    (hrefused : enter (t₁.position + d) t₁ = .error e t') (hk : k < n) :
    walk d n t = .error e t' := by
  obtain ⟨m, rfl⟩ : ∃ m, n = k + 1 + m := ⟨n - (k + 1), by omega⟩
  rw [walk_add, walk_succ_of_ok h, hrefused]
  rfl

def watched (t : Turtle C) (visits : List Point) : Turtle (Trail C) :=
  ⟨⟨t.canvas, visits⟩, t.position, t.heading⟩

theorem enter_watched_of_ok {p : Point} (h : enter p t = .ok () t') (visits : List Point) :
    enter p (t.watched visits) = .ok () (t'.watched (p :: visits)) := by
  cases hvisit : Canvas.visit p t.canvas with
  | ok _ canvas =>
    rw [enter_of_visit_ok hvisit] at h
    obtain ⟨-, rfl⟩ := EStateM.Result.ok.inj h
    apply enter_of_visit_ok
    simp only [watched, Canvas.visit, hvisit]
  | error e canvas =>
    rw [enter_of_visit_error hvisit] at h
    cases h

theorem enter_watched_of_error {p : Point} {e : DrawError} (h : enter p t = .error e t')
    (visits : List Point) :
    enter p (t.watched visits) = .error e (t'.watched (p :: visits)) := by
  cases hvisit : Canvas.visit p t.canvas with
  | ok _ canvas =>
    rw [enter_of_visit_ok hvisit] at h
    cases h
  | error e' canvas =>
    rw [enter_of_visit_error hvisit] at h
    obtain ⟨rfl, rfl⟩ := EStateM.Result.error.inj h
    apply enter_of_visit_error
    simp only [watched, Canvas.visit, hvisit]

/-- A walk that succeeds asks for the cells on its way, each once and in order. -/
theorem walk_watched (h : walk d n t = .ok () t') (visits : List Point) :
    walk d n (t.watched visits) =
      .ok () (t'.watched ((t.position.line d n).reverse ++ visits)) := by
  induction n generalizing t' with
  | zero =>
    obtain ⟨-, rfl⟩ := EStateM.Result.ok.inj h
    rfl
  | succ n ih =>
    obtain ⟨t₁, hfirst, hlast⟩ := exists_of_walk_succ h
    have hp : t₁.position + d = t.position.along d (n + 1) := by
      rw [position_of_walk hfirst, Point.along_add_one]
    rw [walk_succ_of_ok (ih hfirst)]
    change enter (t₁.position + d) _ = _
    rw [enter_watched_of_ok hlast, hp, Point.line_succ, List.reverse_append]
    rfl

end AnyCanvas

variable {t t' : Turtle Grid} {d : Point} {n : Nat}

structure Ahead (d : Point) (n : Nat) (t t' : Turtle Grid) : Prop where
  size_eq : t'.canvas.size = t.canvas.size
  position_eq : t'.position = t.position.along d n
  heading_eq : t'.heading = t.heading
  isVisited_iff : ∀ p, t'.canvas.isVisited p = true ↔
    t.canvas.isVisited p = true ∨ p ∈ t.position.line d n

theorem Ahead.zero (d : Point) (t : Turtle Grid) : Ahead d 0 t t :=
  ⟨rfl, (Point.along_zero _ _).symm, rfl, fun _ => by simp [Point.line]⟩

theorem Ahead.succ (h : Ahead d n t t')
    (hp : t'.canvas.Contains (t.position.along d (n + 1))) :
    Ahead d (n + 1) t ⟨t'.canvas.mark _ hp, t.position.along d (n + 1), t'.heading⟩ where
  size_eq := h.size_eq
  position_eq := rfl
  heading_eq := h.heading_eq
  isVisited_iff p := by
    rw [Grid.isVisited_mark, Bool.or_eq_true, decide_eq_true_eq, h.isVisited_iff, Point.line_succ,
      List.mem_append, List.mem_singleton, or_comm, or_assoc]

/-- A walk over cells of the grid succeeds. -/
theorem exists_walk_ahead (h : ∀ i ≤ n, t.canvas.Contains (t.position.along d i)) :
    ∃ t', walk d n t = .ok () t' ∧ Ahead d n t t' := by
  induction n with
  | zero => exact ⟨t, rfl, .zero d t⟩
  | succ n ih =>
    obtain ⟨t₁, hwalk, hahead⟩ := ih fun i hi => h i (Nat.le_succ_of_le hi)
    have hp : t₁.canvas.Contains (t.position.along d (n + 1)) := by
      rw [Grid.Contains, hahead.size_eq]
      exact h (n + 1) le_rfl
    refine ⟨_, ?_, hahead.succ hp⟩
    rw [walk_succ_of_ok hwalk, hahead.position_eq, ← Point.along_add_one, enter_of_contains hp]

section Room

variable {k : Nat}

theorem exists_walk_of_le (hp : t.canvas.Contains t.position) (hd : d.IsStep)
    (hk : t.canvas.Contains (t.position.along d k)) (hn : n ≤ k) :
    ∃ t', walk d n t = .ok () t' ∧ Ahead d n t t' :=
  exists_walk_ahead fun _ hi => Point.Within.along_of_le hp hd hk (hi.trans hn)

theorem exists_walk_refused (hp : t.canvas.Contains t.position) (hd : d.IsStep)
    (hk : IsGreatest {j : Nat | t.canvas.Contains (t.position.along d j)} k) :
    ∃ t', walk d k t = .ok () t' ∧ Ahead d k t t' ∧ enter (t'.position + d) t' =
      .error (.outOfBounds (t.position.along d (k + 1)) t.canvas.size) t' := by
  obtain ⟨t', hwalk, hahead⟩ := exists_walk_of_le hp hd hk.1 le_rfl
  refine ⟨t', hwalk, hahead, ?_⟩
  have hoff : ¬ t'.canvas.Contains (t.position.along d (k + 1)) := by
    rw [Grid.Contains, hahead.size_eq]
    intro h
    exact Nat.not_succ_le_self k (hk.2 h)
  rw [hahead.position_eq, ← Point.along_add_one, enter_of_not_contains hoff, hahead.size_eq]

/-- A walk asks for the cells on its way, and for the first one outside if it gets there. -/
theorem finalState_walk_watched (hp : t.canvas.Contains t.position) (hd : d.IsStep)
    (hk : IsGreatest {j : Nat | t.canvas.Contains (t.position.along d j)} k) (n : Nat)
    (visits : List Point) : finalState (walk d n (t.watched visits)) =
      (finalState (walk d n t)).watched
        ((t.position.line d (min n (k + 1))).reverse ++ visits) := by
  by_cases hn : n ≤ k
  · obtain ⟨t', hwalk, -⟩ := exists_walk_of_le hp hd hk.1 hn
    rw [walk_watched hwalk, hwalk, Nat.min_eq_left (Nat.le_succ_of_le hn)]
    rfl
  · have hn' : k < n := Nat.lt_of_not_le hn
    obtain ⟨t', hwalk, hahead, hrefused⟩ := exists_walk_refused hp hd hk
    have hlast := enter_watched_of_error hrefused ((t.position.line d k).reverse ++ visits)
    rw [walk_of_refused hwalk hrefused hn', walk_of_refused (walk_watched hwalk visits) hlast hn',
      Nat.min_eq_right hn', Point.line_succ, List.reverse_append, hahead.position_eq,
      ← Point.along_add_one]
    rfl

theorem travel_of_unitStep? {C : Type} [Canvas C] {t : Turtle C} {step : Point}
    (h : Heading.unitStep? t.heading = some step) (orient : Point → Point) {n : Int}
    (hn : 1 ≤ n) : travel orient n t = walk (orient step) n.toNat t := by
  have hpos : ¬ n ≤ 0 := by omega
  rw [travel, if_neg hpos, stepAlong, h]

variable {step : Point} {orient : Point → Point} (hp : t.canvas.Contains t.position)
  (hstep : Heading.unitStep? t.heading = some step) (hd : (orient step).IsStep)
  (hk : IsGreatest {j : Nat | t.canvas.Contains (t.position.along (orient step) j)} k)

include hp hstep hd hk

theorem exists_travel_of_le {n : Int} (hn : 1 ≤ n) (hnk : n ≤ k) :
    ∃ t', travel orient n t = .ok () t' ∧ Ahead (orient step) n.toNat t t' := by
  rw [travel_of_unitStep? hstep orient hn]
  exact exists_walk_of_le hp hd hk.1 (Int.toNat_le.mpr hnk)

theorem exists_travel_refused {n : Int} (hn : 1 ≤ n) (hnk : k < n) :
    ∃ t', travel orient n t =
        .error (.outOfBounds (t.position.along (orient step) (k + 1)) t.canvas.size) t' ∧
      Ahead (orient step) k t t' := by
  obtain ⟨t', hwalk, hahead, hrefused⟩ := exists_walk_refused hp hd hk
  rw [travel_of_unitStep? hstep orient hn]
  exact ⟨t', walk_of_refused hwalk hrefused (Int.lt_toNat.mpr hnk), hahead⟩

theorem finalState_travel_watched {n : Int} (hn : 1 ≤ n) (visits : List Point) :
    finalState (travel orient n (t.watched visits)) =
      (finalState (travel orient n t)).watched
        ((t.position.line (orient step) (min n.toNat (k + 1))).reverse ++ visits) := by
  have hwatched : Heading.unitStep? (t.watched visits).heading = some step := hstep
  rw [travel_of_unitStep? hwatched orient hn, travel_of_unitStep? hstep orient hn]
  exact finalState_walk_watched hp hd hk n.toNat visits

end Room

/-- What the walk `move` in the direction `d` comes to, for every number of steps, when there is
room for `k` steps that way. -/
structure StraightWalk (t : Turtle Grid)
    (move : {C : Type} → [Canvas C] → Int → Drawing C Unit) (d : Point) (k : Nat) : Prop where
  isGreatest : IsGreatest {j : Nat | t.canvas.Contains (t.position.along d j)} k
  lt_size : k < t.canvas.size
  succeeds_iff : ∀ n : Int, 1 ≤ n → ((∃ t', move n t = .ok () t') ↔ n ≤ k)
  /-- There is room for all steps as soon as the last cell is on the grid. -/
  contains_iff : ∀ n : Int, 1 ≤ n →
    (t.canvas.Contains (t.position.along d n.toNat) ↔ n ≤ k)
  reaches : ∀ n : Int, 1 ≤ n → n ≤ k → ∃ t', move n t = .ok () t' ∧ Ahead d n.toNat t t'
  stops : ∀ n : Int, 1 ≤ n → k < n → ∃ t', move n t =
    .error (.outOfBounds (t.position.along d (k + 1)) t.canvas.size) t' ∧ Ahead d k t t'
  asks : ∀ n : Int, 1 ≤ n → ∀ visits, finalState (move n (t.watched visits)) =
    (finalState (move n t)).watched
      ((t.position.line d (min n.toNat (k + 1))).reverse ++ visits)
  asks_at_most : ∀ n : Int, 1 ≤ n → ∀ visits,
    (finalState (move n (t.watched visits))).canvas.visits.length ≤
      t.canvas.size + visits.length

/-- Forwards and backwards are both a walk along one of the eight directions. -/
theorem exists_straightWalk_travel (hp : t.canvas.Contains t.position) {step : Point}
    (hstep : Heading.unitStep? t.heading = some step) {orient : Point → Point}
    (hd : (orient step).IsDirection) :
    ∃ k, StraightWalk t (fun n => travel orient n) (orient step) k := by
  obtain ⟨k, hk, hsize⟩ := Point.Within.exists_room hp hd
  refine ⟨k, hk, hsize, fun n hn => ⟨?_, ?_⟩, fun n hn => ⟨?_, ?_⟩,
    fun _ => exists_travel_of_le hp hstep hd.1 hk, fun _ => exists_travel_refused hp hstep hd.1 hk,
    fun _ => finalState_travel_watched hp hstep hd.1 hk, ?_⟩
  · rintro ⟨t', h⟩
    by_contra hnk
    obtain ⟨t'', hstops, -⟩ := exists_travel_refused hp hstep hd.1 hk hn (Int.not_le.mp hnk)
    cases h.symm.trans hstops
  · intro hnk
    obtain ⟨t', h, -⟩ := exists_travel_of_le hp hstep hd.1 hk hn hnk
    exact ⟨t', h⟩
  · intro h
    exact Int.toNat_le.mp (hk.2 h)
  · intro hnk
    exact Point.Within.along_of_le hp hd.1 hk.1 (Int.toNat_le.mpr hnk)
  · intro n hn visits
    rw [finalState_travel_watched hp hstep hd.1 hk hn, watched, List.length_append,
      List.length_reverse, Point.length_line]
    omega

end Turtle

/-- From every cell of a grid and along each of the eight headings, a walk forward or backward has a
closed form. It succeeds if and only if there is room for all its steps, which is to say that its
last cell is on the grid, and puts the turtle on that cell. Otherwise it goes as far as there is
room and is refused the next cell. In both cases it marks the cells it has gone over and changes
nothing else, and it never asks for more cells than the grid is wide. -/
theorem straight_walk_closed_form {t : Turtle Grid} (hp : t.canvas.Contains t.position)
    (hheading : 0 ≤ t.heading ∧ t.heading < 360) (hdvd : 45 ∣ t.heading) :
    ∃ d, Heading.unitStep? t.heading = some d ∧
      (∃ k, Turtle.StraightWalk t Turtle.forward d k) ∧
        ∃ k, Turtle.StraightWalk t Turtle.backward (-d) k := by
  obtain ⟨d, hstep, hd⟩ := Heading.exists_direction hheading hdvd
  exact ⟨d, hstep, Turtle.exists_straightWalk_travel hp hstep hd,
    Turtle.exists_straightWalk_travel hp hstep hd.neg⟩

/-- From the middle of a square of three there is one cell to the upper right. The longest walk
there is ends on it. -/
theorem straight_walk_closed_form_corner :
    let t : Turtle Grid := ⟨Grid.blank 3 (by decide), ⟨1, 1⟩, 315⟩
    (t.canvas.Contains t.position ∧ (0 ≤ t.heading ∧ t.heading < 360) ∧ 45 ∣ t.heading) ∧
      ∃ t', Turtle.forward 9223372036854775807 t = .error (.outOfBounds ⟨3, -1⟩ 3) t' ∧
        t'.position = ⟨2, 0⟩ ∧ t'.canvas.isVisited ⟨2, 0⟩ = true := by
  intro t
  have hp : t.canvas.Contains t.position := by decide
  have hheading : 0 ≤ t.heading ∧ t.heading < 360 := by decide
  have hdvd : 45 ∣ t.heading := by decide
  refine ⟨⟨hp, hheading, hdvd⟩, ?_⟩
  obtain ⟨d, hstep, ⟨k, hwalk⟩, -⟩ := straight_walk_closed_form hp hheading hdvd
  have hunit : Heading.unitStep? t.heading = some ⟨1, -1⟩ := rfl
  obtain rfl : d = ⟨1, -1⟩ := Option.some.inj (hstep.symm.trans hunit)
  have hone := (hwalk.contains_iff 1 (by decide)).mp (by decide)
  have htwo := mt (hwalk.contains_iff 2 (by decide)).mpr (by decide)
  obtain rfl : k = 1 := by omega
  obtain ⟨t', hstops, hahead⟩ := hwalk.stops 9223372036854775807 (by decide) (by decide)
  exact ⟨t', hstops, hahead.position_eq, (hahead.isVisited_iff _).mpr (.inr (by decide))⟩

end TurtleGraphics
