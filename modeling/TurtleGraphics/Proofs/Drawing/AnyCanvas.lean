import TurtleGraphics.Proofs.Drawing.StraightWalk

/-!
# Walks on any canvas

Of a canvas a walk knows only what its visits answer. `WalkOutcome` says all that a walk can come
to, in terms of single visits: it asks for the cells ahead, nearest first, each on the canvas that
the visit before has left, until it has taken all its steps or the canvas refuses one. A canvas may
refuse what it likes and may change even when it does. What is asked for is also read off a trail,
and as long as it is within 64 bits, so is everything that the walk computes.
-/

namespace TurtleGraphics

open Text

section Grants

variable {C : Type} [Canvas C]

/-- The canvas grants these cells, one after the other, and is then `canvas'`. -/
inductive Canvas.Grants : C → List Point → C → Prop
  | nil (canvas : C) : Grants canvas [] canvas
  | cons {p : Point} {cells : List Point} {canvas canvas₁ canvas' : C}
      (granted : Canvas.visit p canvas = .ok () canvas₁) (rest : Grants canvas₁ cells canvas') :
    Grants canvas (p :: cells) canvas'

theorem Canvas.Grants.concat {p : Point} {cells : List Point} {canvas canvas₁ canvas' : C}
    (h : Grants canvas cells canvas₁) (granted : Canvas.visit p canvas₁ = .ok () canvas') :
    Grants canvas (cells ++ [p]) canvas' := by
  induction h with
  | nil canvas => exact .cons granted (.nil _)
  | cons first _ ih => exact .cons first (ih granted)

end Grants

def Point.InRange (p : Point) : Prop :=
  Numeral.InRange p.x ∧ Numeral.InRange p.y

namespace Turtle

variable {C : Type} [Canvas C] {t : Turtle C} {d : Point}

/-- A walk either is granted all its cells, or some of them and then refused the next one. -/
theorem granted_or_refused (d : Point) (n : Nat) (t : Turtle C) :
    (∃ canvas, Canvas.Grants t.canvas (t.position.line d n) canvas ∧
      walk d n t = .ok () ⟨canvas, t.position.along d n, t.heading⟩) ∨
    ∃ k < n, ∃ canvas₁ canvas e, Canvas.Grants t.canvas (t.position.line d k) canvas₁ ∧
      walk d k t = .ok () ⟨canvas₁, t.position.along d k, t.heading⟩ ∧
        Canvas.visit (t.position.along d (k + 1)) canvas₁ = .error e canvas := by
  induction n with
  | zero =>
    refine .inl ⟨t.canvas, .nil _, ?_⟩
    rw [walk_zero, Point.along_zero]
  | succ n ih =>
    obtain ⟨canvas, hgrants, hwalk⟩ | ⟨k, hk, hrefused⟩ := ih
    · cases hvisit : Canvas.visit (t.position.along d (n + 1)) canvas with
      | ok _ canvas' =>
        refine .inl ⟨canvas', ?_, ?_⟩
        · rw [Point.line_succ]
          exact hgrants.concat hvisit
        · rw [walk_succ_of_ok hwalk, ← Point.along_add_one]
          exact enter_of_visit_ok hvisit
      | error e canvas' =>
        exact .inr ⟨n, Nat.lt_succ_self n, canvas, canvas', e, hgrants, hwalk, hvisit⟩
    · exact .inr ⟨k, Nat.lt_succ_of_lt hk, hrefused⟩

def watchedResult (visits : List Point) :
    EStateM.Result DrawError (Turtle C) Unit → EStateM.Result DrawError (Turtle (Trail C)) Unit
  | .ok _ t => .ok () (t.watched visits)
  | .error e t => .error e (t.watched visits)

def direction (sign : Int) (t : Turtle C) : Point :=
  (Heading.compass t.heading).scale sign

/-- What a walk of `n` steps comes to, ahead or behind as `sign` says: its result, and the cells
that the canvas is asked for. -/
inductive WalkOutcome (sign n : Int) (t : Turtle C) :
    EStateM.Result DrawError (Turtle C) Unit → List Point → Prop
  | idle (still : n ≤ 0) : WalkOutcome sign n t (.ok () t) []
  | stuck (moves : 1 ≤ n) (facing : ¬ 45 ∣ t.heading) :
    WalkOutcome sign n t (.error (.unsupportedHeading t.heading) t) []
  | reaches {canvas : C} (moves : 1 ≤ n) (facing : 45 ∣ t.heading)
      (granted : Canvas.Grants t.canvas (t.position.line (t.direction sign) n.toNat) canvas) :
    WalkOutcome sign n t
      (.ok () ⟨canvas, t.position.along (t.direction sign) n.toNat, t.heading⟩)
      (t.position.line (t.direction sign) n.toNat)
  | stops {k : Nat} {canvas₁ canvas : C} {e : DrawError} (ahead : k < n) (facing : 45 ∣ t.heading)
      (granted : Canvas.Grants t.canvas (t.position.line (t.direction sign) k) canvas₁)
      (refused : Canvas.visit (t.position.along (t.direction sign) (k + 1)) canvas₁ =
        .error e canvas) :
    WalkOutcome sign n t (.error e ⟨canvas, t.position.along (t.direction sign) k, t.heading⟩)
      (t.position.line (t.direction sign) (k + 1))

section Walk

variable {n k : Nat} {canvas₁ canvas : C} {e : DrawError}
  (hwalk : walk d k t = .ok () ⟨canvas₁, t.position.along d k, t.heading⟩)
  (hvisit : Canvas.visit (t.position.along d (k + 1)) canvas₁ = .error e canvas)

include hvisit in
theorem enter_next_of_visit_error :
    enter ((⟨canvas₁, t.position.along d k, t.heading⟩ : Turtle C).position + d)
      ⟨canvas₁, t.position.along d k, t.heading⟩ =
        .error e ⟨canvas, t.position.along d k, t.heading⟩ := by
  rw [← Point.along_add_one]
  exact enter_of_visit_error hvisit

include hwalk hvisit

theorem walk_of_visit_error (hk : k < n) :
    walk d n t = .error e ⟨canvas, t.position.along d k, t.heading⟩ :=
  walk_of_refused hwalk (enter_next_of_visit_error hvisit) hk

theorem walk_watched_of_visit_error (hk : k < n) (visits : List Point) :
    walk d n (t.watched visits) =
      .error e ((⟨canvas, t.position.along d k, t.heading⟩ : Turtle C).watched
        ((t.position.line d (k + 1)).reverse ++ visits)) := by
  have hlast := enter_watched_of_error (enter_next_of_visit_error hvisit)
    ((t.position.line d k).reverse ++ visits)
  rw [walk_of_refused (walk_watched hwalk visits) hlast hk, ← Point.along_add_one,
    Point.line_succ, List.reverse_append]
  rfl

end Walk

end Turtle

theorem Point.along_mem_line {p d : Point} {i n : Nat} (hi : i < n) :
    p.along d (i + 1) ∈ p.line d n :=
  List.mem_map.mpr ⟨i, List.mem_range.mpr hi, rfl⟩

namespace Checked

variable {C : Type} [Canvas C] {t : Turtle C} {sign : Int}

/-- A walk in 64 bits is the walk, as long as the cells that it comes to ask for are within them. -/
theorem walk_eq_raised {step : Point} (hstep : (step.scale sign).IsStep) {n : Nat}
    (hcells : ∀ i < n, ∀ t', Turtle.walk (step.scale sign) i t = .ok () t' →
      (t.position.along (step.scale sign) (i + 1)).InRange) :
    walk sign step n t = raised (Turtle.walk (step.scale sign) n t) := by
  induction n generalizing t with
  | zero => rfl
  | succ n ih =>
    have hdx : Numeral.InRange (sign * step.x) ∧ Numeral.InRange (sign * step.y) := by
      simp only [Point.IsStep, Point.scale, Numeral.InRange] at hstep ⊢
      omega
    have hfirst : Numeral.InRange (t.position.x + sign * step.x) ∧
        Numeral.InRange (t.position.y + sign * step.y) := by
      have hcell := hcells 0 (Nat.succ_pos n) t rfl
      rw [Point.along_add_one, Point.along_zero] at hcell
      exact hcell
    rw [walk, get_bind, word_bind hdx.1, word_bind hfirst.1, word_bind hdx.2, word_bind hfirst.2,
      Turtle.walk_succ]
    change EStateM.bind (lift (Turtle.enter (t.position + step.scale sign)))
      (fun _ => walk sign step n) t = _
    unfold EStateM.bind lift
    cases henter : Turtle.enter (t.position + step.scale sign) t with
    | error e t₁ => rfl
    | ok _ t₁ =>
      apply ih
      intro i hi t' hwalk
      have hnext : Turtle.walk (step.scale sign) (i + 1) t = .ok () t' := by
        rw [Turtle.walk_succ, henter]
        exact hwalk
      have hcell := hcells (i + 1) (Nat.succ_lt_succ hi) t' hnext
      rwa [Point.along_succ, ← Turtle.position_of_enter henter] at hcell

theorem travel_eq_bind {n : Int} (hn : 1 ≤ n) : travel sign n t =
    EStateM.bind (unitStep t.heading) (fun step => walk sign step n.toNat) t := by
  have hpos : ¬ n ≤ 0 := by omega
  rw [travel, if_neg hpos, get_bind]
  rfl

section Travel

variable {n : Int} (ht : 0 ≤ t.heading ∧ t.heading < 360)

include ht

theorem travel_of_unitStep? {step : Point} (hstep : Heading.unitStep? t.heading = some step)
    (hn : 1 ≤ n) : travel sign n t = walk sign step n.toNat t := by
  rw [travel_eq_bind hn, EStateM.bind, unitStep_eq ht, Turtle.stepAlong, hstep]

theorem travel_of_unitStep?_eq_none (hnone : Heading.unitStep? t.heading = none) (hn : 1 ≤ n) :
    travel sign n t = .error (.failure (.unsupportedHeading t.heading)) t := by
  rw [travel_eq_bind hn, EStateM.bind, unitStep_eq ht, Turtle.stepAlong, hnone]

end Travel

end Checked

namespace Turtle

variable {C : Type} [Canvas C] {t : Turtle C} {sign : Int}

/-- What the walk `move` comes to, with the cells that it asks for. -/
structure Asks (sign n : Int) (t : Turtle C)
    (move : {C : Type} → [Canvas C] → Int → Drawing C Unit) (asked : List Point) : Prop where
  outcome : WalkOutcome sign n t (move n t) asked
  recorded : ∀ visits,
    move n (t.watched visits) = watchedResult (asked.reverse ++ visits) (move n t)
  checked : (∀ p ∈ asked, p.InRange) → Checked.travel sign n t = raised (move n t)

theorem travel_of_unitStep?_eq_none {t : Turtle C} (h : Heading.unitStep? t.heading = none)
    (orient : Point → Point) {n : Int} (hn : 1 ≤ n) :
    travel orient n t = .error (.unsupportedHeading t.heading) t := by
  have hpos : ¬ n ≤ 0 := by omega
  rw [travel, if_neg hpos, stepAlong, h]

section Asks

variable {n : Int}

theorem asks_of_nonpos (hn : n ≤ 0) :
    Asks sign n t (fun n => travel (Point.scale sign) n) [] := by
  refine ⟨?_, fun visits => ?_, fun _ => ?_⟩
  · rw [travel, if_pos hn]
    exact .idle hn
  · rw [travel, travel, if_pos hn, if_pos hn]
    rfl
  · rw [Checked.travel, travel, if_pos hn, if_pos hn]
    rfl

theorem asks_of_not_dvd (ht : 0 ≤ t.heading ∧ t.heading < 360) (hn : 1 ≤ n)
    (hfacing : ¬ 45 ∣ t.heading) :
    Asks sign n t (fun n => travel (Point.scale sign) n) [] := by
  have hnone : Heading.unitStep? t.heading = none := by
    rw [Heading.unitStep?_eq ht, if_neg hfacing]
  have htravel := travel_of_unitStep?_eq_none hnone (Point.scale sign) hn
  refine ⟨?_, fun visits => ?_, fun _ => ?_⟩
  · rw [htravel]
    exact .stuck hn hfacing
  · rw [htravel]
    exact travel_of_unitStep?_eq_none (t := t.watched visits) hnone (Point.scale sign) hn
  · rw [htravel]
    exact Checked.travel_of_unitStep?_eq_none ht hnone hn

section Facing

variable {asked : List Point} (ht : 0 ≤ t.heading ∧ t.heading < 360) (hn : 1 ≤ n)
  (hfacing : 45 ∣ t.heading)

include ht hn hfacing

theorem asks_of_walk (hsign : sign = 1 ∨ sign = -1)
    (houtcome : WalkOutcome sign n t (walk (t.direction sign) n.toNat t) asked)
    (hrecorded : ∀ visits, walk (t.direction sign) n.toNat (t.watched visits) =
      watchedResult (asked.reverse ++ visits) (walk (t.direction sign) n.toNat t))
    (hasked : ∀ i < n.toNat, ∀ t', walk (t.direction sign) i t = .ok () t' →
      t.position.along (t.direction sign) (i + 1) ∈ asked) :
    Asks sign n t (fun n => travel (Point.scale sign) n) asked := by
  have hstep : Heading.unitStep? t.heading = some (Heading.compass t.heading) := by
    rw [Heading.unitStep?_eq ht, if_pos hfacing]
  have htravel : travel (Point.scale sign) n t = walk (t.direction sign) n.toNat t :=
    travel_of_unitStep? hstep (Point.scale sign) hn
  refine ⟨?_, fun visits => ?_, fun hcells => ?_⟩
  · rwa [htravel]
  · rw [htravel, ← hrecorded]
    exact travel_of_unitStep? (t := t.watched visits) hstep (Point.scale sign) hn
  · have hunit : (t.direction sign).IsStep := by
      have hmem := Heading.isStep_of_unitStep? hstep
      rcases hsign with rfl | rfl <;>
        simp only [direction, Point.IsStep, Point.scale] at hmem ⊢ <;> omega
    rw [htravel, Checked.travel_of_unitStep? ht hstep hn]
    exact Checked.walk_eq_raised hunit fun i hi t' hwalk => hcells _ (hasked i hi t' hwalk)

theorem exists_asks_of_dvd (hsign : sign = 1 ∨ sign = -1) :
    ∃ asked, Asks sign n t (fun n => travel (Point.scale sign) n) asked := by
  obtain ⟨canvas, hgrants, hwalk⟩ | ⟨k, hk, canvas₁, canvas, e, hgrants, hwalk, hvisit⟩ :=
    granted_or_refused (t.direction sign) n.toNat t
  · have hreaches := WalkOutcome.reaches hn hfacing hgrants
    rw [← hwalk] at hreaches
    refine ⟨_, asks_of_walk ht hn hfacing hsign hreaches ?_ ?_⟩
    · intro visits
      rw [walk_watched hwalk, hwalk]
      rfl
    · exact fun i hi _ _ => Point.along_mem_line hi
  · have herror := walk_of_visit_error hwalk hvisit hk
    have hstops := WalkOutcome.stops (Int.lt_toNat.mp hk) hfacing hgrants hvisit
    rw [← herror] at hstops
    refine ⟨_, asks_of_walk ht hn hfacing hsign hstops ?_ ?_⟩
    · intro visits
      rw [walk_watched_of_visit_error hwalk hvisit hk, herror]
      rfl
    · intro i hi t' hi'
      -- Behind the cell that is refused there is no walk that succeeds.
      have hik : ¬ k < i := fun hki => by
        cases hi'.symm.trans (walk_of_visit_error hwalk hvisit hki)
      exact Point.along_mem_line (by omega)

end Facing

/-- There is an account of every walk. -/
theorem exists_asks_travel (ht : 0 ≤ t.heading ∧ t.heading < 360)
    (hsign : sign = 1 ∨ sign = -1) (n : Int) :
    ∃ asked, Asks sign n t (fun n => travel (Point.scale sign) n) asked := by
  by_cases hn : n ≤ 0
  · exact ⟨[], asks_of_nonpos hn⟩
  · have hn' : 1 ≤ n := by omega
    by_cases hfacing : 45 ∣ t.heading
    · exact exists_asks_of_dvd ht hn' hfacing hsign
    · exact ⟨[], asks_of_not_dvd ht hn' hfacing⟩

end Asks

/-- A walk that is interrupted and taken up again is the same walk, at every heading. -/
theorem travel_add (orient : Point → Point) {a b : Int} (ha : 0 ≤ a) (hb : 0 ≤ b)
    (t : Turtle C) :
    travel orient (a + b) t = andThen (travel orient a t) (travel orient b) := by
  have hzero (t : Turtle C) : travel orient 0 t = .ok () t := if_pos le_rfl
  obtain rfl | ha := ha.eq_or_lt
  · rw [Int.zero_add, hzero]
    rfl
  have hsum : 1 ≤ a + b := by omega
  cases hstep : Heading.unitStep? t.heading with
  | none =>
    rw [travel_of_unitStep?_eq_none hstep orient hsum, travel_of_unitStep?_eq_none hstep orient ha]
    rfl
  | some step =>
    rw [travel_of_unitStep? hstep orient hsum, travel_of_unitStep? hstep orient ha,
      Int.toNat_add ha.le hb, walk_add]
    have hheading := heading_walk (orient step) a.toNat t
    cases hwalk : walk (orient step) a.toNat t with
    | error e t' => rfl
    | ok _ t' =>
      rw [hwalk] at hheading
      have hstep' : Heading.unitStep? t'.heading = some step := by
        rwa [show t'.heading = t.heading from hheading]
      change walk (orient step) b.toNat t' = travel orient b t'
      obtain rfl | hb := hb.eq_or_lt
      · rw [hzero]
        rfl
      · rw [travel_of_unitStep? hstep' orient hb]

end Turtle

/-- On every canvas, a walk that is to take no step does nothing; at a heading without a direction a
walk fails before it asks for anything; and any other walk asks for the cells on its way, in order,
up to the first that is refused. It then fails as the canvas does, with the turtle on the last cell
granted, and otherwise ends on its last cell. It never turns. So a walk can be interrupted and taken
up again. -/
theorem walk_asks_in_order {C : Type} [Canvas C] {t : Turtle C}
    (ht : 0 ≤ t.heading ∧ t.heading < 360) :
    (∀ n, ∃ asked, Turtle.Asks 1 n t Turtle.forward asked) ∧
      (∀ n, ∃ asked, Turtle.Asks (-1) n t Turtle.backward asked) ∧
        ∀ a b, 0 ≤ a → 0 ≤ b →
          Turtle.forward (a + b) t = andThen (Turtle.forward a t) (Turtle.forward b) ∧
            Turtle.backward (a + b) t = andThen (Turtle.backward a t) (Turtle.backward b) := by
  have hforward := Turtle.exists_asks_travel ht (.inl rfl)
  have hbackward := Turtle.exists_asks_travel ht (.inr rfl)
  rw [Point.scale_one] at hforward
  rw [Point.scale_neg_one] at hbackward
  exact ⟨hforward, hbackward, fun a b ha hb => ⟨Turtle.travel_add _ ha hb t,
    Turtle.travel_add _ ha hb t⟩⟩

/-- There is a wall three steps to the upper right. It is the last cell asked for, and the turtle
stays on the one before. -/
theorem walk_asks_in_order_wall :
    let canvas : Field := ⟨9, [⟨5, -1⟩]⟩
    let t : Turtle Field := ⟨canvas, ⟨2, 2⟩, 315⟩
    let t' : Turtle Field := ⟨canvas, ⟨4, 0⟩, 315⟩
    (0 ≤ t.heading ∧ t.heading < 360) ∧
      Turtle.forward 5 (t.watched []) =
        .error (.outOfBounds ⟨5, -1⟩ 9) (t'.watched [⟨5, -1⟩, ⟨4, 0⟩, ⟨3, 1⟩]) ∧
        Checked.travel 1 5 t = .error (.failure (.outOfBounds ⟨5, -1⟩ 9)) t' := by
  intro canvas t t'
  have ht : 0 ≤ t.heading ∧ t.heading < 360 := by decide
  have hresult : Turtle.forward 5 t = .error (.outOfBounds ⟨5, -1⟩ 9) t' := by
    with_unfolding_all rfl
  obtain ⟨asked, houtcome, hrecorded, hchecked⟩ := (walk_asks_in_order ht).1 5
  have hasked : asked = [⟨3, 1⟩, ⟨4, 0⟩, ⟨5, -1⟩] := by
    generalize hr : Turtle.forward 5 t = r at houtcome
    rw [hresult] at hr
    cases houtcome with
    | idle still => cases hr
    | stuck moves facing => cases hr
    | reaches moves facing granted => cases hr
    | @stops k _ _ _ ahead facing granted refused =>
      have hposition : (4 : Int) = 2 + k * 1 :=
        congrArg (fun t : Turtle Field => t.position.x) (EStateM.Result.error.inj hr).2
      obtain rfl : k = 2 := by omega
      rfl
  rw [hresult] at hrecorded hchecked
  subst hasked
  exact ⟨ht, hrecorded [], hchecked (by simp [Point.InRange, Text.Numeral.InRange])⟩

end TurtleGraphics
