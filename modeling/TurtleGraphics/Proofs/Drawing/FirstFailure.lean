import TurtleGraphics.Proofs.Drawing.Arithmetic
import TurtleGraphics.Proofs.Drawing.Unrolling

/-!
# The stride at which a run ends

Strides are taken one after the other until one fails. `Leads` says that all of them succeed and
where they lead, and `BreaksAt` that the strides before some stride succeed and that one fails. Both
speak about single motions only, so that together they say what the loops of a command tree come to
without running them: the first stride of the unrolled tree that fails ends the whole run, at once
and out of all the loops around it. Loops are run the same in 64 bits, where a stride can also fail
because a number does not fit.
-/

namespace TurtleGraphics

variable {C : Type} [Canvas C]

namespace Stride

inductive Leads : Turtle C → List Stride → Turtle C → Prop
  | nil (t : Turtle C) : Leads t [] t
  | cons {s : Stride} {strides : List Stride} {t t' t'' : Turtle C}
      (taken : s.motion.apply s.amount t = .ok () t') (rest : Leads t' strides t'') :
    Leads t (s :: strides) t''

/-- The strides before `s` succeed, and `s` then fails and leaves the turtle as `t'`. -/
inductive BreaksAt (s : Stride) (cause : DrawError) : Turtle C → List Stride → Turtle C → Prop
  | intro {before after : List Stride} {t t₁ t' : Turtle C} (taken : Leads t before t₁)
      (fails : s.motion.apply s.amount t₁ = .error cause t') :
    BreaksAt s cause t (before ++ s :: after) t'

variable {s : Stride} {strides : List Stride} {cause : DrawError} {t t' : Turtle C}

theorem take_of_apply_ok (h : s.motion.apply s.amount t = .ok () t') : s.take t = .ok () t' := by
  rw [take, h, located]

theorem take_of_apply_error (h : s.motion.apply s.amount t = .error cause t') :
    s.take t = .error ⟨cause, some s.span⟩ t' := by
  rw [take, h, located]

theorem Leads.takeAll_eq (h : Leads t strides t') : takeAll strides t = .ok () t' := by
  induction h with
  | nil t => rfl
  | cons taken rest ih =>
    rw [takeAll_cons, take_of_apply_ok taken]
    exact ih

theorem BreaksAt.takeAll_eq (h : BreaksAt s cause t strides t') :
    takeAll strides t = .error ⟨cause, some s.span⟩ t' := by
  obtain ⟨taken, fails⟩ := h
  rw [takeAll_append, taken.takeAll_eq]
  change takeAll (s :: _) _ = _
  rw [takeAll_cons, take_of_apply_error fails]
  rfl

theorem BreaksAt.cons {first : Stride} {t₁ : Turtle C}
    (taken : first.motion.apply first.amount t = .ok () t₁)
    (h : BreaksAt s cause t₁ strides t') : BreaksAt s cause t (first :: strides) t' := by
  obtain ⟨taken', fails⟩ := h
  rw [← List.cons_append]
  exact .intro (.cons taken taken') fails

/-- Strides either all succeed or break at one of them. -/
theorem leads_or_breaksAt (strides : List Stride) (t : Turtle C) :
    (∃ t', Leads t strides t') ∨ ∃ s cause t', BreaksAt s cause t strides t' := by
  induction strides generalizing t with
  | nil => exact .inl ⟨t, .nil t⟩
  | cons s strides ih =>
    cases happly : s.motion.apply s.amount t with
    | error cause t' => exact .inr ⟨s, cause, t', .intro (.nil t) happly⟩
    | ok _ t₁ =>
      obtain ⟨t', hleads⟩ | ⟨s', cause, t', hbreaks⟩ := ih t₁
      · exact .inl ⟨t', .cons happly hleads⟩
      · exact .inr ⟨s', cause, t', hbreaks.cons happly⟩

theorem takeAll_eq_ok_iff : takeAll strides t = .ok () t' ↔ Leads t strides t' := by
  refine ⟨fun h => ?_, Leads.takeAll_eq⟩
  obtain ⟨t'', hleads⟩ | ⟨s, cause, t'', hbreaks⟩ := leads_or_breaksAt strides t
  · obtain ⟨-, rfl⟩ := EStateM.Result.ok.inj (h.symm.trans hleads.takeAll_eq)
    exact hleads
  · cases h.symm.trans hbreaks.takeAll_eq

theorem takeAll_eq_error_iff {e : RunError} : takeAll strides t = .error e t' ↔
    ∃ s cause, BreaksAt s cause t strides t' ∧ e = ⟨cause, some s.span⟩ := by
  constructor
  · intro h
    obtain ⟨t'', hleads⟩ | ⟨s, cause, t'', hbreaks⟩ := leads_or_breaksAt strides t
    · cases h.symm.trans hleads.takeAll_eq
    · obtain ⟨rfl, rfl⟩ := EStateM.Result.error.inj (h.symm.trans hbreaks.takeAll_eq)
      exact ⟨s, cause, hbreaks, rfl⟩
  · rintro ⟨s, cause, hbreaks, rfl⟩
    exact hbreaks.takeAll_eq

theorem BreaksAt.mem (h : BreaksAt s cause t strides t') : s ∈ strides := by
  obtain ⟨_, _⟩ := h
  exact List.mem_append_right _ List.mem_cons_self

end Stride

namespace Checked

def take (s : Stride) : Turtle C → EStateM.Result (Fault RunError) (Turtle C) Unit :=
  EStateM.adaptExcept (Fault.map fun cause => ⟨cause, some s.span⟩) (apply s.motion s.amount)

theorem runsBy_take :
    RunsBy take (run : Command → EStateM (Fault RunError) (Turtle C) Unit) runAll where
  step motion amount span t := by
    rw [run]
    rfl
  loop count body span t := by rw [run]
  nil t := by
    rw [runAll]
    rfl
  cons c cs t := by
    rw [runAll]
    change EStateM.bind (run c) (fun _ => runAll cs) t = _
    unfold EStateM.bind
    cases run c t <;> rfl

end Checked

/-- On every canvas and from every state, commands end as their unrolled strides do when these are
taken in order until one fails: with the same turtle on the same canvas, and with the same error at
the same place. They succeed exactly if all the strides do, and otherwise they fail with the place
of the first stride that fails, wherever in the tree it stands. In 64 bits they also end as their
strides do there, be it because a number does not fit. -/
theorem commands_run_as_unrolled (commands : List Command) (t : Turtle C) :
    Command.runAll commands t = Stride.takeAll (Command.unrollAll commands) t ∧
      (∀ t', Command.runAll commands t = .ok () t' ↔
        Stride.Leads t (Command.unrollAll commands) t') ∧
        (∀ e t', Command.runAll commands t = .error e t' ↔
          ∃ s cause, Stride.BreaksAt s cause t (Command.unrollAll commands) t' ∧
            e = ⟨cause, some s.span⟩) ∧
          Checked.runAll commands t = follow Checked.take (Command.unrollAll commands) t := by
  rw [Command.runAll_eq_takeAll]
  exact ⟨rfl, fun _ => Stride.takeAll_eq_ok_iff, fun _ _ => Stride.takeAll_eq_error_iff,
    Checked.runsBy_take.runAll_eq_follow commands t⟩

end TurtleGraphics
