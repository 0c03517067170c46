import TurtleGraphics.Proofs.Script.Pushdown

/-!
# Runs of the stack

`Moves` lists what one word can do to a state, guards included. `Reached` is what holds of every
state that a run can get to: as many loops are open as brackets were opened and not closed, there
are never more than may be nested, and a keyword that waits for its words is one of its kind.
A run that is refused is refused for a word it has seen, so no error of a run is an error of the
end (`not_atEnd_of_run`), and every error of `State.finish` is one.
-/

namespace TurtleGraphics

def ScriptError.AtEnd : ScriptError → Prop
  | missingSize | missingArgument _ | missingBlockAtEnd _ | unterminatedBlock _ => True
  | invalidSize _ | malformedArgument _ _ | unknownCommand _ | missingBlock _ _
  | nestedTooDeep _ => False

namespace Word

def NoBracket (word : Word) : Prop :=
  word.isOpenBracket = false ∧ word.isCloseBracket = false

theorem noBracket_of_text {word : Word} (ho : word.text ≠ "[") (hc : word.text ≠ "]") :
    word.NoBracket :=
  ⟨beq_false_of_ne ho, beq_false_of_ne hc⟩

theorem noBracket_of_number {word : Word} {n : Int} (h : word.number? = some n) :
    word.NoBracket := by
  apply noBracket_of_text
  · intro ho
    rw [number?, ho] at h
    exact absurd h (by decide +revert)
  · intro hc
    rw [number?, hc] at h
    exact absurd h (by decide +revert)

end Word

namespace Vocabulary

def SparesBrackets (v : Vocabulary) : Prop :=
  v.find? "[" = none ∧ v.find? "]" = none

theorem find?_standard_eq_none {keyword : String}
    (hstep : ∀ motion, ¬ Lexicon.standard.step keyword motion)
    (hloop : ¬ Lexicon.standard.loop keyword) : standard.find? keyword = none := by
  cases h : standard.find? keyword with
  | none => rfl
  | some rule =>
    obtain ⟨motion, -, hmotion⟩ | ⟨-, hkeyword⟩ := find?_standard_eq_some.mp h
    · exact absurd hmotion (hstep motion)
    · exact absurd hkeyword hloop

theorem sparesBrackets_standard : standard.SparesBrackets := by
  constructor
  · apply find?_standard_eq_none
    · intro motion
      cases motion <;> simp [Lexicon.standard]
    · simp [Lexicon.standard]
  · apply find?_standard_eq_none
    · intro motion
      cases motion <;> simp [Lexicon.standard]
    · simp [Lexicon.standard]

theorem SparesBrackets.noBracket {v : Vocabulary} (hv : v.SparesBrackets) {word : Word}
    {rule : Rule} (h : v.find? word.text = some rule) : word.NoBracket := by
  apply Word.noBracket_of_text
  · intro ho
    rw [ho, hv.1] at h
    cases h
  · intro hc
    rw [hc, hv.2] at h
    cases h

end Vocabulary

namespace Pushdown

namespace State

@[simp] theorem add_awaited (s : State) (c : Command) : (s.add c).awaited = .command := by
  unfold add
  split <;> rfl

@[simp] theorem length_frames_add (s : State) (c : Command) :
    (s.add c).frames.length = s.frames.length := by
  unfold add
  split
  · next h => rw [h]
  · next h => rw [h, List.length_cons, List.length_cons]

end State

/-- What one word can do to a state. -/
inductive Moves (v : Vocabulary) : State → Word → State → Prop
  | close {size : Int} {done : List Command} {f : Frame} {frames : List Frame} {word : Word}
      (closes : word.text = "]") :
      Moves v ⟨size, done, f :: frames, .command⟩ word
        (State.add ⟨size, done, frames, .command⟩ (.loop f.count f.body.reverse f.keyword.span))
  | step {size : Int} {done : List Command} {frames : List Frame} {word : Word} {motion : Motion}
      (outside : frames = [] ∨ word.text ≠ "]")
      (introduces : v.find? word.text = some (.step motion)) :
      Moves v ⟨size, done, frames, .command⟩ word ⟨size, done, frames, .amount word motion⟩
  | loop {size : Int} {done : List Command} {frames : List Frame} {word : Word}
      (outside : frames = [] ∨ word.text ≠ "]") (introduces : v.find? word.text = some .loop) :
      Moves v ⟨size, done, frames, .command⟩ word ⟨size, done, frames, .count word⟩
  | amount {size : Int} {done : List Command} {frames : List Frame} {word keyword : Word}
      {motion : Motion} {n : Int} (number : word.number? = some n) :
      Moves v ⟨size, done, frames, .amount keyword motion⟩ word
        (State.add ⟨size, done, frames, .amount keyword motion⟩ (.step motion n keyword.span))
  | count {size : Int} {done : List Command} {frames : List Frame} {word keyword : Word} {n : Int}
      (number : word.number? = some n) :
      Moves v ⟨size, done, frames, .count keyword⟩ word ⟨size, done, frames, .bracket keyword n⟩
  | opening {size : Int} {done : List Command} {frames : List Frame} {word keyword : Word} {n : Int}
      (opens : word.text = "[") (room : frames.length < maxDepth) :
      Moves v ⟨size, done, frames, .bracket keyword n⟩ word
        ⟨size, done, ⟨keyword, n, []⟩ :: frames, .command⟩

theorem moves_of_introduce {v : Vocabulary} {size : Int} {done : List Command}
    {frames : List Frame} {word : Word} {s' : State} (houtside : frames = [] ∨ word.text ≠ "]")
    (h : State.introduce v ⟨size, done, frames, .command⟩ word = .ok s') :
    Moves v ⟨size, done, frames, .command⟩ word s' := by
  unfold State.introduce at h
  split at h
  · next hfind =>
    cases h
    exact .step houtside hfind
  · next hfind =>
    cases h
    exact .loop houtside hfind
  · cases h

theorem moves_of_step {v : Vocabulary} {s s' : State} {word : Word}
    (h : s.step v word = .ok s') : Moves v s word s' := by
  obtain ⟨size, done, frames, awaited⟩ := s
  cases awaited with
  | command =>
    cases frames with
    | nil => exact moves_of_introduce (.inl rfl) h
    | cons f frames =>
      by_cases hw : word.text = "]"
      · simp only [State.step, if_pos hw] at h
        cases h
        exact .close hw
      · rw [State.step_command (.inr hw)] at h
        exact moves_of_introduce (.inr hw) h
  | amount keyword motion =>
    cases hn : word.number? with
    | none => simp only [State.step, hn] at h; cases h
    | some n =>
      simp only [State.step, hn] at h
      cases h
      exact .amount hn
  | count keyword =>
    cases hn : word.number? with
    | none => simp only [State.step, hn] at h; cases h
    | some n =>
      simp only [State.step, hn] at h
      cases h
      exact .count hn
  | bracket keyword n =>
    by_cases hw : word.text = "["
    · by_cases hroom : frames.length < maxDepth
      · simp only [State.step, if_pos hw, if_pos hroom] at h
        cases h
        exact .opening hw hroom
      · simp only [State.step, if_pos hw, if_neg hroom] at h
        cases h
    · simp only [State.step, if_neg hw] at h
      cases h

def Awaited.Introduced (v : Vocabulary) : Awaited → Prop
  | command => True
  | amount keyword motion => v.find? keyword.text = some (.step motion)
  | count keyword => v.find? keyword.text = some .loop
  | bracket keyword _ => v.find? keyword.text = some .loop

/-- What holds of a state that a run over `words` leads to. -/
structure Reached (v : Vocabulary) (words : List Word) (s : State) : Prop where
  depth_le : s.frames.length ≤ maxDepth
  brackets : s.frames.length + words.countP Word.isCloseBracket = words.countP Word.isOpenBracket
  introduced : s.awaited.Introduced v

theorem reached_start (v : Vocabulary) (size : Int) : Reached v [] (State.start size) :=
  ⟨Nat.zero_le _, rfl, trivial⟩

theorem Reached.append {v : Vocabulary} {words : List Word} {s s' : State} {word : Word}
    (hs : Reached v words s) (hw : word.NoBracket) (hlen : s'.frames.length = s.frames.length)
    (hi : s'.awaited.Introduced v) : Reached v (words ++ [word]) s' := by
  refine ⟨hlen ▸ hs.depth_le, ?_, hi⟩
  simp only [List.countP_append, List.countP_singleton, hw.1, hw.2, hlen]
  exact hs.brackets

/-- One word keeps the invariant. -/
theorem Reached.move {v : Vocabulary} (hv : v.SparesBrackets) {words : List Word} {s s' : State}
    {word : Word} (hs : Reached v words s) (h : Moves v s word s') :
    Reached v (words ++ [word]) s' := by
  cases h with
  | @close size done f frames _ closes =>
    have hc : word.isCloseBracket = true := beq_iff_eq.mpr closes
    have ho : word.isOpenBracket = false := beq_false_of_ne (by simp [closes])
    have hdepth := hs.depth_le
    have hbrackets := hs.brackets
    simp only [List.length_cons] at hdepth hbrackets
    refine ⟨?_, ?_, ?_⟩
    · rw [State.length_frames_add]
      exact Nat.le_of_succ_le hdepth
    · simp only [State.length_frames_add, List.countP_append, List.countP_singleton, hc, ho,
        if_true, Bool.false_eq_true, if_false]
      omega
    · rw [State.add_awaited]
      trivial
  | step outside introduces => exact hs.append (hv.noBracket introduces) rfl introduces
  | loop outside introduces => exact hs.append (hv.noBracket introduces) rfl introduces
  | amount number =>
    refine hs.append (Word.noBracket_of_number number) (State.length_frames_add _ _) ?_
    rw [State.add_awaited]
    trivial
  | count number => exact hs.append (Word.noBracket_of_number number) rfl hs.introduced
  | @opening size done frames _ keyword n opens room =>
    have ho : word.isOpenBracket = true := beq_iff_eq.mpr opens
    have hc : word.isCloseBracket = false := beq_false_of_ne (by simp [opens])
    have hbrackets := hs.brackets
    simp only at hbrackets
    refine ⟨room, ?_, trivial⟩
    simp only [List.length_cons, List.countP_append, List.countP_singleton, hc, ho, if_true,
      Bool.false_eq_true, if_false]
    omega

/-- A whole run keeps the invariant. -/
theorem Reached.run {v : Vocabulary} (hv : v.SparesBrackets) {words more : List Word}
    {s s' : State} (hs : Reached v words s) (h : s.run v more = .ok s') :
    Reached v (words ++ more) s' := by
  induction more generalizing words s with
  | nil =>
    cases h
    rwa [List.append_nil]
  | cons word more ih =>
    rw [State.run] at h
    cases hstep : s.step v word with
    | error e => simp only [hstep] at h; cases h
    | ok s₁ =>
      simp only [hstep] at h
      have hmove := ih (hs.move hv (moves_of_step hstep)) h
      rwa [List.append_assoc] at hmove

theorem not_atEnd_of_introduce {v : Vocabulary} {s : State} {word : Word} {e : ScriptError}
    (h : s.introduce v word = .error e) : ¬ e.AtEnd := by
  unfold State.introduce at h
  split at h
  · cases h
  · cases h
  · cases h
    exact id

theorem not_atEnd_of_step {v : Vocabulary} {s : State} {word : Word} {e : ScriptError}
    (h : s.step v word = .error e) : ¬ e.AtEnd := by
  unfold State.step at h
  split at h
  · split at h
    · exact not_atEnd_of_introduce h
    · split at h
      · cases h
      · exact not_atEnd_of_introduce h
  · split at h <;> cases h
    exact id
  · split at h <;> cases h
    exact id
  · split at h
    · split at h <;> cases h
      exact id
    · cases h
      exact id

/-- A run is never refused for what does not follow. -/
theorem not_atEnd_of_run {v : Vocabulary} {s : State} {words : List Word} {e : ScriptError}
    (h : s.run v words = .error e) : ¬ e.AtEnd := by
  induction words generalizing s with
  | nil => cases h
  | cons word words ih =>
    rw [State.run] at h
    cases hstep : s.step v word with
    | error e' =>
      simp only [hstep] at h
      cases h
      exact not_atEnd_of_step hstep
    | ok s₁ =>
      simp only [hstep] at h
      exact ih h

theorem atEnd_of_finish {s : State} {e : ScriptError} (h : s.finish = .error e) : e.AtEnd := by
  unfold State.finish at h
  split at h <;> cases h <;> trivial

end Pushdown

end TurtleGraphics
