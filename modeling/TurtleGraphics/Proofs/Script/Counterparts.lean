import Mathlib.Data.List.Forall2
import TurtleGraphics.Proofs.Script.PushdownRuns

/-!
# Reading two scripts in step

Words are told apart by what a vocabulary says of them, by the numbers they are and by whether they
are brackets. Two scripts whose words cannot be told apart one by one are read in step: a relation
`R` that pairs their words is carried over to the states of the two runs and from there to the
programs or to the errors they end with. What comes out is the same on both sides but for the words
it is about, and these are paired by `R`. `State.Counterpart.step` is the case of a single word.
-/

namespace TurtleGraphics

open Pushdown

/-- Two words that are read alike wherever they stand. -/
structure Word.ReadAlike (v : Vocabulary) (word word' : Word) : Prop where
  rule : v.find? word.text = v.find? word'.text
  number : word.number? = word'.number?
  opens : word.text = "[" ↔ word'.text = "["
  closes : word.text = "]" ↔ word'.text = "]"

variable {R : Word → Word → Prop}

inductive Command.Counterpart (R : Word → Word → Prop) : Command → Command → Prop
  | step {keyword keyword' : Word} (paired : R keyword keyword') (motion : Motion) (amount : Int) :
    Counterpart R (.step motion amount keyword.span) (.step motion amount keyword'.span)
  | loop {keyword keyword' : Word} (paired : R keyword keyword') (count : Int)
      {body body' : List Command} (block : List.Forall₂ (Counterpart R) body body') :
    Counterpart R (.loop count body keyword.span) (.loop count body' keyword'.span)

structure Program.Counterpart (R : Word → Word → Prop) (p p' : Program) : Prop where
  size : p.size = p'.size
  commands : List.Forall₂ (Command.Counterpart R) p.commands p'.commands

namespace ScriptError

def word? : ScriptError → Option Word
  | missingSize => none
  | invalidSize word | malformedArgument _ word | missingArgument word | unknownCommand word
  | missingBlock _ word | missingBlockAtEnd word | unterminatedBlock word
  | nestedTooDeep word => some word

theorem span?_eq_word? (e : ScriptError) : e.span? = e.word?.map Word.span := by
  cases e <;> rfl

end ScriptError

/-- The same error, about words that `R` pairs. An error about no word has no counterpart. -/
inductive ScriptError.Counterpart (R : Word → Word → Prop) : ScriptError → ScriptError → Prop
  | invalidSize {word word' : Word} (paired : R word word') :
    Counterpart R (.invalidSize word) (.invalidSize word')
  | malformedArgument {keyword keyword' word word' : Word} (command : R keyword keyword')
      (paired : R word word') :
    Counterpart R (.malformedArgument keyword.text word) (.malformedArgument keyword'.text word')
  | missingArgument {word word' : Word} (paired : R word word') :
    Counterpart R (.missingArgument word) (.missingArgument word')
  | unknownCommand {word word' : Word} (paired : R word word') :
    Counterpart R (.unknownCommand word) (.unknownCommand word')
  | missingBlock {keyword keyword' word word' : Word} (command : R keyword keyword')
      (paired : R word word') :
    Counterpart R (.missingBlock keyword.text word) (.missingBlock keyword'.text word')
  | missingBlockAtEnd {word word' : Word} (paired : R word word') :
    Counterpart R (.missingBlockAtEnd word) (.missingBlockAtEnd word')
  | unterminatedBlock {word word' : Word} (paired : R word word') :
    Counterpart R (.unterminatedBlock word) (.unterminatedBlock word')
  | nestedTooDeep {word word' : Word} (paired : R word word') :
    Counterpart R (.nestedTooDeep word) (.nestedTooDeep word')

namespace ScriptError.Counterpart

variable {e e' : ScriptError}

theorem kind_eq (h : Counterpart R e e') : e.kind = e'.kind := by
  cases h <;> rfl

/-- Both errors point at a word. -/
theorem exists_word (h : Counterpart R e e') :
    ∃ word word', R word word' ∧ e.word? = some word ∧ e'.word? = some word' := by
  cases h with
  | invalidSize paired => exact ⟨_, _, paired, rfl, rfl⟩
  | malformedArgument _ paired => exact ⟨_, _, paired, rfl, rfl⟩
  | missingArgument paired => exact ⟨_, _, paired, rfl, rfl⟩
  | unknownCommand paired => exact ⟨_, _, paired, rfl, rfl⟩
  | missingBlock _ paired => exact ⟨_, _, paired, rfl, rfl⟩
  | missingBlockAtEnd paired => exact ⟨_, _, paired, rfl, rfl⟩
  | unterminatedBlock paired => exact ⟨_, _, paired, rfl, rfl⟩
  | nestedTooDeep paired => exact ⟨_, _, paired, rfl, rfl⟩

end ScriptError.Counterpart

/-- Both sides give a value, and `S` pairs the values, or both fail, and `E` pairs the errors. -/
inductive InStep {ε α : Type} (E : ε → ε → Prop) (S : α → α → Prop) :
    Except ε α → Except ε α → Prop
  | ok {a a' : α} (paired : S a a') : InStep E S (.ok a) (.ok a')
  | error {e e' : ε} (paired : E e e') : InStep E S (.error e) (.error e')

namespace Pushdown

structure Frame.Counterpart (R : Word → Word → Prop) (f f' : Frame) : Prop where
  keyword : R f.keyword f'.keyword
  count : f.count = f'.count
  body : List.Forall₂ (Command.Counterpart R) f.body f'.body

/-- The finished loop of an open block. -/
theorem Frame.Counterpart.loop {f f' : Frame} (h : f.Counterpart R f') :
    Command.Counterpart R (.loop f.count f.body.reverse f.keyword.span)
      (.loop f'.count f'.body.reverse f'.keyword.span) := by
  rw [← h.count]
  exact .loop h.keyword f.count (List.rel_reverse h.body)

inductive Awaited.Counterpart (R : Word → Word → Prop) : Awaited → Awaited → Prop
  | command : Counterpart R .command .command
  | amount {keyword keyword' : Word} (paired : R keyword keyword') (motion : Motion) :
    Counterpart R (.amount keyword motion) (.amount keyword' motion)
  | count {keyword keyword' : Word} (paired : R keyword keyword') :
    Counterpart R (.count keyword) (.count keyword')
  | bracket {keyword keyword' : Word} (paired : R keyword keyword') (count : Int) :
    Counterpart R (.bracket keyword count) (.bracket keyword' count)

structure State.Counterpart (R : Word → Word → Prop) (s s' : State) : Prop where
  size : s.size = s'.size
  done : List.Forall₂ (Command.Counterpart R) s.done s'.done
  frames : List.Forall₂ (Frame.Counterpart R) s.frames s'.frames
  awaited : s.awaited.Counterpart R s'.awaited

theorem State.counterpart_start (R : Word → Word → Prop) (size : Int) :
    (start size).Counterpart R (start size) :=
  ⟨rfl, .nil, .nil, .command⟩

namespace State.Counterpart

variable {v : Vocabulary} {s s' : State} {word word' : Word} {words words' : List Word}

theorem add (h : s.Counterpart R s') {c c' : Command} (hc : c.Counterpart R c') :
    (s.add c).Counterpart R (s'.add c') := by
  obtain ⟨size, done, frames, awaited⟩ := s
  obtain ⟨size', done', frames', awaited'⟩ := s'
  obtain ⟨hsize, hdone, hframes, _⟩ := h
  cases hframes with
  | nil => exact ⟨hsize, .cons hc hdone, .nil, .command⟩
  | cons hf hframes =>
    exact ⟨hsize, hdone, .cons ⟨hf.keyword, hf.count, .cons hc hf.body⟩ hframes, .command⟩

theorem introduce (h : s.Counterpart R s') (paired : R word word')
    (hword : word.ReadAlike v word') :
    InStep (ScriptError.Counterpart R) (State.Counterpart R) (s.introduce v word)
      (s'.introduce v word') := by
  unfold State.introduce
  rw [← hword.rule]
  split
  · next motion _ => exact .ok ⟨h.size, h.done, h.frames, .amount paired motion⟩
  · exact .ok ⟨h.size, h.done, h.frames, .count paired⟩
  · exact .error (.unknownCommand paired)

/-- Paired words lead from paired states to paired states, or both are refused. -/
theorem step (hR : ∀ word word', R word word' → word.ReadAlike v word')
    (h : s.Counterpart R s') (paired : R word word') :
    InStep (ScriptError.Counterpart R) (State.Counterpart R) (s.step v word) (s'.step v word') := by
  have hword := hR word word' paired
  have hintroduce := h.introduce paired hword
  obtain ⟨size, done, frames, awaited⟩ := s
  obtain ⟨size', done', frames', awaited'⟩ := s'
  obtain ⟨hsize, hdone, hframes, hawaited⟩ := h
  cases hawaited with
  | command =>
    cases hframes with
    | nil => exact hintroduce
    | @cons f f' frames frames' hf hframes =>
      by_cases hclose : word.text = "]"
      · simp only [State.step, if_pos hclose, if_pos (hword.closes.mp hclose)]
        have hleft : Counterpart R ⟨size, done, frames, .command⟩
            ⟨size', done', frames', .command⟩ := ⟨hsize, hdone, hframes, .command⟩
        exact .ok (hleft.add hf.loop)
      · have hclose' : ¬ word'.text = "]" := mt hword.closes.mpr hclose
        simp only [State.step, if_neg hclose, if_neg hclose']
        exact hintroduce
  | amount hkeyword motion =>
    have hstate : Counterpart R _ _ := ⟨hsize, hdone, hframes, .amount hkeyword motion⟩
    simp only [State.step, ← hword.number]
    cases word.number? with
    | none => exact .error (.malformedArgument hkeyword paired)
    | some amount => exact .ok (hstate.add (.step hkeyword motion amount))
  | count hkeyword =>
    simp only [State.step, ← hword.number]
    cases word.number? with
    | none => exact .error (.malformedArgument hkeyword paired)
    | some count => exact .ok ⟨hsize, hdone, hframes, .bracket hkeyword count⟩
  | bracket hkeyword count =>
    by_cases hopen : word.text = "["
    · simp only [State.step, if_pos hopen, if_pos (hword.opens.mp hopen), ← hframes.length_eq]
      by_cases hroom : frames.length < maxDepth
      · rw [if_pos hroom, if_pos hroom]
        exact .ok ⟨hsize, hdone, .cons ⟨hkeyword, rfl, .nil⟩ hframes, .command⟩
      · rw [if_neg hroom, if_neg hroom]
        exact .error (.nestedTooDeep hkeyword)
    · have hopen' : ¬ word'.text = "[" := mt hword.opens.mpr hopen
      simp only [State.step, if_neg hopen, if_neg hopen']
      exact .error (.missingBlock hkeyword paired)

theorem finish (h : s.Counterpart R s') :
    InStep (ScriptError.Counterpart R) (Program.Counterpart R) s.finish s'.finish := by
  obtain ⟨size, done, frames, awaited⟩ := s
  obtain ⟨size', done', frames', awaited'⟩ := s'
  obtain ⟨hsize, hdone, hframes, hawaited⟩ := h
  cases hawaited with
  | command =>
    cases hframes with
    | nil => exact .ok ⟨hsize, List.rel_reverse hdone⟩
    | cons hf hframes => exact .error (.unterminatedBlock hf.keyword)
  | amount hkeyword motion => exact .error (.missingArgument hkeyword)
  | count hkeyword => exact .error (.missingArgument hkeyword)
  | bracket hkeyword count => exact .error (.missingBlockAtEnd hkeyword)

/-- Paired words lead from paired states to paired programs, or to paired errors. -/
theorem outcome (hR : ∀ word word', R word word' → word.ReadAlike v word')
    (h : s.Counterpart R s') (hwords : List.Forall₂ R words words') :
    InStep (ScriptError.Counterpart R) (Program.Counterpart R) (s.outcome v words)
      (s'.outcome v words') := by
  induction hwords generalizing s s' with
  | nil => exact h.finish
  | @cons word word' words words' paired hwords ih =>
    rw [outcome_cons, outcome_cons]
    have hstep := h.step hR paired
    revert hstep
    generalize s.step v word = result, s'.step v word' = result'
    rintro (h₁ | he)
    · exact ih h₁
    · exact .error he

end State.Counterpart

end Pushdown

/-- Scripts whose words are paired are read as paired programs, or fail on paired words. Only
scripts without any words fail on none. -/
theorem Program.parse_inStep {v : Vocabulary} (hv : v.Plain)
    (hR : ∀ word word', R word word' → word.ReadAlike v word') {script script' : String}
    (h : List.Forall₂ R (Script.words script) (Script.words script')) :
    (parse script v = .error .missingSize ∧ parse script' v = .error .missingSize) ∨
      InStep (ScriptError.Counterpart R) (Program.Counterpart R) (parse script v)
        (parse script' v) := by
  cases hwords : Script.words script with
  | nil =>
    rw [hwords, List.forall₂_nil_left_iff] at h
    exact .inl ⟨parse_of_nil v hwords, parse_of_nil v h⟩
  | cons word rest =>
    rw [hwords, List.forall₂_cons_left_iff] at h
    obtain ⟨word', rest', paired, hrest, hwords'⟩ := h
    have hnumber := (hR word word' paired).number
    right
    cases hsize : word.number?.filter (1 ≤ ·) with
    | none =>
      rw [parse_of_not_size v hwords hsize, parse_of_not_size v hwords' (hnumber ▸ hsize)]
      exact .error (.invalidSize paired)
    | some size =>
      rw [parse_of_size hv hwords hsize, parse_of_size hv hwords' (hnumber ▸ hsize)]
      exact (Pushdown.State.counterpart_start R size).outcome hR hrest

end TurtleGraphics
