import TurtleGraphics.Proofs.Script.PushdownRuns
import TurtleGraphics.Proofs.Script.Words

/-!
# Errors are found as early as they can be

An error about a word is found when that word is read, so it stays whatever the script goes on
with. An error about the end of the script can be mended by going on: the argument that is
awaited, a block, and a bracket for every open block complete the script (`exists_outcome_ok`).
The one exception is a loop that already stands in as many blocks as may be nested
(`outcome_ne_ok_of_full`).
-/

namespace TurtleGraphics

open Text

/-- How many blocks are open behind `words`: those opened, less those closed. -/
def Script.openBlocks (words : List Word) : Nat :=
  words.countP Word.isOpenBracket - words.countP Word.isCloseBracket

/-- The script ends in a loop without its block, inside as many blocks as may be nested. -/
def ScriptError.BeyondDepth (e : ScriptError) (words : List Word) : Prop :=
  ∃ keyword, (e = .missingArgument keyword ∨ e = .missingBlockAtEnd keyword) ∧
    keyword.text = "REPEAT" ∧ Script.openBlocks words = maxDepth

namespace Pushdown.State

def Full (s : State) : Prop :=
  maxDepth ≤ s.frames.length ∧
    match s.awaited with
    | .count _ | .bracket _ _ => True
    | .command | .amount _ _ => False

theorem outcome_bracket_ne_ok (v : Vocabulary) {size : Int} {done : List Command}
    {frames : List Frame} {keyword : Word} {count : Int} (h : maxDepth ≤ frames.length)
    (words : List Word) (p : Program) :
    outcome v ⟨size, done, frames, .bracket keyword count⟩ words ≠ .ok p := by
  cases words with
  | nil =>
    intro hp
    cases hp
  | cons word words =>
    have hfull : ¬ frames.length < maxDepth := Nat.not_lt.mpr h
    rw [outcome_cons]
    by_cases hw : word.text = "["
    · simp only [step, if_pos hw, if_neg hfull]
      intro hp
      cases hp
    · simp only [step, if_neg hw]
      intro hp
      cases hp

theorem outcome_ne_ok_of_full (v : Vocabulary) {s : State} (h : s.Full) (words : List Word)
    (p : Program) : s.outcome v words ≠ .ok p := by
  obtain ⟨size, done, frames, awaited⟩ := s
  obtain ⟨hdepth, hawaited⟩ := h
  cases awaited with
  | command => exact hawaited.elim
  | amount keyword motion => exact hawaited.elim
  | bracket keyword count => exact outcome_bracket_ne_ok v hdepth words p
  | count keyword =>
    cases words with
    | nil =>
      intro hp
      cases hp
    | cons word words =>
      rw [outcome_cons]
      cases hn : word.number? with
      | none =>
        simp only [step, hn]
        intro hp
        cases hp
      | some count =>
        simp only [step, hn]
        exact outcome_bracket_ne_ok v hdepth words p

/-- As many closing brackets as blocks are open end the program. -/
theorem outcome_closings (v : Vocabulary) {s : State} (hs : s.awaited = .command)
    {words : List Word} (h : words.map Word.text = List.replicate s.frames.length "]") :
    ∃ p, s.outcome v words = .ok p := by
  induction words generalizing s with
  | nil =>
    obtain ⟨size, done, frames, awaited⟩ := s
    subst hs
    cases frames with
    | nil => exact ⟨_, rfl⟩
    | cons f frames => cases h
  | cons word words ih =>
    obtain ⟨size, done, frames, awaited⟩ := s
    subst hs
    cases frames with
    | nil => cases h
    | cons f frames =>
      simp only [List.map_cons, List.length_cons, List.replicate_succ, List.cons.injEq] at h
      rw [outcome_cons]
      simp only [step, if_pos h.1]
      apply ih (add_awaited _ _)
      rw [length_frames_add]
      exact h.2

/-- What a state needs to come to an end: the words that are due, and those that close all open
blocks. -/
def completion (s : State) : List String :=
  let closings := List.replicate s.frames.length "]"
  match s.awaited with
  | .command => closings
  | .amount _ _ => "0" :: closings
  | .count _ => "0" :: "[" :: "]" :: closings
  | .bracket _ _ => "[" :: "]" :: closings

theorem isWordText_of_mem_completion {s : State} {text : String} (h : text ∈ s.completion) :
    Script.IsWordText text := by
  have hcases : text = "0" ∨ text = "[" ∨ text = "]" := by
    unfold completion at h
    split at h <;> simp only [List.mem_cons, List.mem_replicate] at h <;> grind
  rcases hcases with rfl | rfl | rfl
  · exact Script.isWordText_of_toList (c := '0') (by decide) (by decide)
  · exact Script.isWordText_of_toList (c := '[') (by decide) (by decide)
  · exact Script.isWordText_of_toList (c := ']') (by decide) (by decide)

theorem exists_outcome_block (v : Vocabulary) {size : Int} {done : List Command}
    {frames : List Frame} {keyword : Word} {count : Int} (h : frames.length < maxDepth)
    {words : List Word}
    (hwords : words.map Word.text = "[" :: "]" :: List.replicate frames.length "]") :
    ∃ p, outcome v ⟨size, done, frames, .bracket keyword count⟩ words = .ok p := by
  obtain ⟨opening, rest, rfl, ho, hrest⟩ := List.map_eq_cons_iff.mp hwords
  rw [outcome_cons]
  simp only [step, if_pos ho, if_pos h]
  exact outcome_closings v rfl hrest

theorem exists_outcome_ok (v : Vocabulary) {s : State} (h : ¬ s.Full) {words : List Word}
    (hwords : words.map Word.text = s.completion) : ∃ p, s.outcome v words = .ok p := by
  have hzero {word : Word} (hw : word.text = "0") : word.number? = some 0 := by
    rw [Word.number?, hw]
    decide
  obtain ⟨size, done, frames, awaited⟩ := s
  cases awaited with
  | command => exact outcome_closings v rfl hwords
  | amount keyword motion =>
    obtain ⟨word, rest, rfl, hw, hrest⟩ := List.map_eq_cons_iff.mp hwords
    rw [outcome_cons]
    simp only [step, hzero hw]
    apply outcome_closings v (add_awaited _ _)
    rwa [length_frames_add]
  | count keyword =>
    have hroom : frames.length < maxDepth := Nat.not_le.mp fun hle => h ⟨hle, trivial⟩
    obtain ⟨word, rest, rfl, hw, hrest⟩ := List.map_eq_cons_iff.mp hwords
    rw [outcome_cons]
    simp only [step, hzero hw]
    exact exists_outcome_block v hroom hrest
  | bracket keyword count =>
    have hroom : frames.length < maxDepth := Nat.not_le.mp fun hle => h ⟨hle, trivial⟩
    exact exists_outcome_block v hroom hwords

theorem outcome_append_of_error {v : Vocabulary} {s : State} {words : List Word} {e : ScriptError}
    (h : s.run v words = .error e) (more : List Word) : s.outcome v (words ++ more) = .error e := by
  rw [outcome, run_append, h]

theorem outcome_append_of_run {v : Vocabulary} {s s' : State} {words : List Word}
    (h : s.run v words = .ok s') (more : List Word) :
    s.outcome v (words ++ more) = s'.outcome v more := by
  rw [outcome, run_append, h]
  rfl

end Pushdown.State

namespace Pushdown

theorem find?_standard_eq_loop {keyword : String} :
    Vocabulary.standard.find? keyword = some .loop ↔ keyword = "REPEAT" := by
  rw [Vocabulary.find?_standard_eq_some]
  simp [Lexicon.standard]

theorem Reached.openBlocks {v : Vocabulary} {words : List Word} {s : State} (hs : Reached v words s)
    {sizeWord : Word} (hw : sizeWord.NoBracket) :
    Script.openBlocks (sizeWord :: words) = s.frames.length := by
  have hbrackets := hs.brackets
  rw [Script.openBlocks, List.countP_cons_of_neg (by simp [hw.1]),
    List.countP_cons_of_neg (by simp [hw.2])]
  omega

/-- A state that ends in an error can be completed unless the error says it cannot. -/
theorem Reached.full_iff {words : List Word} {s : State}
    (hs : Reached Vocabulary.standard words s) {sizeWord : Word} (hw : sizeWord.NoBracket)
    {e : ScriptError} (h : s.finish = .error e) :
    s.Full ↔ e.BeyondDepth (sizeWord :: words) := by
  have hopen := hs.openBlocks hw
  have hdepth := hs.depth_le
  have hintro := hs.introduced
  rw [ScriptError.BeyondDepth, hopen]
  obtain ⟨size, done, frames, awaited⟩ := s
  constructor
  · rintro ⟨hfull, hawaited⟩
    have heq : frames.length = maxDepth := Nat.le_antisymm hdepth hfull
    cases awaited with
    | command => exact hawaited.elim
    | amount keyword motion => exact hawaited.elim
    | count keyword =>
      cases h
      exact ⟨keyword, .inl rfl, find?_standard_eq_loop.mp hintro, heq⟩
    | bracket keyword count =>
      cases h
      exact ⟨keyword, .inr rfl, find?_standard_eq_loop.mp hintro, heq⟩
  · rintro ⟨keyword, he, htext, heq⟩
    refine ⟨Nat.le_of_eq heq.symm, ?_⟩
    cases awaited with
    | command =>
      cases frames with
      | nil => cases h
      | cons frame frames =>
        cases h
        simp at he
    | amount keyword' motion =>
      cases h
      simp only [ScriptError.missingArgument.injEq, reduceCtorEq, or_false] at he
      subst he
      have hloop := find?_standard_eq_loop.mpr htext
      rw [show Vocabulary.standard.find? keyword'.text = some (.step motion) from hintro] at hloop
      cases hloop
    | count keyword' => trivial
    | bracket keyword' count => trivial

end Pushdown

namespace Program

/-- Where the error of a script comes from: its first word, a word behind that, or its end. -/
theorem parse_error_cases {v : Vocabulary} (hv : v.Plain) {script : String} {e : ScriptError}
    (h : parse script v = .error e) :
    (Script.words script = [] ∧ e = .missingSize) ∨
      ∃ word rest, Script.words script = word :: rest ∧
        ((word.number?.filter (1 ≤ ·) = none ∧ e = .invalidSize word) ∨
          ∃ size, word.number?.filter (1 ≤ ·) = some size ∧
            ((Pushdown.State.start size).run v rest = .error e ∨
              ∃ s, (Pushdown.State.start size).run v rest = .ok s ∧ s.finish = .error e)) := by
  cases hw : Script.words script with
  | nil =>
    rw [parse_of_nil v hw] at h
    cases h
    exact .inl ⟨rfl, rfl⟩
  | cons word rest =>
    refine .inr ⟨word, rest, rfl, ?_⟩
    cases hs : word.number?.filter (1 ≤ ·) with
    | none =>
      rw [parse_of_not_size v hw hs] at h
      cases h
      exact .inl ⟨rfl, rfl⟩
    | some size =>
      refine .inr ⟨size, rfl, ?_⟩
      rw [parse_of_size hv hw hs, Pushdown.State.outcome] at h
      cases hr : (Pushdown.State.start size).run v rest with
      | error e' =>
        rw [hr] at h
        cases h
        exact .inl rfl
      | ok s =>
        rw [hr] at h
        exact .inr ⟨s, rfl, h⟩

/-- An error about a word stays, whatever the script goes on with. -/
theorem parse_append_of_not_atEnd {v : Vocabulary} (hv : v.Plain) {script : String}
    {e : ScriptError} (h : parse script v = .error e) (he : ¬ e.AtEnd) (c : Char) (text : String)
    (hc : isBlank c = true) : parse (script ++ String.singleton c ++ text) v = .error e := by
  obtain ⟨more, hmore, _⟩ := Script.words_append_blank script text hc
  rcases parse_error_cases hv h with ⟨_, rfl⟩ | ⟨word, rest, hw, hcases⟩
  · exact absurd trivial he
  · rw [hw, List.cons_append] at hmore
    rcases hcases with ⟨hs, rfl⟩ | ⟨size, hs, hr | ⟨s, _, hfinish⟩⟩
    · exact parse_of_not_size v hmore hs
    · rw [parse_of_size hv hmore hs]
      exact Pushdown.State.outcome_append_of_error hr more
    · exact absurd (Pushdown.atEnd_of_finish hfinish) he

/-- A script without words can be mended by a size. -/
theorem exists_parse_append_of_nil {script : String} {v : Vocabulary} (hv : v.Plain)
    (h : Script.words script = []) :
    ∃ text p, parse (script ++ String.singleton ' ' ++ text) v = .ok p := by
  obtain ⟨more, hmore, htexts⟩ := Script.words_append_blank script "1" (c := ' ') (by decide)
  have hone : (Script.words "1").map Word.text = ["1"] := by decide
  rw [hone] at htexts
  obtain ⟨word, rest, rfl, hword, hrest⟩ := List.map_eq_cons_iff.mp htexts
  cases List.map_eq_nil_iff.mp hrest
  have hs : word.number?.filter (1 ≤ ·) = some 1 := by
    rw [Word.number?, hword]
    decide
  rw [h, List.nil_append] at hmore
  exact ⟨"1", ⟨1, []⟩, parse_of_size hv hmore hs⟩

/-- A script that ends too early can be mended exactly if its state is not full. -/
theorem exists_parse_append_of_run {script : String} {v : Vocabulary} (hv : v.Plain) {word : Word}
    {rest : List Word} {size : Int} {s : Pushdown.State}
    (hw : Script.words script = word :: rest) (hs : word.number?.filter (1 ≤ ·) = some size)
    (hr : (Pushdown.State.start size).run v rest = .ok s) :
    (∃ text p, parse (script ++ String.singleton ' ' ++ text) v = .ok p) ↔ ¬ s.Full := by
  have hparse (text : String) : ∃ more, more.map Word.text = (Script.words text).map Word.text ∧
      parse (script ++ String.singleton ' ' ++ text) v = s.outcome v more := by
    obtain ⟨more, hmore, htexts⟩ := Script.words_append_blank script text (c := ' ') (by decide)
    rw [hw, List.cons_append] at hmore
    refine ⟨more, htexts, ?_⟩
    rw [parse_of_size hv hmore hs, Pushdown.State.outcome_append_of_run hr]
  constructor
  · rintro ⟨text, p, hp⟩ hfull
    obtain ⟨more, _, heq⟩ := hparse text
    exact s.outcome_ne_ok_of_full v hfull more p (heq ▸ hp)
  · intro hfull
    obtain ⟨text, htext⟩ := Script.exists_script_of_texts fun t ht =>
      s.isWordText_of_mem_completion ht
    obtain ⟨more, htexts, heq⟩ := hparse text
    obtain ⟨p, hp⟩ := s.exists_outcome_ok v hfull (htexts.trans htext)
    exact ⟨text, p, heq.trans hp⟩

end Program

/-- Errors in a script are found as early as they can be. One that is not about the end of the
script stays the same, whatever follows behind a blank. One that is about the end can be mended by
some text, except when a loop that is not yet complete stands inside as many blocks as may be
nested: then no text helps. -/
theorem parse_error_earliest {script : String} {e : ScriptError}
    (h : Program.parse script .standard = .error e) :
    (¬ e.AtEnd → ∀ c text, isBlank c = true →
      Program.parse (script ++ String.singleton c ++ text) .standard = .error e) ∧
    (e.AtEnd → ((∃ text p, Program.parse (script ++ " " ++ text) .standard = .ok p) ↔
      ¬ e.BeyondDepth (Script.words script))) := by
  refine ⟨Program.parse_append_of_not_atEnd Vocabulary.plain_standard h, fun he => ?_⟩
  have hblank : " " = String.singleton ' ' := rfl
  rw [hblank]
  rcases Program.parse_error_cases Vocabulary.plain_standard h with
    ⟨hw, rfl⟩ | ⟨word, rest, hw, ⟨_, rfl⟩ | ⟨size, hs, hr | ⟨s, hr, hfinish⟩⟩⟩
  · have hnot : ¬ ScriptError.missingSize.BeyondDepth (Script.words script) := by
      rintro ⟨keyword, hk | hk, _⟩ <;> cases hk
    exact iff_of_true (Program.exists_parse_append_of_nil Vocabulary.plain_standard hw) hnot
  · exact he.elim
  · exact absurd he (Pushdown.not_atEnd_of_run hr)
  · have hreached := (Pushdown.reached_start _ size).run Vocabulary.sparesBrackets_standard hr
    have hnumber := Word.noBracket_of_number (Option.filter_eq_some_iff.mp hs).1
    rw [Program.exists_parse_append_of_run Vocabulary.plain_standard hw hs hr, hw,
      hreached.full_iff hnumber hfinish]
    rfl

/-- A bad argument is reported for good; a step without its argument, in an open block, can be
completed. -/
theorem parse_error_earliest_block :
    (Program.parse "3 REPEAT 2 [ FD x" .standard =
        .error (.malformedArgument "FD" ⟨"x", ⟨16, 17, 1, 17⟩⟩) ∧
      Program.parse ("3 REPEAT 2 [ FD x" ++ String.singleton '\n' ++ "1 ]") .standard =
        .error (.malformedArgument "FD" ⟨"x", ⟨16, 17, 1, 17⟩⟩)) ∧
    Program.parse "3 REPEAT 2 [ FD" .standard =
        .error (.missingArgument ⟨"FD", ⟨13, 15, 1, 14⟩⟩) ∧
      ∃ text p, Program.parse ("3 REPEAT 2 [ FD" ++ " " ++ text) .standard = .ok p := by
  have hbad : Program.parse "3 REPEAT 2 [ FD x" .standard =
      .error (.malformedArgument "FD" ⟨"x", ⟨16, 17, 1, 17⟩⟩) := by decide +kernel
  have hend : Program.parse "3 REPEAT 2 [ FD" .standard =
      .error (.missingArgument ⟨"FD", ⟨13, 15, 1, 14⟩⟩) := by decide +kernel
  refine ⟨⟨hbad, (parse_error_earliest hbad).1 id _ _ isBlank_newline⟩, hend, ?_⟩
  apply ((parse_error_earliest hend).2 trivial).mpr
  rintro ⟨keyword, he | he, htext, _⟩
  · cases he
    simp at htext
  · cases he

end TurtleGraphics
