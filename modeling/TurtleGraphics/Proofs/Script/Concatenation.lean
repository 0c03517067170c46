import TurtleGraphics.Proofs.Script.Counterparts
import TurtleGraphics.Proofs.Script.EarliestError
import TurtleGraphics.Proofs.Script.Writing

/-!
# Scripts that are continued

A script that has been read leaves nothing behind but its size and its commands: no block is open
and no word is awaited. What stands behind it is therefore read as it would be behind the size
alone. It makes the same commands, which are added to those of the script, or fails at the same
place of the text. Only the places differ, as the text starts at different positions.
-/

namespace TurtleGraphics

open Text

namespace Script

def spanBehind (before chars : List Char) : Span :=
  Span.between (Position.start.advanceAll before) (Position.start.advanceAll (before ++ chars))

theorem isWordText_of_mem_words {script : String} {word : Word} (h : word ∈ words script) :
    IsWordText word.text := by
  obtain ⟨l, rfl⟩ := Layout.exists_script_eq script
  have htext : word.text ∈ l.texts := by
    rw [← l.map_text_words_script]
    exact List.mem_map_of_mem h
  obtain ⟨piece, -, hpiece⟩ := List.mem_map.mp htext
  rw [← hpiece]
  exact piece.isWordText

end Script

/-- One and the same word of `text`, which stands behind `before` in one script and behind `before'`
in another. -/
def Word.SameIn (text before before' : List Char) (word word' : Word) : Prop :=
  ∃ (start rest : List Char) (found : String), text = start ++ found.toList ++ rest ∧
    word = ⟨found, Script.spanBehind (before ++ start) found.toList⟩ ∧
      word' = ⟨found, Script.spanBehind (before' ++ start) found.toList⟩

theorem Word.SameIn.text_eq {text before before' : List Char} {word word' : Word}
    (h : word.SameIn text before before' word') : word.text = word'.text := by
  obtain ⟨_, _, found, -, rfl, rfl⟩ := h
  rfl

theorem Word.readAlike_of_text_eq (v : Vocabulary) {word word' : Word}
    (h : word.text = word'.text) : word.ReadAlike v word' where
  rule := by rw [h]
  number := by rw [number?, h, number?]
  opens := by rw [h]
  closes := by rw [h]

/-- The words of the pieces behind `start`, at the two places of a text. -/
theorem Piece.forall₂_sameIn (before before' : List Char) {text start : List Char}
    {pieces : List Piece} (h : text = start ++ pieces.flatMap Piece.chars) :
    List.Forall₂ (Word.SameIn text before before')
      (Piece.words (Position.start.advanceAll (before ++ start)) pieces)
      (Piece.words (Position.start.advanceAll (before' ++ start)) pieces) := by
  induction pieces generalizing start with
  | nil => exact .nil
  | cons piece pieces ih =>
    rw [List.flatMap_cons] at h
    have hbehind : text = (start ++ piece.chars) ++ pieces.flatMap Piece.chars := by
      rw [h, List.append_assoc]
    have hrest := ih hbehind
    have hword : text = start ++ piece.text.toList ++
        (piece.gap.chars ++ pieces.flatMap Piece.chars) := by
      rw [h, Piece.chars, List.append_assoc, List.append_assoc]
    rw [← List.append_assoc, ← List.append_assoc, Position.advanceAll_append _ (before ++ start),
      Position.advanceAll_append _ (before' ++ start)] at hrest
    rw [Piece.words, Piece.words]
    refine .cons ⟨start, _, piece.text, hword, ?_, ?_⟩ hrest
    · rw [Script.spanBehind, Position.advanceAll_append _ (before ++ start)]
    · rw [Script.spanBehind, Position.advanceAll_append _ (before' ++ start)]

theorem Script.forall₂_sameIn (text before before' : List Char) :
    List.Forall₂ (Word.SameIn text before before')
      (wordsFrom (Position.start.advanceAll before) text)
      (wordsFrom (Position.start.advanceAll before') text) := by
  obtain ⟨l, rfl⟩ : ∃ l : Layout, l.chars = text := ⟨_, Layout.chars_ofChars text⟩
  rw [Layout.chars, Layout.wordsFrom_pieces _ _ l.separated,
    Layout.wordsFrom_pieces _ _ l.separated, ← Position.advanceAll_append,
    ← Position.advanceAll_append]
  exact Piece.forall₂_sameIn before before' rfl

namespace Pushdown.State

variable {v : Vocabulary}

def behind (s : State) (earlier : List Command) : State :=
  ⟨s.size, s.done ++ earlier, s.frames, s.awaited⟩

theorem add_behind (s : State) (earlier : List Command) (c : Command) :
    (s.behind earlier).add c = (s.add c).behind earlier := by
  obtain ⟨size, done, frames, awaited⟩ := s
  cases frames <;> rfl

theorem introduce_behind (s : State) (earlier : List Command) (word : Word) :
    (s.behind earlier).introduce v word = (s.introduce v word).map (·.behind earlier) := by
  unfold introduce
  split <;> rfl

theorem step_behind (s : State) (earlier : List Command) (word : Word) :
    (s.behind earlier).step v word = (s.step v word).map (·.behind earlier) := by
  have hintroduce := introduce_behind (v := v) s earlier word
  obtain ⟨size, done, frames, awaited⟩ := s
  cases awaited with
  | command =>
    cases frames with
    | nil => exact hintroduce
    | cons f frames =>
      by_cases hclose : word.text = "]"
      · simp only [step, behind, if_pos hclose, Except.map]
        exact congrArg Except.ok (add_behind ⟨size, done, frames, .command⟩ earlier _)
      · rw [step_command (.inr hclose)]
        exact (step_command (.inr hclose)).trans hintroduce
  | amount keyword motion =>
    simp only [step, behind]
    cases word.number? with
    | none => rfl
    | some amount =>
      exact congrArg Except.ok (add_behind ⟨size, done, frames, .amount keyword motion⟩ earlier _)
  | count keyword =>
    simp only [step, behind]
    cases word.number? <;> rfl
  | bracket keyword count =>
    change step v ⟨size, done ++ earlier, frames, .bracket keyword count⟩ word = _
    by_cases hopen : word.text = "["
    · by_cases hroom : frames.length < maxDepth
      · simp only [step, if_pos hopen, if_pos hroom]
        rfl
      · simp only [step, if_pos hopen, if_neg hroom]
        rfl
    · simp only [step, if_neg hopen]
      rfl

theorem finish_behind (s : State) (earlier : List Command) :
    (s.behind earlier).finish =
      s.finish.map fun p => ⟨p.size, earlier.reverse ++ p.commands⟩ := by
  obtain ⟨size, done, frames, awaited⟩ := s
  cases awaited with
  | command =>
    cases frames with
    | nil => exact congrArg (fun cs => Except.ok (Program.mk size cs)) List.reverse_append
    | cons f frames => rfl
  | amount keyword motion => rfl
  | count keyword => rfl
  | bracket keyword count => rfl

/-- What had been read before stands in front, and has no other effect. -/
theorem outcome_behind (s : State) (earlier : List Command) (words : List Word) :
    (s.behind earlier).outcome v words =
      (s.outcome v words).map fun p => ⟨p.size, earlier.reverse ++ p.commands⟩ := by
  induction words generalizing s with
  | nil => exact s.finish_behind earlier
  | cons word words ih =>
    rw [outcome_cons, outcome_cons, step_behind]
    cases s.step v word with
    | ok s' => exact ih s'
    | error e => rfl

theorem eq_of_finish_eq_ok {s : State} {p : Program} (h : s.finish = .ok p) :
    s = (start p.size).behind p.commands.reverse := by
  obtain ⟨size, done, frames, awaited⟩ := s
  cases awaited with
  | command =>
    cases frames with
    | nil =>
      cases h
      simp only [start, behind, List.nil_append, List.reverse_reverse]
    | cons f frames => cases h
  | amount keyword motion => cases h
  | count keyword => cases h
  | bracket keyword count => cases h

theorem add_size (s : State) (c : Command) : (s.add c).size = s.size := by
  unfold add
  split <;> rfl

theorem size_of_moves {s s' : State} {word : Word} (h : Moves v s word s') : s'.size = s.size := by
  cases h with
  | close _ => exact add_size _ _
  | step _ _ => rfl
  | loop _ _ => rfl
  | amount _ => exact add_size _ _
  | count _ => rfl
  | opening _ _ => rfl

theorem size_of_outcome {s : State} {words : List Word} {p : Program}
    (h : s.outcome v words = .ok p) : p.size = s.size := by
  induction words generalizing s with
  | nil =>
    rw [eq_of_finish_eq_ok h]
    rfl
  | cons word words ih =>
    rw [outcome_cons] at h
    cases hstep : s.step v word with
    | error e =>
      rw [hstep] at h
      cases h
    | ok s' =>
      rw [hstep] at h
      exact (ih h).trans (size_of_moves (moves_of_step hstep))

end Pushdown.State

def Word.unplaced (word : Word) : Word :=
  ⟨word.text, default⟩

def ScriptError.unplaced : ScriptError → ScriptError
  | missingSize => missingSize
  | invalidSize found => invalidSize found.unplaced
  | malformedArgument command found => malformedArgument command found.unplaced
  | missingArgument keyword => missingArgument keyword.unplaced
  | unknownCommand found => unknownCommand found.unplaced
  | missingBlock command found => missingBlock command found.unplaced
  | missingBlockAtEnd keyword => missingBlockAtEnd keyword.unplaced
  | unterminatedBlock keyword => unterminatedBlock keyword.unplaced
  | nestedTooDeep keyword => nestedTooDeep keyword.unplaced

section

variable {R : Word → Word → Prop}

theorem ScriptError.Counterpart.unplaced_eq
    (hR : ∀ word word', R word word' → word.text = word'.text) {e e' : ScriptError}
    (h : e.Counterpart R e') : e.unplaced = e'.unplaced := by
  have hunplaced (word word' : Word) (paired : R word word') : word.unplaced = word'.unplaced := by
    rw [Word.unplaced, hR word word' paired, Word.unplaced]
  cases h with
  | invalidSize paired => exact congrArg ScriptError.invalidSize (hunplaced _ _ paired)
  | malformedArgument command paired =>
    exact congrArg₂ ScriptError.malformedArgument (hR _ _ command) (hunplaced _ _ paired)
  | missingArgument paired => exact congrArg ScriptError.missingArgument (hunplaced _ _ paired)
  | unknownCommand paired => exact congrArg ScriptError.unknownCommand (hunplaced _ _ paired)
  | missingBlock command paired =>
    exact congrArg₂ ScriptError.missingBlock (hR _ _ command) (hunplaced _ _ paired)
  | missingBlockAtEnd paired => exact congrArg ScriptError.missingBlockAtEnd (hunplaced _ _ paired)
  | unterminatedBlock paired => exact congrArg ScriptError.unterminatedBlock (hunplaced _ _ paired)
  | nestedTooDeep paired => exact congrArg ScriptError.nestedTooDeep (hunplaced _ _ paired)

mutual

/-- Paired commands differ in their places only. -/
theorem Command.Counterpart.unplaced_eq {c c' : Command} (h : c.Counterpart R c') :
    c.unplaced = c'.unplaced := by
  cases c with
  | step motion amount span =>
    cases h with
    | step paired => rw [Command.unplaced, Command.unplaced]
  | loop count body span =>
    cases h with
    | loop paired count block =>
      rw [Command.unplaced, Command.unplaced, Command.unplacedAll_eq_of_counterparts block]

theorem Command.unplacedAll_eq_of_counterparts {cs cs' : List Command}
    (h : List.Forall₂ (Command.Counterpart R) cs cs') : unplacedAll cs = unplacedAll cs' := by
  cases cs with
  | nil =>
    cases h
    rfl
  | cons c cs =>
    cases h with
    | cons hc hcs =>
      rw [unplacedAll, unplacedAll, hc.unplaced_eq, Command.unplacedAll_eq_of_counterparts hcs]

end

end

/-- The same error but for its place, and both places are those of the same word of `text`. -/
structure ScriptError.SameIn (text before before' : List Char) (e e' : ScriptError) : Prop where
  unplaced : e.unplaced = e'.unplaced
  place : ∃ word word', word.SameIn text before before' word' ∧
    (e.word? = some word ∧ e.span? = some word.span) ∧
      e'.word? = some word' ∧ e'.span? = some word'.span

theorem ScriptError.Counterpart.sameIn {text before before' : List Char} {e e' : ScriptError}
    (h : e.Counterpart (Word.SameIn text before before') e') : e.SameIn text before before' e' := by
  refine ⟨h.unplaced_eq fun _ _ => Word.SameIn.text_eq, ?_⟩
  obtain ⟨word, word', hsame, hword, hword'⟩ := h.exists_word
  refine ⟨word, word', hsame, ⟨hword, ?_⟩, hword', ?_⟩
  · rw [e.span?_eq_word?, hword, Option.map_some]
  · rw [e'.span?_eq_word?, hword', Option.map_some]

namespace Program

/-- `whole` has the commands of `p` and behind them those of `part`, at whatever places. -/
structure Continues (p whole part : Program) : Prop where
  size : whole.size = p.size
  size_part : part.size = p.size
  commands : ∃ more, whole.commands = p.commands ++ more ∧
    Command.unplacedAll more = Command.unplacedAll part.commands

/-- A script that has been read leaves nothing behind but its size and its commands. -/
theorem run_of_parse_eq_ok {v : Vocabulary} (hv : v.Plain) {script : String} {p : Program}
    (h : parse script v = .ok p) :
    ∃ size rest, Script.words script = size :: rest ∧
      size.number?.filter (1 ≤ ·) = some p.size ∧
        (Pushdown.State.start p.size).run v rest =
          .ok ((Pushdown.State.start p.size).behind p.commands.reverse) := by
  obtain ⟨size, rest, hwords, hnumber, hpos, -, -⟩ := (parse_eq_ok_iff hv).mp h
  have hsize : size.number?.filter (1 ≤ ·) = some p.size :=
    Option.filter_eq_some_iff.mpr ⟨hnumber, decide_eq_true hpos⟩
  refine ⟨size, rest, hwords, hsize, ?_⟩
  rw [parse_of_size hv hwords hsize, Pushdown.State.outcome] at h
  cases hrun : (Pushdown.State.start p.size).run v rest with
  | error e =>
    rw [hrun] at h
    cases h
  | ok s =>
    rw [hrun] at h
    rw [Pushdown.State.eq_of_finish_eq_ok h]

/-- The text behind a script that has been read is read as if no command had been read before. -/
theorem parse_append_of_run {v : Vocabulary} (hv : v.Plain) {script : String} {p : Program}
    {size : Word} {rest : List Word} (hwords : Script.words script = size :: rest)
    (hsize : size.number?.filter (1 ≤ ·) = some p.size)
    (hrun : (Pushdown.State.start p.size).run v rest =
      .ok ((Pushdown.State.start p.size).behind p.commands.reverse))
    {c : Char} (hc : isBlank c = true) (text : String) :
    parse (script ++ String.singleton c ++ text) v =
      ((Pushdown.State.start p.size).outcome v
        (Script.wordsFrom (Position.start.advanceAll (script.toList ++ [c])) text.toList)).map
          fun q => ⟨q.size, p.commands ++ q.commands⟩ := by
  have hwhole := Script.words_append_singleton script text hc
  rw [hwords, List.cons_append] at hwhole
  rw [parse_of_size hv hwhole hsize, Pushdown.State.outcome_append_of_run hrun,
    Pushdown.State.outcome_behind, List.reverse_reverse]

theorem parse_append_of_size {v : Vocabulary} (hv : v.Plain) {word : Word} {size : Int}
    (hword : Script.IsWordText word.text) (hsize : word.number?.filter (1 ≤ ·) = some size)
    {c : Char} (hc : isBlank c = true) (text : String) :
    parse (word.text ++ String.singleton c ++ text) v =
      (Pushdown.State.start size).outcome v
        (Script.wordsFrom (Position.start.advanceAll (word.text.toList ++ [c])) text.toList) := by
  have hwhole := Script.words_append_singleton word.text text hc
  rw [Script.words_eq word.text, Script.wordsFrom_of_isWordText _ hword,
    List.singleton_append] at hwhole
  exact parse_of_size hv hwhole hsize

end Program

theorem InStep.map_left {ε α : Type} {E F : ε → ε → Prop} {S T : α → α → Prop}
    {x x' : Except ε α} (h : InStep E S x x') {f : α → α}
    (hok : ∀ a a', x = .ok a → x' = .ok a' → S a a' → T (f a) a')
    (herror : ∀ e e', E e e' → F e e') : InStep F T (x.map f) x' := by
  cases h with
  | ok paired => exact .ok (hok _ _ rfl rfl paired)
  | error paired => exact .error (herror _ _ paired)

/-- The text behind a script that can be read, and a blank, is read as it is behind the size of that
script alone. Both are read, and the commands of the text follow those of the script, which keep
their places; or both fail alike, and at the same word of the text. -/
theorem parse_continued {first : String} {p : Program}
    (h : Program.parse first .standard = .ok p) {c : Char} (hc : isBlank c = true)
    (second : String) :
    ∃ size, (Script.words first).head? = some size ∧
      InStep (ScriptError.SameIn second.toList (first.toList ++ [c]) (size.text.toList ++ [c]))
        p.Continues
        (Program.parse (first ++ String.singleton c ++ second) .standard)
        (Program.parse (size.text ++ String.singleton c ++ second) .standard) := by
  obtain ⟨size, rest, hwords, hsize, hrun⟩ := Program.run_of_parse_eq_ok Vocabulary.plain_standard h
  have hword : Script.IsWordText size.text :=
    Script.isWordText_of_mem_words (hwords ▸ List.mem_cons_self)
  have hinStep := (Pushdown.State.counterpart_start _ p.size).outcome
    (fun _ _ hsame => Word.readAlike_of_text_eq .standard (Word.SameIn.text_eq hsame))
    (Script.forall₂_sameIn second.toList (first.toList ++ [c]) (size.text.toList ++ [c]))
  refine ⟨size, congrArg List.head? hwords, ?_⟩
  -- Both scripts have the same text left to read, and read it from the same state.
  rw [Program.parse_append_of_run Vocabulary.plain_standard hwords hsize hrun hc,
    Program.parse_append_of_size Vocabulary.plain_standard hword hsize hc]
  apply hinStep.map_left
  · intro q q' hq hq' paired
    have hsize := Pushdown.State.size_of_outcome hq
    have hsize' := Pushdown.State.size_of_outcome hq'
    exact ⟨hsize, hsize', q.commands, rfl, Command.unplacedAll_eq_of_counterparts paired.commands⟩
  · intro e e' paired
    exact paired.sameIn

/-- A block that is opened behind a wide blank and never closed. -/
theorem parse_continued_block :
    let first := "3 FD 1"
    let second := "LT 2\nREPEAT 2 ["
    Program.parse first .standard = .ok ⟨3, [.step .forward 1 ⟨2, 4, 1, 3⟩]⟩ ∧
      isBlank '\u3000' = true ∧
        Program.parse (first ++ String.singleton '\u3000' ++ second) .standard =
          .error (.unterminatedBlock ⟨"REPEAT", ⟨14, 20, 2, 1⟩⟩) ∧
        Program.parse ("3" ++ String.singleton '\u3000' ++ second) .standard =
          .error (.unterminatedBlock ⟨"REPEAT", ⟨9, 15, 2, 1⟩⟩) ∧
        ScriptError.SameIn second.toList (first.toList ++ ['\u3000']) ['3', '\u3000']
          (.unterminatedBlock ⟨"REPEAT", ⟨14, 20, 2, 1⟩⟩)
          (.unterminatedBlock ⟨"REPEAT", ⟨9, 15, 2, 1⟩⟩) := by
  intro first second
  have hfirst : Program.parse first .standard = .ok ⟨3, [.step .forward 1 ⟨2, 4, 1, 3⟩]⟩ := by
    decide +kernel
  have hblank : isBlank '\u3000' = true := by decide
  have hwhole : Program.parse (first ++ String.singleton '\u3000' ++ second) .standard =
      .error (.unterminatedBlock ⟨"REPEAT", ⟨14, 20, 2, 1⟩⟩) := by decide +kernel
  have hpart : Program.parse ("3" ++ String.singleton '\u3000' ++ second) .standard =
      .error (.unterminatedBlock ⟨"REPEAT", ⟨9, 15, 2, 1⟩⟩) := by decide +kernel
  refine ⟨hfirst, hblank, hwhole, hpart, ?_⟩
  obtain ⟨size, hsize, hinStep⟩ := parse_continued hfirst hblank second
  have hhead : (Script.words first).head? = some ⟨"3", ⟨0, 1, 1, 1⟩⟩ := by decide +kernel
  obtain rfl := Option.some.inj (hhead.symm.trans hsize)
  rw [hwhole, hpart] at hinStep
  cases hinStep with
  | error same => exact same

end TurtleGraphics
