import Mathlib.Data.List.Nodup
import TurtleGraphics.Proofs.Script.Acceptance
import TurtleGraphics.Proofs.Script.Layout

/-!
# The places of commands

Positions only grow along a text, so the words of a script have different places, each behind the
one before (`Script.pairwise_words`). A command has the place of its keyword. The commands of a
program, each before those in its block, therefore stand in the order of the words that introduce
them, and as a step is made of two words and a loop of four and its block, no word is left over.
-/

namespace TurtleGraphics

open Text

namespace Text

namespace Position

def Before (p q : Position) : Prop :=
  p.offset < q.offset ∧ (p.line < q.line ∨ p.line = q.line ∧ p.column < q.column)

theorem Before.trans {p q r : Position} (hpq : p.Before q) (hqr : q.Before r) : p.Before r := by
  unfold Before at *
  omega

theorem before_advance (p : Position) (c : Char) : p.Before (p.advance c) := by
  have hoffset : p.offset < (p.advance c).offset := by
    rw [advance_offset]
    exact Nat.lt_add_of_pos_right c.utf8Size_pos
  refine ⟨hoffset, ?_⟩
  rw [advance_line, advance_column]
  by_cases hc : c = '\n'
  · rw [if_pos hc]
    exact .inl (Nat.lt_succ_self _)
  · rw [if_neg hc, if_neg hc]
    exact .inr ⟨rfl, Nat.lt_succ_self _⟩

theorem before_advanceAll (p : Position) {cs : List Char} (h : cs ≠ []) :
    p.Before (p.advanceAll cs) := by
  induction cs generalizing p with
  | nil => exact absurd rfl h
  | cons c cs ih =>
    rw [advanceAll_cons]
    by_cases hcs : cs = []
    · rw [hcs]
      exact p.before_advance c
    · exact (p.before_advance c).trans (ih _ hcs)

end Position

namespace Span

def first (s : Span) : Position := ⟨s.start, s.line, s.column⟩

def Precedes (s t : Span) : Prop :=
  s.first.Before t.first

theorem eq_of_text_eq {s t : Span} (h : s.text = t.text) :
    s.line = t.line ∧ s.column = t.column := by
  have hdigits (n : Nat) : ∀ c ∈ n.repr.toList, (c != ':') = true := by
    intro c hc
    rw [Nat.toList_repr] at hc
    have hdigit := Nat.isDigit_of_mem_toDigits (by decide) (by decide) hc
    rw [bne_iff_ne]
    rintro rfl
    cases hdigit
  have hnumber {m n : Nat} (hmn : m.repr.toList = n.repr.toList) : m = n := by
    rw [Nat.toList_repr, Nat.toList_repr] at hmn
    calc
      m = Nat.ofDigitChars 10 (Nat.toDigits 10 m) 0 := Nat.ofDigitChars_ten_toDigits.symm
      _ = Nat.ofDigitChars 10 (Nat.toDigits 10 n) 0 := by rw [hmn]
      _ = n := Nat.ofDigitChars_ten_toDigits
  have hlists : s.line.repr.toList ++ ':' :: s.column.repr.toList =
      t.line.repr.toList ++ ':' :: t.column.repr.toList := by
    simpa [text] using congrArg String.toList h
  -- A digit is no colon, so the line ends at the first one.
  obtain ⟨hline, hcolumn⟩ := run_unique (hdigits s.line) (by simp) (hdigits t.line) (by simp) hlists
  exact ⟨hnumber hline, hnumber (List.cons.inj hcolumn).2⟩

theorem Precedes.text_ne {s t : Span} (h : s.Precedes t) : s.text ≠ t.text := by
  intro htext
  obtain ⟨hline, hcolumn⟩ := eq_of_text_eq htext
  have hplace := h.2
  simp only [first] at hplace
  omega

end Span

end Text

namespace Piece

theorem pairwise_words (p : Position) (pieces : List Piece) :
    ((words p pieces).map Word.span).Pairwise Span.Precedes := by
  induction pieces generalizing p with
  | nil => exact .nil
  | cons piece pieces ih =>
    rw [words, List.map_cons, List.pairwise_cons]
    refine ⟨?_, ih _⟩
    intro span hspan
    obtain ⟨word, hword, rfl⟩ := List.mem_map.mp hspan
    obtain ⟨i, hi⟩ := List.mem_iff_getElem?.mp hword
    -- A later word starts behind this piece, which has at least one character.
    rw [Layout.span_of_getElem? hi, ← Position.advanceAll_append]
    apply Position.before_advanceAll
    rw [chars, List.append_assoc]
    exact List.append_ne_nil_of_left_ne_nil piece.isWordText.1 _

end Piece

/-- Every word of a script stands behind those before it. -/
theorem Script.pairwise_words (script : String) :
    ((words script).map Word.span).Pairwise Span.Precedes := by
  obtain ⟨l, rfl⟩ := Layout.exists_script_eq script
  rw [l.words_script]
  exact Piece.pairwise_words _ _

namespace Command

def isStep : Command → Bool
  | step _ _ _ => true
  | loop _ _ _ => false

def isLoop : Command → Bool
  | step _ _ _ => false
  | loop _ _ _ => true

mutual

def preorder : Command → List Command
  | step motion amount span => [step motion amount span]
  | loop count body span => loop count body span :: preorderAll body

def preorderAll : List Command → List Command
  | [] => []
  | c :: cs => c.preorder ++ preorderAll cs

end

/-- The keyword says what the command is and gives it its place, and the argument its number. -/
def IntroducedBy (keyword argument : Word) : Command → Prop
  | step motion amount span => Lexicon.standard.step keyword.text motion ∧
      argument.number? = some amount ∧ keyword.span = span
  | loop count _ span => Lexicon.standard.loop keyword.text ∧
      argument.number? = some count ∧ keyword.span = span

theorem IntroducedBy.span_eq {keyword argument : Word} {c : Command}
    (h : c.IntroducedBy keyword argument) : keyword.span = c.span := by
  cases c with
  | step motion amount span => exact h.2.2
  | loop count body span => exact h.2.2

/-- The words are those of the commands: each has the place of its keyword, with its argument behind
it, and no word is left over. -/
structure SpelledBy (words : List Word) (cs : List Command) : Prop where
  spans_sublist : (cs.map span).Sublist (words.map Word.span)
  introduced : ∀ c ∈ cs, ∃ keyword argument,
    [keyword, argument] <:+: words ∧ c.IntroducedBy keyword argument
  length : words.length = 2 * cs.countP isStep + 4 * cs.countP isLoop

namespace SpelledBy

theorem nil : SpelledBy [] [] :=
  ⟨List.Sublist.refl _, by simp, rfl⟩

theorem append {words more : List Word} {cs ds : List Command} (h : SpelledBy words cs)
    (hmore : SpelledBy more ds) : SpelledBy (words ++ more) (cs ++ ds) where
  spans_sublist := by
    rw [List.map_append, List.map_append]
    exact h.spans_sublist.append hmore.spans_sublist
  introduced := by
    intro c hc
    rcases List.mem_append.mp hc with hc | hc
    · obtain ⟨keyword, argument, hnext, hintroduced⟩ := h.introduced c hc
      exact ⟨keyword, argument, hnext.trans (List.prefix_append _ _).isInfix, hintroduced⟩
    · obtain ⟨keyword, argument, hnext, hintroduced⟩ := hmore.introduced c hc
      exact ⟨keyword, argument, hnext.trans (List.suffix_append _ _).isInfix, hintroduced⟩
  length := by
    rw [List.length_append, h.length, hmore.length, List.countP_append, List.countP_append]
    omega

theorem step {keyword argument : Word} {motion : Motion} {amount : Int}
    (introduces : Lexicon.standard.step keyword.text motion)
    (number : argument.number? = some amount) :
    SpelledBy [keyword, argument] [.step motion amount keyword.span] where
  spans_sublist := (List.nil_sublist _).cons_cons _
  introduced := by
    intro c hc
    rw [List.mem_singleton.mp hc]
    exact ⟨keyword, argument, List.infix_refl _, introduces, number, rfl⟩
  length := rfl

theorem loop {keyword argument opening closing : Word} {words : List Word} {count : Int}
    {body nodes : List Command} (introduces : Lexicon.standard.loop keyword.text)
    (number : argument.number? = some count) (h : SpelledBy words nodes) :
    SpelledBy (keyword :: argument :: opening :: (words ++ [closing]))
      (.loop count body keyword.span :: nodes) where
  spans_sublist := by
    rw [List.map_cons, List.map_cons, List.map_cons, List.map_cons, List.map_append]
    exact (((h.spans_sublist.trans (List.sublist_append_left _ _)).cons _).cons _).cons_cons _
  introduced := by
    intro c hc
    rcases List.mem_cons.mp hc with rfl | hc
    · exact ⟨keyword, argument, (List.prefix_append _ _).isInfix, introduces, number, rfl⟩
    · obtain ⟨keyword', argument', hnext, hintroduced⟩ := h.introduced c hc
      have hblock : words <:+: keyword :: argument :: opening :: (words ++ [closing]) :=
        List.infix_append' [keyword, argument, opening] words [closing]
      exact ⟨keyword', argument', hnext.trans hblock, hintroduced⟩
  length := by
    have hsteps : (.loop count body keyword.span :: nodes).countP isStep = nodes.countP isStep :=
      List.countP_cons_of_neg Bool.false_ne_true
    have hloops : (.loop count body keyword.span :: nodes).countP isLoop =
        nodes.countP isLoop + 1 :=
      List.countP_cons_of_pos rfl
    simp only [List.length_cons, List.length_append, List.length_nil, h.length, hsteps, hloops]
    omega

end SpelledBy

mutual

theorem spelledBy_of_derives {words : List Word} {c : Command} (h : Derives .standard words c) :
    SpelledBy words c.preorder := by
  cases c with
  | step motion amount span =>
    cases h with
    | step introduces number =>
      rw [preorder]
      exact .step introduces number
  | loop count body span =>
    cases h with
    | loop introduces number opens block closes =>
      rw [Lexicon.standard_inside] at block
      rw [preorder]
      exact .loop introduces number (spelledBy_of_derivesAll block)

theorem spelledBy_of_derivesAll {words : List Word} {cs : List Command}
    (h : DerivesAll .standard words cs) : SpelledBy words (preorderAll cs) := by
  cases cs with
  | nil =>
    cases h
    rw [preorderAll]
    exact .nil
  | cons c cs =>
    cases h with
    | cons head tail =>
      rw [preorderAll]
      exact (spelledBy_of_derives head).append (spelledBy_of_derivesAll tail)

end

end Command

namespace Program

def nodes (p : Program) : List Command :=
  Command.preorderAll p.commands

/-- The commands of a program stand at different words, in order. -/
structure PlacedIn (words : List Word) (p : Program) : Prop where
  spans_sublist : (p.nodes.map Command.span).Sublist (words.map Word.span)
  increasing : (p.nodes.map Command.span).Pairwise Span.Precedes
  texts_nodup : (p.nodes.map fun c => c.span.text).Nodup
  /-- The word at the place of a command introduces it, with the word that follows. -/
  introduced : ∀ c ∈ p.nodes, ∀ keyword ∈ words, keyword.span = c.span →
    ∃ argument, [keyword, argument] <:+: words ∧ c.IntroducedBy keyword argument
  length : words.length = 1 + 2 * p.nodes.countP Command.isStep + 4 * p.nodes.countP Command.isLoop

end Program

/-- Every command of a program that has been read stands at its own word: line and column name at
most one. Each word of the script is the size or belongs to one command. -/
theorem parse_placed {script : String} {p : Program}
    (h : Program.parse script .standard = .ok p) : p.PlacedIn (Script.words script) := by
  rw [Program.parse_eq_ok_iff Vocabulary.plain_standard, Vocabulary.lexicon_standard] at h
  obtain ⟨size, rest, hwords, -, -, hderives, -⟩ := h
  have hspelled := Command.spelledBy_of_derivesAll hderives
  have hsublist : (p.nodes.map Command.span).Sublist ((Script.words script).map Word.span) := by
    rw [hwords]
    exact hspelled.spans_sublist.cons _
  have hincreasing := (Script.pairwise_words script).sublist hsublist
  have hnodup : ((Script.words script).map Word.span).Nodup :=
    (Script.pairwise_words script).imp fun hst heq => hst.text_ne (congrArg Span.text heq)
  refine ⟨hsublist, hincreasing, ?_, ?_, ?_⟩
  · have htexts : ((p.nodes.map Command.span).map Span.text).Nodup :=
      List.pairwise_map.mpr (hincreasing.imp Span.Precedes.text_ne)
    rwa [List.map_map] at htexts
  · intro c hc keyword hkeyword hspan
    obtain ⟨keyword', argument, hnext, hintroduced⟩ := hspelled.introduced c hc
    have hnext' : [keyword', argument] <:+: Script.words script :=
      hwords ▸ hnext.trans (List.suffix_cons size rest).isInfix
    -- No other word has the place of the command.
    have hsame : keyword' = keyword :=
      List.inj_on_of_nodup_map hnodup (hnext'.subset List.mem_cons_self) hkeyword
        (hintroduced.span_eq.trans hspan.symm)
    exact ⟨argument, hsame ▸ hnext', hsame ▸ hintroduced⟩
  · rw [hwords, List.length_cons, hspelled.length, Program.nodes]
    omega

/-- A loop in a loop, on three lines and with a blank of three bytes. -/
theorem parse_placed_nested :
    let script := "5 REPEAT 2 [\n\tFD 1\u3000REPEAT 3 [ ]\n] LEFT 45"
    let p : Program := ⟨5, [.loop 2 [.step .forward 1 ⟨14, 16, 2, 2⟩, .loop 3 [] ⟨21, 27, 2, 7⟩]
      ⟨2, 8, 1, 3⟩, .step .left 45 ⟨36, 40, 3, 3⟩]⟩
    Program.parse script .standard = .ok p ∧
      p.nodes.map (fun c => c.span.text) = ["1:3", "2:2", "2:7", "3:3"] ∧
        p.PlacedIn (Script.words script) := by
  intro script p
  have hparse : Program.parse script .standard = .ok p := by decide +kernel
  exact ⟨hparse, by decide +kernel, parse_placed hparse⟩

end TurtleGraphics
