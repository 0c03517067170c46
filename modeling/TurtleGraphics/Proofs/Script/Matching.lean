import TurtleGraphics.Proofs.Script.Layout
import TurtleGraphics.Script.Reading

/-!
# Words by matchers

A matcher takes something off the front of a text, or fails. Words can be matched one after the
other: blanks and a word, as often as that matches, and the blanks that are left. A repetition
stops at the first match that fails and is put back in front of it, and fails itself if a match
takes nothing, so it is to be shown that this never happens and that nothing is left. The matched
words have no columns: those need a second pass.
-/

namespace TurtleGraphics

open Text

structure Located where
  offset : Nat
  line : Nat
  chars : List Char

namespace Located

def ofScript (script : String) : Located := ⟨0, 1, script.toList⟩

def span (q : Char → Bool) (text : Located) : Located × Located :=
  let taken := text.chars.takeWhile q
  (⟨text.offset, text.line, taken⟩,
    ⟨text.offset + String.utf8Len taken, text.line + taken.count '\n', text.chars.dropWhile q⟩)

def placed (p : Position) (cs : List Char) : Located := ⟨p.offset, p.line, cs⟩

theorem span_placed (p : Position) {q : Char → Bool} {run rest : List Char}
    (hrun : ∀ c ∈ run, q c = true) (hrest : ∀ c ∈ rest.head?, q c = false) :
    (placed p (run ++ rest)).span q = (placed p run, placed (p.advanceAll run) rest) := by
  simp only [span, placed, takeWhile_run hrun hrest, dropWhile_run hrun hrest,
    Position.advanceAll_offset, Position.advanceAll_line]

end Located

abbrev Matcher (α : Type) := Located → Option (α × Located)

namespace Matcher

variable {α β : Type}

def takeWhile (q : Char → Bool) : Matcher Located := fun text =>
  some (text.span q)

def takeTill1 (q : Char → Bool) : Matcher Located := fun text =>
  let (taken, rest) := text.span fun c => !q c
  if taken.chars = [] then none else some (taken, rest)

def map (f : α → β) (m : Matcher α) : Matcher β := fun text =>
  (m text).map fun (a, rest) => (f a, rest)

def preceded (first : Matcher α) (second : Matcher β) : Matcher β := fun text =>
  (first text).bind fun (_, rest) => second rest

def terminated (first : Matcher α) (second : Matcher β) : Matcher α := fun text =>
  (first text).bind fun (a, rest) => (second rest).map fun (_, rest) => (a, rest)

def many0 (m : Matcher α) (text : Located) : Option (List α × Located) :=
  match m text with
  | none => some ([], text)
  | some (a, rest) =>
    if rest.chars.length < text.chars.length then
      (many0 m rest).map fun (as, rest) => (a :: as, rest)
    else none
termination_by text.chars.length

def blank : Matcher Located := takeWhile isBlank

def word : Matcher Word :=
  map (fun text => ⟨String.ofList text.chars,
    ⟨text.offset, text.offset + String.utf8Len text.chars, text.line, 0⟩⟩) (takeTill1 isBlank)

def words : Matcher (List Word) :=
  terminated (many0 (preceded blank word)) blank

end Matcher

def Word.withoutColumn (w : Word) : Word :=
  ⟨w.text, { w.span with column := 0 }⟩

namespace Matcher

theorem blank_placed (p : Position) (gap : Gap) {rest : List Char}
    (h : ∀ c ∈ rest.head?, isBlank c = false) :
    blank (.placed p (gap.chars ++ rest)) =
      some (.placed p gap.chars, .placed (p.advanceAll gap.chars) rest) := by
  rw [blank, takeWhile, Located.span_placed p gap.blank h]

theorem blank_placed_nil (p : Position) (gap : Gap) :
    blank (.placed p gap.chars) =
      some (.placed p gap.chars, .placed (p.advanceAll gap.chars) []) := by
  have hblank : blank (.placed p (gap.chars ++ [])) = _ := blank_placed p gap (by simp)
  rwa [List.append_nil] at hblank

theorem word_placed (p : Position) {text : String} (htext : Script.IsWordText text)
    {rest : List Char} (h : ∀ c ∈ rest.head?, isBlank c = true) :
    word (.placed p (text.toList ++ rest)) =
      some (Word.withoutColumn ⟨text, Span.between p (p.advanceAll text.toList)⟩,
        .placed (p.advanceAll text.toList) rest) := by
  obtain ⟨hne, hblank⟩ := htext
  have hspan := Located.span_placed p (q := fun c => !isBlank c) (by simpa using hblank)
    (by simpa using h)
  have htake : takeTill1 isBlank (.placed p (text.toList ++ rest)) =
      some (.placed p text.toList, .placed (p.advanceAll text.toList) rest) := by
    simp only [takeTill1, hspan]
    exact if_neg hne
  rw [word, map, htake, Option.map_some]
  simp only [Located.placed, String.ofList_toList, Word.withoutColumn, Span.between,
    Position.advanceAll_offset]

theorem preceded_placed (p : Position) (lead : Gap) {piece : Piece} {rest : List Char}
    (h : ∀ c ∈ rest.head?, isBlank c = true) :
    preceded blank word (.placed p (lead.chars ++ (piece.text.toList ++ rest))) =
      some (Word.withoutColumn ⟨piece.text, Span.between (p.advanceAll lead.chars)
          ((p.advanceAll lead.chars).advanceAll piece.text.toList)⟩,
        .placed ((p.advanceAll lead.chars).advanceAll piece.text.toList) rest) := by
  rw [preceded, blank_placed p lead (piece.head?_text_append rest)]
  exact word_placed _ piece.isWordText h

theorem preceded_placed_nil (p : Position) (gap : Gap) :
    preceded blank word (.placed p gap.chars) = none := by
  rw [preceded, blank_placed_nil]
  rfl

theorem many0_of_none {α : Type} {m : Matcher α} {text : Located} (h : m text = none) :
    many0 m text = some ([], text) := by
  rw [many0, h]

theorem many0_of_some {α : Type} {m : Matcher α} {text rest : Located} {a : α}
    (h : m text = some (a, rest)) (hlen : rest.chars.length < text.chars.length) :
    many0 m text = (many0 m rest).map fun (as, rest) => (a :: as, rest) := by
  rw [many0, h]
  exact if_pos hlen

/-- The repetition ends in front of the last blanks, behind every word. -/
theorem many0_placed (p : Position) (lead : Gap) {pieces : List Piece}
    (h : ∀ piece ∈ pieces.dropLast, piece.gap.chars ≠ []) :
    ∃ (q : Position) (gap : Gap),
      many0 (preceded blank word) (.placed p (lead.chars ++ pieces.flatMap Piece.chars)) =
        some ((Piece.words (p.advanceAll lead.chars) pieces).map Word.withoutColumn,
          .placed q gap.chars) := by
  induction pieces generalizing p lead with
  | nil =>
    -- The last try skips blanks and then finds no word, so it is taken back with the blanks.
    refine ⟨p, lead, ?_⟩
    rw [List.flatMap_nil, List.append_nil, many0_of_none (preceded_placed_nil p lead)]
    rfl
  | cons piece pieces ih =>
    obtain ⟨q, gap, hrest⟩ := ih ((p.advanceAll lead.chars).advanceAll piece.text.toList) piece.gap
      (Layout.separated_tail h)
    refine ⟨q, gap, ?_⟩
    have hlen : 0 < piece.text.toList.length := List.length_pos_iff.mpr piece.isWordText.1
    rw [List.flatMap_cons, Piece.chars, List.append_assoc,
      many0_of_some (preceded_placed p lead (Layout.head?_gap h)), hrest]
    · simp only [Option.map_some, Piece.words, List.map_cons, Piece.chars,
        Position.advanceAll_append]
    · simp only [Located.placed, List.length_append]
      omega

/-- The words of a script are matched, and nothing of it is left. -/
theorem words_ofScript (script : String) :
    ∃ rest, words (.ofScript script) =
      some ((Script.words script).map Word.withoutColumn, rest) ∧ rest.chars = [] := by
  obtain ⟨l, rfl⟩ := Layout.exists_script_eq script
  obtain ⟨q, gap, hmany⟩ := many0_placed .start l.lead l.separated
  have htext : Located.ofScript l.script = .placed .start l.chars := by
    rw [Located.ofScript, Layout.script, String.toList_ofList]
    rfl
  refine ⟨.placed (q.advanceAll gap.chars) [], ?_, rfl⟩
  rw [htext, words, terminated, Layout.chars, hmany, Option.bind_some, l.words_script]
  dsimp only
  rw [blank_placed_nil]
  rfl

end Matcher

inductive Reading.Gives : Reading → List Word → Prop
  | nil {r : Reading} (last : Reader.take? r = .ok none r) : Gives r []
  | cons {r r' : Reading} {w : Word} {ws : List Word} (first : Reader.take? r = .ok (some w) r')
      (rest : Gives r' ws) : Gives r (w :: ws)

theorem Reading.gives_iff {r : Reading} {ws : List Word} : r.Gives ws ↔ ws = r.rest := by
  constructor
  · intro h
    induction h with
    | @nil r last =>
      obtain ⟨rest, depth⟩ := r
      cases rest with
      | nil => rfl
      | cons w rest => cases last
    | @cons r r' w ws first rest ih =>
      obtain ⟨rest, depth⟩ := r
      cases rest with
      | nil => cases first
      | cons w rest =>
        cases first
        exact congrArg (List.cons w) ih
  · rintro rfl
    obtain ⟨rest, depth⟩ := r
    induction rest with
    | nil => exact .nil rfl
    | cons w rest ih => exact .cons rfl ih

/-- The words of a script are its longest runs without blanks. Matching them never fails and leaves
nothing, taking them one by one gives all of them, and with the blanks around them they make up
the script in the only way there is. Each stands where the bytes and lines before it say. -/
theorem words_are_maximal_runs (script : String) :
    (∃ rest, Matcher.words (.ofScript script) =
      some ((Script.words script).map Word.withoutColumn, rest) ∧ rest.chars = []) ∧
    (∀ ws, (Reading.ofScript script).Gives ws ↔ ws = Script.words script) ∧
    ∃ l : Layout, l.script = script ∧ (∀ m : Layout, m.script = script → m = l) ∧
      (Script.words script).map Word.text = l.texts ∧
      ∀ i w, (Script.words script)[i]? = some w →
        w.span.start = (l.before i).utf8ByteSize ∧
        w.span.stop = w.span.start + w.text.utf8ByteSize ∧
        w.span.line = 1 + (l.before i).toList.count '\n' := by
  refine ⟨Matcher.words_ofScript script, fun ws => Reading.gives_iff, ?_⟩
  obtain ⟨l, rfl⟩ := Layout.exists_script_eq script
  refine ⟨l, rfl, fun m hm => Layout.eq_of_script_eq hm, l.map_text_words_script, ?_⟩
  intro i w hw
  rw [l.words_script] at hw
  rw [Layout.span_of_getElem? hw, ← Position.advanceAll_append, Layout.before,
    String.utf8ByteSize_ofList, String.toList_ofList, ← String.utf8Len_toList]
  simp only [Span.between, Position.advanceAll_offset, Position.advanceAll_line]
  exact ⟨Nat.zero_add _, trivial, rfl⟩

end TurtleGraphics
