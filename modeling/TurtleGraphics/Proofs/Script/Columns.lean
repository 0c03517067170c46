import Mathlib.Data.List.Induction
import TurtleGraphics.Proofs.Script.Matching

/-!
# Columns in a second pass

Matched words have no columns. Going back from each word to the start of its line would find them
(`columnBehind`), but would read a long line again and again. `fillColumns` goes from word to word
instead: it counts the characters of the stretch between the starts of two words, from its last
newline on if it has one. Stretches are cut out by byte offsets, and a cut can fail; none of these
does, and the two passes find exactly the words of the script.
-/

namespace TurtleGraphics

open Text

namespace Text

/-- The part of a text between two byte offsets. There is none if they are out of order, and none
if one of them is beyond the text or inside a character. -/
def slice? (text : String) (first last : Nat) : Option String :=
  if first ≤ last ∧ String.Pos.Raw.isValid text ⟨first⟩ ∧ String.Pos.Raw.isValid text ⟨last⟩ then
    some (String.Pos.Raw.extract text ⟨first⟩ ⟨last⟩)
  else none

def lastNewline? (text : String) : Option Nat :=
  match text.toList.reverse.dropWhile (· ≠ '\n') with
  | [] => none
  | _ :: before => some (String.utf8Len before)

def columnAcross? (column : Nat) (stretch : String) : Option Nat :=
  match lastNewline? stretch with
  | none => some (column + stretch.length)
  | some i => (slice? stretch (i + 1) stretch.utf8ByteSize).map fun tail => tail.length + 1

def columnBehind (before : List Char) : Nat :=
  1 + (before.reverse.takeWhile (· ≠ '\n')).length

theorem isValid_utf8Len (before after : List Char) :
    String.Pos.Raw.isValid (String.ofList (before ++ after)) ⟨String.utf8Len before⟩ = true := by
  rw [String.Pos.Raw.isValid_eq_true_iff, String.Pos.Raw.isValid_iff_exists_append]
  refine ⟨String.ofList before, String.ofList after, String.ofList_append, ?_⟩
  rw [String.rawEndPos_ofList]

theorem slice?_append (before stretch after : List Char) :
    slice? (String.ofList (before ++ stretch ++ after)) (String.utf8Len before)
      (String.utf8Len before + String.utf8Len stretch) = some (String.ofList stretch) := by
  have hfirst := isValid_utf8Len before (stretch ++ after)
  have hlast := isValid_utf8Len (before ++ stretch) after
  rw [← List.append_assoc] at hfirst
  rw [String.utf8Len_append] at hlast
  rw [slice?, if_pos ⟨Nat.le_add_right _ _, hfirst, hlast⟩, String.extract_of_valid]

theorem ne_newline_of_not_mem {cs : List Char} (h : '\n' ∉ cs) :
    ∀ c ∈ cs.reverse, decide (c ≠ '\n') = true := by
  intro c hc
  have hne : c ≠ '\n' := fun heq => h (heq ▸ List.mem_reverse.mp hc)
  exact decide_eq_true hne

theorem head?_newline (cs : List Char) :
    ∀ c ∈ ('\n' :: cs).head?, decide (c ≠ '\n') = false := by
  intro c hc
  obtain rfl : '\n' = c := Option.some.inj hc
  rfl

theorem lastNewline?_of_not_mem {cs : List Char} (h : '\n' ∉ cs) :
    lastNewline? (String.ofList cs) = none := by
  have hdrop : (cs.reverse ++ []).dropWhile (· ≠ '\n') = [] :=
    dropWhile_run (ne_newline_of_not_mem h) (by simp)
  rw [List.append_nil] at hdrop
  rw [lastNewline?, String.toList_ofList, hdrop]

theorem lastNewline?_append {tail : List Char} (h : '\n' ∉ tail) (before : List Char) :
    lastNewline? (String.ofList (before ++ '\n' :: tail)) = some (String.utf8Len before) := by
  have hdrop := dropWhile_run (ne_newline_of_not_mem h) (head?_newline before.reverse)
  rw [lastNewline?, String.toList_ofList, List.reverse_append, List.reverse_cons,
    List.append_assoc, List.singleton_append, hdrop]
  exact congrArg some (String.utf8Len_reverse before)

theorem columnBehind_append_of_not_mem {stretch : List Char} (h : '\n' ∉ stretch)
    (before : List Char) :
    columnBehind (before ++ stretch) = columnBehind before + stretch.length := by
  rw [columnBehind, List.reverse_append,
    List.takeWhile_append_of_pos (ne_newline_of_not_mem h), List.length_append,
    List.length_reverse, columnBehind]
  omega

theorem columnBehind_append_newline {tail : List Char} (h : '\n' ∉ tail) (before : List Char) :
    columnBehind (before ++ '\n' :: tail) = tail.length + 1 := by
  have htake := takeWhile_run (ne_newline_of_not_mem h) (head?_newline before.reverse)
  rw [columnBehind, List.reverse_append, List.reverse_cons, List.append_assoc,
    List.singleton_append, htake, List.length_reverse, Nat.add_comm]

theorem slice?_behind_newline (before tail : List Char) :
    let text := String.ofList (before ++ '\n' :: tail)
    slice? text (String.utf8Len before + 1) text.utf8ByteSize = some (String.ofList tail) := by
  intro text
  have hslice := slice?_append (before ++ ['\n']) tail []
  have hfirst : String.utf8Len (before ++ ['\n']) = String.utf8Len before + 1 := by
    rw [String.utf8Len_append]
    rfl
  have hlast : text.utf8ByteSize = String.utf8Len before + 1 + String.utf8Len tail := by
    rw [String.utf8ByteSize_ofList, String.utf8Len_append, String.utf8Len_cons, Nat.add_assoc,
      Nat.add_comm 1]
    rfl
  rwa [hfirst, ← hlast, List.append_nil, List.append_assoc, List.singleton_append] at hslice

theorem exists_last_newline {cs : List Char} (h : '\n' ∈ cs) :
    ∃ before tail, cs = before ++ '\n' :: tail ∧ '\n' ∉ tail := by
  obtain ⟨tail, before, hreverse, htail⟩ := List.eq_append_cons_of_mem (List.mem_reverse.mpr h)
  refine ⟨before.reverse, tail.reverse, ?_, mt List.mem_reverse.mp htail⟩
  rw [← List.reverse_reverse cs, hreverse, List.reverse_append, List.reverse_cons,
    List.append_assoc, List.singleton_append]

/-- Counting on from one place to another gives what going back from the other gives. -/
theorem columnAcross?_eq (before stretch : List Char) :
    columnAcross? (columnBehind before) (String.ofList stretch) =
      some (columnBehind (before ++ stretch)) := by
  by_cases h : '\n' ∈ stretch
  · obtain ⟨start, tail, rfl, htail⟩ := exists_last_newline h
    rw [columnAcross?, lastNewline?_append htail]
    dsimp only
    rw [slice?_behind_newline, Option.map_some, String.length_ofList, ← List.append_assoc,
      columnBehind_append_newline htail]
  · rw [columnAcross?, lastNewline?_of_not_mem h, columnBehind_append_of_not_mem h,
      String.length_ofList]

theorem Position.column_advanceAll_start (cs : List Char) :
    (Position.start.advanceAll cs).column = columnBehind cs := by
  induction cs using List.reverseRecOn with
  | nil => rfl
  | append_singleton cs c ih =>
    rw [Position.advanceAll_append, Position.advanceAll_cons, Position.advanceAll_nil,
      Position.advance_column]
    by_cases hc : c = '\n'
    · rw [if_pos hc, hc, columnBehind_append_newline (List.not_mem_nil)]
      rfl
    · rw [if_neg hc, ih, columnBehind_append_of_not_mem (by simpa [eq_comm] using hc)]
      rfl

end Text

/-- Gives every word its column; `column` is the one at the byte `offset`, where the word before
starts. -/
def Script.fillColumns (script : String) : Nat → Nat → List Word → Option (List Word)
  | _, _, [] => some []
  | offset, column, w :: ws => do
    let stretch ← slice? script offset w.span.start
    let column ← columnAcross? column stretch
    let rest ← fillColumns script w.span.start column ws
    return ⟨w.text, { w.span with column }⟩ :: rest

def Script.wordsInTwoPasses (script : String) : Option (List Word) := do
  let (words, _) ← Matcher.words (.ofScript script)
  fillColumns script 0 1 words

namespace Script

theorem fillColumns_cons {script stretch : String} {offset column column' : Nat} {w : Word}
    {ws rest : List Word} (hstretch : slice? script offset w.span.start = some stretch)
    (hcolumn : columnAcross? column stretch = some column')
    (hrest : fillColumns script w.span.start column' ws = some rest) :
    fillColumns script offset column (w :: ws) =
      some (⟨w.text, { w.span with column := column' }⟩ :: rest) := by
  simp only [fillColumns, hstretch, hcolumn, hrest, Option.bind_eq_bind, Option.bind_some,
    Option.pure_def]

/-- The pass over the words behind a place. `before` ends where the last word starts that has its
column, and `stretch` goes on from there to the next one. -/
theorem fillColumns_pieces {script : String} {before stretch : List Char} {pieces : List Piece}
    (h : script.toList = before ++ stretch ++ pieces.flatMap Piece.chars) :
    let words := Piece.words (Position.start.advanceAll (before ++ stretch)) pieces
    fillColumns script (String.utf8Len before) (columnBehind before)
      (words.map Word.withoutColumn) = some words := by
  induction pieces generalizing before stretch with
  | nil => rfl
  | cons piece pieces ih =>
    have hscript : script =
        String.ofList (before ++ stretch ++ (piece :: pieces).flatMap Piece.chars) := by
      rw [← h, String.ofList_toList]
    have hstart : (Position.start.advanceAll (before ++ stretch)).offset =
        String.utf8Len before + String.utf8Len stretch := by
      rw [Position.advanceAll_offset, String.utf8Len_append]
      exact Nat.zero_add _
    have hslice := slice?_append before stretch ((piece :: pieces).flatMap Piece.chars)
    rw [← hscript, ← hstart] at hslice
    -- The next stretch is the text of this word and the gap behind it.
    have hnext : script.toList =
        before ++ stretch ++ piece.chars ++ pieces.flatMap Piece.chars := by
      rw [h, List.flatMap_cons, List.append_assoc (before ++ stretch)]
    have hrest := ih hnext
    rw [String.utf8Len_append, ← hstart, Position.advanceAll_append .start] at hrest
    let first := Position.start.advanceAll (before ++ stretch)
    let w : Word := ⟨piece.text, Span.between first (first.advanceAll piece.text.toList)⟩
    have hcons := fillColumns_cons (w := w.withoutColumn) hslice
      (columnAcross?_eq before stretch) hrest
    rw [← Position.column_advanceAll_start (before ++ stretch)] at hcons
    exact hcons

theorem wordsInTwoPasses_eq (script : String) :
    wordsInTwoPasses script = some (words script) := by
  obtain ⟨rest, hmatched, _⟩ := Matcher.words_ofScript script
  obtain ⟨l, rfl⟩ := Layout.exists_script_eq script
  have hscript : l.script.toList = [] ++ l.lead.chars ++ l.pieces.flatMap Piece.chars := by
    rw [Layout.script, String.toList_ofList]
    rfl
  rw [wordsInTwoPasses, hmatched, Option.bind_eq_bind, Option.bind_some]
  dsimp only
  rw [l.words_script]
  exact fillColumns_pieces hscript

end Script

/-- A pass that counts columns from word to word never cuts the script at a wrong place, and finds
for each word the column that going back to the start of its line gives. -/
theorem columns_agree_with_rescan (script : String) :
    Script.wordsInTwoPasses script = some (Script.words script) ∧
    ∀ w ∈ Script.words script, ∃ before, slice? script 0 w.span.start = some before ∧
      w.span.column = columnBehind before.toList := by
  refine ⟨Script.wordsInTwoPasses_eq script, ?_⟩
  intro w hw
  obtain ⟨l, rfl⟩ := Layout.exists_script_eq script
  obtain ⟨i, hi⟩ := List.getElem?_of_mem hw
  rw [l.words_script] at hi
  have hspan := Layout.span_of_getElem? hi
  rw [← Position.advanceAll_append] at hspan
  have hstart : w.span.start = String.utf8Len [] + String.utf8Len (l.before i).toList := by
    rw [hspan, Layout.before, String.toList_ofList]
    exact Position.advanceAll_offset .start _
  refine ⟨l.before i, ?_, ?_⟩
  · have hslice := slice?_append [] (l.before i).toList ((l.pieces.drop i).flatMap Piece.chars)
    rw [List.nil_append, ← l.chars_eq_before i, ← hstart, String.ofList_toList] at hslice
    exact hslice
  · rw [hspan, Layout.before, String.toList_ofList]
    exact Position.column_advanceAll_start _

end TurtleGraphics
