import Mathlib.Data.String.Basic
import TurtleGraphics.Proofs.Script.Words

/-!
# Layouts

A layout cuts a script into its words and the blanks around them. Every text has exactly one
layout (`Layout.exists_script_eq`, `Layout.eq_of_script_eq`), and the words of the text are the
words of the layout, at the places that the characters before them give (`Layout.words_script`,
`Layout.span_of_getElem?`).
-/

namespace TurtleGraphics

open Text

namespace Text.Position

theorem advanceAll_offset (p : Position) (cs : List Char) :
    (p.advanceAll cs).offset = p.offset + String.utf8Len cs := by
  induction cs generalizing p with
  | nil => rfl
  | cons c cs ih =>
    rw [advanceAll_cons, ih, advance_offset, String.utf8Len_cons]
    omega

theorem advanceAll_line (p : Position) (cs : List Char) :
    (p.advanceAll cs).line = p.line + cs.count '\n' := by
  induction cs generalizing p with
  | nil => rfl
  | cons c cs ih =>
    rw [advanceAll_cons, ih, advance_line, List.count_cons]
    by_cases hc : c = '\n'
    · simp only [hc, if_true, beq_self_eq_true]
      omega
    · simp [hc]

end Text.Position

namespace Text

variable {q : Char → Bool} {run rest : List Char}

theorem takeWhile_run (hrun : ∀ c ∈ run, q c = true) (hrest : ∀ c ∈ rest.head?, q c = false) :
    (run ++ rest).takeWhile q = run := by
  rw [List.takeWhile_append_of_pos hrun]
  cases rest with
  | nil => exact List.append_nil run
  | cons c rest => simp [hrest c rfl]

theorem dropWhile_run (hrun : ∀ c ∈ run, q c = true) (hrest : ∀ c ∈ rest.head?, q c = false) :
    (run ++ rest).dropWhile q = rest := by
  rw [List.dropWhile_append_of_pos hrun]
  cases rest with
  | nil => rfl
  | cons c rest => simp [hrest c rfl]

/-- Where a run of characters ends is determined by what may follow it. -/
theorem run_unique {run' rest' : List Char} (hrun : ∀ c ∈ run, q c = true)
    (hrest : ∀ c ∈ rest.head?, q c = false) (hrun' : ∀ c ∈ run', q c = true)
    (hrest' : ∀ c ∈ rest'.head?, q c = false) (h : run ++ rest = run' ++ rest') :
    run = run' ∧ rest = rest' := by
  constructor
  · rw [← takeWhile_run hrun hrest, h, takeWhile_run hrun' hrest']
  · rw [← dropWhile_run hrun hrest, h, dropWhile_run hrun' hrest']

end Text

@[ext] structure Gap where
  chars : List Char
  blank : ∀ c ∈ chars, isBlank c = true

@[ext] structure Piece where
  text : String
  gap : Gap
  isWordText : Script.IsWordText text

namespace Piece

def chars (piece : Piece) : List Char :=
  piece.text.toList ++ piece.gap.chars

def words : Position → List Piece → List Word
  | _, [] => []
  | p, piece :: pieces =>
    ⟨piece.text, Span.between p (p.advanceAll piece.text.toList)⟩ ::
      words (p.advanceAll piece.chars) pieces

theorem flatMap_chars_ne_nil (piece : Piece) (pieces : List Piece) :
    (piece :: pieces).flatMap chars ≠ [] := by
  rw [List.flatMap_cons, chars, List.append_assoc]
  exact List.append_ne_nil_of_left_ne_nil piece.isWordText.1 _

theorem head?_text_append (piece : Piece) (rest : List Char) :
    ∀ c ∈ (piece.text.toList ++ rest).head?, isBlank c = false := by
  intro c hc
  obtain ⟨hne, hblank⟩ := piece.isWordText
  obtain ⟨d, ds, hds⟩ := List.exists_cons_of_ne_nil hne
  rw [hds] at hc hblank
  obtain rfl : d = c := Option.some.inj hc
  exact hblank d List.mem_cons_self

theorem head?_flatMap_chars (pieces : List Piece) :
    ∀ c ∈ (pieces.flatMap chars).head?, isBlank c = false := by
  cases pieces with
  | nil =>
    intro c hc
    cases hc
  | cons piece pieces =>
    rw [List.flatMap_cons, chars, List.append_assoc]
    exact piece.head?_text_append _

end Piece

/-- A script as blanks and words in turn. Only the last word may have no blank behind it. -/
@[ext] structure Layout where
  lead : Gap
  pieces : List Piece
  separated : ∀ piece ∈ pieces.dropLast, piece.gap.chars ≠ []

namespace Layout

def chars (l : Layout) : List Char :=
  l.lead.chars ++ l.pieces.flatMap Piece.chars

def script (l : Layout) : String :=
  String.ofList l.chars

def texts (l : Layout) : List String :=
  l.pieces.map Piece.text

def before (l : Layout) (i : Nat) : String :=
  String.ofList (l.lead.chars ++ (l.pieces.take i).flatMap Piece.chars)

theorem chars_eq_before (l : Layout) (i : Nat) :
    l.chars = (l.before i).toList ++ (l.pieces.drop i).flatMap Piece.chars := by
  rw [before, String.toList_ofList, List.append_assoc, ← List.flatMap_append,
    List.take_append_drop, chars]

theorem separated_tail {piece : Piece} {pieces : List Piece}
    (h : ∀ q ∈ (piece :: pieces).dropLast, q.gap.chars ≠ []) :
    ∀ q ∈ pieces.dropLast, q.gap.chars ≠ [] := by
  intro q hq
  apply h
  cases pieces with
  | nil => cases hq
  | cons piece' pieces =>
    rw [List.dropLast_cons_cons]
    exact List.mem_cons_of_mem piece hq

/-- What follows a word is the end of the text or a blank. -/
theorem head?_gap {piece : Piece} {pieces : List Piece}
    (h : ∀ q ∈ (piece :: pieces).dropLast, q.gap.chars ≠ []) :
    ∀ c ∈ (piece.gap.chars ++ pieces.flatMap Piece.chars).head?, isBlank c = true := by
  intro c hc
  cases hgap : piece.gap.chars with
  | nil =>
    cases pieces with
    | nil =>
      rw [hgap] at hc
      cases hc
    | cons piece' pieces =>
      rw [List.dropLast_cons_cons] at h
      exact absurd hgap (h piece List.mem_cons_self)
  | cons d ds =>
    rw [hgap] at hc
    obtain rfl : d = c := Option.some.inj hc
    apply piece.gap.blank
    rw [hgap]
    exact List.mem_cons_self

/-- The words of a text are those of its layout. -/
theorem wordsFrom_pieces (p : Position) (lead : Gap) {pieces : List Piece}
    (h : ∀ piece ∈ pieces.dropLast, piece.gap.chars ≠ []) :
    Script.wordsFrom p (lead.chars ++ pieces.flatMap Piece.chars) =
      Piece.words (p.advanceAll lead.chars) pieces := by
  induction pieces generalizing p lead with
  | nil =>
    rw [Script.wordsFrom_blanks p lead.blank]
    rfl
  | cons piece pieces ih =>
    have hrest := ih ((p.advanceAll lead.chars).advanceAll piece.text.toList) piece.gap
      (separated_tail h)
    rw [Script.wordsFrom_blanks p lead.blank, List.flatMap_cons, Piece.chars, List.append_assoc,
      Script.wordsFrom_word _ piece.isWordText (head?_gap h), hrest, Piece.words, Piece.chars,
      Position.advanceAll_append]

theorem words_script (l : Layout) :
    Script.words l.script = Piece.words (Position.start.advanceAll l.lead.chars) l.pieces := by
  rw [Script.words_eq, script, String.toList_ofList]
  exact wordsFrom_pieces .start l.lead l.separated

theorem map_text_words (p : Position) (pieces : List Piece) :
    (Piece.words p pieces).map Word.text = pieces.map Piece.text := by
  induction pieces generalizing p with
  | nil => rfl
  | cons piece pieces ih => rw [Piece.words, List.map_cons, List.map_cons, ih]

theorem map_text_words_script (l : Layout) : (Script.words l.script).map Word.text = l.texts := by
  rw [l.words_script, map_text_words, texts]

theorem span_of_getElem? {p : Position} {pieces : List Piece} {i : Nat} {w : Word}
    (h : (Piece.words p pieces)[i]? = some w) :
    w.span =
      Span.between (p.advanceAll ((pieces.take i).flatMap Piece.chars))
        ((p.advanceAll ((pieces.take i).flatMap Piece.chars)).advanceAll w.text.toList) := by
  induction pieces generalizing p i with
  | nil => cases h
  | cons piece pieces ih =>
    cases i with
    | zero =>
      obtain rfl := Option.some.inj h
      rfl
    | succ i =>
      rw [List.take_succ_cons, List.flatMap_cons, Position.advanceAll_append]
      exact ih h

theorem separated_cons {piece : Piece} {pieces : List Piece}
    (hpiece : pieces ≠ [] → piece.gap.chars ≠ [])
    (h : ∀ q ∈ pieces.dropLast, q.gap.chars ≠ []) :
    ∀ q ∈ (piece :: pieces).dropLast, q.gap.chars ≠ [] := by
  intro q hq
  cases pieces with
  | nil => cases hq
  | cons piece' pieces =>
    rw [List.dropLast_cons_cons] at hq
    rcases List.mem_cons.mp hq with rfl | hq
    · exact hpiece (List.cons_ne_nil _ _)
    · exact h q hq

def addBlank (l : Layout) (c : Char) (hc : isBlank c = true) : Layout :=
  ⟨⟨c :: l.lead.chars, List.forall_mem_cons.mpr ⟨hc, l.lead.blank⟩⟩, l.pieces, l.separated⟩

/-- One more letter in front of a layout. It is a part of the first word if that is not divided
from it by a blank, and a word of its own otherwise. -/
def addLetter (l : Layout) (c : Char) (hc : isBlank c = false) : Layout :=
  match l with
  | ⟨lead, [], _⟩ =>
    ⟨⟨[], by simp⟩, [⟨String.singleton c, lead, Script.isWordText_singleton hc⟩], by simp⟩
  | ⟨lead, piece :: pieces, separated⟩ =>
    if hlead : lead.chars = [] then
      ⟨lead, ⟨String.singleton c ++ piece.text, piece.gap,
          Script.isWordText_append (Script.isWordText_singleton hc) piece.isWordText⟩ :: pieces,
        separated_cons (fun hne => separated piece (by
          obtain ⟨q, qs, rfl⟩ := List.exists_cons_of_ne_nil hne
          exact List.mem_cons_self)) (separated_tail separated)⟩
    else
      ⟨⟨[], by simp⟩, ⟨String.singleton c, lead, Script.isWordText_singleton hc⟩ :: piece :: pieces,
        separated_cons (fun _ => hlead) separated⟩

theorem chars_addLetter (l : Layout) (c : Char) (hc : isBlank c = false) :
    (l.addLetter c hc).chars = c :: l.chars := by
  obtain ⟨lead, pieces, separated⟩ := l
  cases pieces with
  | nil => simp [addLetter, chars, Piece.chars]
  | cons piece pieces =>
    by_cases hlead : lead.chars = []
    · simp [addLetter, chars, Piece.chars, hlead]
    · simp [addLetter, chars, Piece.chars, hlead]

def ofChars : List Char → Layout
  | [] => ⟨⟨[], by simp⟩, [], by simp⟩
  | c :: cs =>
    if hc : isBlank c = true then (ofChars cs).addBlank c hc
    else (ofChars cs).addLetter c (Bool.eq_false_iff.mpr hc)

theorem chars_ofChars (cs : List Char) : (ofChars cs).chars = cs := by
  induction cs with
  | nil => rfl
  | cons c cs ih =>
    rw [ofChars]
    split
    · exact congrArg (List.cons c) ih
    · rw [chars_addLetter, ih]

theorem exists_script_eq (script : String) : ∃ l : Layout, l.script = script :=
  ⟨ofChars script.toList, by rw [Layout.script, chars_ofChars, String.ofList_toList]⟩

theorem pieces_eq_of_flatMap_chars_eq {pieces pieces' : List Piece}
    (hsep : ∀ piece ∈ pieces.dropLast, piece.gap.chars ≠ [])
    (hsep' : ∀ piece ∈ pieces'.dropLast, piece.gap.chars ≠ [])
    (h : pieces.flatMap Piece.chars = pieces'.flatMap Piece.chars) : pieces = pieces' := by
  induction pieces generalizing pieces' with
  | nil =>
    cases pieces' with
    | nil => rfl
    | cons piece' pieces' => exact absurd h.symm (piece'.flatMap_chars_ne_nil pieces')
  | cons piece pieces ih =>
    cases pieces' with
    | nil => exact absurd h (piece.flatMap_chars_ne_nil pieces)
    | cons piece' pieces' =>
      simp only [List.flatMap_cons, Piece.chars, List.append_assoc] at h
      -- The first word ends where the first blank is, and the gap where the next word starts.
      obtain ⟨htext, hrest⟩ := run_unique (q := fun c => !isBlank c)
        (by simpa using piece.isWordText.2) (by simpa using head?_gap hsep)
        (by simpa using piece'.isWordText.2) (by simpa using head?_gap hsep') h
      obtain ⟨hgap, htail⟩ := run_unique piece.gap.blank (Piece.head?_flatMap_chars pieces)
        piece'.gap.blank (Piece.head?_flatMap_chars pieces') hrest
      have hpiece : piece = piece' := Piece.ext (String.toList_injective htext) (Gap.ext hgap)
      rw [hpiece, ih (separated_tail hsep) (separated_tail hsep') htail]

theorem eq_of_chars_eq {l m : Layout} (h : l.chars = m.chars) : l = m := by
  obtain ⟨hlead, hpieces⟩ := run_unique l.lead.blank (Piece.head?_flatMap_chars _)
    m.lead.blank (Piece.head?_flatMap_chars _) h
  have hlead : l.lead = m.lead := Gap.ext hlead
  exact Layout.ext hlead (pieces_eq_of_flatMap_chars_eq l.separated m.separated hpieces)

theorem eq_of_script_eq {l m : Layout} (h : l.script = m.script) : l = m := by
  apply eq_of_chars_eq
  simpa only [script, String.toList_ofList] using congrArg String.toList h

end Layout

end TurtleGraphics
