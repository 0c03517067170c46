import TurtleGraphics.Script.Word
import TurtleGraphics.Text.Blank

/-!
# Dividing a script into words

The words of a script are its longest runs of characters that are not blank. They are found in
one pass from left to right, which also counts bytes, lines and columns. The pass is a left fold,
so what it knows after a text is all it needs to read on (`Scan.run_append`).
-/

namespace TurtleGraphics

open Text

/-- The part of a word read so far, last character first. -/
structure Fragment where
  first : Position
  letters : List Char

namespace Fragment

def toWord (f : Fragment) (last : Position) : Word :=
  ⟨String.ofList f.letters.reverse, Span.between f.first last⟩

end Fragment

structure Scan where
  position : Position
  /-- The word that the character before belongs to. -/
  fragment : Option Fragment
  /-- The words that have ended, last word first. -/
  words : List Word

namespace Scan

def start : Scan := ⟨Position.start, none, []⟩

def close (s : Scan) : List Word :=
  match s.fragment with
  | none => s.words
  | some f => f.toWord s.position :: s.words

def step (s : Scan) (c : Char) : Scan :=
  if isBlank c then ⟨s.position.advance c, none, s.close⟩
  else
    match s.fragment with
    | none => ⟨s.position.advance c, some ⟨s.position, [c]⟩, s.words⟩
    | some f => ⟨s.position.advance c, some ⟨f.first, c :: f.letters⟩, s.words⟩

def run (s : Scan) (cs : List Char) : Scan :=
  cs.foldl step s

@[simp] theorem run_cons (s : Scan) (c : Char) (cs : List Char) :
    s.run (c :: cs) = (s.step c).run cs := rfl

theorem run_append (s : Scan) (cs ds : List Char) : s.run (cs ++ ds) = (s.run cs).run ds :=
  List.foldl_append

theorem step_of_blank (s : Scan) {c : Char} (h : isBlank c = true) :
    s.step c = ⟨s.position.advance c, none, s.close⟩ := by
  simp only [step, h, if_true]

@[simp] theorem step_position (s : Scan) (c : Char) :
    (s.step c).position = s.position.advance c := by
  unfold step
  split
  · rfl
  · split <;> rfl

theorem run_position (s : Scan) (cs : List Char) :
    (s.run cs).position = s.position.advanceAll cs := by
  induction cs generalizing s with
  | nil => rfl
  | cons c cs ih => rw [run_cons, ih, step_position, Position.advanceAll_cons]

end Scan

namespace Script

def words (script : String) : List Word :=
  (Scan.start.run script.toList).close.reverse

end Script

end TurtleGraphics
