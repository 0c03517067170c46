/-!
# Places in a script

A `Position` is a point between two characters of a script, counted in three ways at once: UTF-8
bytes before it, its line, and its column on that line. A `Span` is the stretch of one word.
-/

namespace TurtleGraphics.Text

/-- Bytes are counted from 0, lines and columns from 1. Only a newline ends a line, and a column
counts every other character as one. -/
structure Position where
  offset : Nat
  line : Nat
  column : Nat
  deriving DecidableEq, Repr, Inhabited

namespace Position

def start : Position := ⟨0, 1, 1⟩

def advance (p : Position) (c : Char) : Position :=
  if c = '\n' then ⟨p.offset + c.utf8Size, p.line + 1, 1⟩
  else ⟨p.offset + c.utf8Size, p.line, p.column + 1⟩

def advanceAll (p : Position) (cs : List Char) : Position :=
  cs.foldl advance p

@[simp] theorem advance_offset (p : Position) (c : Char) :
    (p.advance c).offset = p.offset + c.utf8Size := by
  unfold advance
  split <;> rfl

theorem advance_line (p : Position) (c : Char) :
    (p.advance c).line = p.line + if c = '\n' then 1 else 0 := by
  unfold advance
  split <;> rfl

theorem advance_column (p : Position) (c : Char) :
    (p.advance c).column = if c = '\n' then 1 else p.column + 1 := by
  unfold advance
  split <;> rfl

@[simp] theorem advanceAll_nil (p : Position) : p.advanceAll [] = p := rfl

@[simp] theorem advanceAll_cons (p : Position) (c : Char) (cs : List Char) :
    p.advanceAll (c :: cs) = (p.advance c).advanceAll cs := rfl

theorem advanceAll_append (p : Position) (cs ds : List Char) :
    p.advanceAll (cs ++ ds) = (p.advanceAll cs).advanceAll ds :=
  List.foldl_append

end Position

/-- Where a word stands: its first byte, the byte behind its last, and the line and column at
which it starts. -/
structure Span where
  start : Nat
  stop : Nat
  line : Nat
  column : Nat
  deriving DecidableEq, Repr, Inhabited

namespace Span

def between (first last : Position) : Span :=
  ⟨first.offset, last.offset, first.line, first.column⟩

def text (s : Span) : String :=
  toString s.line ++ ":" ++ toString s.column

end Span

end TurtleGraphics.Text
