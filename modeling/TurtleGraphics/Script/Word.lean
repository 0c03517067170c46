import TurtleGraphics.Text.Numeral
import TurtleGraphics.Text.Position

/-!
# Words

Everything in a script is a word: a keyword, a number or a bracket. A bracket that touches
another character is part of that word and no bracket.
-/

namespace TurtleGraphics

open Text

structure Word where
  text : String
  span : Span
  deriving DecidableEq, Repr, Inhabited

namespace Word

def number? (w : Word) : Option Int :=
  Numeral.read? w.text.toList

def isOpenBracket (w : Word) : Bool :=
  w.text == "["

def isCloseBracket (w : Word) : Bool :=
  w.text == "]"

end Word

end TurtleGraphics
