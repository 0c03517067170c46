/-!
# Blank characters

A script is divided into words by blanks: the characters with the Unicode property `White_Space`.
The property is fixed by the standard, so the whole table stands here.
-/

namespace TurtleGraphics.Text

/-- The ranges of code points with the property `White_Space`, both ends included. -/
def blankRanges : List (Nat × Nat) :=
  [(0x9, 0xD), (0x20, 0x20), (0x85, 0x85), (0xA0, 0xA0), (0x1680, 0x1680), (0x2000, 0x200A),
    (0x2028, 0x2029), (0x202F, 0x202F), (0x205F, 0x205F), (0x3000, 0x3000)]

def isBlank (c : Char) : Bool :=
  blankRanges.any fun (first, last) => first ≤ c.toNat && c.toNat ≤ last

theorem isBlank_newline : isBlank '\n' = true := by decide

end TurtleGraphics.Text
