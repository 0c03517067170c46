import TurtleGraphics.Text.Invisible

/-!
# Quoted text

Text between double quotes, in which every character shows: the quote and the backslash follow a
backslash, the four common controls have letters, and any other character that does not show on
its own is written as its code point in hexadecimal.
-/

namespace TurtleGraphics.Text.Quoted

def hexadecimal (n : Nat) : String :=
  String.ofList (Nat.toDigits 16 n)

def escape (c : Char) : String :=
  match c with
  | '\x00' => "\\0"
  | '\t' => "\\t"
  | '\r' => "\\r"
  | '\n' => "\\n"
  | '"' => "\\\""
  | '\\' => "\\\\"
  | c => if isInvisible c then "\\u\x7b" ++ hexadecimal c.toNat ++ "\x7d" else c.toString

def quote (text : String) : String :=
  "\"" ++ String.join (text.toList.map escape) ++ "\""

end TurtleGraphics.Text.Quoted
