/-!
# Whole numbers in a script

A numeral is an optional sign and at least one decimal digit, leading zeros allowed. Amounts are
signed 64-bit numbers, so a numeral that names a number beyond them is not read.
-/

namespace TurtleGraphics.Text.Numeral

def InRange (n : Int) : Prop :=
  -9223372036854775808 ≤ n ∧ n ≤ 9223372036854775807

instance (n : Int) : Decidable (InRange n) :=
  inferInstanceAs (Decidable (_ ∧ _))

def digitValue (c : Char) : Nat :=
  c.toNat - '0'.toNat

def value (digits : List Char) : Nat :=
  digits.foldl (fun n c => 10 * n + digitValue c) 0

def magnitude? (digits : List Char) : Option Nat :=
  if digits ≠ [] ∧ digits.all Char.isDigit then some (value digits) else none

/-- The number denoted by a numeral, whatever its size. -/
def signed? : List Char → Option Int
  | '-' :: digits => (magnitude? digits).map fun n => -(n : Int)
  | '+' :: digits => (magnitude? digits).map Int.ofNat
  | digits => (magnitude? digits).map Int.ofNat

def read? (text : List Char) : Option Int :=
  (signed? text).filter fun n => decide (InRange n)

end TurtleGraphics.Text.Numeral
