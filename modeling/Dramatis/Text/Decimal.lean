/-!
# Dramatis.Text.Decimal

Numbers in decimal notation: no grouping, no plus sign, and no leading zero but
in `0` itself, so every number has exactly one spelling.
-/

namespace Dramatis.Text.Decimal

/-- The digits of a number, most significant first. -/
def digits (n : Nat) : List Char := Nat.toDigits 10 n

/-- The spelling of a number. -/
def text (n : Nat) : String := String.ofList (digits n)

/-- The spelling of an integer: a minus sign stands before a negative one. -/
def signedText (n : Int) : String :=
  if n < 0 then "-" ++ text n.natAbs else text n.natAbs

/-- The value of a row of digits. -/
def value (cs : List Char) : Nat := cs.foldl (fun n c => 10 * n + (c.toNat - '0'.toNat)) 0

/-- Whether a row of characters spells a number: one digit or more, and a
leading zero only when it stands alone. -/
def isNumeral : List Char → Bool
  | [] => false
  | ['0'] => true
  | c :: cs => c != '0' && (c :: cs).all Char.isDigit

/-- The number that a row of characters spells. -/
def read? (cs : List Char) : Option Nat :=
  if isNumeral cs then some (value cs) else none

example : text 0 = "0" ∧ text 1606 = "1606" ∧ signedText (-7) = "-7" := by decide
example : read? ['0'] = some 0 ∧ read? ['4', '2'] = some 42 := by decide
example : read? [] = none ∧ read? ['0', '7'] = none ∧ read? ['-', '1'] = none := by decide

end Dramatis.Text.Decimal
