/-!
# Dramatis.Json.Numeral

The numbers of JSON text: an optional minus sign, an integer without leading
zeros, then optionally a fraction and an exponent. A number is kept as it is
spelled, so no precision is lost to those who read it.
-/

namespace Dramatis.Json.Numeral

/-- Passes over one digit or more. -/
def afterDigits? : List Char → Option (List Char)
  | c :: cs => if c.isDigit then some (cs.dropWhile Char.isDigit) else none
  | [] => none

/-- Passes over a minus sign, if there is one. -/
def afterMinus : List Char → List Char
  | '-' :: cs => cs
  | cs => cs

/-- Passes over a plus or a minus sign, if there is one. -/
def afterSign : List Char → List Char
  | '+' :: cs => cs
  | '-' :: cs => cs
  | cs => cs

/-- Passes over an integer without a sign. A zero ends it. -/
def afterInteger? : List Char → Option (List Char)
  | '0' :: cs => some cs
  | cs => afterDigits? cs

/-- Passes over a fraction, if there is one. -/
def afterFraction? : List Char → Option (List Char)
  | '.' :: cs => afterDigits? cs
  | cs => some cs

/-- Passes over an exponent, if there is one. -/
def afterExponent? : List Char → Option (List Char)
  | 'e' :: cs => afterDigits? (afterSign cs)
  | 'E' :: cs => afterDigits? (afterSign cs)
  | cs => some cs

/-- Whether a word is a number. -/
def isNumeral (cs : List Char) : Bool :=
  (afterInteger? (afterMinus cs) >>= afterFraction? >>= afterExponent?) == some []

example : isNumeral ['-', '0'] ∧ isNumeral ['1', '.', '5', 'E', '+', '2'] := by decide
example : ¬ isNumeral ['0', '1'] ∧ ¬ isNumeral ['1', '.'] ∧ ¬ isNumeral ['+', '1'] := by decide

end Dramatis.Json.Numeral
