import Dramatis.Text.CaseTable

/-!
# Dramatis.Text.Casing

Full upper and lower case of single characters. An image may hold several
characters (`ß` has the capitals `SS`), no title case is used, and a character's
neighbours do not matter: a `Σ` at the end of a word becomes `σ` like any other.
-/

namespace Dramatis.Text

/-- The characters a case table makes of one character. -/
def CaseTable.apply (table : CaseTable) (c : Char) : List Char :=
  (table.image c.toNat).map Char.ofNat

/-- The full upper case of a character. -/
def upper (c : Char) : List Char := upperTable.apply c

/-- The full lower case of a character. -/
def lower (c : Char) : List Char := lowerTable.apply c

example : upper 'a' = ['A'] ∧ lower 'A' = ['a'] ∧ upper '1' = ['1'] := by decide

/-- One small letter may have two capitals. -/
example : upper 'ß' = ['S', 'S'] ∧ lower 'ẞ' = ['ß'] := by decide

/-- One capital may have a small letter and a combining mark. -/
example : lower 'İ' = ['i', '\u0307'] := by decide

/-- A digraph goes to its capital, not to its title case. -/
example : upper 'ǆ' = ['Ǆ'] ∧ upper 'ǅ' = ['Ǆ'] := by decide

end Dramatis.Text
