import Dramatis.Text.Decimal

/-!
# Dramatis.Persona

What a play's source says about its characters before there is a cast: where a
declaration stands, and the declaration itself.
-/

namespace Dramatis

open Text

/-- Where a declaration stands in the play's text: the offset in bytes, the line
counted from one and the column counted from zero. -/
structure Location where
  offset : UInt64
  line : UInt64
  column : UInt64
deriving DecidableEq

/-- The default location: every number zero. -/
def Location.zero : Location := ⟨0, 0, 0⟩

/-- A location for a reader. The offset is left out: it is of no use to one. -/
def Location.text (location : Location) : String :=
  "line " ++ Decimal.text location.line.toNat ++ ", column " ++
    Decimal.text location.column.toNat

/-- One line of the dramatis personae: a name as it was written, which is not a
normal form, and what else the line may say. -/
structure Persona where
  name : String
  description : Option String
  location : Option Location
deriving DecidableEq

end Dramatis
