import Dramatis.Name
import Dramatis.Persona
import Dramatis.Text.Decimal

/-!
# Dramatis.Actor

What can be put on stage: anything with a name. Two kinds of actor come with the
library. A `Character` carries what its declaration said. A `Player` can also
remember a number and a stack of numbers, which is what the actors of a play do
that is a program.
-/

namespace Dramatis

open Text

/-- Anything that can be put on stage: it has a name, and a text that shows it. -/
class Actor (α : Type) where
  name : α → String
  text : α → String

/-- An actor that carries what its declaration said. -/
structure Character where
  name : String
  description : Option String
  location : Option Location
deriving DecidableEq

/-- The character a persona declares; its name is put into normal form. -/
def Character.ofPersona (persona : Persona) : Character :=
  ⟨Name.normalize persona.name, persona.description, persona.location⟩

/-- A character is shown as its name. -/
instance : Actor Character where
  name := Character.name
  text := Character.name

/-- An actor with a value and a stack of values, the last one on top. -/
structure Player where
  name : String
  value : Int64
  stack : List Int64
deriving DecidableEq

namespace Player

/-- The player a persona declares, under the name as it was written, with the
value zero and an empty stack. -/
def ofPersona (persona : Persona) : Player := ⟨persona.name, 0, []⟩

/-- Makes the player remember another value. -/
def assign (value : Int64) (player : Player) : Player := { player with value }

/-- Puts the player's value on top of its stack. -/
def push (player : Player) : Player := { player with stack := player.stack ++ [player.value] }

end Player

/-- A player is shown as its name and its value, with an equals sign between. -/
instance : Actor Player where
  name := Player.name
  text player := player.name ++ "=" ++ Decimal.signedText player.value.toInt

end Dramatis
