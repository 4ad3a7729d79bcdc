import Dramatis.Cast
import Dramatis.Positions

/-!
# Dramatis.Stage.Basic

The stage during a play: its cast, who of the cast is on, and one boolean that
the whole play shares. Actors are on stage as positions in the cast, so a change
of an actor, its name included, moves nobody.

This module holds what can be asked of a stage. Lists of actors come in the order
of declaration, whatever the order of entrances.
-/

namespace Dramatis

/-- A cast, the positions of those on stage, and the boolean of the play. -/
structure Stage (α : Type) where
  cast : Cast α
  present : Positions
  flag : Bool

namespace Stage

variable {α : Type}

/-- The stage before the play: nobody is on, and the boolean is false. -/
def ofCast (cast : Cast α) : Stage α := ⟨cast, .empty, false⟩

/-- How many actors are on stage. -/
def headcount (stage : Stage α) : Nat := stage.present.size

/-- The actor a name stands for, on stage or off. -/
def lookup (stage : Stage α) (name : String) : Except Mistake α := stage.cast.lookup name

/-- Whether a name stands for somebody on stage; not so for a name outside the
cast. -/
def isPresent (stage : Stage α) (name : String) : Bool :=
  (stage.cast.position? name).any stage.present.contains

/-- The actors on stage. -/
def presentActors (stage : Stage α) : List α :=
  stage.present.toList.filterMap fun i => stage.cast.actors[i]?

/-- The actors off stage. -/
def absentActors (stage : Stage α) : List α :=
  (stage.cast.actors.zipIdx.filter fun (_, i) => !stage.present.contains i).map Prod.fst

variable [Actor α]

/-- The names of the actors on stage. -/
def presentNames (stage : Stage α) : List String := stage.presentActors.map Actor.name

/-- The names of the actors off stage. -/
def absentNames (stage : Stage α) : List String := stage.absentActors.map Actor.name

/-- The name by which errors speak of the actor at a position: the normal form of
the one it has now. -/
def reportName (stage : Stage α) (i : Nat) : String := Name.normalize (stage.cast.nameAt i)

/-- The position of somebody who must be on stage. -/
def presentPosition (stage : Stage α) (name : String) : Except Mistake Nat := do
  let i ← stage.cast.position name
  if stage.present.contains i then return i else throw (.notPresent (stage.reportName i))

/-- The position of somebody who must be off stage. -/
def absentPosition (stage : Stage α) (name : String) : Except Mistake Nat := do
  let i ← stage.cast.position name
  if stage.present.contains i then throw (.alreadyPresent (stage.reportName i)) else return i

/-- Fails unless a name stands for somebody on stage. -/
def requirePresent (stage : Stage α) (name : String) : Except Mistake Unit := do
  let _ ← stage.presentPosition name

/-- Fails unless a name stands for somebody off stage. -/
def requireAbsent (stage : Stage α) (name : String) : Except Mistake Unit := do
  let _ ← stage.absentPosition name

end Stage

end Dramatis
