import Dramatis.Stage.Basic

/-!
# Dramatis.Stage.Snapshot

Two plain views of a stage for tracing and debugging: a record of names, and a
text with a line for each actor.
-/

namespace Dramatis

/-- Who is where, by name, in the order of declaration. -/
structure Snapshot where
  flag : Bool
  present : List String
  absent : List String
deriving DecidableEq

namespace Stage

variable {α : Type} [Actor α]

/-- The record of a stage as it is. -/
def snapshot (stage : Stage α) : Snapshot :=
  ⟨stage.flag, stage.presentNames, stage.absentNames⟩

/-- The line of one actor, from the line break before it. -/
def actorLine (actor : α) : String := "\n  " ++ Actor.text actor

/-- The truth value in words. -/
def booleanText : Bool → String
  | true => "true"
  | false => "false"

/-- A stage for a reader: the boolean, then who is on stage and who is off, one
actor a line. No line break follows the last line. -/
def text (stage : Stage α) : String :=
  "global boolean = " ++ booleanText stage.flag ++
    "\non stage:" ++ String.join (stage.presentActors.map actorLine) ++
    "\noff stage:" ++ String.join (stage.absentActors.map actorLine)

end Stage

end Dramatis
