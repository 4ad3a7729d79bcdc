import Dramatis.Stage.Basic

/-!
# Dramatis.Stage.Pronoun

Who "you" is. The word has an addressee exactly when two actors are on stage and
one of them says it: the other. Nothing is remembered for this; the pair is read
off the stage whenever it is needed.
-/

namespace Dramatis

namespace Stage

variable {α : Type}

/-- The positions of the two actors facing each other, in the order of
declaration, when there are exactly two on stage. -/
def pairPositions? (stage : Stage α) : Option (Nat × Nat) :=
  match stage.present.toList with
  | [i, j] => some (i, j)
  | _ => none

/-- The two actors facing each other, when there are exactly two on stage. -/
def pair? (stage : Stage α) : Option (α × α) := do
  let (i, j) ← stage.pairPositions?
  return (← stage.cast.actors[i]?, ← stage.cast.actors[j]?)

/-- The position facing a given one. -/
def partner? (stage : Stage α) (speaker : Nat) : Option Nat := do
  let (i, j) ← stage.pairPositions?
  if i = speaker then return j
  else if j = speaker then return i
  else none

variable [Actor α]

/-- The positions of a speaker and of the addressee of its "you". A speaker
without one is off stage, or in company of several, or alone, and the reasons are
tried in this order. -/
def exchange (stage : Stage α) (name : String) : Except Mistake (Nat × Nat) := do
  let speaker ← stage.cast.position name
  match stage.partner? speaker with
  | some addressee => return (speaker, addressee)
  | none =>
    if !stage.present.contains speaker then
      throw (.notPresent (stage.reportName speaker))
    else if 2 < stage.present.size then
      throw (.ambiguous (stage.reportName speaker))
    else throw (.alone (stage.reportName speaker))

/-- The actor whom a speaker addresses as "you". -/
def addressee (name : String) : Act (Stage α) α := do
  let stage ← Act.state
  let (speaker, addressee) ← Act.ofExcept (stage.exchange name)
  let actor ← Act.ofExcept (stage.cast.actorAt addressee)
  Act.note (.addressed (stage.cast.nameAt speaker) (stage.cast.nameAt addressee))
  return actor

/-- Changes the actor whom a speaker addresses as "you", and answers with the
changed actor. The notice shows the names from before the change. -/
def changeAddressee (name : String) (f : α → α) : Act (Stage α) α := do
  let stage ← Act.state
  let (speaker, addressee) ← Act.ofExcept (stage.exchange name)
  let actor ← Act.ofExcept (stage.cast.actorAt addressee)
  Act.note (.addressed (stage.cast.nameAt speaker) (stage.cast.nameAt addressee))
  Act.become { stage with cast := stage.cast.put addressee (f actor) }
  return f actor

end Stage

end Dramatis
