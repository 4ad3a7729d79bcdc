import Dramatis.Factory

/-!
# Dramatis.Cast

Every actor of a play in the order of declaration, and an index from names to
positions in that order.

The index is fixed when the cast is assembled. Its keys are the normal forms that
the actors' names had then, so an actor that is renamed later is still found
under its old name. A name is looked up as a key just as it stands, and only if
it is none, in its normal form; the two differ for keys whose own normal form is
another text.
-/

namespace Dramatis

/-- Actors in the order of declaration, and the position of each by its key. -/
structure Cast (α : Type) where
  actors : List α
  index : List (String × Nat)

namespace Cast

variable {σ α : Type}

/-- The cast of nobody. -/
def empty : Cast α := ⟨[], []⟩

/-- How many actors there are. -/
def size (cast : Cast α) : Nat := cast.actors.length

/-- Whether there are no actors. -/
def isEmpty (cast : Cast α) : Bool := cast.actors.isEmpty

/-- The position filed under exactly this key. -/
def positionOfKey? (cast : Cast α) (key : String) : Option Nat := cast.index.lookup key

/-- The position a name stands for: that of the key it is or, failing that, of
the key its normal form is. -/
def position? (cast : Cast α) (name : String) : Option Nat :=
  match cast.positionOfKey? name with
  | some i => some i
  | none => cast.positionOfKey? (Name.normalize name)

/-- The position a name stands for. A name that stands for none is reported in
its normal form. -/
def position (cast : Cast α) (name : String) : Except Mistake Nat :=
  match cast.position? name with
  | some i => .ok i
  | none => .error (.unknown (Name.normalize name))

/-- Whether a name stands for an actor. -/
def contains (cast : Cast α) (name : String) : Bool := (cast.position? name).isSome

/-- The actor at a position. Beyond the last one there is none, which is reported
without a name; no name of an assembled cast leads there. -/
def actorAt (cast : Cast α) (i : Nat) : Except Mistake α :=
  match cast.actors[i]? with
  | some actor => .ok actor
  | none => .error (.unknown "")

/-- The actor a name stands for. -/
def lookup (cast : Cast α) (name : String) : Except Mistake α := do
  cast.actorAt (← cast.position name)

/-- Puts an actor in the place of another. The index stays as it is. -/
def put (cast : Cast α) (i : Nat) (actor : α) : Cast α :=
  { cast with actors := cast.actors.set i actor }

/-- Changes the actor a name stands for, and answers with the changed actor. -/
def change (name : String) (f : α → α) : Act (Cast α) α := do
  let cast ← Act.state
  let i ← Act.ofExcept (cast.position name)
  let actor ← Act.ofExcept (cast.actorAt i)
  Act.become (cast.put i (f actor))
  return f actor

variable [Actor α]

/-- The names the actors have now. -/
def names (cast : Cast α) : List String := cast.actors.map Actor.name

/-- The name that the actor at a position has now. -/
def nameAt (cast : Cast α) (i : Nat) : String := (cast.actors[i]?).elim "" Actor.name

/-! ## Assembling a cast -/

/-- Adds an actor at the end, under the normal form of its name. -/
def add (cast : Cast α) (actor : α) : Cast α :=
  ⟨cast.actors ++ [actor], cast.index ++ [(Name.normalize (Actor.name actor), cast.size)]⟩

/-- Adds the actors that a factory makes of personae, one persona after another.
The first refusal and the first key that is taken end it. -/
def addAll (factory : Factory σ α) (cast : Cast α) : List Persona → Act σ (Cast α)
  | [] => return cast
  | persona :: personae => do
    let actor ← factory.call persona
    let key := Name.normalize (Actor.name actor)
    if (cast.positionOfKey? key).isSome then
      Act.fail (.duplicate key persona.location)
    else addAll factory (cast.add actor) personae

/-- The cast of a play. It is announced once it is complete. -/
def assemble (factory : Factory σ α) (personae : List Persona) : Act σ (Cast α) := do
  let cast ← addAll factory empty personae
  Act.note (.assembled cast.size)
  return cast

/-- The cast of characters that personae declare. -/
def ofPersonae (personae : List Persona) : Act Unit (Cast Character) :=
  assemble .character personae

end Cast

end Dramatis
