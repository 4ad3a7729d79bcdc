import Dramatis.Stage.Change
import Dramatis.Stage.Pronoun
import Dramatis.Stage.Snapshot
import Dramatis.Stage.Transition

/-!
# Dramatis.Direction

Everything that can be asked of a cast or a stage, as data: orders to a cast,
directions to a stage, and the replies to both. A play is a list of directions;
one that fails does not stop the play.
-/

namespace Dramatis

/-- What can be asked of a cast. -/
inductive CastOrder (α : Type) where
  | size
  | isEmpty
  | names
  | actors
  | contains (name : String)
  | lookup (name : String)
  /-- Change the actor a name stands for. -/
  | change (name : String) (f : α → α)

/-- What can be asked of a stage. -/
inductive Direction (α : Type) where
  /-- A group enters. -/
  | bringOn (names : List String)
  /-- A group leaves. -/
  | sendOff (names : List String)
  /-- One actor leaves. -/
  | dismiss (name : String)
  /-- Everybody leaves. -/
  | clear
  /-- Somebody must be on stage. -/
  | requirePresent (name : String)
  /-- Somebody must be off stage. -/
  | requireAbsent (name : String)
  | setFlag (value : Bool)
  | flag
  | isPresent (name : String)
  | headcount
  | presentNames
  | absentNames
  | presentActors
  | absentActors
  /-- The two facing each other. -/
  | pair
  | lookup (name : String)
  /-- The actor whom a speaker addresses. -/
  | addressee (name : String)
  /-- Change the actor a name stands for. -/
  | change (name : String) (f : α → α)
  /-- Change the actor whom a speaker addresses. -/
  | changeAddressee (name : String) (f : α → α)
  | text
  | snapshot
  /-- Pass an order on to the cast. -/
  | cast (order : CastOrder α)

/-- An answer to an order or a direction. -/
inductive Reply (α : Type) where
  | done
  | flag (value : Bool)
  | count (n : Nat)
  | text (s : String)
  | names (names : List String)
  | actor (actor : α)
  | actors (actors : List α)
  | pair (pair : Option (α × α))
  | snapshot (snapshot : Snapshot)

variable {α : Type} [Actor α]

/-- Carries out an order to a cast. -/
def CastOrder.act : CastOrder α → Act (Cast α) (Reply α)
  | size => return .count (← Act.state).size
  | isEmpty => return .flag (← Act.state).isEmpty
  | names => return .names (← Act.state).names
  | actors => return .actors (← Act.state).actors
  | contains name => return .flag ((← Act.state).contains name)
  | lookup name => return .actor (← Act.ofExcept ((← Act.state).lookup name))
  | change name f => return .actor (← Cast.change name f)

/-- Carries out a direction. -/
def Direction.act : Direction α → Act (Stage α) (Reply α)
  | bringOn names => do Stage.bringOn names; return .done
  | sendOff names => do Stage.sendOff names; return .done
  | dismiss name => do Stage.dismiss name; return .done
  | clear => do Stage.clear; return .done
  | requirePresent name => do Act.ofExcept ((← Act.state).requirePresent name); return .done
  | requireAbsent name => do Act.ofExcept ((← Act.state).requireAbsent name); return .done
  | setFlag value => do Stage.setFlag value; return .done
  | flag => return .flag (← Act.state).flag
  | isPresent name => return .flag ((← Act.state).isPresent name)
  | headcount => return .count (← Act.state).headcount
  | presentNames => return .names (← Act.state).presentNames
  | absentNames => return .names (← Act.state).absentNames
  | presentActors => return .actors (← Act.state).presentActors
  | absentActors => return .actors (← Act.state).absentActors
  | pair => return .pair (← Act.state).pair?
  | lookup name => return .actor (← Act.ofExcept ((← Act.state).lookup name))
  | addressee name => return .actor (← Stage.addressee name)
  | change name f => return .actor (← Stage.change name f)
  | changeAddressee name f => return .actor (← Stage.changeAddressee name f)
  | text => return .text (← Act.state).text
  | snapshot => return .snapshot (← Act.state).snapshot
  | cast order => Stage.onCast order.act

/-- The stage after a play. -/
def Stage.after (stage : Stage α) (play : List (Direction α)) : Stage α :=
  play.foldl (fun stage direction => (direction.act.perform stage).state) stage

end Dramatis
