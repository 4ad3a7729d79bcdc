import Dramatis.Stage.Basic

/-!
# Dramatis.Stage.Transition

Entrances and exits. A group comes on or leaves together or not at all: all its
names are checked against the stage as it is before anybody moves. A name given
twice is taken for somebody who has moved already.

Each transition leaves one notice, an empty group included. Only the exit of
everybody is silent when there is nobody to leave.
-/

namespace Dramatis

namespace Stage

variable {α : Type} [Actor α]

/-- The positions of a group, in the order of its names. `locate` finds and checks
each by itself, and `again` says what is wrong with one among those `seen`. -/
def groupPositions (locate : String → Except Mistake Nat) (again : Nat → Mistake)
    (seen : List Nat) : List String → Except Mistake (List Nat)
  | [] => return []
  | name :: names => do
    let i ← locate name
    if seen.contains i then throw (again i)
    else return i :: (← groupPositions locate again (i :: seen) names)

/-- The positions of a group that can enter. -/
def entering (stage : Stage α) (names : List String) : Except Mistake (List Nat) :=
  groupPositions stage.absentPosition (fun i => .alreadyPresent (stage.reportName i)) [] names

/-- The positions of a group that can leave. -/
def leaving (stage : Stage α) (names : List String) : Except Mistake (List Nat) :=
  groupPositions stage.presentPosition (fun i => .notPresent (stage.reportName i)) [] names

/-- Brings everybody named on stage, or nobody. -/
def bringOn (names : List String) : Act (Stage α) Unit := do
  let stage ← Act.state
  let is ← Act.ofExcept (stage.entering names)
  let present := stage.present.insertAll is
  Act.become { stage with present }
  Act.note (.entered (is.map stage.cast.nameAt) present.size)

/-- Sends everybody named off stage, or nobody. -/
def sendOff (names : List String) : Act (Stage α) Unit := do
  let stage ← Act.state
  let is ← Act.ofExcept (stage.leaving names)
  let present := stage.present.eraseAll is
  Act.become { stage with present }
  Act.note (.leftTogether (is.map stage.cast.nameAt) present.size)

/-- Sends one actor off stage. -/
def dismiss (name : String) : Act (Stage α) Unit := do
  let stage ← Act.state
  let i ← Act.ofExcept (stage.presentPosition name)
  let present := stage.present.erase i
  Act.become { stage with present }
  Act.note (.leftAlone (stage.cast.nameAt i) present.size)

omit [Actor α] in
/-- Sends everybody off stage. -/
def clear : Act (Stage α) Unit := do
  let stage ← Act.state
  Act.become { stage with present := .empty }
  unless stage.present.isEmpty do
    Act.note (.cleared stage.present.size)

omit [Actor α] in
/-- Sets the boolean of the play. -/
def setFlag (value : Bool) : Act (Stage α) Unit := do
  Act.become { ← Act.state with flag := value }

end Stage

end Dramatis
