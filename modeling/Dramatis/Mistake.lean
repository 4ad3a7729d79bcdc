import Dramatis.Persona

/-!
# Dramatis.Mistake

What can go wrong while a cast is assembled or directed, and the words in which
it is reported.
-/

namespace Dramatis

/-- Why a factory made no actor: its message, and the deeper causes behind it,
nearest first. -/
structure Failure where
  message : String
  causes : List String
deriving DecidableEq

/-- A failure with nothing behind it. -/
def Failure.ofMessage (message : String) : Failure := ⟨message, []⟩

/-- A new failure whose cause is a given one. -/
def Failure.wrap (failure : Failure) (message : String) : Failure :=
  ⟨message, failure.message :: failure.causes⟩

/-- The messages of a failure, from the outermost to the root. -/
def Failure.chain (failure : Failure) : List String := failure.message :: failure.causes

/-- A mistake in a play, with the actor it is about. -/
inductive Mistake where
  /-- A second actor with a name that is taken. -/
  | duplicate (name : String) (location : Option Location)
  /-- A name that no actor answers to. -/
  | unknown (name : String)
  /-- An entrance of somebody who is on stage. -/
  | alreadyPresent (name : String)
  /-- An exit or a line of somebody who is off stage. -/
  | notPresent (name : String)
  /-- A "you" with more than one possible addressee. -/
  | ambiguous (speaker : String)
  /-- A "you" said by somebody alone on stage. -/
  | alone (name : String)
  /-- A persona of which no actor could be made. -/
  | refused (name : String) (location : Option Location) (cause : Failure)
deriving DecidableEq

namespace Mistake

/-- The actor the mistake is about. -/
def actor : Mistake → String
  | duplicate name _ => name
  | unknown name => name
  | alreadyPresent name => name
  | notPresent name => name
  | ambiguous speaker => speaker
  | alone name => name
  | refused name _ _ => name

/-- Where the declaration at fault was written, if that is known. -/
def location : Mistake → Option Location
  | duplicate _ location => location
  | refused _ location _ => location
  | _ => none

/-- The messages of the causes behind the mistake, nearest first. -/
def causes : Mistake → List String
  | refused _ _ cause => cause.chain
  | _ => []

/-- A remark on the place of a declaration, to follow a name. -/
def placeRemark : Option Location → String
  | none => ""
  | some location => " (" ++ location.text ++ ")"

/-- The mistake for a reader. Of the causes behind it only the nearest is shown. -/
def message : Mistake → String
  | duplicate name location => name ++ " already initialized" ++ placeRemark location
  | unknown name => name ++ " was not initialized!"
  | alreadyPresent name => name ++ " is already on stage!"
  | notPresent name => name ++ " is not on stage!"
  | ambiguous _ => "Ambiguous second-person pronoun"
  | alone name => name ++ " is talking to nobody!"
  | refused name location cause =>
    "Failed to create actor " ++ name ++ placeRemark location ++ ": " ++ cause.message

end Mistake

end Dramatis
