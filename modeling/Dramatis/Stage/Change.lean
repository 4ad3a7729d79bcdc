import Dramatis.Stage.Basic

/-!
# Dramatis.Stage.Change

Changes of the cast during a play. Whatever happens to an actor, nobody enters or
leaves by it, and every name goes on standing for the position it stood for.
-/

namespace Dramatis

namespace Stage

variable {α β : Type}

/-- An action on the cast, which leaves the rest of the stage alone. -/
def onCast (act : Act (Cast α) β) : Act (Stage α) β :=
  Act.within Stage.cast (fun stage cast => { stage with cast }) act

/-- Changes the actor a name stands for, and answers with the changed actor. -/
def change (name : String) (f : α → α) : Act (Stage α) α := onCast (Cast.change name f)

end Stage

end Dramatis
