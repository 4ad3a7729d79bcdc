import Dramatis.Stage.Basic

/-!
# Dramatis.Rehearsal

A stage on trial: a copy of it can be kept, and the play can go back to the copy
as often as wanted. Copies share nothing with the stage, so nothing that happens
later shows in them.
-/

namespace Dramatis

/-- A stage, and the copy kept of an earlier one. -/
structure Rehearsal (α : Type) where
  stage : Stage α
  kept : Option (Stage α)

namespace Rehearsal

variable {α : Type}

/-- A rehearsal from a given stage on, with no copy kept. -/
def ofStage (stage : Stage α) : Rehearsal α := ⟨stage, none⟩

/-- Keeps a copy of the stage in place of the one kept before. -/
def keep (rehearsal : Rehearsal α) : Rehearsal α :=
  { rehearsal with kept := some rehearsal.stage }

/-- Goes back to the copy, which stays kept. There may be none. -/
def goBack? (rehearsal : Rehearsal α) : Option (Rehearsal α) :=
  rehearsal.kept.map fun stage => { rehearsal with stage }

end Rehearsal

end Dramatis
