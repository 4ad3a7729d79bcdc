import Dramatis.Proofs.Stage.Effects

/-!
# Dramatis.Proofs.Stage.Run

A play step by step: each direction together with the stage that it meets.  The notices
of a play are those of its steps, one step after another.

No step touches the index of the cast.  So from the first step to the last, whatever
becomes of the actors, every name stands for the position it stood for at the beginning.
-/

namespace Dramatis

variable {α : Type}

/-- A direction, and the stage that it is given on. -/
structure Step (α : Type) where
  stage : Stage α
  direction : Direction α

variable [Actor α]

namespace Step

/-- What is left of a step. -/
def outcome (step : Step α) : Outcome (Stage α) (Reply α) := step.direction.act.perform step.stage

/-- The direction is carried out, and does not fail. -/
def Succeeds (step : Step α) : Prop := ∃ reply, step.outcome.answer = .ok reply

instance (step : Step α) : Decidable step.Succeeds :=
  match hanswer : step.outcome.answer with
  | .ok reply => isTrue ⟨reply, hanswer⟩
  | .error _ => isFalse fun ⟨_, hreply⟩ => nomatch hanswer.symm.trans hreply

/-- A step that does not succeed fails with some mistake. -/
theorem exists_error_of_not_succeeds {step : Step α} (h : ¬ step.Succeeds) :
    ∃ error, step.outcome.answer = .error error := by
  cases hanswer : step.outcome.answer with
  | error error => exact ⟨error, rfl⟩
  | ok reply => exact absurd ⟨reply, hanswer⟩ h

end Step

namespace Stage

/-- The steps of a play, from a given stage on. -/
def steps (stage : Stage α) : List (Direction α) → List (Step α)
  | [] => []
  | direction :: play =>
    ⟨stage, direction⟩ :: steps (Step.mk stage direction).outcome.state play

/-- The notices that a play writes, oldest first. -/
def log (stage : Stage α) (play : List (Direction α)) : List Notice :=
  (stage.steps play).flatMap fun step => step.outcome.notices

/-- A play goes on from where its first direction leads. -/
theorem after_cons (stage : Stage α) (direction : Direction α) (play : List (Direction α)) :
    stage.after (direction :: play) = (Step.mk stage direction).outcome.state.after play := rfl

/-- The notices of the first direction come before those of the others. -/
theorem log_cons (stage : Stage α) (direction : Direction α) (play : List (Direction α)) :
    stage.log (direction :: play) =
      (Step.mk stage direction).outcome.notices ++
        (Step.mk stage direction).outcome.state.log play := by
  rw [log, steps, List.flatMap_cons]
  rfl

end Stage

/-! ## What no step changes -/

/-- What every move keeps is so wherever a play leads, and at every step on the way. -/
theorem Stage.kept_of_move {P : Stage α → Prop}
    (hmove : ∀ {stage next : Stage α}, P stage → stage.Move next → P next)
    {stage : Stage α} (h : P stage) (play : List (Direction α)) :
    P (stage.after play) ∧ ∀ step ∈ stage.steps play, P step.stage := by
  induction play generalizing stage with
  | nil => exact ⟨h, nofun⟩
  | cons direction play ih =>
      obtain ⟨hafter, hlater⟩ := ih (hmove h (direction.move_act stage))
      exact ⟨hafter, List.forall_mem_cons.2 ⟨h, hlater⟩⟩

/-- No step changes the index. -/
theorem Step.index_eq (step : Step α) :
    step.outcome.state.cast.index = step.stage.cast.index :=
  (step.direction.move_act step.stage).index_eq

/-- No play changes the index, neither at its end nor on the way. -/
theorem Stage.index_eq_of_play (stage : Stage α) (play : List (Direction α)) :
    (stage.after play).cast.index = stage.cast.index ∧
      ∀ step ∈ stage.steps play, step.stage.cast.index = stage.cast.index :=
  kept_of_move (P := fun other => other.cast.index = stage.cast.index)
    (fun hkept hmove => hmove.index_eq.trans hkept) rfl play

end Dramatis
