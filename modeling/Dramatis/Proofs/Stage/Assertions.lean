import Dramatis.Proofs.Stage.Shift

/-!
# Dramatis.Proofs.Stage.Assertions

Assertions and the transitions that they stand before.  Whether somebody is off stage is asserted
before an entrance, and whether somebody is on stage before an exit, of one actor or of a group of
one.  An assertion does nothing, and it fails exactly if the transition would, with the same
mistake.

There are only three ways for the two assertions to come out together, and the question whether a
name is present goes with them: the name stands for nobody, and both fail for the same reason; or
it stands for somebody on stage; or for somebody off stage.
-/

namespace Dramatis

variable {α : Type} [Actor α]

/-! ## What an assertion tells -/

/-- An assertion answers as a transition would on the same stage, and does nothing itself. -/
structure Direction.Foretells (stage : Stage α) (assertion transition : Direction α) : Prop where
  answer_eq : (assertion.act.perform stage).answer = (transition.act.perform stage).answer
  state_eq : (assertion.act.perform stage).state = stage
  notices_eq : (assertion.act.perform stage).notices = []

/-- Where somebody is whom a name is to stand for. -/
inductive Whereabouts where
  | nowhere
  | present
  | absent

namespace Stage

variable {stage : Stage α} {name : String}

/-- What the two assertions and the question for a name say, according to whom it stands for. -/
inductive Locates (stage : Stage α) (name : String) : Whereabouts → Prop
  | nowhere (hname : stage.cast.position? name = none)
      (hpresent : stage.requirePresent name = .error (.unknown (Name.normalize name)))
      (habsent : stage.requireAbsent name = .error (.unknown (Name.normalize name)))
      (hquestion : stage.isPresent name = false) : Locates stage name .nowhere
  | present {i : Nat} (hname : stage.cast.position? name = some i)
      (hpresent : stage.requirePresent name = .ok ())
      (habsent : stage.requireAbsent name = .error (.alreadyPresent (stage.reportName i)))
      (hquestion : stage.isPresent name = true) : Locates stage name .present
  | absent {i : Nat} (hname : stage.cast.position? name = some i)
      (hpresent : stage.requirePresent name = .error (.notPresent (stage.reportName i)))
      (habsent : stage.requireAbsent name = .ok ())
      (hquestion : stage.isPresent name = false) : Locates stage name .absent

/-- A name always stands for nobody, or for somebody on stage, or for somebody off stage. -/
theorem exists_locates (stage : Stage α) (name : String) :
    ∃ whereabouts, stage.Locates name whereabouts := by
  have hpresent := stage.requirePresent_eq name
  have habsent := stage.requireAbsent_eq name
  rw [presentPosition_eq] at hpresent
  rw [absentPosition_eq] at habsent
  cases hname : stage.cast.position? name with
  | none =>
      rw [hname] at hpresent habsent
      exact ⟨.nowhere, .nowhere hname hpresent habsent (by rw [isPresent, hname, Option.any_none])⟩
  | some i =>
      have hquestion : stage.isPresent name = stage.present.contains i := by
        rw [isPresent, hname, Option.any_some]
      rw [hname] at hpresent habsent
      cases hi : stage.present.contains i with
      | true =>
          simp only [hi, ↓reduceIte] at hpresent habsent
          exact ⟨.present, .present hname hpresent habsent (hquestion.trans hi)⟩
      | false =>
          simp only [hi, Bool.false_eq_true, ↓reduceIte] at hpresent habsent
          exact ⟨.absent, .absent hname hpresent habsent (hquestion.trans hi)⟩

/-- No two of the three agree on both assertions. -/
theorem Locates.unique {whereabouts other : Whereabouts} (h : stage.Locates name whereabouts)
    (hother : stage.Locates name other) : whereabouts = other := by
  cases h with
  | nowhere _ hpresent habsent _ =>
      cases hother with
      | nowhere => rfl
      | present _ hok _ _ => simp [hpresent] at hok
      | absent _ _ hok _ => simp [habsent] at hok
  | present _ hpresent habsent _ =>
      cases hother with
      | nowhere _ herror _ _ | absent _ herror _ _ => simp [hpresent] at herror
      | present => rfl
  | absent _ hpresent habsent _ =>
      cases hother with
      | nowhere _ _ herror _ | present _ _ herror _ => simp [habsent] at herror
      | absent => rfl

end Stage

/-! ## Assertions before transitions -/

namespace Direction

variable (stage : Stage α) (name : String)

/-- To assert that somebody is on stage is to look for the position and to do nothing. -/
theorem perform_requirePresent :
    (requirePresent name).act.perform stage =
      ⟨(stage.presentPosition name).map fun _ => .done, stage, []⟩ := by
  simp only [act, Act.perform_state_bind, Act.perform_bind_pure, Act.perform_ofExcept,
    Stage.requirePresent_eq]
  cases stage.presentPosition name <;> rfl

/-- To assert that somebody is off stage is to look for the position and to do nothing. -/
theorem perform_requireAbsent :
    (requireAbsent name).act.perform stage =
      ⟨(stage.absentPosition name).map fun _ => .done, stage, []⟩ := by
  simp only [act, Act.perform_state_bind, Act.perform_bind_pure, Act.perform_ofExcept,
    Stage.requireAbsent_eq]
  cases stage.absentPosition name <;> rfl

/-- One actor enters like a group of one, if the actor is off stage. -/
theorem foretells_bringOn : Foretells stage (requireAbsent name) (bringOn [name]) := by
  have hasserts := perform_requireAbsent stage name
  refine ⟨?_, by rw [hasserts], by rw [hasserts]⟩
  rw [hasserts, ((Shifts.bringOn [name]).perform stage).1, Stage.movers, Stage.entering_singleton]
  cases stage.absentPosition name <;> rfl

/-- An exit of one, by itself or as a group, can take place if the actor is on stage. -/
theorem Shifts.foretells {direction : Direction α} (h : direction.Shifts false [name]) :
    Foretells stage (requirePresent name) direction := by
  have hasserts := perform_requirePresent stage name
  refine ⟨?_, by rw [hasserts], by rw [hasserts]⟩
  rw [hasserts, (h.perform stage).1, Stage.movers, Stage.leaving_singleton]
  cases stage.presentPosition name <;> rfl

end Direction

/-- On every stage and for every name, to assert that somebody is off stage answers as the entrance
of this one would, and to assert that somebody is on stage as the exit would, alone or as a group
of one; and these two exits lead to the same stage.  The name stands for nobody, and then both
assertions fail for this, or for somebody on stage, or for somebody off stage, and then only the
assertion of it succeeds; exactly one of the three is the case, and the question whether the name
is present is answered accordingly. -/
theorem Stage.assertions_foretell (stage : Stage α) (name : String) :
    Direction.Foretells stage (.requireAbsent name) (.bringOn [name]) ∧
    Direction.Foretells stage (.requirePresent name) (.dismiss name) ∧
    Direction.Foretells stage (.requirePresent name) (.sendOff [name]) ∧
    stage.after [.dismiss name] = stage.after [.sendOff [name]] ∧
    ∃! whereabouts, stage.Locates name whereabouts := by
  refine ⟨Direction.foretells_bringOn stage name, (Direction.Shifts.dismiss name).foretells stage,
    (Direction.Shifts.sendOff [name]).foretells stage, ?_, ?_⟩
  · rw [(Direction.Shifts.dismiss name).after_eq, (Direction.Shifts.sendOff [name]).after_eq]
  · obtain ⟨whereabouts, hlocates⟩ := stage.exists_locates name
    exact ⟨whereabouts, hlocates, fun other hother => hother.unique hlocates⟩

end Dramatis
