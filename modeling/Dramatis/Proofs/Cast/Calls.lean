import Dramatis.Proofs.Cast.Assembly

/-!
# Dramatis.Proofs.Cast.Calls

Which calls of its factory an assembly makes.  A factory can keep a record of the personae it
is called for, and nothing that it does becomes different by that.  After an assembly the
record holds what the course of the assembly says: all personae in their order, once each, or
those up to the one that ended it.

Every assembly takes just one course, so the three courses say all that can happen.
-/

namespace Dramatis

variable {σ α : Type}

namespace Factory

/-- A factory that keeps a record of the personae it has been called for beside its state, and
makes of each what it would have made without. -/
def recorded (factory : Factory σ α) : Factory (σ × List Persona) α :=
  fun persona (s, called) => ((factory persona s).1, (factory persona s).2, called ++ [persona])

variable {factory : Factory σ α} {s t : σ}

/-- A call is put down behind those before it, also if it is refused. -/
theorem recorded_of_call {persona : Persona} {made : Except Failure α}
    (call : factory persona s = (made, t)) (called : List Persona) :
    factory.recorded persona (s, called) = (made, t, called ++ [persona]) := by
  rw [recorded, call]

/-- The personae of which actors are made go on record in their order. -/
theorem Makes.recorded {personae : List Persona} {actors : List α}
    (h : factory.Makes s personae actors t) (called : List Persona) :
    factory.recorded.Makes (s, called) personae actors (t, called ++ personae) := by
  induction h generalizing called with
  | nil =>
      rw [List.append_nil]
      exact .nil
  | @cons s t u persona personae actor actors call _ ih =>
      have hrest := ih (called ++ [persona])
      rw [List.append_assoc, List.singleton_append] at hrest
      exact .cons (recorded_of_call call called) hrest

end Factory

namespace Cast

variable [Actor α]

/-- An assembly takes the same course when its calls are recorded, and the calls of the course
are those on record. -/
theorem Course.recorded {factory : Factory σ α} {s : σ} {personae called : List Persona}
    {outcome : Outcome σ (Cast α)} (h : Course factory s personae called outcome)
    (earlier : List Persona) :
    Course factory.recorded (s, earlier) personae called
      ⟨outcome.answer, (outcome.state, earlier ++ called), outcome.notices⟩ := by
  cases h with
  | complete made differ => exact .complete (made.recorded earlier) differ
  | refused made differ call =>
      rw [← List.append_assoc]
      exact .refused (made.recorded earlier) differ (Factory.recorded_of_call call _)
  | taken made differ call htaken =>
      rw [← List.append_assoc]
      exact .taken (made.recorded earlier) differ (Factory.recorded_of_call call _) htaken

/-- Every assembly takes a course, and only one: a course says exactly what the assembly
answers, in which state it leaves the factory, which notices it writes, and for which personae
it has called the factory.  A complete cast files each actor under the normal form of its name
and nothing else. -/
theorem course_of_assemble (factory : Factory σ α) (personae : List Persona) (s : σ) :
    (∃ called, Course factory s personae called ((assemble factory personae).perform s)) ∧
    (∀ (called : List Persona) (outcome : Outcome σ (Cast α)),
      Course factory s personae called outcome ↔
        (assemble factory personae).perform s = outcome ∧
          (assemble factory.recorded personae).perform (s, []) =
            ⟨outcome.answer, (outcome.state, called), outcome.notices⟩) ∧
    ∀ cast, ((assemble factory personae).perform s).answer = .ok cast →
      ∀ (key : String) (i : Nat), cast.positionOfKey? key = some i ↔
        ∃ actor, cast.actors[i]? = some actor ∧ Name.normalize (Actor.name actor) = key := by
  obtain ⟨called, hcourse⟩ := course_assemble factory s personae
  refine ⟨⟨called, hcourse⟩, fun called' outcome => ⟨fun h => ?_, ?_⟩, fun cast hcast key i => ?_⟩
  · exact ⟨h.perform_assemble, (h.recorded []).perform_assemble⟩
  · rintro ⟨rfl, hrecorded⟩
    have hcalled := (hcourse.recorded []).perform_assemble
    rw [hrecorded] at hcalled
    obtain rfl : called' = called := congrArg (fun outcome => outcome.state.2) hcalled
    exact hcourse
  · exact (filed_of_assemble hcast).1.positionOfKey?_eq_some

/-- The third of four names is taken, and the fourth persona is never asked for. -/
theorem course_of_assemble_taken :
    (assemble (Factory.raw.recorded) [⟨"Romeo", none, none⟩, ⟨"juliet", none, none⟩,
      ⟨" ROMEO", none, some ⟨40, 3, 0⟩⟩, ⟨"Puck", none, none⟩]).perform (0, []) =
      ⟨.error (.duplicate "Romeo" (some ⟨40, 3, 0⟩)),
        (3, [⟨"Romeo", none, none⟩, ⟨"juliet", none, none⟩, ⟨" ROMEO", none, some ⟨40, 3, 0⟩⟩]),
        []⟩ := by
  have hmade : Factory.raw.Makes 0 [⟨"Romeo", none, none⟩, ⟨"juliet", none, none⟩]
      [⟨"Romeo", 1, []⟩, ⟨"juliet", 2, []⟩] 2 := .cons rfl (.cons rfl .nil)
  have hcall : Factory.raw ⟨" ROMEO", none, some ⟨40, 3, 0⟩⟩ 2 = (.ok ⟨" ROMEO", 3, []⟩, 3) := rfl
  have hcourse : Course Factory.raw 0 (_ ++ _ :: [⟨"Puck", none, none⟩]) _ _ :=
    .taken hmade (by decide) hcall (by decide)
  exact (((course_of_assemble _ _ _).2.1 _ _).1 hcourse).2

end Cast

end Dramatis
