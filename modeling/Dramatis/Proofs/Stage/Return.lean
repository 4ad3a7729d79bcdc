import Dramatis.Proofs.Stage.Shift

/-!
# Dramatis.Proofs.Stage.Return

Entrances and exits undo each other.  A group that has entered was off stage before and its
members differ, so its exit takes off those who came on and nobody else, and leaves the stage
as it was before the entrance.  For a group that has left it is the other way round.

It does not matter by which names the group is called the second time, or in which order, as
long as the names stand for the same positions.
-/

namespace Dramatis

variable {α : Type} [Actor α] {stage : Stage α} {names others : List String}

/-- Those who have moved can move the other way, and then everybody is where they were. -/
theorem Direction.Shifts.back {direction reverse : Direction α} {on : Bool}
    (h : direction.Shifts on names) (hreverse : reverse.Shifts (!on) others)
    (hsame : (names.map stage.cast.position?).Perm (others.map stage.cast.position?))
    (hsucceeds : Step.Succeeds ⟨stage, direction⟩) :
    Step.Succeeds ⟨stage.after [direction], reverse⟩ ∧
      stage.after [direction, reverse] = stage := by
  obtain ⟨is, his⟩ := h.succeeds_iff.1 hsucceeds
  obtain ⟨js, hjs, hperm⟩ := Stage.movers_perm hsame his
  obtain ⟨hothers, hnodup, -⟩ := Stage.movers_eq_ok.1 hjs
  have hafter : stage.after [direction] =
      { stage with present := stage.present.place on is } := by
    rw [h.after_eq, his, Stage.shifted]
  have hmovers : (stage.after [direction]).movers (!on) others = .ok js := by
    refine Stage.movers_eq_ok.2 ⟨?_, hnodup, fun i hi => ?_⟩
    · rw [hafter, hothers]
    · rw [hafter, Positions.mem_place, if_pos (hperm.mem_iff.2 hi), Bool.not_eq_false']
  refine ⟨hreverse.succeeds_iff.2 ⟨js, hmovers⟩, ?_⟩
  have hback : (stage.present.place on is).place (!on) js = stage.present := by
    rw [← Positions.place_perm hperm, Positions.place_back (Stage.movers_eq_ok.1 his).2.2]
  show (stage.after [direction]).after [reverse] = stage
  rw [hreverse.after_eq, hmovers, Stage.shifted, hafter, hback]

/-- A group that has entered can leave, and a group that has left can enter, whatever the
order and the spelling of its names, and the stage is then the one that it was before. -/
theorem Stage.there_and_back (stage : Stage α) (names others : List String)
    (hsame : (names.map stage.cast.position?).Perm (others.map stage.cast.position?)) :
    (Step.Succeeds ⟨stage, .bringOn names⟩ →
      Step.Succeeds ⟨stage.after [.bringOn names], .sendOff others⟩ ∧
        stage.after [.bringOn names, .sendOff others] = stage) ∧
    (Step.Succeeds ⟨stage, .sendOff names⟩ →
      Step.Succeeds ⟨stage.after [.sendOff names], .bringOn others⟩ ∧
        stage.after [.sendOff names, .bringOn others] = stage) :=
  ⟨Direction.Shifts.back (.bringOn names) (.sendOff others) hsame,
    Direction.Shifts.back (.sendOff names) (.bringOn others) hsame⟩

/-- Romeo and Juliet enter while Tybalt is on stage, and leave under other spellings. -/
theorem Stage.there_and_back_juliet :
    ∃ stage : Stage Character, stage.presentNames = ["Tybalt"] ∧
      (stage.after [.bringOn ["Romeo", "juliet"]]).presentNames = ["Romeo", "Juliet", "Tybalt"] ∧
      stage.after [.bringOn ["Romeo", "juliet"], .sendOff [" JULIET", "romeo"]] = stage := by
  have hback := there_and_back (⟨⟨[⟨"Romeo", none, none⟩, ⟨"Juliet", none, none⟩,
    ⟨"Tybalt", none, none⟩], [("Romeo", 0), ("Juliet", 1), ("Tybalt", 2)]⟩, .of [2], false⟩ :
      Stage Character) ["Romeo", "juliet"] [" JULIET", "romeo"] (.swap (some 1) (some 0) [])
  exact ⟨_, rfl, rfl, (hback.1 ⟨.done, rfl⟩).2⟩

end Dramatis
