import Dramatis.Proofs.Stage.Shift

/-!
# Dramatis.Proofs.Stage.AnyOrder

When the order makes no difference.

* The names of a group may come in any order.  The same groups are accepted, and the same
  actors move.  Only the mistake of a group that is refused may be another one, since the first
  that is found is reported.
* Two directions that name nobody in common may be given in either order.  What one of them
  checks is where those are whom it names, and the other does not move them.
-/

namespace Dramatis

variable {α : Type} [Actor α] {stage : Stage α} {first second : Direction α} {on on' : Bool}
  {names others : List String}

/-! ## The names of one group -/

/-- Groups whose names stand for the same positions move alike. -/
theorem Direction.Shifts.perm (h : first.Shifts on names) (hother : second.Shifts on others)
    (hsame : (names.map stage.cast.position?).Perm (others.map stage.cast.position?)) :
    (Step.Succeeds ⟨stage, first⟩ ↔ Step.Succeeds ⟨stage, second⟩) ∧
      stage.after [first] = stage.after [second] := by
  rw [h.succeeds_iff, hother.succeeds_iff, h.after_eq, hother.after_eq]
  cases his : stage.movers on names with
  | ok is =>
      obtain ⟨js, hjs, hperm⟩ := Stage.movers_perm hsame his
      rw [hjs, Stage.shifted, Stage.shifted, Positions.place_perm hperm]
      exact ⟨⟨fun _ => ⟨js, rfl⟩, fun _ => ⟨is, rfl⟩⟩, rfl⟩
  | error error =>
      cases hjs : stage.movers on others with
      | ok js =>
          obtain ⟨is, his', -⟩ := Stage.movers_perm hsame.symm hjs
          rw [his] at his'
          contradiction
      | error other => exact ⟨⟨nofun, nofun⟩, rfl⟩

/-! ## Two directions -/

/-- Two directions that do not make a difference to each other: in either order they lead to the
same stage, and each answers as it would without the other. -/
structure Stage.Independent (stage : Stage α) (first second : Direction α) : Prop where
  after_eq : stage.after [first, second] = stage.after [second, first]
  first_answer : (Step.mk (stage.after [second]) first).outcome.answer =
    (Step.mk stage first).outcome.answer
  second_answer : (Step.mk (stage.after [first]) second).outcome.answer =
    (Step.mk stage second).outcome.answer

/-- A direction moves none of those whom it does not name. -/
theorem Direction.Shifts.movers_after (h : first.Shifts on names) (on' : Bool)
    (hapart : (names.filterMap stage.cast.position?).Disjoint
      (others.filterMap stage.cast.position?)) :
    (stage.after [first]).movers on' others = stage.movers on' others := by
  rw [h.after_eq]
  cases his : stage.movers on names with
  | error error => rfl
  | ok is =>
      rw [Stage.filterMap_of_movers his] at hapart
      refine Eq.symm (Stage.movers_congr rfl fun i hi => ?_)
      have hnot : i ∉ is := fun hmem => hapart hmem hi
      rw [Stage.shifted, Positions.mem_place, if_neg hnot]

/-- Entrances and exits of different actors are independent: neither touches anybody whom the
other checks. -/
theorem Direction.Shifts.independent (h : first.Shifts on names)
    (hsecond : second.Shifts on' others)
    (hapart : (names.filterMap stage.cast.position?).Disjoint
      (others.filterMap stage.cast.position?)) : stage.Independent first second := by
  have hothers := h.movers_after on' hapart
  have hnames := hsecond.movers_after on fun _ hi hj => hapart hj hi
  refine ⟨?_, ?_, ?_⟩
  · show (stage.after [first]).after [second] = (stage.after [second]).after [first]
    rw [hsecond.after_eq, h.after_eq (stage.after [second]), hothers, hnames, h.after_eq,
      hsecond.after_eq]
    cases his : stage.movers on names with
    | error error => rfl
    | ok is =>
        cases hjs : stage.movers on' others with
        | error error => rfl
        | ok js =>
            rw [Stage.filterMap_of_movers his, Stage.filterMap_of_movers hjs] at hapart
            simp only [Stage.shifted, Positions.place_comm hapart]
  · rw [h.answer_eq, h.answer_eq, hnames]
  · rw [hsecond.answer_eq, hsecond.answer_eq, hothers]

/-- The names of a group may come in any order: it enters or leaves all the same, with the same
stage afterwards, or it is refused all the same.  And two entrances or exits whose names stand
for nobody in common may come in either order, whether they succeed or fail. -/
theorem Stage.any_order (stage : Stage α) :
    (∀ names others : List String, names.Perm others →
      ((Step.Succeeds ⟨stage, .bringOn names⟩ ↔ Step.Succeeds ⟨stage, .bringOn others⟩) ∧
        stage.after [.bringOn names] = stage.after [.bringOn others]) ∧
      ((Step.Succeeds ⟨stage, .sendOff names⟩ ↔ Step.Succeeds ⟨stage, .sendOff others⟩) ∧
        stage.after [.sendOff names] = stage.after [.sendOff others])) ∧
    ∀ (first second : Direction α) (on on' : Bool) (names others : List String),
      first.Shifts on names → second.Shifts on' others →
      (names.filterMap stage.cast.position?).Disjoint
        (others.filterMap stage.cast.position?) → stage.Independent first second := by
  refine ⟨fun names others hperm => ?_, fun first second on on' names others h hsecond hapart => ?_⟩
  · have hsame := hperm.map stage.cast.position?
    exact ⟨Direction.Shifts.perm (.bringOn names) (.bringOn others) hsame,
      Direction.Shifts.perm (.sendOff names) (.sendOff others) hsame⟩
  · exact h.independent hsecond hapart

/-- Juliet enters, and an exit of Romeo fails, in either order. -/
theorem Stage.any_order_juliet :
    ∃ stage : Stage Character, stage.presentNames = ["Tybalt"] ∧
      (stage.after [.dismiss "romeo", .bringOn ["Juliet"]]).presentNames = ["Juliet", "Tybalt"] ∧
      stage.Independent (.bringOn ["Juliet"]) (.dismiss "romeo") ∧
      stage.after [.bringOn ["Juliet", "Romeo"]] = stage.after [.bringOn ["Romeo", "Juliet"]] := by
  obtain ⟨hgroup, hpair⟩ := any_order (⟨⟨[⟨"Romeo", none, none⟩, ⟨"Juliet", none, none⟩,
    ⟨"Tybalt", none, none⟩], [("Romeo", 0), ("Juliet", 1), ("Tybalt", 2)]⟩, .of [2], false⟩ :
      Stage Character)
  have hapart : List.Disjoint [1] [0] := by simp
  exact ⟨_, rfl, rfl, hpair _ _ _ _ _ _ (.bringOn ["Juliet"]) (.dismiss "romeo") hapart,
    (hgroup _ _ (.swap "Romeo" "Juliet" [])).1.2⟩

end Dramatis
