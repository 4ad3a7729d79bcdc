import Dramatis.Proofs.Positions
import Dramatis.Proofs.Stage.Group
import Dramatis.Proofs.Stage.Run

/-!
# Dramatis.Proofs.Stage.Shift

Directions that move those whom they name: the entrance of a group, the exit of a group, and
the exit of one actor, who is a group of one.  Whoever is to enter must be off stage and is on
afterwards, and whoever is to leave must be on and is off; otherwise entrances and exits are
alike.

* Whether such a direction succeeds, and what is wrong if it does not, depends on the cast and
  on where those are whom it names.  It does not depend on who else is on stage.
* If it succeeds, those are moved whom it names, and nobody else is.
-/

namespace Dramatis

/-! ## Positions on and off stage -/

namespace Positions

variable {ps : Positions} {on on' : Bool} {is js : List Nat}

/-- The set with the positions of a list put on stage, or taken off. -/
def place (ps : Positions) (on : Bool) (is : List Nat) : Positions :=
  match on with
  | true => ps.insertAll is
  | false => ps.eraseAll is

/-- Positions that are placed are on the side where they are placed, and all others where they
were. -/
theorem mem_place {k : Nat} : k ∈ ps.place on is ↔ if k ∈ is then on = true else k ∈ ps := by
  by_cases hk : k ∈ is <;> cases on <;> simp [place, hk]

/-- Positions apart from each other can be placed in any order. -/
theorem place_comm (h : is.Disjoint js) :
    (ps.place on is).place on' js = (ps.place on' js).place on is := by
  refine ext fun k => ?_
  by_cases hk : k ∈ is
  · have hnot : k ∉ js := fun hjs => h hk hjs
    simp only [mem_place, hk, hnot, ↓reduceIte]
  · simp only [mem_place, hk, ↓reduceIte]

/-- Positions that have been moved come back when they are moved the other way. -/
theorem place_back (h : ∀ i ∈ is, (i ∈ ps ↔ on = false)) :
    (ps.place on is).place (!on) is = ps := by
  refine ext fun k => ?_
  by_cases hk : k ∈ is
  · simp only [mem_place, hk, ↓reduceIte, h k hk, Bool.not_eq_true']
  · simp only [mem_place, hk, ↓reduceIte]

/-- The order in which positions are placed does not matter. -/
theorem place_perm (h : is.Perm js) : ps.place on is = ps.place on js :=
  ext fun k => by simp only [mem_place, h.mem_iff]

end Positions

/-! ## Who is moved -/

namespace Stage

variable {α : Type}

/-- The stage after those at the positions found have moved.  Nobody moves if there is a
mistake. -/
def shifted (stage : Stage α) (on : Bool) : Except Mistake (List Nat) → Stage α
  | .ok is => { stage with present := stage.present.place on is }
  | .error _ => stage

variable [Actor α] {stage other : Stage α} {on : Bool} {names others : List String} {is : List Nat}

/-- The positions of a group that can enter, or leave, in the order of its names. -/
def movers (stage : Stage α) (on : Bool) (names : List String) : Except Mistake (List Nat) :=
  match on with
  | true => stage.entering names
  | false => stage.leaving names

omit [Actor α] in
/-- Names stand for positions one for one, and all these positions have a property. -/
theorem forall₂_position?_iff {cast : Cast α} {P : Nat → Prop} :
    List.Forall₂ (fun name i => cast.position? name = some i ∧ P i) names is ↔
      names.map cast.position? = is.map some ∧ ∀ i ∈ is, P i := by
  induction names generalizing is with
  | nil => cases is <;> simp
  | cons name names ih =>
      cases is with
      | nil => simp
      | cons i is =>
          rw [List.forall₂_cons, ih, List.map_cons, List.map_cons, List.cons.injEq,
            List.forall_mem_cons, and_and_and_comm]

/-- Those can move whose names stand for positions, all different and all on the other side. -/
theorem movers_eq_ok :
    stage.movers on names = .ok is ↔
      names.map stage.cast.position? = is.map some ∧ is.Nodup ∧
        ∀ i ∈ is, (i ∈ stage.present ↔ on = false) := by
  cases on with
  | true =>
      rw [movers, entering_eq_ok, forall₂_position?_iff, and_assoc, and_comm (b := is.Nodup)]
      simp
  | false =>
      rw [movers, leaving_eq_ok, forall₂_position?_iff, and_assoc, and_comm (b := is.Nodup)]
      simp

/-- Those who move are at the positions that the names stand for. -/
theorem filterMap_of_movers (h : stage.movers on names = .ok is) :
    names.filterMap stage.cast.position? = is := by
  have hnames := congrArg (List.filterMap id) (movers_eq_ok.1 h).1
  simpa [List.filterMap_map] using hnames

/-- Two stages with the same cast and with those whom the names stand for on the same side. -/
theorem movers_congr (hcast : stage.cast = other.cast)
    (hside : ∀ i ∈ names.filterMap stage.cast.position?, (i ∈ stage.present ↔ i ∈ other.present)) :
    stage.movers on names = other.movers on names := by
  have hreport : stage.reportName = other.reportName := by
    funext i
    rw [reportName, reportName, hcast]
  have hposition : ∀ name ∈ names, stage.absentPosition name = other.absentPosition name ∧
      stage.presentPosition name = other.presentPosition name := by
    intro name hname
    rw [absentPosition_eq, absentPosition_eq, presentPosition_eq, presentPosition_eq, ← hcast,
      ← hreport]
    cases hi : stage.cast.position? name with
    | none => exact ⟨rfl, rfl⟩
    | some i =>
        have hcontains : stage.present.contains i = other.present.contains i := by
          rw [Bool.eq_iff_iff, Positions.contains_iff, Positions.contains_iff]
          exact hside i (List.mem_filterMap.2 ⟨name, hname, hi⟩)
        simp only [hcontains, and_self]
  cases on with
  | true =>
      show stage.entering names = other.entering names
      exact groupPositions_congr (fun name hname => (hposition name hname).1)
        (fun _ _ i _ => by rw [hreport]) []
  | false =>
      show stage.leaving names = other.leaving names
      exact groupPositions_congr (fun name hname => (hposition name hname).2)
        (fun _ _ i _ => by rw [hreport]) []

/-- In another order, or under other names, the same can move. -/
theorem movers_perm (h : (names.map stage.cast.position?).Perm (others.map stage.cast.position?))
    (his : stage.movers on names = .ok is) :
    ∃ js, stage.movers on others = .ok js ∧ is.Perm js := by
  obtain ⟨hnames, hnodup, hside⟩ := movers_eq_ok.1 his
  have hperm : is.Perm (others.filterMap stage.cast.position?) := by
    rw [← filterMap_of_movers his]
    simpa [List.filterMap_map] using h.filterMap id
  refine ⟨_, movers_eq_ok.2 ⟨?_, hperm.nodup_iff.1 hnodup, fun i hi => ?_⟩, hperm⟩
  · -- All of the other names stand for somebody, since all of the names do.
    rw [List.map_filterMap_some_eq_filter_map_isSome, eq_comm, List.filter_eq_self]
    intro i? hi
    rw [← h.mem_iff, hnames] at hi
    obtain ⟨i, -, rfl⟩ := List.mem_map.1 hi
    rfl
  · exact hside i (hperm.mem_iff.2 hi)

end Stage

/-! ## Directions that move -/

/-- A direction that moves those whom it names: onto the stage, or off it. -/
inductive Direction.Shifts {α : Type} : Direction α → Bool → List String → Prop
  | bringOn (names : List String) : Shifts (.bringOn names) true names
  | sendOff (names : List String) : Shifts (.sendOff names) false names
  | dismiss (name : String) : Shifts (.dismiss name) false [name]

namespace Direction.Shifts

variable {α : Type} [Actor α] {direction : Direction α} {on : Bool} {names : List String}

/-- Those whom a direction names have moved after it, or there is a mistake and nobody has. -/
theorem perform (h : direction.Shifts on names) (stage : Stage α) :
    (direction.act.perform stage).answer = (stage.movers on names).map (fun _ => .done) ∧
      (direction.act.perform stage).state = stage.shifted on (stage.movers on names) := by
  cases h with
  | bringOn names =>
      simp only [Direction.act, Act.perform_bind_pure, Stage.perform_bringOn, Stage.movers]
      cases stage.entering names <;> exact ⟨rfl, rfl⟩
  | sendOff names =>
      simp only [Direction.act, Act.perform_bind_pure, Stage.perform_sendOff, Stage.movers]
      cases stage.leaving names <;> exact ⟨rfl, rfl⟩
  | dismiss name =>
      simp only [Direction.act, Act.perform_bind_pure, Stage.perform_dismiss, Stage.movers,
        Stage.leaving_singleton]
      cases stage.presentPosition name <;> exact ⟨rfl, rfl⟩

/-- A direction that moves a group succeeds exactly if the group can move. -/
theorem answer_eq (h : direction.Shifts on names) (stage : Stage α) :
    (Step.mk stage direction).outcome.answer = (stage.movers on names).map (fun _ => .done) :=
  (h.perform stage).1

/-- A direction that moves a group leads to the stage on which the group has moved. -/
theorem after_eq (h : direction.Shifts on names) (stage : Stage α) :
    stage.after [direction] = stage.shifted on (stage.movers on names) :=
  (h.perform stage).2

/-- A group moves exactly if it can. -/
theorem succeeds_iff (h : direction.Shifts on names) {stage : Stage α} :
    Step.Succeeds ⟨stage, direction⟩ ↔ ∃ is, stage.movers on names = .ok is := by
  rw [Step.Succeeds, h.answer_eq]
  cases stage.movers on names <;> simp [Except.map]

end Direction.Shifts

end Dramatis
