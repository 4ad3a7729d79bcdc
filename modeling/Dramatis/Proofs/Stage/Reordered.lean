import Dramatis.Proofs.Cast.Reordered
import Dramatis.Proofs.Stage.Views

/-!
# Dramatis.Proofs.Stage.Reordered

Plays of the same directions with casts declared in two orders.  A position stands for another
actor in the one cast than in the other, so the two stages differ in every position they hold.
But a bijection takes the positions of each to those of the other, and no direction can tell
which of two actors was declared first, unless it lists actors.

So the two plays go the same way step by step: the same directions fail with the same mistake,
the same actors are found and addressed, the same notices are written, and the same actors are
on stage.  Lists show the same actors in another order.
-/

namespace Dramatis

variable {α β : Type}

/-! ## Stages in another order -/

namespace Stage

/-- A bijection of positions takes the cast of a stage and those on it to the cast of another
stage and those on that. -/
structure Reordered (π : Equiv.Perm Nat) (stage other : Stage α) : Prop where
  cast : stage.cast.Reordered π other.cast
  mem_present_iff : ∀ i, π i ∈ other.present ↔ i ∈ stage.present
  flag_eq : stage.flag = other.flag

/-- Stages before the play, with casts in two orders. -/
theorem reordered_ofCast {π : Equiv.Perm Nat} {cast other : Cast α}
    (h : cast.Reordered π other) : (ofCast cast).Reordered π (ofCast other) where
  cast := h
  mem_present_iff _ := iff_of_false Positions.not_mem_empty Positions.not_mem_empty
  flag_eq := rfl

namespace Reordered

variable {π : Equiv.Perm Nat} {stage other : Stage α} {i j : Nat}

/-! ### Whom names stand for -/

theorem actorAt_eq (h : stage.Reordered π other) (i : Nat) :
    other.cast.actorAt (π i) = stage.cast.actorAt i := by
  rw [Cast.actorAt, Cast.actorAt, h.cast.actors_eq]

/-- A name leads to corresponding positions, or fails alike. -/
theorem position_eq (h : stage.Reordered π other) (name : String) :
    other.cast.position name = (stage.cast.position name).map π := by
  rw [Cast.position, Cast.position, h.cast.position?_eq]
  cases stage.cast.position? name <;> rfl

/-- A name finds the same actor, or nobody for the same reason. -/
theorem lookup_eq (h : stage.Reordered π other) (name : String) :
    other.cast.lookup name = stage.cast.lookup name := by
  rw [Cast.lookup, Cast.lookup, h.position_eq]
  cases stage.cast.position name with
  | error error => rfl
  | ok i => exact h.actorAt_eq i

theorem contains_eq (h : stage.Reordered π other) (i : Nat) :
    other.present.contains (π i) = stage.present.contains i := by
  rw [Bool.eq_iff_iff, Positions.contains_iff, Positions.contains_iff, h.mem_present_iff]

theorem isPresent_eq (h : stage.Reordered π other) (name : String) :
    other.isPresent name = stage.isPresent name := by
  rw [isPresent, isPresent, h.cast.position?_eq]
  cases stage.cast.position? name with
  | none => rfl
  | some i => exact h.contains_eq i

/-! ### Who is on stage and who off -/

theorem lt_size_iff (h : stage.Reordered π other) (i : Nat) :
    π i < other.cast.size ↔ i < stage.cast.size := by
  have hsome : (other.cast.actors[π i]?.isSome = true) = (stage.cast.actors[i]?.isSome = true) := by
    rw [h.cast.actors_eq]
  rwa [isSome_getElem?, isSome_getElem?, eq_iff_iff] at hsome

/-- Positions of one stage and those of the other, none of them twice. -/
theorem perm_of_mem_iff {is js : List Nat} (his : is.Nodup) (hjs : js.Nodup)
    (hmem : ∀ i, π i ∈ js ↔ i ∈ is) : (is.map π).Perm js := by
  rw [List.perm_ext_iff_of_nodup (his.map π.injective) hjs]
  intro j
  obtain ⟨i, rfl⟩ := π.surjective j
  rw [List.mem_map_of_injective π.injective, hmem]

/-- The positions on stage correspond to each other. -/
theorem perm_toList (h : stage.Reordered π other) :
    (stage.present.toList.map π).Perm other.present.toList :=
  perm_of_mem_iff stage.present.ascending.nodup other.present.ascending.nodup h.mem_present_iff

/-- The positions of the casts correspond to each other. -/
theorem perm_range (h : stage.Reordered π other) :
    ((List.range stage.cast.size).map π).Perm (List.range other.cast.size) :=
  perm_of_mem_iff List.nodup_range List.nodup_range fun i => by
    rw [List.mem_range, List.mem_range, h.lt_size_iff]

/-- The positions off stage correspond to each other. -/
theorem perm_absentPositions (h : stage.Reordered π other) :
    (stage.absentPositions.map π).Perm other.absentPositions :=
  perm_of_mem_iff (List.nodup_range.filter _) (List.nodup_range.filter _) fun i => by
    rw [mem_absentPositions, mem_absentPositions, h.lt_size_iff, h.mem_present_iff]

theorem headcount_eq (h : stage.Reordered π other) : other.headcount = stage.headcount := by
  have hlength := h.perm_toList.length_eq
  rw [List.length_map] at hlength
  exact hlength.symm

/-- The actors at positions of one stage are those at the positions of the other. -/
theorem perm_of_showsAt (h : stage.Reordered π other) {is js : List Nat} {actors others : List α}
    (hactors : stage.ShowsAt is actors) (hothers : other.ShowsAt js others)
    (hperm : (is.map π).Perm js) : actors.Perm others := by
  have hsome : (actors.map some).Perm (others.map some) := by
    rw [← hactors, ← hothers]
    have hsame := hperm.map fun j => other.cast.actors[j]?
    rw [List.map_map] at hsame
    simpa only [Function.comp_def, h.cast.actors_eq] using hsame
  simpa [List.filterMap_map] using hsome.filterMap id

/-- All actors are those at all positions. -/
theorem showsAt_actors (stage : Stage α) :
    stage.ShowsAt (List.range stage.cast.size) stage.cast.actors := by
  refine List.ext_getElem (by simp [Cast.size]) fun i _ hi => ?_
  rw [List.length_map] at hi
  simp [hi]

/-- The casts have the same actors. -/
theorem perm_actors (h : stage.Reordered π other) :
    stage.cast.actors.Perm other.cast.actors :=
  h.perm_of_showsAt (showsAt_actors stage) (showsAt_actors other) h.perm_range

theorem size_eq (h : stage.Reordered π other) : other.cast.size = stage.cast.size :=
  h.perm_actors.length_eq.symm

theorem isEmpty_eq (h : stage.Reordered π other) : other.cast.isEmpty = stage.cast.isEmpty :=
  h.perm_actors.isEmpty_eq.symm

/-- The same actors are on stage. -/
theorem perm_presentActors (h : stage.Reordered π other) :
    stage.presentActors.Perm other.presentActors := by
  have hsame := h.perm_toList.filterMap fun j => other.cast.actors[j]?
  rw [List.filterMap_map] at hsame
  rw [presentActors, presentActors]
  simpa only [Function.comp_def, h.cast.actors_eq] using hsame

theorem perm_absentActors (h : stage.Reordered π other) :
    stage.absentActors.Perm other.absentActors :=
  h.perm_of_showsAt stage.showsAt_absentActors other.showsAt_absentActors h.perm_absentPositions

/-! ### Partners -/

/-- Those on stage are the ones at some positions exactly if they are those at the corresponding
ones. -/
theorem present_eq_of_iff (h : stage.Reordered π other) (is : List Nat) :
    other.present = .of (is.map π) ↔ stage.present = .of is := by
  constructor
  · intro hpresent
    refine Positions.ext fun i => ?_
    rw [← h.mem_present_iff, hpresent, Positions.mem_of, Positions.mem_of,
      List.mem_map_of_injective π.injective]
  · intro hpresent
    refine Positions.ext fun j => ?_
    obtain ⟨i, rfl⟩ := π.surjective j
    rw [h.mem_present_iff, hpresent, Positions.mem_of, Positions.mem_of,
      List.mem_map_of_injective π.injective]

/-- Whoever faces a position has the corresponding position on the other stage. -/
theorem partner?_eq (h : stage.Reordered π other) (i : Nat) :
    other.partner? (π i) = (stage.partner? i).map π := by
  refine Option.ext fun k => ?_
  obtain ⟨j, rfl⟩ := π.surjective k
  have hpair : other.present = .of [π i, π j] ↔ stage.present = .of [i, j] :=
    h.present_eq_of_iff [i, j]
  rw [Option.map_eq_some_iff]
  simp only [EmbeddingLike.apply_eq_iff_eq, exists_eq_right, partner?_eq_some, hpair, ne_eq]

/-! ### Changes -/

theorem withPresent (h : stage.Reordered π other) {present present' : Positions}
    (hmem : ∀ i, π i ∈ present' ↔ i ∈ present) :
    ({ stage with present } : Stage α).Reordered π { other with present := present' } :=
  ⟨h.cast, hmem, h.flag_eq⟩

/-- Corresponding positions come on stage. -/
theorem insertAll (h : stage.Reordered π other) (is : List Nat) :
    ({ stage with present := stage.present.insertAll is } : Stage α).Reordered π
      { other with present := other.present.insertAll (is.map π) } :=
  h.withPresent fun i => by
    rw [Positions.mem_insertAll, Positions.mem_insertAll, List.mem_map_of_injective π.injective,
      h.mem_present_iff]

theorem eraseAll (h : stage.Reordered π other) (is : List Nat) :
    ({ stage with present := stage.present.eraseAll is } : Stage α).Reordered π
      { other with present := other.present.eraseAll (is.map π) } :=
  h.withPresent fun i => by
    rw [Positions.mem_eraseAll, Positions.mem_eraseAll, List.mem_map_of_injective π.injective,
      h.mem_present_iff]

theorem erase (h : stage.Reordered π other) (i : Nat) :
    ({ stage with present := stage.present.erase i } : Stage α).Reordered π
      { other with present := other.present.erase (π i) } :=
  h.eraseAll [i]

/-- One actor is put at corresponding positions. -/
theorem put (h : stage.Reordered π other) (i : Nat) (actor : α) :
    ({ stage with cast := stage.cast.put i actor } : Stage α).Reordered π
      { other with cast := other.cast.put (π i) actor } := by
  refine ⟨⟨fun k => ?_, h.cast.position?_eq⟩, h.mem_present_iff, h.flag_eq⟩
  have hlt : π i < other.cast.actors.length ↔ i < stage.cast.actors.length := h.lt_size_iff i
  simp only [Cast.put, List.getElem?_set, EmbeddingLike.apply_eq_iff_eq, hlt, h.cast.actors_eq]

/-! ### Checks -/

/-- A group is found at corresponding positions, or refused for the same reason. The induction is
on its names; those seen so far correspond to each other. -/
theorem groupPositions_map {locate locate' : String → Except Mistake Nat}
    {again again' : Nat → Mistake} (hlocate : ∀ name, locate' name = (locate name).map π)
    (hagain : ∀ i, again' (π i) = again i) (seen : List Nat) (names : List String) :
    groupPositions locate' again' (seen.map π) names =
      (groupPositions locate again seen names).map (List.map π) := by
  induction names generalizing seen with
  | nil => rfl
  | cons name names ih =>
      have hname' := hlocate name
      cases hname : locate name with
      | error error =>
          rw [hname] at hname'
          rw [groupPositions_cons_error hname, groupPositions_cons_error hname']
          rfl
      | ok i =>
          rw [hname] at hname'
          have hseen : π i ∈ seen.map π ↔ i ∈ seen := List.mem_map_of_injective π.injective
          by_cases hi : i ∈ seen
          · rw [groupPositions_cons_again hname hi,
              groupPositions_cons_again hname' (hseen.2 hi), hagain]
            rfl
          · have hrest := ih (i :: seen)
            rw [List.map_cons] at hrest
            rw [groupPositions_cons_ok hname hi,
              groupPositions_cons_ok hname' (mt hseen.1 hi), hrest]
            cases groupPositions locate again (i :: seen) names <;> rfl

variable [Actor α]

/-- The actors at corresponding positions have the same name. -/
theorem nameAt_eq (h : stage.Reordered π other) (i : Nat) :
    other.cast.nameAt (π i) = stage.cast.nameAt i := by
  rw [Cast.nameAt, Cast.nameAt, h.cast.actors_eq]

theorem map_nameAt_eq (h : stage.Reordered π other) (is : List Nat) :
    (is.map π).map other.cast.nameAt = is.map stage.cast.nameAt := by
  rw [List.map_map]
  exact List.map_congr_left fun i _ => h.nameAt_eq i

theorem reportName_eq (h : stage.Reordered π other) (i : Nat) :
    other.reportName (π i) = stage.reportName i := by
  rw [reportName, reportName, h.nameAt_eq]

/-- Somebody is found on stage at corresponding positions, or missed there alike. -/
theorem presentPosition_eq (h : stage.Reordered π other) (name : String) :
    other.presentPosition name = (stage.presentPosition name).map π := by
  rw [Stage.presentPosition_eq, Stage.presentPosition_eq, h.cast.position?_eq]
  cases stage.cast.position? name with
  | none => rfl
  | some i =>
      simp only [Option.map_some, h.contains_eq, h.reportName_eq]
      split <;> rfl

theorem absentPosition_eq (h : stage.Reordered π other) (name : String) :
    other.absentPosition name = (stage.absentPosition name).map π := by
  rw [Stage.absentPosition_eq, Stage.absentPosition_eq, h.cast.position?_eq]
  cases stage.cast.position? name with
  | none => rfl
  | some i =>
      simp only [Option.map_some, h.contains_eq, h.reportName_eq]
      split <;> rfl

/-- A group can enter both stages, at corresponding positions, or is refused alike. -/
theorem entering_eq (h : stage.Reordered π other) (names : List String) :
    other.entering names = (stage.entering names).map (List.map π) :=
  groupPositions_map h.absentPosition_eq (fun i => by rw [h.reportName_eq]) [] names

theorem leaving_eq (h : stage.Reordered π other) (names : List String) :
    other.leaving names = (stage.leaving names).map (List.map π) :=
  groupPositions_map h.presentPosition_eq (fun i => by rw [h.reportName_eq]) [] names

/-- A speaker has an addressee at the corresponding position, or none for the same reason. -/
theorem exchange_eq (h : stage.Reordered π other) (name : String) :
    other.exchange name = (stage.exchange name).map (Prod.map π π) := by
  have hposition := h.cast.position?_eq name
  cases hname : stage.cast.position? name with
  | none =>
      rw [hname] at hposition
      rw [exchange_of_unknown hname, exchange_of_unknown hposition]
      rfl
  | some i =>
      rw [hname] at hposition
      have hsize : other.present.size = stage.present.size := h.headcount_eq
      rw [Stage.exchange_eq hname, Stage.exchange_eq hposition, h.partner?_eq]
      cases stage.partner? i with
      | some j => rfl
      | none =>
          simp only [Option.map_none, h.contains_eq, h.reportName_eq, hsize]
          split
          · rfl
          · split <;> rfl

end Reordered

end Stage

end Dramatis
