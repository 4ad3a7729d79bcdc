import Dramatis.Proofs.Stage.Bounds

/-!
# Dramatis.Proofs.Stage.Views

Who is shown on stage and who off.  The two lists are made in different ways: one goes
through the positions on stage and reads an actor at each, the other goes through the
actors and leaves out those whose position is on stage.

They fit together because positions are kept in ascending order and none is out of range.
Both lists are in the order of declaration, whatever the order of entrances was, and every
position of the cast is shown in exactly one of them.
-/

namespace Dramatis

variable {σ α : Type}

namespace Stage

/-! ## Actors at positions -/

/-- Actors are those at given positions, one for each. -/
def ShowsAt (stage : Stage α) (is : List Nat) (actors : List α) : Prop :=
  is.map (fun i => stage.cast.actors[i]?) = actors.map some

section ShowsAt

variable {stage : Stage α} {is : List Nat} {actors : List α}

/-- One actor shows at its position. -/
theorem showsAt_of_getElem? {i : Nat} {actor : α} (h : stage.cast.actors[i]? = some actor) :
    stage.ShowsAt [i] [actor] := by
  rw [ShowsAt, List.map_singleton, h, List.map_singleton]

/-- An actor shows where it has been put in the place of another. -/
theorem showsAt_put {i : Nat} {actor : α} (h : stage.cast.actors[i]? = some actor)
    (changed : α) :
    ({ stage with cast := stage.cast.put i changed } : Stage α).ShowsAt [i] [changed] := by
  have hi : i < stage.cast.actors.length := (List.getElem?_eq_some_iff.1 h).1
  exact showsAt_of_getElem? (List.getElem?_set_self hi)

/-- As many actors show as there are positions. -/
theorem ShowsAt.length_eq (h : stage.ShowsAt is actors) : actors.length = is.length := by
  simpa using congrArg List.length h.symm

/-- The names shown are those that the actors at the positions have now. -/
theorem ShowsAt.map_name [Actor α] (h : stage.ShowsAt is actors) :
    actors.map Actor.name = is.map stage.cast.nameAt := by
  have hnames := congrArg (List.map fun actor? => actor?.elim "" Actor.name) h
  rw [List.map_map, List.map_map] at hnames
  exact hnames.symm

/-- Reading the actors at positions in range. -/
theorem showsAt_filterMap (h : ∀ i ∈ is, i < stage.cast.size) :
    stage.ShowsAt is (is.filterMap fun i => stage.cast.actors[i]?) := by
  induction is with
  | nil => rfl
  | cons i is ih =>
      obtain ⟨hi, his⟩ := List.forall_mem_cons.1 h
      have hactor : stage.cast.actors[i]? = some stage.cast.actors[i] := List.getElem?_eq_getElem hi
      have hrest := ih his
      rw [ShowsAt] at hrest ⊢
      rw [List.filterMap_cons_some hactor, List.map_cons, List.map_cons, hrest, hactor]

end ShowsAt

/-! ## The positions of the two views -/

variable {built : Cast α} {stage : Stage α}

/-- The positions on stage, found by going through the cast. -/
theorem Sound.toList_present (h : stage.Sound built) :
    stage.present.toList = (List.range stage.cast.size).filter stage.present.contains := by
  have hascending : ((List.range stage.cast.size).filter stage.present.contains).Pairwise (· < ·) :=
    List.pairwise_lt_range.filter _
  have hsame : stage.present = ⟨_, hascending⟩ := Positions.ext fun i => by
    rw [Positions.mem_def, Positions.mem_def, List.mem_filter, List.mem_range,
      Positions.contains_iff]
    exact ⟨fun hi => ⟨h.present_lt i hi, hi⟩, And.right⟩
  exact congrArg Positions.toList hsame

/-- Every position is on stage or off, and none is both. -/
theorem Sound.perm_range (h : stage.Sound built) :
    (stage.present.toList ++ stage.absentPositions).Perm (List.range stage.cast.size) := by
  rw [h.toList_present, absentPositions]
  exact List.filter_append_perm _ _

/-- Those on stage show at the positions on stage, as none of these is out of range. -/
theorem Sound.showsAt_presentActors (h : stage.Sound built) :
    stage.ShowsAt stage.present.toList stage.presentActors :=
  showsAt_filterMap h.present_lt

/-- Those off stage show at the positions off stage, wherever the stage comes from. -/
theorem showsAt_absentActors (stage : Stage α) :
    stage.ShowsAt stage.absentPositions stage.absentActors := by
  rw [absentActors_eq_filterMap]
  exact showsAt_filterMap fun _ hi => (mem_absentPositions.1 hi).1

/-! ## The two views together -/

/-- Who is shown on stage and who off, and how the two fit together. -/
structure Partitioned [Actor α] (stage : Stage α) : Prop where
  /-- Those shown on stage are the ones at the positions on stage, in ascending order. -/
  showsAt_presentActors : stage.ShowsAt stage.present.toList stage.presentActors
  /-- Those shown off stage are the ones at the other positions, in ascending order. -/
  showsAt_absentActors : stage.ShowsAt stage.absentPositions stage.absentActors
  present_ascending : stage.present.toList.Pairwise (· < ·)
  absent_ascending : stage.absentPositions.Pairwise (· < ·)
  mem_absent_iff : ∀ i, i ∈ stage.absentPositions ↔ i < stage.cast.size ∧ i ∉ stage.present
  /-- Every position of the cast is in one of the two, once. -/
  perm_range : (stage.present.toList ++ stage.absentPositions).Perm (List.range stage.cast.size)
  headcount_eq : stage.headcount = stage.presentActors.length
  length_add : stage.presentActors.length + stage.absentActors.length = stage.cast.size
  /-- The names shown are those that the actors have now. -/
  presentNames_eq : stage.presentNames = stage.present.toList.map stage.cast.nameAt
  absentNames_eq : stage.absentNames = stage.absentPositions.map stage.cast.nameAt
  snapshot_eq : stage.snapshot = ⟨stage.flag, stage.present.toList.map stage.cast.nameAt,
    stage.absentPositions.map stage.cast.nameAt⟩
  /-- Whoever a name stands for is shown where the question for the name says. -/
  isPresent_iff : ∀ name i, stage.cast.position? name = some i →
    (stage.isPresent name = true ↔ i ∈ stage.present.toList) ∧
      (stage.isPresent name = false ↔ i ∈ stage.absentPositions)

variable [Actor α]

/-- Wherever nobody is out of range, the two views fit together. -/
theorem Sound.partitioned (h : stage.Sound built) : stage.Partitioned := by
  have hpresent := h.showsAt_presentActors
  have habsent := showsAt_absentActors stage
  have hpresentNames : stage.presentNames = stage.present.toList.map stage.cast.nameAt :=
    hpresent.map_name
  have habsentNames : stage.absentNames = stage.absentPositions.map stage.cast.nameAt :=
    habsent.map_name
  refine ⟨hpresent, habsent, stage.present.ascending, List.pairwise_lt_range.filter _,
    fun i => mem_absentPositions, h.perm_range, hpresent.length_eq.symm, ?_, hpresentNames,
    habsentNames, ?_, fun name i hname => ?_⟩
  · have hlength := h.perm_range.length_eq
    rw [List.length_append, List.length_range] at hlength
    rw [hpresent.length_eq, habsent.length_eq, hlength]
  · rw [snapshot, hpresentNames, habsentNames]
  · have hi : i < stage.cast.size := h.indexed.position?_lt hname
    rw [isPresent, hname, Option.any_some, mem_absentPositions, ← Bool.not_eq_true,
      Positions.contains_iff]
    exact ⟨Iff.rfl, by simp [hi]⟩

/-- From the assembly of a cast on, whatever is done with it and on its stage, the actors on
stage and those off stage are the subsequences of the cast at the positions on stage and at
all others, both in the order of declaration.  Every position is shown in exactly one of the
two, names and snapshots show the names that the actors there have now, and whoever a name
stands for is shown on stage exactly if the name is said to be present. -/
theorem partitioned_of_assemble {factory : Factory σ α} {personae : List Persona} {s : σ}
    {cast : Cast α} (h : ((Cast.assemble factory personae).perform s).answer = .ok cast)
    (play : List (Direction α)) : ((ofCast cast).after play).Partitioned := by
  obtain ⟨hfiled, -⟩ := Cast.filed_of_assemble h
  exact ((sound_ofCast hfiled.indexed).after play).partitioned

/-- The last player declared enters first and takes another name. -/
theorem partitioned_of_assemble_three_players :
    ∃ cast : Cast Player,
      ((Cast.assemble .raw [⟨"Romeo", none, none⟩, ⟨"Juliet", none, none⟩,
        ⟨"Tybalt", none, none⟩]).perform 0).answer = .ok cast ∧
      let stage := (ofCast cast).after [.bringOn ["Tybalt"], .bringOn ["romeo"],
        .change "Tybalt" fun player => { player with name := "Mercutio" }]
      stage.Partitioned ∧ stage.presentNames = ["Romeo", "Mercutio"] ∧
        stage.absentNames = ["Juliet"] ∧ 2 ∈ stage.present.toList := by
  have hbuilt : ((Cast.assemble .raw [⟨"Romeo", none, none⟩, ⟨"Juliet", none, none⟩,
      ⟨"Tybalt", none, none⟩]).perform 0).answer =
      .ok ⟨[⟨"Romeo", 1, []⟩, ⟨"Juliet", 2, []⟩, ⟨"Tybalt", 3, []⟩],
        [("Romeo", 0), ("Juliet", 1), ("Tybalt", 2)]⟩ := rfl
  have hviews := partitioned_of_assemble hbuilt [.bringOn ["Tybalt"], .bringOn ["romeo"],
    .change "Tybalt" fun player => { player with name := "Mercutio" }]
  exact ⟨_, hbuilt, hviews, rfl, rfl, (hviews.isPresent_iff "tybalt" 2 rfl).1.1 rfl⟩

end Stage

end Dramatis
