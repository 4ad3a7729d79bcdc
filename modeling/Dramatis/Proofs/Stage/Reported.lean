import Dramatis.Proofs.Cast.Lookup
import Dramatis.Proofs.Stage.Keys
import Dramatis.Proofs.Stage.Views

/-!
# Dramatis.Proofs.Stage.Reported

What becomes of the names that a stage of characters reports when they are given back to it.  A
stage reports the names that its actors have now, and it finds actors by the keys of the names
that they had when the cast was assembled.

The two go together as long as the normal form of each actor's name is the actor's key.  Every
reported name is then good for the very actor that bears it.  An actor may be changed into one
with another name, though.  Nobody enters or leaves by this and no key is changed, so the new name
is reported, and stands for whoever has its normal form for a key, or for nobody.
-/

namespace Dramatis

namespace Stage

section Names

variable {α : Type} {stage : Stage α} {name : String}

/-- A name is said to be present exactly if it stands for a position on stage. -/
theorem isPresent_iff :
    stage.isPresent name = true ↔ ∃ i ∈ stage.present, stage.cast.position? name = some i := by
  rw [isPresent, Option.any_eq_true]
  simp only [Positions.contains_iff, and_comm]

/-- Somebody in the cast is off stage. -/
theorem contains_and_not_isPresent_iff :
    stage.cast.contains name = true ∧ stage.isPresent name = false ↔
      ∃ i, i ∉ stage.present ∧ stage.cast.position? name = some i := by
  rw [Cast.contains, isPresent, ← Bool.not_eq_true]
  cases stage.cast.position? name with
  | none => simp
  | some i => simp [Positions.contains_iff]

variable [Actor α]

/-- The names that a stage reports are accepted back: those reported on stage are on stage, and
those reported off stage are names of the cast and off stage. -/
structure AcceptsReported (stage : Stage α) : Prop where
  present : ∀ name ∈ stage.presentNames, stage.isPresent name = true
  absent : ∀ name ∈ stage.absentNames,
    stage.cast.contains name = true ∧ stage.isPresent name = false

variable {built : Cast α}

/-- The names shown on stage are accepted exactly if each stands for somebody on stage. -/
theorem Sound.forall_presentNames_iff (h : stage.Sound built) :
    (∀ name ∈ stage.presentNames, stage.isPresent name = true) ↔
      ∀ i ∈ stage.present, ∃ j ∈ stage.present,
        stage.cast.position? (stage.cast.nameAt i) = some j := by
  rw [h.partitioned.presentNames_eq, List.forall_mem_map]
  simp only [isPresent_iff, Positions.mem_def]

/-- The names shown off stage are accepted exactly if each stands for somebody off stage. -/
theorem Sound.forall_absentNames_iff (h : stage.Sound built) :
    (∀ name ∈ stage.absentNames,
      stage.cast.contains name = true ∧ stage.isPresent name = false) ↔
      ∀ i ∈ stage.absentPositions, ∃ j ∈ stage.absentPositions,
        stage.cast.position? (stage.cast.nameAt i) = some j := by
  rw [h.partitioned.absentNames_eq, List.forall_mem_map]
  refine forall₂_congr fun i _ => ?_
  rw [contains_and_not_isPresent_iff]
  refine exists_congr fun j => ?_
  rw [mem_absentPositions, and_assoc]
  -- A position that a name stands for is one of the cast.
  exact ⟨fun hj => ⟨h.indexed.position?_lt hj.2, hj⟩, And.right⟩

end Names

variable {personae : List Persona} {cast : Cast Character}

/-- In a cast of characters, a name stands for whatever its normal form was the key of when the
cast was assembled. -/
theorem position?_after (h : ((Cast.ofPersonae personae).perform ()).answer = .ok cast)
    (play : List (Direction Character)) (name : String) :
    ((ofCast cast).after play).cast.position? name =
      cast.positionOfKey? (Name.normalize name) := by
  rw [Cast.position?_congr ((ofCast cast).index_eq_of_play play).1]
  exact Cast.position?_eq h name

/-- A reported name is accepted back exactly if its normal form is the key of somebody on the same
side of the stage as the actor that bears it. -/
theorem acceptsReported_iff (h : ((Cast.ofPersonae personae).perform ()).answer = .ok cast)
    (play : List (Direction Character)) :
    ((ofCast cast).after play).AcceptsReported ↔
      (∀ i ∈ ((ofCast cast).after play).present, ∃ j ∈ ((ofCast cast).after play).present,
        cast.positionOfKey? (((ofCast cast).after play).reportName i) = some j) ∧
      ∀ i ∈ ((ofCast cast).after play).absentPositions,
        ∃ j ∈ ((ofCast cast).after play).absentPositions,
          cast.positionOfKey? (((ofCast cast).after play).reportName i) = some j := by
  obtain ⟨hfiled, -⟩ := Cast.filed_of_ofPersonae h
  have hsound := (sound_ofCast hfiled.indexed).after play
  simp only [reportName, ← position?_after h play]
  rw [← hsound.forall_presentNames_iff, ← hsound.forall_absentNames_iff]
  constructor
  · intro haccepts
    exact ⟨haccepts.present, haccepts.absent⟩
  · intro haccepts
    exact ⟨haccepts.1, haccepts.2⟩

/-- As long as everybody's name makes the key that they are filed under, the name finds them. -/
theorem position?_name (h : ((Cast.ofPersonae personae).perform ()).answer = .ok cast)
    {play : List (Direction Character)} (hkept : (ofCast cast).KeepsKeys play) {i : Nat}
    {actor : Character} (hactor : ((ofCast cast).after play).cast.actors[i]? = some actor) :
    ((ofCast cast).after play).cast.position? (Actor.name actor) = some i := by
  obtain ⟨hfiled, -⟩ := Cast.filed_of_ofPersonae h
  have hkey := positionOfKey?_reportName (hkept.filed hfiled) hactor
  rw [reportName_eq_key hactor, Cast.positionOfKey?,
    ((ofCast cast).index_eq_of_play play).1] at hkey
  rw [position?_after h]
  exact hkey

/-- As long as everybody's name makes the key that they are filed under, the names that the stage
reports are accepted back. -/
theorem acceptsReported_of_keepsKeys
    (h : ((Cast.ofPersonae personae).perform ()).answer = .ok cast)
    {play : List (Direction Character)} (hkept : (ofCast cast).KeepsKeys play) :
    ((ofCast cast).after play).AcceptsReported := by
  obtain ⟨hfiled, -⟩ := Cast.filed_of_ofPersonae h
  have hsound := (sound_ofCast hfiled.indexed).after play
  have hself : ∀ i, i < ((ofCast cast).after play).cast.size →
      cast.positionOfKey? (((ofCast cast).after play).reportName i) = some i := by
    intro i hi
    have hactor := List.getElem?_eq_getElem hi
    rw [reportName_eq_key hactor, Actor.key, ← position?_after h play]
    exact position?_name h hkept hactor
  exact (acceptsReported_iff h play).2
    ⟨fun i hi => ⟨i, hi, hself i (hsound.present_lt i hi)⟩,
      fun i hi => ⟨i, hi, hself i (mem_absentPositions.1 hi).1⟩⟩

/-- From the assembly of a cast of characters on, whatever is done with it and on its stage, the
names reported are accepted back exactly if each of them has a normal form that is the key of
somebody on the same side of the stage as the actor that bears it.  While no change gives an actor
a name with another normal form, they are accepted back, and everybody's name stands for the actor
that bears it. -/
theorem reported_names_of_ofPersonae
    (h : ((Cast.ofPersonae personae).perform ()).answer = .ok cast)
    (play : List (Direction Character)) :
    (((ofCast cast).after play).AcceptsReported ↔
      (∀ i ∈ ((ofCast cast).after play).present, ∃ j ∈ ((ofCast cast).after play).present,
        cast.positionOfKey? (((ofCast cast).after play).reportName i) = some j) ∧
      ∀ i ∈ ((ofCast cast).after play).absentPositions,
        ∃ j ∈ ((ofCast cast).after play).absentPositions,
          cast.positionOfKey? (((ofCast cast).after play).reportName i) = some j) ∧
    ((ofCast cast).KeepsKeys play → ((ofCast cast).after play).AcceptsReported ∧
      ∀ i actor, ((ofCast cast).after play).cast.actors[i]? = some actor →
        ((ofCast cast).after play).cast.position? (Actor.name actor) = some i) :=
  ⟨acceptsReported_iff h play, fun hkept =>
    ⟨acceptsReported_of_keepsKeys h hkept, fun _ _ hactor => position?_name h hkept hactor⟩⟩

/-- Somebody on stage is replaced by a character whose name was declared in another way.  The
name that is reported is not the key any more, but its normal form is. -/
theorem reported_names_of_ofPersonae_replaced :
    ∃ cast : Cast Character,
      ((Cast.ofPersonae [⟨"romeo", none, none⟩, ⟨"ssa", none, none⟩]).perform ()).answer =
        .ok cast ∧
      let stage := (ofCast cast).after [.bringOn ["ssa"],
        .change "ssa" fun _ => .ofPersona ⟨"ßA", some "a Capulet", none⟩]
      stage.presentNames = ["SSa"] ∧ stage.AcceptsReported ∧
        stage.cast.position? "SSa" = some 1 := by
  have hbuilt : ((Cast.ofPersonae [⟨"romeo", none, none⟩, ⟨"ssa", none, none⟩]).perform
      ()).answer = .ok ⟨[⟨"Romeo", none, none⟩, ⟨"Ssa", none, none⟩],
        [("Romeo", 0), ("Ssa", 1)]⟩ := rfl
  obtain ⟨haccepts, hname⟩ := (reported_names_of_ofPersonae hbuilt [.bringOn ["ssa"],
    .change "ssa" fun _ => .ofPersona ⟨"ßA", some "a Capulet", none⟩]).2 (by decide)
  exact ⟨_, hbuilt, rfl, haccepts, hname 1 ⟨"SSa", some "a Capulet", none⟩ rfl⟩

/-- A character on stage is replaced by one with a name that nobody in the cast has.  The stage
reports the name and does not know it. -/
theorem not_acceptsReported_renamed :
    ¬ ∀ (personae : List Persona) (cast : Cast Character) (play : List (Direction Character)),
      ((Cast.ofPersonae personae).perform ()).answer = .ok cast →
        ((ofCast cast).after play).AcceptsReported := by
  intro h
  have haccepts := h [⟨"Romeo", none, none⟩] _
    [.bringOn ["Romeo"], .change "Romeo" fun _ => .ofPersona ⟨"Hamlet", none, none⟩] rfl
  have hpresent := haccepts.present "Hamlet" (by decide)
  revert hpresent
  decide

end Stage

end Dramatis
