import Dramatis.Proofs.Cast.OwnName
import Dramatis.Proofs.Stage.Run

/-!
# Dramatis.Proofs.Stage.Keys

Plays in which everybody keeps the name that they are filed under.

The index of a cast is made from the names that its actors have when it is assembled, and no
direction touches it.  What may change are the names.  As long as no change gives an actor a
name with another normal form, the index goes on being the one that the actors' present names
would make, and whatever was proved of a cast from its assembly holds of it at any later time.
-/

namespace Dramatis

variable {α : Type} [Actor α]

namespace Stage

/-- No step of a play gives an actor another name. -/
def KeepsNames (stage : Stage α) (play : List (Direction α)) : Prop :=
  ∀ step ∈ stage.steps play, step.outcome.state.cast.names = step.stage.cast.names

/-- No step of a play gives an actor a name with another normal form. -/
def KeepsKeys (stage : Stage α) (play : List (Direction α)) : Prop :=
  ∀ step ∈ stage.steps play,
    step.outcome.state.cast.actors.map Actor.key = step.stage.cast.actors.map Actor.key

instance (stage : Stage α) (play : List (Direction α)) : Decidable (stage.KeepsNames play) :=
  inferInstanceAs (Decidable (∀ step ∈ stage.steps play, _))

instance (stage : Stage α) (play : List (Direction α)) : Decidable (stage.KeepsKeys play) :=
  inferInstanceAs (Decidable (∀ step ∈ stage.steps play, _))

/-- What no step of a play changes is at its end what it was at its beginning. -/
theorem after_eq_of_steps {γ : Type} {f : Stage α → γ} {stage : Stage α}
    {play : List (Direction α)}
    (h : ∀ step ∈ stage.steps play, f step.outcome.state = f step.stage) :
    f (stage.after play) = f stage := by
  induction play generalizing stage with
  | nil => rfl
  | cons direction play ih =>
      obtain ⟨hfirst, hlater⟩ := List.forall_mem_cons.1 h
      exact (ih hlater).trans hfirst

variable {stage : Stage α} {play : List (Direction α)} {i : Nat} {actor : α}

/-- A key is made from a name and from nothing else. -/
theorem KeepsNames.keepsKeys (h : stage.KeepsNames play) : stage.KeepsKeys play := by
  intro step hstep
  have hnames := congrArg (List.map Name.normalize) (h step hstep)
  rwa [Cast.names, Cast.names, List.map_map, List.map_map] at hnames

/-- Without a change of a name everybody is called after the play what they were called before it.
-/
theorem KeepsNames.names_eq (h : stage.KeepsNames play) :
    (stage.after play).cast.names = stage.cast.names :=
  after_eq_of_steps (f := fun stage => stage.cast.names) h

/-- After the play everybody is still filed under the key that their name makes. -/
theorem KeepsKeys.filed (h : stage.KeepsKeys play) (hfiled : stage.cast.Filed) :
    (stage.after play).cast.Filed := by
  obtain ⟨hindex, -⟩ := stage.index_eq_of_play play
  have hkeys : (stage.after play).cast.actors.map Actor.key = stage.cast.actors.map Actor.key :=
    after_eq_of_steps (f := fun stage => stage.cast.actors.map Actor.key) h
  refine ⟨?_, ?_⟩
  · rw [hindex, hkeys, hfiled.index_eq]
  · rw [hkeys]
    exact hfiled.keys_nodup

/-! ## The name of reports -/

/-- Mistakes speak of an actor by the key that its present name makes. -/
theorem reportName_eq_key (hactor : stage.cast.actors[i]? = some actor) :
    stage.reportName i = Actor.key actor := by
  rw [reportName, Cast.nameAt, hactor]
  rfl

/-- The name by which mistakes speak of an actor leads to the actor. -/
theorem positionOfKey?_reportName (h : stage.cast.Filed)
    (hactor : stage.cast.actors[i]? = some actor) :
    stage.cast.positionOfKey? (stage.reportName i) = some i := by
  rw [reportName_eq_key hactor]
  exact h.positionOfKey?_eq_some.2 ⟨actor, hactor, rfl⟩

end Stage

end Dramatis
