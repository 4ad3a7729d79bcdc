import Dramatis.Proofs.Cast.Assembly
import Dramatis.Proofs.Name.Normal

/-!
# Dramatis.Proofs.Cast.OwnName

Whom an actor's own name finds, in a cast that any factory made.

An actor is filed under its key, the normal form of its name.  A lookup of the name
tries the name itself first, so it finds whoever has this very text for a key, and
comes to the actor's own key only if nobody has.  An actor whose name settles in one
round of normalizing is never found in place of another one.  One whose name does not
can be: the key of `ßa` is `SSa`, and `SSa` is a name that has the key `Ssa`.
-/

namespace Dramatis.Cast

variable {σ α : Type} {cast : Cast α} {i j : Nat} {actor other : α} {name : String}

/-- The actor at the position that a name stands for is the one that is found. -/
theorem lookup_of_position? (hname : cast.position? name = some i)
    (hactor : cast.actors[i]? = some actor) : cast.lookup name = .ok actor := by
  rw [lookup, position, hname]
  simp only [bind, Except.bind, actorAt, hactor]

variable [Actor α]

/-- Actors with the same key are at the same position. -/
theorem Filed.eq_of_key_eq (h : cast.Filed) (hactor : cast.actors[i]? = some actor)
    (hother : cast.actors[j]? = some other) (hkey : Actor.key other = Actor.key actor) :
    j = i := by
  have hi := h.positionOfKey?_eq_some.2 ⟨actor, hactor, rfl⟩
  have hj := h.positionOfKey?_eq_some.2 ⟨other, hother, hkey⟩
  exact Option.some.inj (hj.symm.trans hi)

/-- A text that is a key stands for the actor filed under it. -/
theorem Filed.position?_of_key (h : cast.Filed) (hother : cast.actors[j]? = some other)
    (hkey : Actor.key other = name) : cast.position? name = some j := by
  rw [position?, h.positionOfKey?_eq_some.2 ⟨other, hother, hkey⟩]

/-- A name that is nobody's key stands for the actor that bears it. -/
theorem Filed.position?_of_not_key (h : cast.Filed) (hactor : cast.actors[i]? = some actor)
    (hfree : ∀ other ∈ cast.actors, Actor.key other ≠ Actor.name actor) :
    cast.position? (Actor.name actor) = some i := by
  have hnone : cast.positionOfKey? (Actor.name actor) = none := by
    cases hkey : cast.positionOfKey? (Actor.name actor) with
    | none => rfl
    | some j =>
        obtain ⟨other, hother, hkey⟩ := h.positionOfKey?_eq_some.1 hkey
        exact absurd hkey (hfree other (List.mem_of_getElem? hother))
  rw [position?, hnone]
  exact h.positionOfKey?_eq_some.2 ⟨actor, hactor, rfl⟩

/-- An actor's name finds the actor exactly if it is the key of no other. -/
theorem Filed.position?_name_eq_some_iff (h : cast.Filed)
    (hactor : cast.actors[i]? = some actor) :
    cast.position? (Actor.name actor) = some i ↔
      ∀ (j : Nat) (other : α), cast.actors[j]? = some other →
        Actor.key other = Actor.name actor → j = i := by
  constructor
  · intro hown j other hother hkey
    rw [h.position?_of_key hother hkey] at hown
    exact Option.some.inj hown
  · intro honly
    by_cases htaken : ∃ other ∈ cast.actors, Actor.key other = Actor.name actor
    · obtain ⟨other, hmem, hkey⟩ := htaken
      obtain ⟨j, hother⟩ := List.mem_iff_getElem?.1 hmem
      obtain rfl : j = i := honly j other hother hkey
      exact h.position?_of_key hother hkey
    · refine h.position?_of_not_key hactor fun other hmem hkey => htaken ⟨other, hmem, hkey⟩

/-- If the key of somebody whose name settles is an actor's name, then that somebody
is the actor: the key is its own normal form, and so it is the actor's key as well. -/
theorem Filed.eq_of_key_eq_name (h : cast.Filed) (hactor : cast.actors[i]? = some actor)
    (hother : cast.actors[j]? = some other) (hkey : Actor.key other = Actor.name actor)
    (hsettled : Name.IsSettled (Actor.name other)) : j = i := by
  refine h.eq_of_key_eq hactor hother ?_
  calc Actor.key other = Name.normalize (Actor.key other) := hsettled.symm
    _ = Actor.key actor := congrArg Name.normalize hkey

/-- Whatever factory made the actors, the name of each finds the actor itself exactly if
it is the key of no other, and else it finds that other one.  If everybody's name settles
in one round of normalizing, then everybody is found by their own. -/
theorem own_names {factory : Factory σ α} {personae : List Persona} {s : σ}
    (h : ((assemble factory personae).perform s).answer = .ok cast) :
    (∀ (name : String) (i : Nat) (actor : α), cast.position? name = some i →
      cast.actors[i]? = some actor → cast.lookup name = .ok actor) ∧
    ∀ (i : Nat) (actor : α), cast.actors[i]? = some actor →
      (cast.position? (Actor.name actor) = some i ↔
        ∀ (j : Nat) (other : α), cast.actors[j]? = some other →
          Actor.key other = Actor.name actor → j = i) ∧
      (∀ (j : Nat) (other : α), cast.actors[j]? = some other →
        Actor.key other = Actor.name actor → cast.position? (Actor.name actor) = some j) ∧
      ((∀ other ∈ cast.actors, Name.IsSettled (Actor.name other)) →
        cast.position? (Actor.name actor) = some i) := by
  obtain ⟨hfiled, -⟩ := filed_of_assemble h
  refine ⟨fun name i actor => lookup_of_position?, fun i actor hactor => ⟨?_, ?_, ?_⟩⟩
  · exact hfiled.position?_name_eq_some_iff hactor
  · exact fun j other => hfiled.position?_of_key
  · intro hsettled
    refine (hfiled.position?_name_eq_some_iff hactor).2 fun j other hother hkey => ?_
    exact hfiled.eq_of_key_eq_name hactor hother hkey (hsettled other (List.mem_of_getElem? hother))

/-- Of two players, one is found by the names of both. -/
theorem own_names_sharp_s :
    ∃ cast : Cast Player,
      ((assemble .raw [⟨"ßa", none, none⟩, ⟨"SSa", none, none⟩]).perform 0).answer = .ok cast ∧
      cast.lookup "ßa" = .ok ⟨"ßa", 1, []⟩ ∧ cast.lookup "SSa" = .ok ⟨"ßa", 1, []⟩ := by
  have hbuilt : ((assemble .raw
      [⟨"ßa", none, none⟩, ⟨"SSa", none, none⟩]).perform 0).answer =
      .ok ⟨[⟨"ßa", 1, []⟩, ⟨"SSa", 2, []⟩], [("SSa", 0), ("Ssa", 1)]⟩ := rfl
  obtain ⟨hlookup, hnames⟩ := own_names hbuilt
  obtain ⟨hown, -⟩ := hnames 0 ⟨"ßa", 1, []⟩ rfl
  obtain ⟨-, htaken, -⟩ := hnames 1 ⟨"SSa", 2, []⟩ rfl
  have hfirst : ∀ (j : Nat) (other : Player),
      ([⟨"ßa", 1, []⟩, ⟨"SSa", 2, []⟩] : List Player)[j]? = some other →
      Actor.key other = "ßa" → j = 0
    | 0, _, _, _ => rfl
    | 1, _, hother, hkey => by
        obtain rfl := Option.some.inj hother
        exact absurd hkey (by decide)
  exact ⟨_, hbuilt, hlookup "ßa" 0 _ (hown.2 hfirst) rfl,
    hlookup "SSa" 0 _ (htaken 0 ⟨"ßa", 1, []⟩ rfl rfl) rfl⟩

/-- An actor's own name may find another actor. -/
theorem own_name_finds_another :
    ¬ ∀ (factory : Factory Nat Player) (personae : List Persona) (cast : Cast Player),
      ((assemble factory personae).perform 0).answer = .ok cast →
      ∀ (i : Nat) (actor : Player), cast.actors[i]? = some actor →
        cast.lookup (Actor.name actor) = .ok actor := by
  intro hall
  have hown := hall .raw [⟨"ßa", none, none⟩, ⟨"SSa", none, none⟩]
    ⟨[⟨"ßa", 1, []⟩, ⟨"SSa", 2, []⟩], [("SSa", 0), ("Ssa", 1)]⟩ rfl 1 ⟨"SSa", 2, []⟩ rfl
  have hother : (⟨[⟨"ßa", 1, []⟩, ⟨"SSa", 2, []⟩], [("SSa", 0), ("Ssa", 1)]⟩ :
      Cast Player).lookup (Actor.name (⟨"SSa", 2, []⟩ : Player)) = .ok ⟨"ßa", 1, []⟩ := rfl
  rw [hother] at hown
  simp at hown

end Dramatis.Cast
