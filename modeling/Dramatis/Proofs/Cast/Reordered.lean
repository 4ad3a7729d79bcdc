import Dramatis.Proofs.Cast.Duplicate
import Mathlib.Logic.Equiv.Basic

/-!
# Dramatis.Proofs.Cast.Reordered

The same personae declared in another order.  A cast is made of them in either order or in
neither: what a cast is refused for is a blank name, or two names that settle as the same, and
neither depends on the order.

The two casts have the same actors at other positions.  There is a bijection between the
positions that takes every actor to itself and whatever a name stands for to whatever it stands
for in the other cast.
-/

namespace Dramatis

variable {α : Type}

/-! ## Positions in another order -/

/-- A bijection of positions, made to leave the first one where it is and to act behind it. -/
def Positions.shift (π : Equiv.Perm Nat) : Equiv.Perm Nat where
  toFun
    | 0 => 0
    | i + 1 => π i + 1
  invFun
    | 0 => 0
    | i + 1 => π.symm i + 1
  left_inv i := by cases i <;> simp
  right_inv i := by cases i <;> simp

/-- Lists with the same members in another order have them at other positions. -/
theorem Positions.exists_perm {xs ys : List α} (h : xs.Perm ys) :
    ∃ π : Equiv.Perm Nat, ∀ i : Nat, ys[π i]? = xs[i]? := by
  induction h with
  | nil => exact ⟨Equiv.refl Nat, fun _ => rfl⟩
  | cons x _ ih =>
      obtain ⟨π, hπ⟩ := ih
      refine ⟨shift π, fun i => ?_⟩
      cases i with
      | zero => rfl
      | succ i => exact hπ i
  | swap x y xs =>
      refine ⟨Equiv.swap 0 1, fun i => ?_⟩
      match i with
      | 0 | 1 => rfl
      | i + 2 => rw [Equiv.swap_apply_of_ne_of_ne (by omega) (by omega)]; rfl
  | trans _ _ ih ih' =>
      obtain ⟨π, hπ⟩ := ih
      obtain ⟨ρ, hρ⟩ := ih'
      exact ⟨π.trans ρ, fun i => (hρ (π i)).trans (hπ i)⟩

/-! ## Casts in another order -/

namespace Cast

/-- A bijection of positions takes the actors of a cast to those of another one, and whatever a
name stands for to whatever it stands for there. -/
structure Reordered (π : Equiv.Perm Nat) (cast other : Cast α) : Prop where
  actors_eq : ∀ i : Nat, other.actors[π i]? = cast.actors[i]?
  position?_eq : ∀ name, other.position? name = (cast.position? name).map π

section Actors

variable [Actor α] {cast other : Cast α} {π : Equiv.Perm Nat}

/-- Actors are filed under their keys, wherever they are. -/
theorem Filed.reordered (h : cast.Filed) (hother : other.Filed)
    (hactors : ∀ i : Nat, other.actors[π i]? = cast.actors[i]?) : cast.Reordered π other := by
  have hkey (key : String) : other.positionOfKey? key = (cast.positionOfKey? key).map π := by
    refine Option.ext fun j => ?_
    obtain ⟨i, rfl⟩ := π.surjective j
    rw [Option.map_eq_some_iff]
    simp only [EmbeddingLike.apply_eq_iff_eq, exists_eq_right, h.positionOfKey?_eq_some,
      hother.positionOfKey?_eq_some, hactors]
  refine ⟨hactors, fun name => ?_⟩
  rw [position?, position?, hkey, hkey]
  cases cast.positionOfKey? name <;> rfl

end Actors

end Cast

/-! ## Personae in another order -/

variable {personae others : List Persona}

/-- No character is made of a persona with a blank name. -/
theorem Factory.Makes.not_blank {s t : Unit} {actors : List Character}
    (h : Factory.character.Makes s personae actors t) :
    ∀ persona ∈ personae, Text.isBlankText persona.name = false := by
  induction h with
  | nil => exact nofun
  | @cons s t u persona personae actor actors call rest ih =>
      refine List.forall_mem_cons.2 ⟨?_, ih⟩
      rw [← Bool.not_eq_true]
      intro hblank
      simp [Factory.character, Factory.stateless, hblank] at call

namespace Cast

/-- A cast is made of personae unless a name is blank or two of them settle as the same. -/
theorem exists_ofPersonae_iff :
    (∃ cast, ((ofPersonae personae).perform ()).answer = .ok cast) ↔
      (∀ persona ∈ personae, Text.isBlankText persona.name = false) ∧
        (personae.map fun persona => Name.settled persona.name).Nodup := by
  constructor
  · rintro ⟨cast, hok⟩
    obtain ⟨hfiled, t, hmakes⟩ := filed_of_assemble hok
    have hkeys := hfiled.keys_nodup
    rw [hmakes.eq_map_ofPersona, nodup_keys_iff, not_clash_iff_nodup] at hkeys
    exact ⟨hmakes.not_blank, hkeys⟩
  · rintro ⟨hblank, hkeys⟩
    exact ⟨_, answer_ofPersonae_of_not_clash hblank (not_clash_iff_nodup.2 hkeys)⟩

/-- Whether personae make a cast does not depend on their order. -/
theorem exists_ofPersonae_perm (h : personae.Perm others) :
    (∃ cast, ((ofPersonae personae).perform ()).answer = .ok cast) ↔
      ∃ cast, ((ofPersonae others).perform ()).answer = .ok cast := by
  rw [exists_ofPersonae_iff, exists_ofPersonae_iff, (h.map _).nodup_iff]
  simp only [h.mem_iff]

/-- Casts of the same personae in two orders. -/
theorem exists_reordered (h : personae.Perm others) {cast other : Cast Character}
    (hcast : ((ofPersonae personae).perform ()).answer = .ok cast)
    (hother : ((ofPersonae others).perform ()).answer = .ok other) :
    ∃ π, cast.Reordered π other := by
  obtain ⟨hfiled, hactors⟩ := filed_of_ofPersonae hcast
  obtain ⟨hfiled', hactors'⟩ := filed_of_ofPersonae hother
  have hperm : cast.actors.Perm other.actors := by
    rw [hactors, hactors']
    exact h.map _
  obtain ⟨π, hπ⟩ := Positions.exists_perm hperm
  exact ⟨π, hfiled.reordered hfiled' hπ⟩

end Cast

end Dramatis
