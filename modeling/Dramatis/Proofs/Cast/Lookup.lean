import Dramatis.Proofs.Cast.Assembly
import Dramatis.Proofs.Name.Normal

/-!
# Dramatis.Proofs.Cast.Lookup

How names are found in a cast of characters.  The name of a character is the normal
form of its declared name, and its key is the normal form of that: keys are
normalized twice, and normalizing settles after two rounds, so every key is its own
normal form.

A name that is a key is looked up as it stands, and every other name in its normal
form.  For keys that are their own normal forms the two come to the same, and a name
stands for whatever its normal form is the key of.  A declared name is normalized
once by this and twice by the key, so it finds its own declaration only if the
second round changes nothing.
-/

namespace Dramatis.Cast

variable {personae : List Persona} {cast : Cast Character}

/-- The key of a character is the name of its persona, normalized twice: once for the character
and once more for the index. -/
theorem positionOfKey?_eq_some_iff (h : ((ofPersonae personae).perform ()).answer = .ok cast)
    {key : String} {i : Nat} :
    cast.positionOfKey? key = some i ↔
      ∃ persona, personae[i]? = some persona ∧
        Name.normalize (Name.normalize persona.name) = key := by
  obtain ⟨hfiled, hactors⟩ := filed_of_ofPersonae h
  rw [hfiled.positionOfKey?_eq_some, hactors, List.getElem?_map]
  constructor
  · rintro ⟨actor, hactor, hkey⟩
    obtain ⟨persona, hpersona, rfl⟩ := Option.map_eq_some_iff.1 hactor
    exact ⟨persona, hpersona, hkey⟩
  · rintro ⟨persona, hpersona, hkey⟩
    exact ⟨.ofPersona persona, Option.map_eq_some_iff.2 ⟨persona, hpersona, rfl⟩, hkey⟩

/-- Every key is its own normal form. -/
theorem normalize_eq_of_positionOfKey? (h : ((ofPersonae personae).perform ()).answer = .ok cast)
    {key : String} {i : Nat} (hkey : cast.positionOfKey? key = some i) :
    Name.normalize key = key := by
  obtain ⟨persona, -, rfl⟩ := (positionOfKey?_eq_some_iff h).1 hkey
  exact Name.normalize_settles persona.name

/-- Trying a name as it stands before its normal form makes no difference. -/
theorem position?_eq (h : ((ofPersonae personae).perform ()).answer = .ok cast) (name : String) :
    cast.position? name = cast.positionOfKey? (Name.normalize name) := by
  rw [position?]
  cases hkey : cast.positionOfKey? name with
  | none => rfl
  | some i => rw [normalize_eq_of_positionOfKey? h hkey, hkey]

/-- A declared name stands for its own declaration if it settles in the first round,
and else for nobody. -/
theorem position?_declared (h : ((ofPersonae personae).perform ()).answer = .ok cast)
    {i : Nat} {persona : Persona} (hpersona : personae[i]? = some persona) :
    cast.position? persona.name = if Name.IsSettled persona.name then some i else none := by
  rw [position?_eq h]
  by_cases hsettled : Name.IsSettled persona.name
  · rw [if_pos hsettled, positionOfKey?_eq_some_iff h]
    exact ⟨persona, hpersona, hsettled⟩
  · rw [if_neg hsettled]
    cases hkey : cast.positionOfKey? (Name.normalize persona.name) with
    | none => rfl
    | some j => exact absurd (normalize_eq_of_positionOfKey? h hkey) hsettled

/-- A name stands for whatever its normal form is the key of.  So names with the same
normal form stand for the same actor or for none, and a name is known exactly if its
normal form is the declared name of some persona, normalized twice; there is then
only one such persona, and it is the one at the position found. -/
theorem position?_by_normal_form (h : ((ofPersonae personae).perform ()).answer = .ok cast) :
    (∀ name, cast.position? name = cast.positionOfKey? (Name.normalize name)) ∧
    (∀ name other, Name.normalize name = Name.normalize other →
      cast.position? name = cast.position? other) ∧
    (∀ name i, cast.position? name = some i ↔ ∃ persona, personae[i]? = some persona ∧
      Name.normalize name = Name.normalize (Name.normalize persona.name)) ∧
    ∀ (i j : Nat) (persona other : Persona), personae[i]? = some persona →
      personae[j]? = some other →
      Name.normalize (Name.normalize persona.name) = Name.normalize (Name.normalize other.name) →
      i = j := by
  refine ⟨position?_eq h, fun name other hsame => ?_, fun name i => ?_, ?_⟩
  · rw [position?_eq h, position?_eq h, hsame]
  · rw [position?_eq h, positionOfKey?_eq_some_iff h]
    exact exists_congr fun persona => and_congr_right fun _ => eq_comm
  · intro i j persona other hpersona hother hsame
    have hi := (positionOfKey?_eq_some_iff h).2 ⟨persona, hpersona, rfl⟩
    have hj := (positionOfKey?_eq_some_iff h).2 ⟨other, hother, rfl⟩
    rw [hsame, hj] at hi
    exact (Option.some.inj hi).symm

/-- A name whose capital takes two rounds to settle is found by what it settles as. -/
theorem position?_by_normal_form_sharp_s :
    ∃ cast, ((ofPersonae [⟨"Romeo", none, none⟩, ⟨"ßa", none, none⟩]).perform ()).answer =
      .ok cast ∧ cast.position? " sSA" = some 1 := by
  have hbuilt : ((ofPersonae [⟨"Romeo", none, none⟩, ⟨"ßa", none, none⟩]).perform ()).answer =
    .ok ⟨[⟨"Romeo", none, none⟩, ⟨"SSa", none, none⟩], [("Romeo", 0), ("Ssa", 1)]⟩ := rfl
  obtain ⟨-, -, hknown, -⟩ := position?_by_normal_form hbuilt
  exact ⟨_, hbuilt, (hknown " sSA" 1).2 ⟨⟨"ßa", none, none⟩, rfl, rfl⟩⟩

end Dramatis.Cast
