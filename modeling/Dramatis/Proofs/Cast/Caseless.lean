import Dramatis.Proofs.Cast.Lookup
import Dramatis.Proofs.Name.Caseless

/-!
# Dramatis.Proofs.Cast.Caseless

Looking names up in upper and in lower case.  Names with the same normal form stand for
the same actor, so a caseless name may be looked up in either case.  Every other name has
a cast that tells two of its spellings apart: one of a single persona, declared under the
upper-case spelling or, where that has the normal form of the name, under the name itself.
-/

namespace Dramatis.Cast

open Name

/-- The cast of a single persona. -/
theorem answer_ofPersonae_singleton {persona : Persona}
    (h : Text.isBlankText persona.name = false) :
    ((ofPersonae [persona]).perform ()).answer = .ok (empty.add (.ofPersona persona)) := by
  have hcourse := Course.complete (.cons (Factory.character_of_not_blank h) .nil)
    (List.nodup_singleton _)
  rw [ofPersonae, hcourse.perform_assemble]
  rfl

/-- If another name finds whoever is declared under a name that settles at once, then the
two have the same normal form. -/
theorem normalize_eq_of_position?_eq {declared name : String} (hsettled : IsSettled declared)
    (hblank : Text.isBlankText declared = false)
    (hfound : ∀ (personae : List Persona) (cast : Cast Character),
      ((ofPersonae personae).perform ()).answer = .ok cast →
      cast.position? declared = cast.position? name) :
    normalize declared = normalize name := by
  have hbuilt : ((ofPersonae [⟨declared, none, none⟩]).perform ()).answer = .ok _ :=
    answer_ofPersonae_singleton hblank
  have hdeclared := position?_declared hbuilt (i := 0) rfl
  rw [if_pos hsettled, hfound _ _ hbuilt, position?_eq hbuilt, positionOfKey?_eq_some_iff hbuilt]
    at hdeclared
  obtain ⟨persona, hpersona, hkey⟩ := hdeclared
  obtain rfl := Option.some.inj hpersona
  exact hsettled.symm.trans hkey

/-- A name stands for the same actor in any case, whatever the cast, exactly if it is
caseless.  Names of ASCII characters are. -/
theorem caseless_names (name : String) :
    (IsCaseless name ↔
      ∀ (personae : List Persona) (cast : Cast Character),
        ((ofPersonae personae).perform ()).answer = .ok cast →
        cast.position? (upperCase name) = cast.position? name ∧
          cast.position? (lowerCase name) = cast.position? name) ∧
    ((∀ c ∈ name.toList, c.toNat < 128) → IsCaseless name) := by
  refine ⟨⟨fun hcaseless personae cast h => ?_, fun hsame => ?_⟩, isCaseless_of_ascii⟩
  · obtain ⟨hupper, hlower⟩ := (isCaseless_iff name).1 hcaseless
    rw [position?_eq h, position?_eq h, position?_eq h, hupper, hlower]
    exact ⟨rfl, rfl⟩
  · cases hblank : Text.isBlankText name with
    | true => exact isCaseless_of_isBlankText hblank
    | false =>
        have hupper := normalize_eq_of_position?_eq (isSettled_upperCase name)
          ((isBlankText_upperCase name).trans hblank) fun personae cast h => (hsame _ _ h).1
        -- The name shares its normal form with the spelling in upper case, so it settles too.
        have hsettled : IsSettled name := by
          have := isSettled_upperCase name
          rwa [IsSettled, hupper] at this
        have hlower := normalize_eq_of_position?_eq hsettled hblank
          fun personae cast h => (hsame _ _ h).2.symm
        exact (isCaseless_iff name).2 ⟨hupper, hlower.symm⟩

/-- A name found in any case. -/
theorem caseless_names_romeo :
    ∃ cast, ((ofPersonae [⟨"Romeo", none, none⟩]).perform ()).answer = .ok cast ∧
      cast.position? (upperCase "romeo") = some 0 ∧
        cast.position? (lowerCase "romeo") = some 0 := by
  have hbuilt : ((ofPersonae [⟨"Romeo", none, none⟩]).perform ()).answer =
    .ok ⟨[⟨"Romeo", none, none⟩], [("Romeo", 0)]⟩ := rfl
  obtain ⟨hiff, hascii⟩ := caseless_names "romeo"
  obtain ⟨hupper, hlower⟩ := hiff.1 (hascii (by simp)) _ _ hbuilt
  exact ⟨_, hbuilt, hupper.trans rfl, hlower.trans rfl⟩

/-- A name in upper case may be unknown although the name itself is declared. -/
theorem upper_case_unknown :
    ¬ ∀ (personae : List Persona) (cast : Cast Character),
      ((ofPersonae personae).perform ()).answer = .ok cast →
      ∀ name : String, cast.position? (upperCase name) = cast.position? name ∧
        cast.position? (lowerCase name) = cast.position? name := by
  intro hall
  obtain ⟨hupper, -⟩ := hall [⟨"Ζεύς", none, none⟩] ⟨[⟨"Ζεύς", none, none⟩], [("Ζεύς", 0)]⟩ rfl
    "Ζεύς"
  have hfound : (⟨[⟨"Ζεύς", none, none⟩], [("Ζεύς", 0)]⟩ : Cast Character).position? "Ζεύς" =
    some 0 := rfl
  have hunknown : (⟨[⟨"Ζεύς", none, none⟩], [("Ζεύς", 0)]⟩ : Cast Character).position?
    (upperCase "Ζεύς") = none := rfl
  rw [hfound, hunknown] at hupper
  contradiction

end Dramatis.Cast
