import Dramatis.Proofs.Cast.Assembly
import Dramatis.Proofs.Name.Normal

/-!
# Dramatis.Proofs.Cast.Duplicate

Which declared names count as the same.  A character is named by the normal form of its
declared name and filed under the normal form of that, so declared names are told apart after
two rounds of normalizing.

Names with the same normal form count as the same, but they are not all that do: the normal
form of `ßa` is `SSa` and that of `SSa` is `Ssa`, and in a second round both come to `Ssa`.
For names that settle in one round the normal forms decide alone.
-/

namespace Dramatis

/-! ## Names that clash -/

/-- What a name settles as: no further round of normalizing changes it. -/
def Name.settled (name : String) : String := normalize (normalize name)

/-- Two personae of a list have names that come to the same under a form of names. -/
def Clash (form : String → String) (personae : List Persona) : Prop :=
  ∃ (i j : Nat) (persona other : Persona), i ≠ j ∧ personae[i]? = some persona ∧
    personae[j]? = some other ∧ form persona.name = form other.name

variable {form form' : String → String} {personae : List Persona}

/-- Two names that clash in one form clash in another that makes no more differences between the
personae. -/
theorem Clash.imp (h : Clash form personae)
    (himp : ∀ persona ∈ personae, ∀ other ∈ personae, form persona.name = form other.name →
      form' persona.name = form' other.name) : Clash form' personae := by
  obtain ⟨i, j, persona, other, hne, hpersona, hother, hsame⟩ := h
  exact ⟨i, j, persona, other, hne, hpersona, hother, himp persona
    (List.mem_of_getElem? hpersona) other (List.mem_of_getElem? hother) hsame⟩

/-- No two names clash exactly if all of them have different forms. -/
theorem not_clash_iff_nodup :
    ¬ Clash form personae ↔ (personae.map fun persona => form persona.name).Nodup := by
  rw [List.nodup_iff_getElem?_ne_getElem?]
  simp only [List.getElem?_map, List.length_map]
  constructor
  · intro hfree i j hlt hj hsame
    have hi : i < personae.length := by omega
    rw [List.getElem?_eq_getElem hi, List.getElem?_eq_getElem hj] at hsame
    refine hfree ⟨i, j, _, _, by omega, List.getElem?_eq_getElem hi, List.getElem?_eq_getElem hj,
      ?_⟩
    simpa using hsame
  · rintro hdiffer ⟨i, j, persona, other, hne, hpersona, hother, hsame⟩
    have hi := (List.getElem?_eq_some_iff.1 hpersona).1
    have hj := (List.getElem?_eq_some_iff.1 hother).1
    cases Nat.lt_or_gt_of_ne hne with
    | inl hlt => exact hdiffer i j hlt hj (by simp [hpersona, hother, hsame])
    | inr hgt => exact hdiffer j i hgt hi (by simp [hpersona, hother, hsame])

/-! ## Casts of characters -/

namespace Cast

/-- Characters have different keys if their declared names settle as different ones. -/
theorem nodup_keys_iff :
    ((personae.map Character.ofPersona).map Actor.key).Nodup ↔ ¬ Clash Name.settled personae := by
  rw [not_clash_iff_nodup, List.map_map]
  rfl

/-- Names that stay different in two rounds of normalizing make a cast. -/
theorem answer_ofPersonae_of_not_clash
    (h : ∀ persona ∈ personae, Text.isBlankText persona.name = false)
    (hfree : ¬ Clash Name.settled personae) :
    ((ofPersonae personae).perform ()).answer = .ok (ofActors (personae.map .ofPersona)) := by
  have hcourse := Course.complete (Factory.makes_character h) (nodup_keys_iff.2 hfree)
  rw [ofPersonae, hcourse.perform_assemble]

/-- Names that become equal in two rounds of normalizing make no cast. -/
theorem answer_ofPersonae_of_clash
    (h : ∀ persona ∈ personae, Text.isBlankText persona.name = false)
    (hclash : Clash Name.settled personae) :
    ∃ name location, ((ofPersonae personae).perform ()).answer =
      .error (.duplicate name location) := by
  obtain ⟨called, hcourse⟩ := course_assemble Factory.character () personae
  rw [ofPersonae]
  generalize (assemble .character personae).perform () = outcome at hcourse ⊢
  cases hcourse with
  | complete made differ =>
      rw [made.eq_map_ofPersona] at differ
      exact absurd hclash (nodup_keys_iff.1 differ)
  | refused made differ call =>
      rw [Factory.character_of_not_blank (h _ (by simp))] at call
      simp at call
  | taken made differ call htaken => exact ⟨_, _, rfl⟩

end Cast

/-- Of personae whose names are not blank, a cast is made unless two of the names settle as the
same, and that is then the mistake.  Names with the same normal form do, and for names that
settle in one round there are no others. -/
theorem duplicate_names (h : ∀ persona ∈ personae, Text.isBlankText persona.name = false) :
    ((∃ name location, ((Cast.ofPersonae personae).perform ()).answer =
        .error (.duplicate name location)) ↔ Clash Name.settled personae) ∧
    ((∃ cast, ((Cast.ofPersonae personae).perform ()).answer = .ok cast) ↔
      ¬ Clash Name.settled personae) ∧
    (Clash Name.normalize personae → Clash Name.settled personae) ∧
    ((∀ persona ∈ personae, Name.IsSettled persona.name) →
      (Clash Name.settled personae ↔ Clash Name.normalize personae)) := by
  have hnormal : Clash Name.normalize personae → Clash Name.settled personae := fun hclash =>
    hclash.imp fun _ _ _ _ hsame => congrArg Name.normalize hsame
  refine ⟨⟨?_, Cast.answer_ofPersonae_of_clash h⟩, ⟨?_, ?_⟩, hnormal, fun hsettled => ?_⟩
  · rintro ⟨name, location, herror⟩
    by_contra hfree
    rw [Cast.answer_ofPersonae_of_not_clash h hfree] at herror
    contradiction
  · rintro ⟨cast, hok⟩ hclash
    obtain ⟨name, location, herror⟩ := Cast.answer_ofPersonae_of_clash h hclash
    rw [herror] at hok
    contradiction
  · exact fun hfree => ⟨_, Cast.answer_ofPersonae_of_not_clash h hfree⟩
  · refine ⟨fun hclash => hclash.imp fun persona hpersona other hother hsame => ?_, hnormal⟩
    calc Name.normalize persona.name = Name.settled persona.name := (hsettled persona hpersona).symm
      _ = Name.settled other.name := hsame
      _ = Name.normalize other.name := hsettled other hother

/-- Two spellings of one name. -/
theorem duplicate_names_romeo :
    (∀ persona ∈
        [⟨"Romeo", none, none⟩, ⟨"juliet", none, none⟩, (⟨" ROMEO", none, none⟩ : Persona)],
      Text.isBlankText persona.name = false) ∧
    ∃ name location, ((Cast.ofPersonae [⟨"Romeo", none, none⟩, ⟨"juliet", none, none⟩,
      ⟨" ROMEO", none, none⟩]).perform ()).answer = .error (.duplicate name location) := by
  have hblank : ∀ persona ∈ [⟨"Romeo", none, none⟩, ⟨"juliet", none, none⟩,
      (⟨" ROMEO", none, none⟩ : Persona)], Text.isBlankText persona.name = false := by decide
  obtain ⟨hduplicate, -, hnormal, -⟩ := duplicate_names hblank
  exact ⟨hblank, hduplicate.2 (hnormal ⟨0, 2, _, _, by decide, rfl, rfl, by decide⟩)⟩

/-- Names with different normal forms may count as the same. -/
theorem duplicate_of_different_normal_forms :
    ¬ ∀ personae : List Persona,
      (∀ persona ∈ personae, Text.isBlankText persona.name = false) →
      ((∃ name location, ((Cast.ofPersonae personae).perform ()).answer =
        .error (.duplicate name location)) ↔ Clash Name.normalize personae) := by
  intro hall
  have hduplicate : ((Cast.ofPersonae
      [⟨"ßa", none, none⟩, ⟨"SSa", none, none⟩]).perform ()).answer =
      .error (.duplicate "Ssa" none) := rfl
  have hdiffer : ¬ Clash Name.normalize [⟨"ßa", none, none⟩, ⟨"SSa", none, none⟩] :=
    not_clash_iff_nodup.2 (by decide)
  exact hdiffer ((hall _ (by decide)).1 ⟨_, _, hduplicate⟩)

end Dramatis
