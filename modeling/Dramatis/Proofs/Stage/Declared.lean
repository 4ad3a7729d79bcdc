import Dramatis.Proofs.Cast.Lookup
import Dramatis.Proofs.Stage.Effects
import Dramatis.Proofs.Stage.Group

/-!
# Dramatis.Proofs.Stage.Declared

What becomes of a declared name when it is used as it was written.  It finds its own
declaration if it settles in the first round of normalizing.  If it does not, the key
of its declaration is the second round of it, a lookup tries the name itself and its
first round only, and the name is reported as unknown.
-/

namespace Dramatis

variable {personae : List Persona} {cast : Cast Character} {i : Nat} {persona : Persona}

namespace Cast

/-- Characters come in the order of their declarations. -/
theorem getElem?_actors (h : ((ofPersonae personae).perform ()).answer = .ok cast)
    (hpersona : personae[i]? = some persona) : cast.actors[i]? = some (.ofPersona persona) := by
  obtain ⟨-, hactors⟩ := filed_of_ofPersonae h
  rw [hactors, List.getElem?_map, hpersona, Option.map_some]

/-- A declared name finds its actor exactly if one round of normalizing is enough for it. -/
theorem lookup_declared (h : ((ofPersonae personae).perform ()).answer = .ok cast)
    (hpersona : personae[i]? = some persona) :
    cast.lookup persona.name =
      if Name.IsSettled persona.name then .ok (.ofPersona persona)
      else .error (.unknown (Name.normalize persona.name)) := by
  rw [lookup, position, position?_declared h hpersona]
  by_cases hsettled : Name.IsSettled persona.name
  · simp only [if_pos hsettled, bind, Except.bind, actorAt, getElem?_actors h hpersona]
  · simp only [if_neg hsettled, bind, Except.bind]

end Cast

namespace Stage

/-- Before the play, a declared name finds its actor off stage exactly if one round of normalizing
is enough for it. -/
theorem absentPosition_declared (h : ((Cast.ofPersonae personae).perform ()).answer = .ok cast)
    (hpersona : personae[i]? = some persona) :
    (ofCast cast).absentPosition persona.name =
      if Name.IsSettled persona.name then .ok i
      else .error (.unknown (Name.normalize persona.name)) := by
  have hposition : (ofCast cast).cast.position? persona.name = _ :=
    Cast.position?_declared h hpersona
  rw [absentPosition_eq, hposition]
  by_cases hsettled : Name.IsSettled persona.name
  · rw [if_pos hsettled, if_pos hsettled]
    rfl
  · rw [if_neg hsettled, if_neg hsettled]

/-- Before the play, a declared name may enter if it settles at once. -/
theorem perform_bringOn_declared (h : ((Cast.ofPersonae personae).perform ()).answer = .ok cast)
    (hpersona : personae[i]? = some persona) :
    ((bringOn [persona.name]).perform (ofCast cast)).answer =
      if Name.IsSettled persona.name then .ok ()
      else .error (.unknown (Name.normalize persona.name)) := by
  have hposition := absentPosition_declared h hpersona
  rw [perform_bringOn, entering]
  by_cases hsettled : Name.IsSettled persona.name
  · rw [if_pos hsettled] at hposition ⊢
    rw [groupPositions_cons_ok hposition List.not_mem_nil]
    rfl
  · rw [if_neg hsettled] at hposition ⊢
    rw [groupPositions_cons_error hposition]

/-- The whole cast may enter by its declared names if they all settle at once. -/
theorem perform_bringOn_all_declared
    (h : ((Cast.ofPersonae personae).perform ()).answer = .ok cast) :
    ((bringOn (personae.map Persona.name)).perform (ofCast cast)).answer = .ok () ↔
      ∀ persona ∈ personae, Name.IsSettled persona.name := by
  have hok : ((bringOn (personae.map Persona.name)).perform (ofCast cast)).answer = .ok () ↔
      ∃ is, (ofCast cast).entering (personae.map Persona.name) = .ok is := by
    rw [perform_bringOn]
    cases (ofCast cast).entering (personae.map Persona.name) <;> simp
  rw [hok]
  constructor
  · rintro ⟨is, his⟩ persona hmem
    obtain ⟨hnames, -⟩ := entering_eq_ok.1 his
    obtain ⟨hlength, hfound⟩ := List.forall₂_iff_get.1 (List.forall₂_map_left_iff.1 hnames)
    obtain ⟨i, hi, rfl⟩ := List.mem_iff_getElem.1 hmem
    by_contra hunsettled
    have hposition := (hfound i hi (hlength ▸ hi)).1
    rw [List.get_eq_getElem] at hposition
    have hdeclared := Cast.position?_declared h (List.getElem?_eq_getElem hi)
    rw [if_neg hunsettled] at hdeclared
    exact absurd (hposition.symm.trans hdeclared) (Option.some_ne_none _)
  · intro hsettled
    -- Everybody is found at the place of the declaration, and nobody is on stage yet.
    refine ⟨List.range personae.length, entering_eq_ok.2 ⟨?_, List.nodup_range⟩⟩
    rw [List.forall₂_map_left_iff, List.forall₂_iff_get]
    refine ⟨List.length_range.symm, fun i hi _ => ⟨?_, Positions.not_mem_empty⟩⟩
    have hdeclared := Cast.position?_declared h (List.getElem?_eq_getElem hi)
    rw [if_pos (hsettled _ (List.getElem_mem hi))] at hdeclared
    rw [List.get_eq_getElem, List.get_eq_getElem, List.getElem_range]
    exact hdeclared

end Stage

/-- A declared name, as it was written, finds its own declaration and may enter if it
settles in the first round; if not, it is unknown.  So all declared names are good for
use if and only if they all settle at once. -/
theorem declared_names (h : ((Cast.ofPersonae personae).perform ()).answer = .ok cast) :
    (∀ (i : Nat) (persona : Persona), personae[i]? = some persona →
      cast.actors[i]? = some (.ofPersona persona) ∧
      cast.lookup persona.name =
        (if Name.IsSettled persona.name then .ok (.ofPersona persona)
        else .error (.unknown (Name.normalize persona.name))) ∧
      ((Stage.bringOn [persona.name]).perform (.ofCast cast)).answer =
        if Name.IsSettled persona.name then .ok ()
        else .error (.unknown (Name.normalize persona.name))) ∧
    (((Stage.bringOn (personae.map Persona.name)).perform (.ofCast cast)).answer = .ok () ↔
      ∀ persona ∈ personae, Name.IsSettled persona.name) := by
  refine ⟨fun i persona hpersona => ?_, Stage.perform_bringOn_all_declared h⟩
  exact ⟨Cast.getElem?_actors h hpersona, Cast.lookup_declared h hpersona,
    Stage.perform_bringOn_declared h hpersona⟩

/-- A name that settles at once, and one that does not. -/
theorem declared_names_sharp_s :
    ∃ cast, ((Cast.ofPersonae [⟨"romeo", none, none⟩, ⟨"ßa", none, none⟩]).perform ()).answer =
      .ok cast ∧ cast.lookup "romeo" = .ok ⟨"Romeo", none, none⟩ ∧
      cast.lookup "ßa" = .error (.unknown "SSa") := by
  have hbuilt : ((Cast.ofPersonae [⟨"romeo", none, none⟩, ⟨"ßa", none, none⟩]).perform ()).answer =
    .ok ⟨[⟨"Romeo", none, none⟩, ⟨"SSa", none, none⟩], [("Romeo", 0), ("Ssa", 1)]⟩ := rfl
  obtain ⟨hnames, -⟩ := declared_names hbuilt
  obtain ⟨-, hromeo, -⟩ := hnames 0 _ rfl
  obtain ⟨-, hsharp, -⟩ := hnames 1 _ rfl
  have hunsettled : ¬ Name.IsSettled "ßa" := by decide
  refine ⟨_, hbuilt, hromeo.trans (if_pos rfl), hsharp.trans (if_neg hunsettled)⟩

/-- A declared name that does not find its declaration. -/
theorem declared_name_unknown :
    ¬ ∀ (personae : List Persona) (cast : Cast Character),
      ((Cast.ofPersonae personae).perform ()).answer = .ok cast →
      ∀ (i : Nat) (persona : Persona), personae[i]? = some persona →
        ∃ actor, cast.actors[i]? = some actor ∧ cast.lookup persona.name = .ok actor := by
  intro hall
  obtain ⟨actor, -, hlookup⟩ := hall [⟨"ßa", none, none⟩] ⟨[⟨"SSa", none, none⟩], [("Ssa", 0)]⟩ rfl
    0 ⟨"ßa", none, none⟩ rfl
  have hunknown : (⟨[⟨"SSa", none, none⟩], [("Ssa", 0)]⟩ : Cast Character).lookup "ßa" =
    .error (.unknown "SSa") := rfl
  rw [hunknown] at hlookup
  contradiction

end Dramatis
