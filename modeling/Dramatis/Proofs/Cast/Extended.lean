import Dramatis.Proofs.Cast.Lookup
import Mathlib.Data.List.Infix

/-!
# Dramatis.Proofs.Cast.Extended

More personae declared after those of a play.  An assembly that fails does not come as far as
the later ones, so it fails alike with them.  If all actors can be made, the first of them are
those of the shorter list, with the same keys at the same positions.

A later key could still be the text of a name that so far was looked up in its normal form.
In a cast of characters it is not: every key is its own normal form, so a name that is a key
stands for the same actor as the key that its normal form is.
-/

namespace Dramatis

variable {σ α : Type}

/-! ## Calls one after another -/

/-- Actors are made of a list of personae by making those of its front and then, in the state
that is left, those of its back. -/
theorem Factory.Makes.exists_append {factory : Factory σ α} {s u : σ}
    {front back : List Persona} {actors : List α} (h : factory.Makes s (front ++ back) actors u) :
    ∃ t first more, actors = first ++ more ∧ factory.Makes s front first t ∧
      factory.Makes t back more u := by
  induction front generalizing s actors with
  | nil => exact ⟨s, [], actors, rfl, .nil, h⟩
  | cons persona front ih =>
      cases h with
      | cons call rest =>
          obtain ⟨t, first, more, rfl, hfront, hback⟩ := ih rest
          exact ⟨t, _, more, rfl, .cons call hfront, hback⟩

/-- As many actors are made as there are personae. -/
theorem Factory.Makes.length_eq {factory : Factory σ α} {s t : σ} {personae : List Persona}
    {actors : List α} (h : factory.Makes s personae actors t) :
    actors.length = personae.length := by
  induction h with
  | nil => rfl
  | cons _ _ ih => rw [List.length_cons, List.length_cons, ih]

namespace Cast

/-! ## Longer lists of personae -/

section Assembly

variable [Actor α] {factory : Factory σ α} {s : σ} {personae : List Persona}

/-- What ends an assembly ends it as well when there would be more to come. -/
theorem perform_assemble_append_of_error {mistake : Mistake}
    (h : ((assemble factory personae).perform s).answer = .error mistake) (later : List Persona) :
    (assemble factory (personae ++ later)).perform s = (assemble factory personae).perform s := by
  obtain ⟨called, hcourse⟩ := course_assemble factory s personae
  generalize (assemble factory personae).perform s = outcome at h hcourse ⊢
  cases hcourse with
  | complete made differ => contradiction
  | refused made differ call =>
      rw [List.append_assoc, List.cons_append]
      exact (Course.refused made differ call).perform_assemble
  | taken made differ call htaken =>
      rw [List.append_assoc, List.cons_append]
      exact (Course.taken made differ call htaken).perform_assemble

/-- If a longer list makes a cast then so does its front, of the first actors. -/
theorem exists_assemble_of_append {later : List Persona} {larger : Cast α}
    (h : ((assemble factory (personae ++ later)).perform s).answer = .ok larger) :
    ∃ cast, ((assemble factory personae).perform s).answer = .ok cast ∧
      cast.actors = larger.actors.take personae.length ∧ cast.size = personae.length := by
  obtain ⟨hfiled, u, hmakes⟩ := filed_of_assemble h
  obtain ⟨t, first, more, hactors, hfront, -⟩ := hmakes.exists_append
  have hkeys := hfiled.keys_nodup
  rw [hactors, List.map_append] at hkeys
  refine ⟨ofActors first, ?_, ?_, hfront.length_eq⟩
  · rw [(Course.complete hfront hkeys.of_append_left).perform_assemble]
  · rw [hactors, ← hfront.length_eq, List.take_left]
    rfl

end Assembly

/-! ## Names in a larger cast -/

/-- The keys of the first actors of a cast are filed where they are without the others. -/
theorem Filed.positionOfKey?_of_take [Actor α] {cast larger : Cast α} {n : Nat}
    (h : cast.Filed) (hlarger : larger.Filed) (hactors : cast.actors = larger.actors.take n)
    {key : String} {i : Nat} :
    cast.positionOfKey? key = some i ↔ i < n ∧ larger.positionOfKey? key = some i := by
  rw [h.positionOfKey?_eq_some, hlarger.positionOfKey?_eq_some, hactors,
    List.getElem?_take]
  by_cases hi : i < n <;> simp [hi]

/-- Personae that are declared later make no difference to the ones before.  What a cast of
these fails with is what the larger cast fails with; if there is a larger cast there is one of
these, its actors are the first of the larger one, and a name that stands for one of them in
either cast stands for the same one in the other. -/
theorem later_personae (personae later : List Persona) :
    (∀ mistake, ((ofPersonae personae).perform ()).answer = .error mistake →
      ((ofPersonae (personae ++ later)).perform ()).answer = .error mistake) ∧
    ∀ larger, ((ofPersonae (personae ++ later)).perform ()).answer = .ok larger →
      ∃ cast, ((ofPersonae personae).perform ()).answer = .ok cast ∧
        cast.size = personae.length ∧ cast.actors = larger.actors.take personae.length ∧
        ∀ name i, cast.position? name = some i ↔
          i < personae.length ∧ larger.position? name = some i := by
  refine ⟨fun mistake herror => ?_, fun larger hlarger => ?_⟩
  · rw [ofPersonae, perform_assemble_append_of_error herror]
    exact herror
  · obtain ⟨cast, hcast, hactors, hsize⟩ := exists_assemble_of_append hlarger
    refine ⟨cast, hcast, hsize, hactors, fun name i => ?_⟩
    obtain ⟨hfiled, -⟩ := filed_of_ofPersonae hcast
    obtain ⟨hfiled', -⟩ := filed_of_ofPersonae hlarger
    rw [position?_eq hcast, position?_eq hlarger, hfiled.positionOfKey?_of_take hfiled' hactors]

/-- A name that is looked up in its normal form, before and after there is a second actor. -/
theorem later_personae_sharp_s :
    ∃ cast larger, ((ofPersonae [⟨"ßa", none, none⟩]).perform ()).answer = .ok cast ∧
      ((ofPersonae ([⟨"ßa", none, none⟩] ++ [⟨"puck", none, none⟩])).perform ()).answer =
        .ok larger ∧
      larger.position? "SSa" = some 0 ∧ cast.position? "SSa" = some 0 ∧
      larger.position? "PUCK" = some 1 ∧ cast.position? "PUCK" ≠ some 1 := by
  have hlarger : ((ofPersonae ([⟨"ßa", none, none⟩] ++
      [⟨"puck", none, none⟩])).perform ()).answer =
    .ok ⟨[⟨"SSa", none, none⟩, ⟨"Puck", none, none⟩], [("Ssa", 0), ("Puck", 1)]⟩ := rfl
  obtain ⟨cast, hcast, -, -, hnames⟩ :=
    (later_personae [⟨"ßa", none, none⟩] [⟨"puck", none, none⟩]).2 _ hlarger
  refine ⟨cast, _, hcast, hlarger, rfl, (hnames "SSa" 0).2 ⟨by decide, rfl⟩, rfl, fun hpuck => ?_⟩
  exact absurd ((hnames "PUCK" 1).1 hpuck).1 (by decide)

end Cast

end Dramatis
