import Dramatis.Cast
import Mathlib.Data.List.Induction
import Mathlib.Data.List.Nodup

/-!
# Dramatis.Proofs.Cast.Assembly

How the assembly of a cast goes.  The factory is called for one persona after another.
The first one that it refuses ends the assembly, and so does the first of which it makes an
actor with the key of an actor made before; a key is the normal form of a name.

If no call ends it, the cast is complete: its actors are those that the factory made of the
personae, in their order, and its index files each of them under its key and holds nothing
else.
-/

namespace Dramatis

variable {σ α : Type}

/-! ## What a factory makes -/

/-- From one state to another, a factory makes actors of personae: one call for
each, in their order, each in the state that the call before it left. -/
inductive Factory.Makes (factory : Factory σ α) : σ → List Persona → List α → σ → Prop
  | nil {s : σ} : Makes factory s [] [] s
  | cons {s t u : σ} {persona : Persona} {personae : List Persona} {actor : α} {actors : List α}
      (call : factory persona s = (.ok actor, t)) (rest : Makes factory t personae actors u) :
      Makes factory s (persona :: personae) (actor :: actors) u

/-- One call more. -/
theorem Factory.Makes.concat {factory : Factory σ α} {s t u : σ} {persona : Persona}
    {personae : List Persona} {actor : α} {actors : List α}
    (h : factory.Makes s personae actors t) (call : factory persona t = (.ok actor, u)) :
    factory.Makes s (personae ++ [persona]) (actors ++ [actor]) u := by
  induction h with
  | nil => exact .cons call .nil
  | cons first _ ih => exact .cons first (ih call)

/-- A character is made of a persona by its declaration alone. -/
theorem Factory.Makes.eq_map_ofPersona {s t : Unit} {personae : List Persona}
    {actors : List Character} (h : Factory.character.Makes s personae actors t) :
    actors = personae.map .ofPersona := by
  induction h with
  | nil => rfl
  | @cons s t u persona personae actor actors call rest ih =>
      have hactor : actor = .ofPersona persona := by
        simp only [Factory.character, Factory.stateless] at call
        split at call
        · simp at call
        · simpa using (Prod.ext_iff.1 call).1.symm
      rw [List.map_cons, hactor, ih]

/-- A persona whose name is not blank becomes the character that it declares. -/
theorem Factory.character_of_not_blank {persona : Persona}
    (h : Text.isBlankText persona.name = false) :
    Factory.character persona () = (.ok (.ofPersona persona), ()) := by
  simp [Factory.character, Factory.stateless, h]

/-- Every persona whose name is not blank becomes a character. -/
theorem Factory.makes_character {personae : List Persona}
    (h : ∀ persona ∈ personae, Text.isBlankText persona.name = false) :
    Factory.character.Makes () personae (personae.map .ofPersona) () := by
  induction personae with
  | nil => exact .nil
  | cons persona personae ih =>
      obtain ⟨hpersona, hrest⟩ := List.forall_mem_cons.1 h
      exact .cons (character_of_not_blank hpersona) (ih hrest)

/-- A call does nothing but what the factory does; a refusal comes with the name and the place of
the declaration. -/
theorem Factory.perform_call (factory : Factory σ α) (persona : Persona) (s : σ) :
    (factory.call persona).perform s =
      match factory persona s with
      | (.ok actor, t) => ⟨.ok actor, t, []⟩
      | (.error failure, t) =>
        ⟨.error (.refused persona.name persona.location failure), t, []⟩ := by
  rw [Factory.call, Act.perform_state_bind]
  obtain ⟨made, t⟩ := factory persona s
  cases made <;> rfl

/-! ## The index of a cast -/

variable [Actor α]

/-- The name under which an actor is filed when its cast is assembled. -/
def Actor.key (actor : α) : String := Name.normalize (Actor.name actor)

namespace Cast

/-- A cast as it is assembled: its index is the list of its actors' keys, each with
its place in the list, and no key occurs twice. -/
structure Filed (cast : Cast α) : Prop where
  index_eq : cast.index = (cast.actors.map Actor.key).zipIdx
  keys_nodup : (cast.actors.map Actor.key).Nodup

/-- In an index whose keys differ, what is filed under a key is what is found. -/
theorem lookup_zipIdx {keys : List String} (h : keys.Nodup) {key : String} {i n : Nat} :
    (keys.zipIdx n).lookup key = some i ↔ (key, i) ∈ keys.zipIdx n := by
  induction keys generalizing n with
  | nil => simp
  | cons first keys ih =>
      obtain ⟨hfirst, hkeys⟩ := List.nodup_cons.1 h
      rw [List.zipIdx_cons, List.lookup_cons, List.mem_cons]
      by_cases hkey : key = first
      · subst hkey
        have hnot : (key, i) ∉ keys.zipIdx (n + 1) := fun hmem =>
          hfirst (List.fst_mem_of_mem_zipIdx hmem)
        simp [hnot, eq_comm]
      · simp [beq_false_of_ne hkey, hkey, ih hkeys]

/-- A key leads to the position of the actor that it is the key of, and to nowhere else. -/
theorem Filed.positionOfKey?_eq_some {cast : Cast α} (h : cast.Filed) {key : String} {i : Nat} :
    cast.positionOfKey? key = some i ↔
      ∃ actor, cast.actors[i]? = some actor ∧ Actor.key actor = key := by
  rw [positionOfKey?, h.index_eq, lookup_zipIdx h.keys_nodup, List.mem_zipIdx_iff_getElem?,
    List.getElem?_map, Option.map_eq_some_iff]

/-- A key is taken exactly if it is the key of some actor. -/
theorem Filed.isSome_positionOfKey? {cast : Cast α} (h : cast.Filed) {key : String} :
    (cast.positionOfKey? key).isSome = true ↔ key ∈ cast.actors.map Actor.key := by
  rw [Option.isSome_iff_exists, List.mem_iff_getElem?]
  simp only [h.positionOfKey?_eq_some, List.getElem?_map, Option.map_eq_some_iff]

/-- The cast of given actors, each filed under its key. -/
def ofActors (actors : List α) : Cast α := ⟨actors, (actors.map Actor.key).zipIdx⟩

/-- Actors with different keys make a cast with nothing out of its place. -/
theorem filed_ofActors {actors : List α} (h : (actors.map Actor.key).Nodup) :
    (ofActors actors).Filed := ⟨rfl, h⟩

/-- Adding an actor is filing it behind the others. -/
theorem add_ofActors (actors : List α) (actor : α) :
    (ofActors actors).add actor = ofActors (actors ++ [actor]) := by
  simp [add, ofActors, size, Actor.key, List.zipIdx_append]

/-! ## One call after another -/

section Calls

variable {factory : Factory σ α} {cast : Cast α} {persona : Persona} {s t : σ}

/-- A refusal ends the assembly: no later persona is looked at. -/
theorem addAll_cons_refused {failure : Failure} (call : factory persona s = (.error failure, t))
    (personae : List Persona) :
    (addAll factory cast (persona :: personae)).perform s =
      ⟨.error (.refused persona.name persona.location failure), t, []⟩ := by
  have hcall := factory.perform_call persona s
  rw [call] at hcall
  rw [addAll, Act.perform_bind_error hcall]

/-- A key that is taken ends the assembly, after the call that made the actor with it. -/
theorem addAll_cons_taken {actor : α} (call : factory persona s = (.ok actor, t))
    (taken : (cast.positionOfKey? (Actor.key actor)).isSome = true) (personae : List Persona) :
    (addAll factory cast (persona :: personae)).perform s =
      ⟨.error (.duplicate (Actor.key actor) persona.location), t, []⟩ := by
  have hcall := factory.perform_call persona s
  rw [call] at hcall
  rw [Actor.key] at taken ⊢
  rw [addAll, Act.perform_bind_ok hcall]
  simp [taken]

/-- An actor with a key of its own is added, and the assembly goes on where the call left the
factory. -/
theorem addAll_cons_free {actor : α} (call : factory persona s = (.ok actor, t))
    (free : ¬ (cast.positionOfKey? (Actor.key actor)).isSome = true) (personae : List Persona) :
    (addAll factory cast (persona :: personae)).perform s =
      (addAll factory (cast.add actor) personae).perform t := by
  have hcall := factory.perform_call persona s
  rw [call] at hcall
  rw [Actor.key] at free
  rw [addAll, Act.perform_bind_ok hcall]
  simp [free]

/-- Actors with different keys are added one after another.  The induction is on the calls;
those added so far are in `done`. -/
theorem addAll_append {before : List Persona} {actors : List α}
    (made : factory.Makes s before actors t) (done : List α)
    (differ : ((done ++ actors).map Actor.key).Nodup) (after : List Persona) :
    (addAll factory (ofActors done) (before ++ after)).perform s =
      (addAll factory (ofActors (done ++ actors)) after).perform t := by
  induction made generalizing done with
  | nil => rw [List.append_nil, List.nil_append]
  | @cons s t u persona before actor actors call _ ih =>
      rw [List.map_append, List.map_cons, List.nodup_append] at differ
      have free : ¬ ((ofActors done).positionOfKey? (Actor.key actor)).isSome = true := by
        rw [(filed_ofActors differ.1).isSome_positionOfKey?]
        exact fun hkey => differ.2.2 _ hkey _ List.mem_cons_self rfl
      rw [List.cons_append, addAll_cons_free call free, add_ofActors, ih, List.append_assoc,
        List.singleton_append]
      rwa [List.append_assoc, List.singleton_append, List.map_append, List.map_cons,
        List.nodup_append]

/-- The cast of nobody is where an assembly begins. -/
theorem addAll_empty_append {before : List Persona} {actors : List α}
    (made : factory.Makes s before actors t) (differ : (actors.map Actor.key).Nodup)
    (after : List Persona) :
    (addAll factory empty (before ++ after)).perform s =
      (addAll factory (ofActors actors) after).perform t :=
  addAll_append made [] differ after

end Calls

/-! ## Assembly -/

/-- How an assembly can go: the personae it is given, those of them that the factory is called
for, and what is left of it.  Before a call that ends it, the factory has made actors of all
personae before, and no two of these have the same key. -/
inductive Course (factory : Factory σ α) (s : σ) :
    List Persona → List Persona → Outcome σ (Cast α) → Prop
  /-- No call ends it, and the cast is complete. -/
  | complete {personae : List Persona} {actors : List α} {t : σ}
      (made : factory.Makes s personae actors t) (differ : (actors.map Actor.key).Nodup) :
      Course factory s personae personae
        ⟨.ok (ofActors actors), t, [.assembled actors.length]⟩
  /-- The factory makes no actor of a persona. -/
  | refused {before after : List Persona} {persona : Persona} {actors : List α} {t u : σ}
      {failure : Failure} (made : factory.Makes s before actors t)
      (differ : (actors.map Actor.key).Nodup) (call : factory persona t = (.error failure, u)) :
      Course factory s (before ++ persona :: after) (before ++ [persona])
        ⟨.error (.refused persona.name persona.location failure), u, []⟩
  /-- The factory makes an actor whose key is that of one made before. -/
  | taken {before after : List Persona} {persona : Persona} {actors : List α} {t u : σ}
      {actor : α} (made : factory.Makes s before actors t)
      (differ : (actors.map Actor.key).Nodup) (call : factory persona t = (.ok actor, u))
      (taken : Actor.key actor ∈ actors.map Actor.key) :
      Course factory s (before ++ persona :: after) (before ++ [persona])
        ⟨.error (.duplicate (Actor.key actor) persona.location), u, []⟩

/-- An assembly goes the way that its course tells. -/
theorem Course.perform_assemble {factory : Factory σ α} {s : σ} {personae called : List Persona}
    {outcome : Outcome σ (Cast α)} (h : Course factory s personae called outcome) :
    (assemble factory personae).perform s = outcome := by
  cases h with
  | @complete _ actors t made differ =>
      have hadded := addAll_empty_append made differ []
      rw [List.append_nil] at hadded
      rw [assemble, Act.perform_bind_ok hadded]
      rfl
  | @refused before after persona actors t u failure made differ call =>
      have hadded := addAll_empty_append made differ (persona :: after)
      rw [addAll_cons_refused call] at hadded
      rw [assemble, Act.perform_bind_error hadded]
  | @taken before after persona actors t u actor made differ call htaken =>
      have hadded := addAll_empty_append made differ (persona :: after)
      have hkey := (filed_ofActors differ).isSome_positionOfKey?.2 htaken
      rw [addAll_cons_taken call hkey] at hadded
      rw [assemble, Act.perform_bind_error hadded]

/-- There is a course for every list of personae.  The induction is on the list from its end:
a further persona is called for only if the ones before it have made a complete cast. -/
theorem exists_course (factory : Factory σ α) (s : σ) (personae : List Persona) :
    ∃ called outcome, Course factory s personae called outcome := by
  induction personae using List.reverseRecOn with
  | nil => exact ⟨_, _, .complete .nil List.nodup_nil⟩
  | append_singleton personae persona ih =>
      obtain ⟨called, outcome, h⟩ := ih
      cases h with
      | @complete _ actors t made differ =>
          obtain ⟨answer, u, call⟩ : ∃ answer u, factory persona t = (answer, u) := ⟨_, _, rfl⟩
          cases answer with
          | error failure => exact ⟨_, _, .refused made differ call⟩
          | ok actor =>
              by_cases htaken : Actor.key actor ∈ actors.map Actor.key
              · exact ⟨_, _, .taken made differ call htaken⟩
              · refine ⟨_, _, .complete (made.concat call) ?_⟩
                rw [List.map_append, List.map_singleton, ← List.concat_eq_append,
                  List.nodup_concat]
                exact ⟨htaken, differ⟩
      | refused made differ call =>
          rw [List.append_assoc, List.cons_append]
          exact ⟨_, _, .refused made differ call⟩
      | taken made differ call htaken =>
          rw [List.append_assoc, List.cons_append]
          exact ⟨_, _, .taken made differ call htaken⟩

/-- An assembly takes its course. -/
theorem course_assemble (factory : Factory σ α) (s : σ) (personae : List Persona) :
    ∃ called, Course factory s personae called ((assemble factory personae).perform s) := by
  obtain ⟨called, outcome, h⟩ := exists_course factory s personae
  exact ⟨called, h.perform_assemble ▸ h⟩

/-- A cast that has been assembled files each actor under its key, and its actors are those that
the factory made, persona by persona. -/
theorem filed_of_assemble {factory : Factory σ α} {personae : List Persona} {s : σ}
    {built : Cast α} (h : ((assemble factory personae).perform s).answer = .ok built) :
    built.Filed ∧ ∃ t, factory.Makes s personae built.actors t := by
  obtain ⟨called, hcourse⟩ := course_assemble factory s personae
  generalize (assemble factory personae).perform s = outcome at h hcourse
  cases hcourse with
  | complete made differ =>
      obtain rfl := Except.ok.inj h
      exact ⟨filed_ofActors differ, _, made⟩
  | refused | taken => contradiction

/-- A cast of characters has the characters that the personae declare, in their order. -/
theorem filed_of_ofPersonae {personae : List Persona} {built : Cast Character}
    (h : ((ofPersonae personae).perform ()).answer = .ok built) :
    built.Filed ∧ built.actors = personae.map .ofPersona := by
  obtain ⟨hfiled, t, hmakes⟩ := filed_of_assemble h
  exact ⟨hfiled, hmakes.eq_map_ofPersona⟩

end Cast

end Dramatis
