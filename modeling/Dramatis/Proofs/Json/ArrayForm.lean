import Dramatis.Proofs.Json.Format

/-!
# Dramatis.Proofs.Json.ArrayForm

The two forms of records agree.  An array has the values of the fields in the order of declaration,
and it is read as the object that pairs the keys with these values is: what each value stands for
is asked of its field in either form.  The forms differ in what they leave out only, since an array
must be complete.
-/

namespace Dramatis

namespace Json

variable {α β γ δ : Type}

/-- A record in one of its two forms: an array of values, or the object that pairs the keys with
them. -/
inductive IsForm (keys : List String) (elements : List Json) : Json → Prop
  | array : IsForm keys elements (.array elements)
  | object {spelled : List (List Char × Json)} (h : Keyed spelled (keys.zip elements)) :
      IsForm keys elements (.object spelled)

/-- The two forms of a kind of record agree: an array is read as a record just if it is complete
and the object that pairs the keys with its elements is read as this record. -/
def FormsAgree (read? : String → Option δ) (keys : List String) : Prop :=
  ∀ {elements : List Json} {spelled : List (List Char × Json)} {text other : String},
    Spells text (.array elements) → Keyed spelled (keys.zip elements) →
    Spells other (.object spelled) →
    ∀ d, read? text = some d ↔ elements.length = keys.length ∧ read? other = some d

namespace Format

variable {format : Format α β γ} {a : α} {b : β} {c : γ}

/-- Either form has the values of all fields. -/
theorem isRecord_left_of_isForm {x y z json : Json} (h : IsForm format.keys [x, y, z] json) :
    format.left.IsRecord x y z json := by
  cases h with
  | array => exact .inr (.mk rfl rfl rfl)
  | @object spelled hkeys =>
      have hmade : format.left.IsMadeOf x y z spelled := by
        refine .mk (.given rfl) (.given rfl) (.given rfl) hkeys (List.forall_mem_nil _) ?_
        rw [List.append_nil]
      exact .inl ⟨hmade, areNamed_iff.2 ⟨_, hkeys⟩⟩

/-- An array that is a record has a value for each field. -/
theorem length_of_isRecord_array {elements : List Json}
    (h : format.IsRecord a b c (.array elements)) : elements.length = 3 := by
  cases isRecord_array_iff.1 h
  rfl

/-- Of three values both forms are the same record; of more or fewer the array is none. -/
theorem isRecord_array_iff_object {elements : List Json} {spelled : List (List Char × Json)}
    (h : Keyed spelled (format.keys.zip elements)) : format.IsRecord a b c (.array elements) ↔
      elements.length = 3 ∧ format.IsRecord a b c (.object spelled) := by
  have hforms (hlength : elements.length = 3) : format.IsRecord a b c (.array elements) ↔
      format.IsRecord a b c (.object spelled) := by
    obtain ⟨x, y, z, rfl⟩ := List.length_eq_three.1 hlength
    rw [isRecord_iff_of_left (isRecord_left_of_isForm .array),
      isRecord_iff_of_left (isRecord_left_of_isForm (.object h))]
  constructor
  · intro harray
    have hlength := length_of_isRecord_array harray
    exact ⟨hlength, (hforms hlength).1 harray⟩
  · rintro ⟨hlength, hobject⟩
    exact (hforms hlength).2 hobject

/-- What is read of records is read alike in the two forms. -/
theorem formsAgree {ofJson? : Json → Option δ} {means : Json → δ → Prop}
    (h : Decides ofJson? means)
    (hmeans : ∀ d, ∃ a b c, ∀ json, means json d ↔ format.IsRecord a b c json) :
    FormsAgree (fun text => do ofJson? (← parse? text)) format.keys := by
  intro elements spelled text other htext hkeys hother d
  obtain ⟨a, b, c, hd⟩ := hmeans d
  rw [h.read?_eq_some_iff htext, h.read?_eq_some_iff hother, hd, hd]
  exact isRecord_array_iff_object hkeys

end Format

end Json

open Json

theorem Location.formsAgree : FormsAgree read? ["offset", "line", "column"] :=
  Format.formsAgree decides_ofJson? fun _ => ⟨_, _, _, fun _ => Iff.rfl⟩

theorem Persona.formsAgree : FormsAgree read? ["name", "description", "location"] :=
  Format.formsAgree decides_ofJson? fun _ => ⟨_, _, _, fun _ => Iff.rfl⟩

theorem Snapshot.formsAgree : FormsAgree read? ["global_boolean", "on_stage", "off_stage"] :=
  Format.formsAgree decides_ofJson? fun _ => ⟨_, _, _, fun _ => Iff.rfl⟩

/-- What a location that may be missing is, it is in either form of a location. -/
theorem Location.isNullable_array_iff {inner : List Json} {place : List (List Char × Json)}
    (hplace : Keyed place (["offset", "line", "column"].zip inner)) {location : Option Location} :
    IsNullable IsRecord (.array inner) location ↔
      inner.length = 3 ∧ IsNullable IsRecord (.object place) location := by
  have hrecord (location : Location) : IsRecord (.array inner) location ↔
    inner.length = 3 ∧ IsRecord (.object place) location := Format.isRecord_array_iff_object hplace
  constructor
  · rintro (_ | hmeans)
    obtain ⟨hlength, hobject⟩ := (hrecord _).1 hmeans
    exact ⟨hlength, .given hobject⟩
  · rintro ⟨hlength, _ | hmeans⟩
    exact .given ((hrecord _).2 ⟨hlength, hmeans⟩)

/-- A persona in either form, from what its values stand for. -/
theorem Persona.isRecord_iff {name description location json : Json}
    (h : IsForm ["name", "description", "location"] [name, description, location] json)
    {persona : Persona} : IsRecord json persona ↔ IsText name persona.name ∧
      IsNullable IsText description persona.description ∧
      IsNullable Location.IsRecord location persona.location :=
  Format.isRecord_iff_of_left (Format.isRecord_left_of_isForm h)

/-- Locations, personae and snapshots are read alike in their two forms, and a persona in either
form is read alike with its location in either form. -/
theorem forms_agree :
    FormsAgree Location.read? ["offset", "line", "column"] ∧
    FormsAgree Persona.read? ["name", "description", "location"] ∧
    FormsAgree Snapshot.read? ["global_boolean", "on_stage", "off_stage"] ∧
    ∀ {name description json form : Json} {inner : List Json} {place : List (List Char × Json)}
      {text other : String},
      Keyed place (["offset", "line", "column"].zip inner) →
      IsForm ["name", "description", "location"] [name, description, .array inner] json →
      IsForm ["name", "description", "location"] [name, description, .object place] form →
      Spells text json → Spells other form →
      ∀ persona, Persona.read? text = some persona ↔
        inner.length = 3 ∧ Persona.read? other = some persona := by
  refine ⟨Location.formsAgree, Persona.formsAgree, Snapshot.formsAgree, ?_⟩
  intro name description json form inner place text other hplace hjson hform htext hother persona
  rw [Persona.read?_eq_some_iff htext, Persona.read?_eq_some_iff hother,
    Persona.isRecord_iff hjson, Persona.isRecord_iff hform, Location.isNullable_array_iff hplace]
  tauto

/-- An array with an array in it, and one that is not complete. -/
theorem arrays_read : Persona.read? "[\"A\",null,[0,1,2]]" = some ⟨"A", none, some ⟨0, 1, 2⟩⟩ ∧
    Location.read? "[0,1]" = none := by
  have hplace : Keyed [("offset".toList, .number ['0']), ("line".toList, .number ['1']),
      ("column".toList, .number ['2'])] (["offset", "line", "column"].zip
        [.number ['0'], .number ['1'], .number ['2']]) := keyed?_eq_some_iff.1 rfl
  have hobject : Spells "[\"A\",null,\x7b\"offset\":0,\"line\":1,\"column\":2\x7d]"
      (.array [.string ['A'], .null, .object [("offset".toList, .number ['0']),
        ("line".toList, .number ['1']), ("column".toList, .number ['2'])]]) :=
    parse?_eq_some_iff.1 rfl
  have hmembers : Keyed [("offset".toList, .number ['0']), ("line".toList, .number ['1'])]
      (["offset", "line", "column"].zip [.number ['0'], .number ['1']]) :=
    keyed?_eq_some_iff.1 rfl
  have hpair : Spells "\x7b\"offset\":0,\"line\":1\x7d"
      (.object [("offset".toList, .number ['0']), ("line".toList, .number ['1'])]) :=
    parse?_eq_some_iff.1 rfl
  constructor
  · exact (forms_agree.2.2.2 hplace .array .array (parse?_eq_some_iff.1 rfl) hobject _).2
      ⟨rfl, rfl⟩
  · refine Option.eq_none_iff_forall_ne_some.2 fun location hread => ?_
    have hlength := ((forms_agree.1 (parse?_eq_some_iff.1 rfl) hmembers hpair _).1 hread).1
    contradiction

end Dramatis
