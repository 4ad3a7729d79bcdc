import Dramatis.Json.Format
import Dramatis.Proofs.Json.Parse
import Dramatis.Proofs.Text.Decimal
import Mathlib.Logic.Function.Basic

/-!
# Dramatis.Proofs.Json.RoundTrip

Locations, personae and snapshots are read back from their JSON texts.  Writing a record
and reading it meet in the JSON value between them: the value is well formed, so it is
what its text is parsed to; and each of its members is found under its key, which
occurs once, and read as what it was made of.
-/

namespace Dramatis

namespace Json

/-- A way of writing values as JSON, and a way of reading them that undoes it. -/
structure Faithful {α : Type} (toJson : α → Json) (read? : Json → Option α) : Prop where
  isWellFormed (a : α) : (toJson a).IsWellFormed
  read?_toJson (a : α) : read? (toJson a) = some a

namespace Faithful

variable {α : Type} {toJson : α → Json} {read? : Json → Option α}

/-- What can be read back from a JSON value can be read back from its text. -/
theorem read?_text (h : Faithful toJson read?) (a : α) :
    (do read? (← parse? (toJson a).text)) = some a := by
  rw [(h.isWellFormed a).parse?_text]
  exact h.read?_toJson a

/-- Texts of different values differ. -/
theorem text_injective (h : Faithful toJson read?) :
    Function.Injective fun a => (toJson a).text := by
  intro a b htext
  have ha := h.read?_text a
  have hb := h.read?_text b
  simp only at htext
  rw [htext, hb] at ha
  exact (Option.some.inj ha).symm

/-- A value that may be missing is written as `null` if it is, which no value is
written as that is there. -/
theorem ofOption (h : Faithful toJson read?) (hnull : ∀ a, toJson a ≠ .null) :
    Faithful (Json.ofOption toJson) (nullable? read?) where
  isWellFormed value := by
    cases value with
    | none => exact .null
    | some a => exact h.isWellFormed a
  read?_toJson value := by
    cases value with
    | none => rfl
    | some a =>
        rw [Json.ofOption, nullable?, h.read?_toJson, Option.map_some]
        exact hnull a

end Faithful

/-! ## Plain values -/

/-- A text is read back from its quoted form, escapes included. -/
theorem faithful_string : Faithful ofString string? where
  isWellFormed s := .string (Quoted.isWellFormed_encode s.toList)
  read?_toJson s := by simp [string?, ofString]

/-- A truth value is read back from the word for it. -/
theorem faithful_bool : Faithful .bool bool? where
  isWellFormed value := .bool value
  read?_toJson _ := rfl

/-- The numbers of sixty-four bits are all within the bound that the reader checks. -/
theorem faithful_uint64 : Faithful (fun n : UInt64 => ofNat n.toNat) uint64? where
  isWellFormed n :=
    .number (Numeral.isToken_of_decimal (Text.Decimal.isNumeral_digits n.toNat)).isNumeral
  read?_toJson n := by
    rw [ofNat, uint64?, Text.Decimal.read?_digits]
    simp [UInt64.toNat_lt_size]

/-- A list of texts is read back from the array of them. -/
theorem faithful_strings :
    Faithful (fun texts : List String => .array (texts.map ofString)) strings? where
  isWellFormed texts := by
    refine .array fun element helement => ?_
    obtain ⟨s, -, rfl⟩ := List.mem_map.1 helement
    exact faithful_string.isWellFormed s
  read?_toJson texts := by
    rw [strings?]
    induction texts with
    | nil => rfl
    | cons s texts ih => simp [faithful_string.read?_toJson, ih]

/-! ## Records -/

/-- An object that is written has well-spelled keys. -/
theorem isWellFormed_ofMembers {members : List (String × Json)}
    (h : ∀ member ∈ members, member.2.IsWellFormed) : (ofMembers members).IsWellFormed := by
  refine .object (fun member hmember => ?_) fun member hmember => ?_
  all_goals obtain ⟨member, hmem, rfl⟩ := List.mem_map.1 hmember
  · exact Quoted.isWellFormed_encode member.1.toList
  · exact h member hmem

/-- Members are found under the keys that they were written with. -/
@[simp] theorem keyed?_encode (members : List (String × Json)) :
    keyed? (members.map fun (key, value) => (Quoted.encode key.toList, value)) = some members := by
  rw [keyed?]
  induction members with
  | nil => rfl
  | cons member members ih => simp [ih]

end Json

open Json

/-- A location is read back from the object that is written for it. -/
theorem Location.faithful : Faithful toJson ofJson? where
  isWellFormed location := isWellFormed_ofMembers (by simp [faithful_uint64.isWellFormed])
  read?_toJson location := by
    rw [toJson, ofMembers, ofJson?, keyed?_encode]
    simp [offsetField, lineField, columnField, Field.required, Field.find?,
      faithful_uint64.read?_toJson]

/-- A persona is read back from the object that is written for it, whichever of its fields are
missing. -/
theorem Persona.faithful : Faithful toJson ofJson? := by
  have hdescription := faithful_string.ofOption fun _ => by simp [ofString]
  have hlocation := Location.faithful.ofOption fun _ => by simp [Location.toJson, ofMembers]
  constructor
  · intro persona
    exact isWellFormed_ofMembers (by simp [faithful_string.isWellFormed,
      hdescription.isWellFormed, hlocation.isWellFormed])
  · intro persona
    rw [toJson, ofMembers, ofJson?, keyed?_encode]
    simp [nameField, descriptionField, locationField, Field.required, Field.optional,
      Field.find?, faithful_string.read?_toJson, hdescription.read?_toJson,
      hlocation.read?_toJson]

/-- A snapshot is read back from the object that is written for it. -/
theorem Snapshot.faithful : Faithful toJson ofJson? where
  isWellFormed snapshot := isWellFormed_ofMembers (by
    simp [faithful_bool.isWellFormed, faithful_strings.isWellFormed])
  read?_toJson snapshot := by
    rw [toJson, ofMembers, ofJson?, keyed?_encode]
    simp [flagField, presentField, absentField, Field.required, Field.find?,
      faithful_bool.read?_toJson, faithful_strings.read?_toJson]

/-- Every location, persona and snapshot is read back from the text that is written for
it, and texts of different ones differ. -/
theorem texts_read_back :
    (∀ location : Location, Location.read? location.write = some location) ∧
    (∀ persona : Persona, Persona.read? persona.write = some persona) ∧
    (∀ snapshot : Snapshot, Snapshot.read? snapshot.write = some snapshot) ∧
    Function.Injective Location.write ∧ Function.Injective Persona.write ∧
    Function.Injective Snapshot.write :=
  ⟨Location.faithful.read?_text, Persona.faithful.read?_text, Snapshot.faithful.read?_text,
    Location.faithful.text_injective, Persona.faithful.text_injective,
    Snapshot.faithful.text_injective⟩

/-- A name that has to be escaped, and numbers at both ends of their range. -/
example : Persona.write ⟨"\"\\\n\x01", none, some ⟨0, 1, 18446744073709551615⟩⟩ =
    "\x7b\"name\":\"\\\"\\\\\\n\\u0001\",\"description\":null,\"location\":" ++
      "\x7b\"offset\":0,\"line\":1,\"column\":18446744073709551615\x7d\x7d" := by
  decide

end Dramatis
