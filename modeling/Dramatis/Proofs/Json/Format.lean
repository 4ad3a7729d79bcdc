import Dramatis.Json.Format
import Dramatis.Proofs.Json.Grammar
import Dramatis.Proofs.Json.Record

/-!
# Dramatis.Proofs.Json.Format

The formats of locations, personae and snapshots.  Each has three fields, and each reader takes
exactly the values that are a record of its format, from every text that spells them.
-/

namespace Dramatis

namespace Json

/-- What a reader decides of values, it decides of the texts that spell them. -/
theorem Decides.read?_eq_some_iff {δ : Type} {ofJson? : Json → Option δ} {means : Json → δ → Prop}
    (h : Decides ofJson? means) {text : String} {json : Json} (htext : Spells text json) {d : δ} :
    (do ofJson? (← parse? text)) = some d ↔ means json d := by
  rw [parse?_eq_some_iff.2 htext, Option.bind_eq_bind, Option.bind_some]
  exact h json d

end Json

open Json

/-! ## Source locations -/

namespace Location

/-- Three numbers. -/
def format : Json.Format UInt64 UInt64 UInt64 where
  first := .required "offset" IsNumber
  second := .required "line" IsNumber
  third := .required "column" IsNumber

/-- The members of an object that tell a location. -/
def IsMadeOf (location : Location) (spelled : List (List Char × Json)) : Prop :=
  format.IsMadeOf location.offset location.line location.column spelled

/-- A value that is a location, in either form. -/
def IsRecord (json : Json) (location : Location) : Prop :=
  format.IsRecord location.offset location.line location.column json

/-- No location is `null`, so a missing one cannot be taken for one that is there. -/
theorem not_isRecord_null (location : Location) : ¬ IsRecord .null location :=
  fun h => Format.IsRecord.ne_null h rfl

/-- The three numbers are read as the format has them. -/
theorem isReadBy_format : format.IsReadBy offsetField lineField columnField :=
  ⟨Slot.isReadBy_required decides_uint64, Slot.isReadBy_required decides_uint64,
    Slot.isReadBy_required decides_uint64⟩

/-- A location is read as a record of its three fields. -/
theorem ofJson?_eq (json : Json) :
    ofJson? json = Format.record? Location.mk offsetField lineField columnField json := by
  match json with
  | .object _ | .null | .bool _ | .number _ | .string _ => rfl
  | .array [] | .array [_] | .array [_, _] | .array [_, _, _] => rfl
  | .array (_ :: _ :: _ :: _ :: _) => rfl

/-- The values that are read as a location are those that are one. -/
theorem decides_ofJson? : Decides ofJson? IsRecord :=
  isReadBy_format.decides ofJson?_eq (fun _ _ _ _ => Iff.rfl) fun _ => ⟨_, _, _, rfl⟩

/-- The texts that are read as a location are those that spell one. -/
theorem read?_eq_some_iff {text : String} {json : Json} (htext : Spells text json)
    {location : Location} : read? text = some location ↔ IsRecord json location :=
  decides_ofJson?.read?_eq_some_iff htext

end Location

/-! ## Personae -/

namespace Persona

/-- A name, and what else may be told: a description and the place of the declaration. -/
def format : Json.Format String (Option String) (Option Location) where
  first := .required "name" IsText
  second := .optional "description" IsText nofun
  third := .optional "location" Location.IsRecord Location.not_isRecord_null

/-- The members of an object that tell a persona. -/
def IsMadeOf (persona : Persona) (spelled : List (List Char × Json)) : Prop :=
  format.IsMadeOf persona.name persona.description persona.location spelled

/-- A value that is a persona, in either form. -/
def IsRecord (json : Json) (persona : Persona) : Prop :=
  format.IsRecord persona.name persona.description persona.location json

/-- The name must be there; description and place may be missing. -/
theorem isReadBy_format : format.IsReadBy nameField descriptionField locationField :=
  ⟨Slot.isReadBy_required decides_string, Slot.isReadBy_optional decides_string nofun,
    Slot.isReadBy_optional Location.decides_ofJson? Location.not_isRecord_null⟩

/-- A persona is read as a record of its three fields. -/
theorem ofJson?_eq (json : Json) :
    ofJson? json = Format.record? Persona.mk nameField descriptionField locationField json := by
  match json with
  | .object _ | .null | .bool _ | .number _ | .string _ => rfl
  | .array [] | .array [_] | .array [_, _] | .array [_, _, _] => rfl
  | .array (_ :: _ :: _ :: _ :: _) => rfl

/-- The values that are read as a persona are those that are one. -/
theorem decides_ofJson? : Decides ofJson? IsRecord :=
  isReadBy_format.decides ofJson?_eq (fun _ _ _ _ => Iff.rfl) fun _ => ⟨_, _, _, rfl⟩

/-- The texts that are read as a persona are those that spell one. -/
theorem read?_eq_some_iff {text : String} {json : Json} (htext : Spells text json)
    {persona : Persona} : read? text = some persona ↔ IsRecord json persona :=
  decides_ofJson?.read?_eq_some_iff htext

end Persona

/-! ## Snapshots -/

namespace Snapshot

/-- A truth value and two lists of names. -/
def format : Json.Format Bool (List String) (List String) where
  first := .required "global_boolean" IsTruth
  second := .required "on_stage" IsTexts
  third := .required "off_stage" IsTexts

/-- The members of an object that tell a snapshot. -/
def IsMadeOf (snapshot : Snapshot) (spelled : List (List Char × Json)) : Prop :=
  format.IsMadeOf snapshot.flag snapshot.present snapshot.absent spelled

/-- A value that is a snapshot, in either form. -/
def IsRecord (json : Json) (snapshot : Snapshot) : Prop :=
  format.IsRecord snapshot.flag snapshot.present snapshot.absent json

/-- The boolean and both lists must be there. -/
theorem isReadBy_format : format.IsReadBy flagField presentField absentField :=
  ⟨Slot.isReadBy_required decides_bool, Slot.isReadBy_required decides_strings,
    Slot.isReadBy_required decides_strings⟩

/-- A snapshot is read as a record of its three fields. -/
theorem ofJson?_eq (json : Json) :
    ofJson? json = Format.record? Snapshot.mk flagField presentField absentField json := by
  match json with
  | .object _ | .null | .bool _ | .number _ | .string _ => rfl
  | .array [] | .array [_] | .array [_, _] | .array [_, _, _] => rfl
  | .array (_ :: _ :: _ :: _ :: _) => rfl

/-- The values that are read as a snapshot are those that are one. -/
theorem decides_ofJson? : Decides ofJson? IsRecord :=
  isReadBy_format.decides ofJson?_eq (fun _ _ _ _ => Iff.rfl) fun _ => ⟨_, _, _, rfl⟩

end Snapshot

end Dramatis
