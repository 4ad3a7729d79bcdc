import Dramatis.Json.Record
import Dramatis.Persona
import Dramatis.Stage.Snapshot

/-!
# Dramatis.Json.Format

Source locations, personae and snapshots as JSON. Each is written as an object
with all its fields in the order of declaration, `null` where there is nothing,
and is read from an object or from an array.
-/

namespace Dramatis

open Json

/-! ## Source locations -/

namespace Location

/-- A location as JSON. -/
def toJson (location : Location) : Json :=
  .ofMembers [("offset", .ofNat location.offset.toNat), ("line", .ofNat location.line.toNat),
    ("column", .ofNat location.column.toNat)]

/-- The offset. -/
def offsetField : Json.Field UInt64 := .required "offset" uint64?

/-- The line. -/
def lineField : Json.Field UInt64 := .required "line" uint64?

/-- The column. -/
def columnField : Json.Field UInt64 := .required "column" uint64?

/-- The location that a JSON value is. -/
def ofJson? : Json → Option Location
  | .object members => do
    let members ← keyed? members
    return ⟨← offsetField.find? members, ← lineField.find? members, ← columnField.find? members⟩
  | .array [offset, line, column] =>
    return ⟨← offsetField.read? offset, ← lineField.read? line, ← columnField.read? column⟩
  | _ => none

/-- The compact JSON text of a location. -/
def write (location : Location) : String := location.toJson.text

/-- The location that a JSON text is. -/
def read? (text : String) : Option Location := do ofJson? (← parse? text)

end Location

/-! ## Personae -/

namespace Persona

/-- A persona as JSON. -/
def toJson (persona : Persona) : Json :=
  .ofMembers [("name", .ofString persona.name),
    ("description", .ofOption .ofString persona.description),
    ("location", .ofOption Location.toJson persona.location)]

/-- The name. -/
def nameField : Json.Field String := .required "name" string?

/-- The description. -/
def descriptionField : Json.Field (Option String) := .optional "description" string?

/-- The place of the declaration. -/
def locationField : Json.Field (Option Location) := .optional "location" Location.ofJson?

/-- The persona that a JSON value is. -/
def ofJson? : Json → Option Persona
  | .object members => do
    let members ← keyed? members
    return ⟨← nameField.find? members, ← descriptionField.find? members,
      ← locationField.find? members⟩
  | .array [name, description, location] =>
    return ⟨← nameField.read? name, ← descriptionField.read? description,
      ← locationField.read? location⟩
  | _ => none

/-- The compact JSON text of a persona. -/
def write (persona : Persona) : String := persona.toJson.text

/-- The persona that a JSON text is. -/
def read? (text : String) : Option Persona := do ofJson? (← parse? text)

end Persona

/-! ## Snapshots -/

namespace Snapshot

/-- A snapshot as JSON. -/
def toJson (snapshot : Snapshot) : Json :=
  .ofMembers [("global_boolean", .bool snapshot.flag),
    ("on_stage", .array (snapshot.present.map .ofString)),
    ("off_stage", .array (snapshot.absent.map .ofString))]

/-- The boolean of the play. -/
def flagField : Json.Field Bool := .required "global_boolean" bool?

/-- The names of those on stage. -/
def presentField : Json.Field (List String) := .required "on_stage" strings?

/-- The names of those off stage. -/
def absentField : Json.Field (List String) := .required "off_stage" strings?

/-- The snapshot that a JSON value is. -/
def ofJson? : Json → Option Snapshot
  | .object members => do
    let members ← keyed? members
    return ⟨← flagField.find? members, ← presentField.find? members,
      ← absentField.find? members⟩
  | .array [flag, present, absent] =>
    return ⟨← flagField.read? flag, ← presentField.read? present,
      ← absentField.read? absent⟩
  | _ => none

/-- The compact JSON text of a snapshot. -/
def write (snapshot : Snapshot) : String := snapshot.toJson.text

/-- The snapshot that a JSON text is. -/
def read? (text : String) : Option Snapshot := do ofJson? (← parse? text)

end Snapshot

end Dramatis
