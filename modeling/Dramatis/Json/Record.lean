import Dramatis.Json.Basic

/-!
# Dramatis.Json.Record

How records are read. A record is an object with a member for each field, in any
order, or an array with an element for each field, in the order of declaration.

In an object a field may come once at most, and every key must spell a text; the
values of unknown keys are of no account. An optional field may be missing from
an object, which is the same as `null`. An array must be complete.
-/

namespace Dramatis

namespace Json

/-! ## Reading plain values -/

/-- The text of a quoted text. -/
def string? : Json → Option String
  | .string body => (Quoted.decode? body).map String.ofList
  | _ => none

/-- A truth value. -/
def bool? : Json → Option Bool
  | .bool value => some value
  | _ => none

/-- A number of sixty-four bits, spelled as a plain integer. -/
def uint64? : Json → Option UInt64
  | .number numeral => do
    let n ← Text.Decimal.read? numeral
    if n < UInt64.size then return .ofNat n else none
  | _ => none

/-- A list of texts. -/
def strings? : Json → Option (List String)
  | .array elements => elements.mapM string?
  | _ => none

/-- A value that may be `null`. -/
def nullable? {β : Type} (read? : Json → Option β) : Json → Option (Option β)
  | .null => some none
  | json => (read? json).map some

/-! ## Reading fields -/

/-- A field of a record: its key, how its value is read, and what it is when it is
missing from an object. -/
structure Field (β : Type) where
  key : String
  read? : Json → Option β
  missing : Option β

namespace Field

variable {β : Type}

/-- A field that must not be missing. -/
def required (key : String) (read? : Json → Option β) : Field β := ⟨key, read?, none⟩

/-- A field that may be `null` or missing. -/
def optional (key : String) (read? : Json → Option β) : Field (Option β) :=
  ⟨key, nullable? read?, some none⟩

/-- The value of a field among the members of an object. -/
def find? (field : Field β) (members : List (String × Json)) : Option β :=
  match members.filter (·.1 == field.key) with
  | [] => field.missing
  | [(_, value)] => field.read? value
  | _ => none

end Field

/-- The members of an object under the texts that their keys spell. -/
def keyed? (members : List (List Char × Json)) : Option (List (String × Json)) :=
  members.mapM fun (key, value) => (Quoted.decode? key).map fun cs => (String.ofList cs, value)

end Json

end Dramatis
