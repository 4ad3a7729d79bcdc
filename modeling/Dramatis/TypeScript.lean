/-!
# Dramatis.TypeScript

The JSON forms of the records as TypeScript declarations, for front ends that
read them. A field that deserves a remark carries it as a documentation comment.
-/

namespace Dramatis.TypeScript

/-- A type of TypeScript, as far as the records need them. -/
inductive Ty where
  | string
  | boolean
  | number
  | array (element : Ty)
  | nullable (base : Ty)
  | named (name : String)

/-- The text of a type. -/
def Ty.text : Ty → String
  | string => "string"
  | boolean => "boolean"
  | number => "number"
  | array element => "Array<" ++ element.text ++ ">"
  | nullable base => base.text ++ " | null"
  | named name => name

/-- A field of a declared type. -/
structure Field where
  name : String
  ty : Ty
  remark : Option String := none

/-- A remark as a documentation comment on lines of its own. -/
def remarkText : Option String → String
  | none => ""
  | some remark => "\n/**\n * " ++ remark ++ "\n */\n"

/-- A field with its remark before it, and a comma and a space after it. -/
def Field.text (field : Field) : String :=
  remarkText field.remark ++ field.name ++ ": " ++ field.ty.text ++ ", "

/-- A named object type. -/
structure Decl where
  name : String
  fields : List Field

/-- The type itself, without its name. -/
def Decl.inline (decl : Decl) : String :=
  "\x7b " ++ String.join (decl.fields.map Field.text) ++ "\x7d"

/-- The declaration of the type under its name. -/
def Decl.text (decl : Decl) : String := "type " ++ decl.name ++ " = " ++ decl.inline ++ ";"

/-- The type of source locations. -/
def location : Decl where
  name := "SourceLocation"
  fields :=
    [⟨"offset", .number, some "byte offset"⟩, ⟨"line", .number, some "1-based"⟩,
     ⟨"column", .number, some "0-based"⟩]

/-- The type of personae. -/
def persona : Decl where
  name := "Persona"
  fields :=
    [⟨"name", .string, some "name as written in the source, not normalized"⟩,
     ⟨"description", .nullable .string, none⟩,
     ⟨"location", .nullable (.named "SourceLocation"), none⟩]

/-- The type of snapshots. -/
def snapshot : Decl where
  name := "StageSnapshot"
  fields :=
    [⟨"global_boolean", .boolean, none⟩, ⟨"on_stage", .array .string, none⟩,
     ⟨"off_stage", .array .string, none⟩]

end Dramatis.TypeScript
