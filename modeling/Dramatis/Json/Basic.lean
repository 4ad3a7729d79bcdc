import Dramatis.Json.Lexeme
import Dramatis.Json.Numeral
import Dramatis.Json.Quoted
import Dramatis.Text.Decimal

/-!
# Dramatis.Json.Basic

JSON values as they are spelled: a number keeps its digits and a text its
escapes, so that nothing is decided about them before somebody asks. The members
of an object keep their order, and a key may come twice.

`Json.lexemes` spells a value, and `Json.ofLexemes?` reads one back in a single
pass: the arrays and objects that are under way are held in a stack, the
innermost first, and each lexeme takes the reading one step on.
-/

namespace Dramatis

/-- A JSON value, with the spelling of its numbers and of its quoted texts. -/
inductive Json where
  | null
  | bool (value : Bool)
  | number (numeral : List Char)
  | string (body : List Char)
  | array (elements : List Json)
  | object (members : List (List Char × Json))

namespace Json

/-! ## Making values -/

/-- The value that a text is. -/
def ofString (s : String) : Json := .string (Quoted.encode s.toList)

/-- The value that a number is. -/
def ofNat (n : Nat) : Json := .number (Text.Decimal.digits n)

/-- The object with given members, in the order given. -/
def ofMembers (members : List (String × Json)) : Json :=
  .object (members.map fun (key, value) => (Quoted.encode key.toList, value))

/-- The value, or `null` for want of one. -/
def ofOption {α : Type} (toJson : α → Json) : Option α → Json
  | none => .null
  | some a => toJson a

/-! ## Writing -/

/-- The word for nothing. -/
def nullWord : List Char := ['n', 'u', 'l', 'l']

/-- The words for the truth values. -/
def boolWord : Bool → List Char
  | true => ['t', 'r', 'u', 'e']
  | false => ['f', 'a', 'l', 's', 'e']

mutual
/-- The lexemes of a value. -/
def lexemes : Json → List Lexeme
  | .null => [.word nullWord]
  | .bool value => [.word (boolWord value)]
  | .number numeral => [.word numeral]
  | .string body => [.quoted body]
  | .array elements => .openArray :: (elementLexemes elements ++ [.closeArray])
  | .object members => .openObject :: (memberLexemes members ++ [.closeObject])

/-- The lexemes of the elements of an array, with commas between them. -/
def elementLexemes : List Json → List Lexeme
  | [] => []
  | [element] => lexemes element
  | element :: rest => lexemes element ++ .comma :: elementLexemes rest

/-- The lexemes of the members of an object, with commas between them. -/
def memberLexemes : List (List Char × Json) → List Lexeme
  | [] => []
  | [(key, value)] => .quoted key :: .colon :: lexemes value
  | (key, value) :: rest =>
    .quoted key :: .colon :: (lexemes value ++ .comma :: memberLexemes rest)
end

/-- The compact text of a value: its lexemes without white space. -/
def text (json : Json) : String := String.ofList (json.lexemes.flatMap Lexeme.spelling)

/-! ## Reading -/

/-- The value that a bare word is. -/
def ofWord? (cs : List Char) : Option Json :=
  if cs = nullWord then some .null
  else if cs = boolWord true then some (.bool true)
  else if cs = boolWord false then some (.bool false)
  else if Numeral.isNumeral cs then some (.number cs)
  else none

/-- The value that a quoted text is. -/
def ofQuoted? (body : List Char) : Option Json :=
  if Quoted.isWellFormed body then some (.string body) else none

/-- An array or an object under way: what it holds already, the latest first, and
for an object the key whose value is being read. -/
inductive Frame where
  | array (elements : List Json)
  | object (members : List (List Char × Json)) (key : List Char)

/-- What has been read, as far as it matters for what may follow. -/
inductive Reading where
  /-- A value must follow. -/
  | expectValue (outer : List Frame)
  /-- An array has just been opened: its first element or its end must follow. -/
  | openedArray (outer : List Frame)
  /-- An object has just been opened: its first key or its end must follow. -/
  | openedObject (outer : List Frame)
  /-- A key must follow, after a comma in an object. -/
  | expectKey (members : List (List Char × Json)) (outer : List Frame)
  /-- A colon must follow, after a key. -/
  | expectColon (members : List (List Char × Json)) (key : List Char) (outer : List Frame)
  /-- A value is complete: a comma or the end of what is around it must follow. -/
  | complete (value : Json) (outer : List Frame)

namespace Reading

/-- Reads the first lexeme of a value. -/
def value? (outer : List Frame) : Lexeme → Option Reading
  | .openArray => some (openedArray outer)
  | .openObject => some (openedObject outer)
  | .word cs => (ofWord? cs).map (complete · outer)
  | .quoted body => (ofQuoted? body).map (complete · outer)
  | _ => none

/-- Reads a key. -/
def key? (members : List (List Char × Json)) (outer : List Frame) : Lexeme → Option Reading
  | .quoted key => if Quoted.isWellFormed key then some (expectColon members key outer) else none
  | _ => none

/-- Reads what comes after an element of an array. -/
def afterElement? (elements : List Json) (outer : List Frame) : Lexeme → Option Reading
  | .comma => some (expectValue (.array elements :: outer))
  | .closeArray => some (complete (.array elements.reverse) outer)
  | _ => none

/-- Reads what comes after a member of an object. -/
def afterMember? (members : List (List Char × Json)) (outer : List Frame) :
    Lexeme → Option Reading
  | .comma => some (expectKey members outer)
  | .closeObject => some (complete (.object members.reverse) outer)
  | _ => none

/-- Reads one more lexeme. -/
def step? : Reading → Lexeme → Option Reading
  | expectValue outer, lexeme => value? outer lexeme
  | openedArray outer, .closeArray => some (complete (.array []) outer)
  | openedArray outer, lexeme => value? (.array [] :: outer) lexeme
  | openedObject outer, .closeObject => some (complete (.object []) outer)
  | openedObject outer, lexeme => key? [] outer lexeme
  | expectKey members outer, lexeme => key? members outer lexeme
  | expectColon members key outer, .colon => some (expectValue (.object members key :: outer))
  | expectColon _ _ _, _ => none
  | complete value (.array elements :: outer), lexeme =>
    afterElement? (value :: elements) outer lexeme
  | complete value (.object members key :: outer), lexeme =>
    afterMember? ((key, value) :: members) outer lexeme
  | complete _ [], _ => none

/-- The value that has been read, when the text may end here. -/
def finish? : Reading → Option Json
  | complete value [] => some value
  | _ => none

end Reading

/-- The value that a row of lexemes spells. -/
def ofLexemes? (lexemes : List Lexeme) : Option Json := do
  (← lexemes.foldlM Reading.step? (.expectValue [])).finish?

/-- The value that a text spells, with nothing but white space around it. -/
def parse? (text : String) : Option Json := do
  ofLexemes? (← Lexeme.ofChars? text.toList)

end Json

end Dramatis
