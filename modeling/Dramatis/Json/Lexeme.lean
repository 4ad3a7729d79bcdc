/-!
# Dramatis.Json.Lexeme

JSON text cut into lexemes. White space separates lexemes and is dropped. Between
two structural characters there may be one bare word or one quoted text; a bare
word is a longest stretch of other characters, so that `truefalse` and `1-2` are
one word each and are refused later for what they are.

Nothing is judged here but that every quoted text is closed.
-/

namespace Dramatis.Json

/-- The white space of JSON text. -/
def isSpace (c : Char) : Bool := c == ' ' || c == '\t' || c == '\n' || c == '\r'

/-- A unit of JSON text. The body of a quoted text is kept as it is spelled. -/
inductive Lexeme where
  | openObject
  | closeObject
  | openArray
  | closeArray
  | colon
  | comma
  | word (cs : List Char)
  | quoted (body : List Char)
deriving DecidableEq

namespace Lexeme

/-- The structural characters. -/
def ofMark? (c : Char) : Option Lexeme :=
  if c = '\x7b' then some openObject
  else if c = '\x7d' then some closeObject
  else if c = '[' then some openArray
  else if c = ']' then some closeArray
  else if c = ':' then some colon
  else if c = ',' then some comma
  else none

/-- Whether a character can be part of a bare word. -/
def isWordChar (c : Char) : Bool := !isSpace c && c != '"' && (ofMark? c).isNone

/-- How a lexeme is spelled. -/
def spelling : Lexeme → List Char
  | openObject => ['\x7b']
  | closeObject => ['\x7d']
  | openArray => ['[']
  | closeArray => [']']
  | colon => [':']
  | comma => [',']
  | word cs => cs
  | quoted body => '"' :: body ++ ['"']

/-- Where the scan of a text stands: outside of quotes, within them, or behind a
backslash within them, which takes the next character's meaning away. -/
inductive Place where
  | outside
  | within
  | escaped

/-- Puts a character in front of the quoted text that comes first. -/
def consQuoted (c : Char) : List Lexeme → List Lexeme
  | quoted body :: rest => quoted (c :: body) :: rest
  | lexemes => lexemes

/-- Puts a character in front of the bare word that comes first, or makes it a
word of its own when the text does not go on with one. -/
def consWord (c : Char) (goesOn : Bool) : List Lexeme → List Lexeme
  | word cs :: rest => if goesOn then word (c :: cs) :: rest else word [c] :: word cs :: rest
  | lexemes => word [c] :: lexemes

/-- Whether a text begins with a character of a bare word. -/
def startsWord : List Char → Bool
  | [] => false
  | c :: _ => isWordChar c

/-- The lexemes of a text, unless a quoted text in it is left open. -/
def scan : Place → List Char → Option (List Lexeme)
  | .outside, [] => some []
  | _, [] => none
  | .within, c :: cs =>
    if c = '"' then (scan .outside cs).map (quoted [] :: ·)
    else if c = '\\' then (scan .escaped cs).map (consQuoted c)
    else (scan .within cs).map (consQuoted c)
  | .escaped, c :: cs => (scan .within cs).map (consQuoted c)
  | .outside, c :: cs =>
    if isSpace c then scan .outside cs
    else if c = '"' then scan .within cs
    else match ofMark? c with
      | some mark => (scan .outside cs).map (mark :: ·)
      | none => (scan .outside cs).map (consWord c (startsWord cs))

/-- The lexemes of a whole text. -/
def ofChars? (cs : List Char) : Option (List Lexeme) := scan .outside cs

example : ofChars? ['[', '1', ',', ' ', '-', '2', ']'] =
    some [openArray, word ['1'], comma, word ['-', '2'], closeArray] := by decide

example : ofChars? ['"', '\\', '"', '"'] = some [quoted ['\\', '"']] := by decide

end Lexeme

end Dramatis.Json
