/-!
# Dramatis.Json.Quoted

The bodies of quoted texts: how a text is spelled between two quotation marks,
and what text a body spells.

Only what must be escaped is written as an escape: the quotation mark, the
backslash and the control characters, five of them by a letter and the others by
their code. Every escape of JSON is read. A character beyond the first plane may
be spelled as two codes, a high and a low surrogate; a surrogate without its
partner is a well-formed body that spells no text.
-/

namespace Dramatis.Json.Quoted

/-! ## Writing -/

/-- The hexadecimal digit of a number below sixteen, in lower case. -/
def hexDigit (n : Nat) : Char := if n < 10 then Char.ofNat (48 + n) else Char.ofNat (87 + n)

/-- The spelling of one character. -/
def encodeChar (c : Char) : List Char :=
  if c = '"' then ['\\', '"']
  else if c = '\\' then ['\\', '\\']
  else if c = '\x08' then ['\\', 'b']
  else if c = '\x0c' then ['\\', 'f']
  else if c = '\n' then ['\\', 'n']
  else if c = '\r' then ['\\', 'r']
  else if c = '\t' then ['\\', 't']
  else if c.toNat < 0x20 then
    ['\\', 'u', '0', '0', hexDigit (c.toNat / 16), hexDigit (c.toNat % 16)]
  else [c]

/-- The body that spells a text. -/
def encode (cs : List Char) : List Char := cs.flatMap encodeChar

/-! ## Reading -/

/-- A piece of a body: a character, or half of a surrogate pair, of which the ten
bits that it contributes are kept. -/
inductive Piece where
  | char (c : Char)
  | high (bits : Nat)
  | low (bits : Nat)
deriving DecidableEq

/-- The piece that a code of sixteen bits stands for. -/
def Piece.ofCode (n : Nat) : Piece :=
  if 0xD800 ≤ n && n < 0xDC00 then .high (n - 0xD800)
  else if 0xDC00 ≤ n && n < 0xE000 then .low (n - 0xDC00)
  else .char (Char.ofNat n)

/-- The value of a hexadecimal digit, in either case. -/
def hexValue? (c : Char) : Option Nat :=
  if '0' ≤ c ∧ c ≤ '9' then some (c.toNat - 48)
  else if 'a' ≤ c ∧ c ≤ 'f' then some (c.toNat - 87)
  else if 'A' ≤ c ∧ c ≤ 'F' then some (c.toNat - 55)
  else none

/-- The code that four hexadecimal digits spell. -/
def code? (a b c d : Char) : Option Nat := do
  return (((← hexValue? a) * 16 + (← hexValue? b)) * 16 + (← hexValue? c)) * 16 + (← hexValue? d)

/-- The character that a letter behind a backslash stands for. -/
def escaped? (c : Char) : Option Char :=
  if c = '"' then some '"'
  else if c = '\\' then some '\\'
  else if c = '/' then some '/'
  else if c = 'b' then some '\x08'
  else if c = 'f' then some '\x0c'
  else if c = 'n' then some '\n'
  else if c = 'r' then some '\r'
  else if c = 't' then some '\t'
  else none

/-- The pieces of a body, unless it holds a false escape or a character that must
be escaped. -/
def pieces? : List Char → Option (List Piece)
  | [] => some []
  | '\\' :: 'u' :: a :: b :: c :: d :: rest => do
    return Piece.ofCode (← code? a b c d) :: (← pieces? rest)
  | '\\' :: c :: rest => do
    return Piece.char (← escaped? c) :: (← pieces? rest)
  | c :: rest => do
    if c.toNat < 0x20 || c = '"' || c = '\\' then none
    else return Piece.char c :: (← pieces? rest)

/-- Whether a body is one that JSON allows. -/
def isWellFormed (body : List Char) : Bool := (pieces? body).isSome

/-- The text of a row of pieces, unless a surrogate lacks its partner. -/
def join? : List Piece → Option (List Char)
  | [] => some []
  | .char c :: rest => (join? rest).map (c :: ·)
  | .high h :: .low l :: rest =>
    (join? rest).map (Char.ofNat (0x10000 + h * 0x400 + l) :: ·)
  | _ => none

/-- The text that a body spells. -/
def decode? (body : List Char) : Option (List Char) := do join? (← pieces? body)

example : decode? (encode ['"', '\x01', 'é']) = some ['"', '\x01', 'é'] := by decide

/-- A surrogate pair spells one character. -/
example : decode? ['\\', 'u', 'D', '8', '3', 'D', '\\', 'u', 'd', 'e', '0', '0'] = some ['😀'] := by
  decide

/-- Half of one spells none, though JSON allows it. -/
example : isWellFormed ['\\', 'u', 'd', '8', '3', 'd'] ∧
    decode? ['\\', 'u', 'd', '8', '3', 'd'] = none := by decide

end Dramatis.Json.Quoted
