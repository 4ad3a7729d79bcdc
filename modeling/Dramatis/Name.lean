import Dramatis.Text.Blank
import Dramatis.Text.Casing

/-!
# Dramatis.Name

The normal form of a character's name: its words separated by single spaces,
each one capitalized, so that `"  the   GHOST of hamlet "` and `"The Ghost Of
Hamlet"` are the same name.

Capitalizing can lengthen a word, because a letter may have a capital of several
characters: `ßa` becomes `SSa`, which would become `Ssa` when normalized again.
A normal form is therefore not always its own normal form, and callers have to
say how often they normalize.
-/

namespace Dramatis.Name

open Text

/-- Whether a text ends here or goes on with a blank, so that a word before it
is complete. -/
def atWordEnd : List Char → Bool
  | [] => true
  | c :: _ => isBlank c

/-- The words of a text: its longest stretches without a blank, in order. -/
def words : List Char → List (List Char)
  | [] => []
  | c :: cs =>
    if isBlank c then words cs
    else if atWordEnd cs then [c] :: words cs
    else (words cs).modifyHead (c :: ·)

/-- A word in upper case at its first character and in lower case elsewhere. -/
def capitalize : List Char → List Char
  | [] => []
  | c :: cs => upper c ++ cs.flatMap lower

/-- The capitalized words of a text, joined by single spaces. -/
def normalizeChars (cs : List Char) : List Char :=
  [' '].intercalate ((words cs).map capitalize)

/-- The normal form of a name. -/
def normalize (name : String) : String := String.ofList (normalizeChars name.toList)

example : normalizeChars [' ', 't', 'h', 'e', ' ', '\t', 'G', 'H', 'O', 'S', 'T'] =
    ['T', 'h', 'e', ' ', 'G', 'h', 'o', 's', 't'] := by decide

/-- Normalizing once need not be enough. -/
example : normalizeChars ['ß', 'a'] = ['S', 'S', 'a'] ∧
    normalizeChars ['S', 'S', 'a'] = ['S', 's', 'a'] := by decide

end Dramatis.Name
