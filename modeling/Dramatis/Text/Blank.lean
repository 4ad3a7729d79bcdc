/-!
# Dramatis.Text.Blank

The characters that separate the words of a name: the Unicode property
`White_Space`. It is wider than the white space of `Char.isWhitespace` (which
holds four characters) and than the white space of JSON text.

The property is kept as its ten ranges of code points, so membership is a
comparison of numbers and can be evaluated by the kernel.
-/

namespace Dramatis.Text

/-- The ranges of code points with the property `White_Space`, ascending. -/
def blankRanges : List (Nat × Nat) :=
  [(0x9, 0xD), (0x20, 0x20), (0x85, 0x85), (0xA0, 0xA0), (0x1680, 0x1680), (0x2000, 0x200A),
   (0x2028, 0x2029), (0x202F, 0x202F), (0x205F, 0x205F), (0x3000, 0x3000)]

/-- Whether a character separates words. -/
def isBlank (c : Char) : Bool :=
  blankRanges.any fun (first, last) => first ≤ c.toNat && c.toNat ≤ last

/-- Whether a text holds nothing but blanks, the empty text included. -/
def isBlankText (text : String) : Bool := text.toList.all isBlank

/-- The property holds of twenty-five code points. -/
example : (blankRanges.map fun (first, last) => last - first + 1).sum = 25 := by decide

end Dramatis.Text
