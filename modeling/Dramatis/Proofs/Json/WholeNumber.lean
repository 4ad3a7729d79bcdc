import Dramatis.Proofs.Json.Format
import Dramatis.Proofs.Json.Numeral
import Mathlib.Algebra.Group.Nat.Defs

/-!
# Dramatis.Proofs.Json.WholeNumber

The numbers of a location are read exactly.  Of the numbers that JSON allows a field of sixty-four
bits takes those that are spelled by digits alone and are below its bound, and it holds what they
say: there is one spelling of each number, so nothing is wrapped, rounded or cut off.
-/

namespace Dramatis

namespace Json

/-- A number that a field of sixty-four bits can hold: digits alone, of a value below the bound. -/
def IsWhole (token : List Char) : Prop :=
  (∀ c ∈ token, c.isDigit = true) ∧ Text.Decimal.value token < 2 ^ 64

variable {token : List Char}

/-- A field of sixty-four bits takes a number in its decimal digits, and in no other spelling. -/
theorem isNumber_iff {n : UInt64} :
    IsNumber (.number token) n ↔ token = Text.Decimal.digits n.toNat := by
  constructor
  · rintro ⟨n⟩
    rfl
  · rintro rfl
    exact ⟨n⟩

/-- Nothing is wrapped or cut off: a field holds the value of the digits. -/
theorem IsNumber.toNat_eq {n : UInt64} (h : IsNumber (.number token) n) :
    n.toNat = Text.Decimal.value token := by
  rw [isNumber_iff.1 h, Text.Decimal.value_digits]

/-- Digits alone are the digits of their value, since no number of JSON has a superfluous zero in
front. -/
theorem exists_isNumber_iff (h : Numeral.IsToken token) :
    (∃ n, IsNumber (.number token) n) ↔ IsWhole token := by
  constructor
  · rintro ⟨n, hn⟩
    refine ⟨fun c hc => ?_, hn.toNat_eq ▸ n.toNat_lt⟩
    rw [isNumber_iff.1 hn] at hc
    exact Text.Decimal.isDigit_of_mem_digits hc
  · rintro ⟨hdigits, hlt⟩
    have hnumeral := h.isNumeral_decimal hdigits
    have hread : Text.Decimal.read? token = some (Text.Decimal.value token) := if_pos hnumeral
    refine ⟨.ofNat (Text.Decimal.value token), isNumber_iff.2 ?_⟩
    rw [UInt64.toNat_ofNat_of_lt' hlt]
    exact Text.Decimal.read?_eq_some_iff.1 hread

end Json

open Json

namespace Location

/-- A location, in either form and any layout, whose numbers are given by tokens. -/
def IsGivenBy (offset line column : List Char) (json : Json) : Prop :=
  format.left.IsRecord (.number offset) (.number line) (.number column) json

/-- A location holds just the values of tokens. -/
structure Holds (location : Location) (offset line column : List Char) : Prop where
  offset_eq : location.offset.toNat = Text.Decimal.value offset
  line_eq : location.line.toNat = Text.Decimal.value line
  column_eq : location.column.toNat = Text.Decimal.value column

variable {offset line column : List Char} {json : Json}

/-- A location given by three tokens is not missing. -/
theorem IsGivenBy.ne_null (h : IsGivenBy offset line column json) : json ≠ .null :=
  Format.IsRecord.ne_null h

/-- A location is what its three tokens stand for. -/
theorem IsGivenBy.isRecord_iff (h : IsGivenBy offset line column json) {location : Location} :
    IsRecord json location ↔ IsNumber (.number offset) location.offset ∧
      IsNumber (.number line) location.line ∧ IsNumber (.number column) location.column :=
  Format.isRecord_iff_of_left h

/-- A location that is read holds the values of its tokens. -/
theorem IsGivenBy.holds (h : IsGivenBy offset line column json) {location : Location}
    (hrecord : IsRecord json location) : location.Holds offset line column := by
  obtain ⟨hoffset, hline, hcolumn⟩ := h.isRecord_iff.1 hrecord
  exact ⟨hoffset.toNat_eq, hline.toNat_eq, hcolumn.toNat_eq⟩

/-- A location is read exactly if each token is a whole number within the bound. -/
theorem IsGivenBy.exists_isRecord_iff (h : IsGivenBy offset line column json)
    (hoffset : Numeral.IsToken offset) (hline : Numeral.IsToken line)
    (hcolumn : Numeral.IsToken column) :
    (∃ location, IsRecord json location) ↔ IsWhole offset ∧ IsWhole line ∧ IsWhole column := by
  rw [← exists_isNumber_iff hoffset, ← exists_isNumber_iff hline, ← exists_isNumber_iff hcolumn]
  constructor
  · rintro ⟨location, hrecord⟩
    obtain ⟨hone, htwo, hthree⟩ := h.isRecord_iff.1 hrecord
    exact ⟨⟨_, hone⟩, ⟨_, htwo⟩, ⟨_, hthree⟩⟩
  · rintro ⟨⟨a, ha⟩, ⟨b, hb⟩, ⟨c, hc⟩⟩
    exact ⟨⟨a, b, c⟩, h.isRecord_iff.2 ⟨ha, hb, hc⟩⟩

end Location

namespace Persona

/-- A persona, in either form and any layout, whose location is given by a value. -/
def IsPlacedAt (name : String) (description : Option String) (place json : Json) : Prop :=
  format.thirdLeft.IsRecord name description place json

variable {name : String} {description : Option String} {place json : Json}

/-- A persona is read with its place, which is read as a location. -/
theorem IsPlacedAt.isRecord_iff (h : IsPlacedAt name description place json) {persona : Persona} :
    IsRecord json persona ↔ IsPlacedAt persona.name persona.description place json ∧
      IsNullable Location.IsRecord place persona.location :=
  Format.isRecord_iff_of_thirdLeft h

end Persona

/-- The numbers of a location are read exactly, whatever its form and layout, and also within a
persona. -/
theorem numbers_read_exactly {offset line column : List Char} {place : Json}
    (hplace : Location.IsGivenBy offset line column place) (hoffset : Numeral.IsToken offset)
    (hline : Numeral.IsToken line) (hcolumn : Numeral.IsToken column) :
    (∀ {text : String}, Spells text place →
      ((∃ location, Location.read? text = some location) ↔
        IsWhole offset ∧ IsWhole line ∧ IsWhole column) ∧
      ∀ location, Location.read? text = some location → location.Holds offset line column) ∧
    ∀ {name : String} {description : Option String} {json : Json} {text : String},
      Persona.IsPlacedAt name description place json → Spells text json →
      ((∃ persona, Persona.read? text = some persona) ↔
        IsWhole offset ∧ IsWhole line ∧ IsWhole column) ∧
      ∀ persona, Persona.read? text = some persona →
        ∃ location, persona.location = some location ∧ location.Holds offset line column := by
  have hplaced := hplace.exists_isRecord_iff hoffset hline hcolumn
  constructor
  · intro text htext
    simp only [Location.read?_eq_some_iff htext]
    exact ⟨hplaced, fun location => hplace.holds⟩
  · intro name description json text hjson htext
    simp only [Persona.read?_eq_some_iff htext, hjson.isRecord_iff, ← hplaced]
    refine ⟨⟨?_, ?_⟩, ?_⟩
    · rintro ⟨persona, -, hlocation⟩
      obtain ⟨location, -, hrecord⟩ := hlocation.exists_eq_some hplace.ne_null
      exact ⟨location, hrecord⟩
    · rintro ⟨location, hrecord⟩
      exact ⟨⟨name, description, some location⟩, hjson, .given hrecord⟩
    · rintro persona ⟨-, hlocation⟩
      obtain ⟨location, hsome, hrecord⟩ := hlocation.exists_eq_some hplace.ne_null
      exact ⟨location, hsome, hplace.holds hrecord⟩

/-- The largest number is read, and the next one is not; nor is a number that is whole but not
spelled so. -/
theorem numbers_at_bound_read :
    (∃ location, Location.read? "[18446744073709551615,0,1]" = some location) ∧
    (¬ ∃ location, Location.read? "[18446744073709551616,0,1]" = some location) ∧
    ¬ ∃ persona, Persona.read? "[\"A\",null,[1e2,0,1]]" = some persona := by
  have hzero : Numeral.IsToken ['0'] := Numeral.isNumeral_iff.1 rfl
  have hone : Numeral.IsToken ['1'] := Numeral.isNumeral_iff.1 rfl
  have hplace (offset : List Char) : Location.IsGivenBy offset ['0'] ['1']
    (.array [.number offset, .number ['0'], .number ['1']]) := .inr (.mk rfl rfl rfl)
  have hpower : Numeral.IsToken ['1', 'e', '2'] := Numeral.isNumeral_iff.1 rfl
  have hlast : Numeral.IsToken "18446744073709551615".toList := Numeral.isNumeral_iff.1 rfl
  have hnext : Numeral.IsToken "18446744073709551616".toList := Numeral.isNumeral_iff.1 rfl
  have hplaced (place : Json) :
    Persona.IsPlacedAt "A" none place (.array [.string ['A'], .null, place]) :=
    .inr (.mk ((decides_string _ _).1 rfl) .null rfl)
  refine ⟨?_, ?_, ?_⟩
  · refine ((numbers_read_exactly (hplace _) hlast hzero hone).1 (parse?_eq_some_iff.1 rfl)).1.2 ?_
    exact ⟨⟨List.all_eq_true.1 rfl, by decide⟩, ⟨List.all_eq_true.1 rfl, by decide⟩,
      ⟨List.all_eq_true.1 rfl, by decide⟩⟩
  · intro haccepted
    have hwhole := ((numbers_read_exactly (hplace _) hnext hzero hone).1
      (parse?_eq_some_iff.1 rfl)).1.1 haccepted
    exact absurd hwhole.1.2 (by decide)
  · intro haccepted
    have hwhole := ((numbers_read_exactly (hplace _) hpower hzero hone).2 (hplaced _)
      (parse?_eq_some_iff.1 rfl)).1.1 haccepted
    exact absurd (hwhole.1.1 'e' (by decide)) (by decide)

end Dramatis
