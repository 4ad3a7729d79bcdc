import Dramatis.Json.Numeral
import Dramatis.Proofs.Text.Decimal
import Mathlib.Data.List.TakeWhile

/-!
# Dramatis.Proofs.Json.Numeral

The numbers of JSON text are those of the grammar.  The reader passes over one part after another,
each up to the first character that cannot belong to it, and the next part begins with just such a
character, so every number of the grammar is passed over to its end; and what is passed over is a
part of the grammar.  A number of digits alone is a plain integer.
-/

namespace Dramatis.Json.Numeral

/-! ## The grammar of numbers -/

/-- One digit or more. -/
def AreDigits (cs : List Char) : Prop := cs ≠ [] ∧ ∀ c ∈ cs, c.isDigit = true

/-- A point with digits behind it, or nothing. -/
inductive IsFraction : List Char → Prop
  | absent : IsFraction []
  | present {digits : List Char} (h : AreDigits digits) : IsFraction ('.' :: digits)

/-- A letter with digits behind it, between which there may be a sign, or nothing. -/
inductive IsExponent : List Char → Prop
  | absent : IsExponent []
  | present {letter : Char} {sign digits : List Char} (hletter : letter = 'e' ∨ letter = 'E')
      (hsign : sign = [] ∨ sign = ['+'] ∨ sign = ['-']) (h : AreDigits digits) :
      IsExponent (letter :: (sign ++ digits))

/-- The numbers of JSON text: a minus sign or none, an integer without a zero in front that could be
left out, then a fraction or none and an exponent or none. -/
inductive IsToken : List Char → Prop
  | mk {minus integer fraction exponent : List Char} (hminus : minus = [] ∨ minus = ['-'])
      (hinteger : Text.Decimal.isNumeral integer = true) (hfraction : IsFraction fraction)
      (hexponent : IsExponent exponent) : IsToken (minus ++ (integer ++ (fraction ++ exponent)))

/-! ## Numbers are passed over -/

/-- Whether a text goes on with a digit. -/
def startsDigit (cs : List Char) : Bool := cs.head?.any Char.isDigit

variable {digits rest : List Char}

/-- Behind digits comes what does not begin with one. -/
theorem dropWhile_isDigit_append (h : ∀ c ∈ digits, c.isDigit = true)
    (hrest : startsDigit rest = false) : (digits ++ rest).dropWhile Char.isDigit = rest := by
  rw [List.dropWhile_append_of_pos h]
  cases rest with
  | nil => rfl
  | cons c rest => exact List.dropWhile_cons_of_neg (by simpa [startsDigit] using hrest)

/-- All the digits are taken, up to what does not begin with one. -/
theorem afterDigits?_append (h : AreDigits digits) (hrest : startsDigit rest = false) :
    afterDigits? (digits ++ rest) = some rest := by
  obtain ⟨hne, hdigits⟩ := h
  obtain ⟨c, cs, rfl⟩ := List.exists_cons_of_ne_nil hne
  obtain ⟨hc, hcs⟩ := List.forall_mem_cons.1 hdigits
  rw [List.cons_append, afterDigits?, if_pos hc, dropWhile_isDigit_append hcs hrest]

/-- A sign in front of digits is taken, if there is one. -/
theorem afterSign_append {sign : List Char} (hsign : sign = [] ∨ sign = ['+'] ∨ sign = ['-'])
    (h : AreDigits digits) : afterSign (sign ++ digits) = digits := by
  obtain rfl | rfl | rfl := hsign
  · obtain ⟨hne, hdigits⟩ := h
    obtain ⟨c, cs, rfl⟩ := List.exists_cons_of_ne_nil hne
    have hc : c.isDigit = true := hdigits c List.mem_cons_self
    rw [List.nil_append, afterSign]
    all_goals
      intro ds heq
      obtain ⟨rfl, -⟩ := List.cons.inj heq
      contradiction
  · rfl
  · rfl

/-- An exponent is taken as a whole. -/
theorem IsExponent.afterExponent?_eq {exponent : List Char} (h : IsExponent exponent) :
    afterExponent? exponent = some [] := by
  cases h with
  | absent => rfl
  | present hletter hsign h =>
      have hend : afterDigits? (_ ++ []) = some [] := afterDigits?_append h rfl
      rw [List.append_nil] at hend
      obtain rfl | rfl := hletter <;> rw [afterExponent?, afterSign_append hsign h, hend]

/-- An exponent does not go on from the digits before it. -/
theorem IsExponent.startsDigit_eq {exponent : List Char} (h : IsExponent exponent) :
    startsDigit exponent = false := by
  cases h with
  | absent => rfl
  | present hletter hsign h => obtain rfl | rfl := hletter <;> rfl

/-- A fraction is taken as a whole, and the exponent is left. -/
theorem IsFraction.afterFraction?_eq {fraction exponent : List Char} (h : IsFraction fraction)
    (hexponent : IsExponent exponent) : afterFraction? (fraction ++ exponent) = some exponent := by
  cases h with
  | absent =>
      cases hexponent with
      | absent => rfl
      | present hletter hsign h => obtain rfl | rfl := hletter <;> rfl
  | present h => exact afterDigits?_append h hexponent.startsDigit_eq

/-- A fraction does not go on from the digits before it. -/
theorem IsFraction.startsDigit_eq {fraction exponent : List Char} (h : IsFraction fraction)
    (hexponent : IsExponent exponent) : startsDigit (fraction ++ exponent) = false := by
  cases h with
  | absent => exact hexponent.startsDigit_eq
  | present h => rfl

/-- A digit is no minus sign. -/
theorem afterMinus_of_isDigit {c : Char} (h : c.isDigit = true) (cs : List Char) :
    afterMinus (c :: cs) = c :: cs := by
  rw [afterMinus]
  intro ds heq
  obtain ⟨rfl, -⟩ := List.cons.inj heq
  contradiction

/-- An integer is taken as a whole. -/
theorem afterInteger?_append {integer : List Char} (h : Text.Decimal.isNumeral integer = true)
    (hrest : startsDigit rest = false) : afterInteger? (integer ++ rest) = some rest := by
  unfold Text.Decimal.isNumeral at h
  split at h
  case h_1 => contradiction
  case h_2 => rfl
  case h_3 c cs _ =>
    rw [Bool.and_eq_true, bne_iff_ne, List.all_eq_true] at h
    obtain ⟨hc, hdigits⟩ := h
    rw [List.cons_append, afterInteger?, ← List.cons_append]
    · exact afterDigits?_append ⟨List.cons_ne_nil c cs, hdigits⟩ hrest
    · exact fun ds heq => hc (List.cons.inj heq).1

/-- An integer is made of digits. -/
theorem areDigits_of_isNumeral {integer : List Char} (h : Text.Decimal.isNumeral integer = true) :
    AreDigits integer := by
  unfold Text.Decimal.isNumeral at h
  split at h
  case h_1 => contradiction
  case h_2 => exact ⟨by simp, by simp⟩
  case h_3 c cs _ =>
    rw [Bool.and_eq_true, List.all_eq_true] at h
    exact ⟨List.cons_ne_nil c cs, h.2⟩

/-- What the grammar says is a number is read as one. -/
theorem IsToken.isNumeral {cs : List Char} (h : IsToken cs) : isNumeral cs = true := by
  cases h with
  | @mk minus integer fraction exponent hminus hinteger hfraction hexponent =>
      have hsigned : afterMinus (minus ++ (integer ++ (fraction ++ exponent))) =
          integer ++ (fraction ++ exponent) := by
        obtain rfl | rfl := hminus
        · obtain ⟨hne, hdigits⟩ := areDigits_of_isNumeral hinteger
          obtain ⟨c, cs, rfl⟩ := List.exists_cons_of_ne_nil hne
          exact afterMinus_of_isDigit (hdigits c List.mem_cons_self) _
        · rfl
      have hrest := afterInteger?_append hinteger (hfraction.startsDigit_eq hexponent)
      rw [Numeral.isNumeral, hsigned, hrest]
      simp [hfraction.afterFraction?_eq hexponent, hexponent.afterExponent?_eq]

/-! ## Nothing else is passed over -/

section

variable {cs : List Char}

/-- What is taken for digits is digits. -/
theorem exists_of_afterDigits? (h : afterDigits? cs = some rest) :
    ∃ digits, AreDigits digits ∧ cs = digits ++ rest := by
  cases cs with
  | nil => contradiction
  | cons c cs =>
      obtain ⟨hc, hrest⟩ := Option.ite_none_right_eq_some.1 h
      obtain rfl := Option.some.inj hrest
      refine ⟨c :: cs.takeWhile Char.isDigit, ⟨List.cons_ne_nil _ _, ?_⟩, ?_⟩
      · exact List.forall_mem_cons.2 ⟨hc, fun d hd => List.mem_takeWhile_imp hd⟩
      · rw [List.cons_append, List.takeWhile_append_dropWhile]

/-- What is taken for a minus sign is one, or nothing. -/
theorem exists_afterMinus (cs : List Char) :
    ∃ minus, (minus = [] ∨ minus = ['-']) ∧ cs = minus ++ afterMinus cs := by
  unfold afterMinus
  split
  · exact ⟨['-'], .inr rfl, rfl⟩
  · exact ⟨[], .inl rfl, rfl⟩

/-- What is taken for a sign is one, or nothing. -/
theorem exists_afterSign (cs : List Char) :
    ∃ sign, (sign = [] ∨ sign = ['+'] ∨ sign = ['-']) ∧ cs = sign ++ afterSign cs := by
  unfold afterSign
  split
  · exact ⟨['+'], .inr (.inl rfl), rfl⟩
  · exact ⟨['-'], .inr (.inr rfl), rfl⟩
  · exact ⟨[], .inl rfl, rfl⟩

/-- What is taken for an integer has no zero in front that could be left out. -/
theorem exists_of_afterInteger? (h : afterInteger? cs = some rest) :
    ∃ integer, Text.Decimal.isNumeral integer = true ∧ cs = integer ++ rest := by
  unfold afterInteger? at h
  split at h
  · obtain rfl := Option.some.inj h
    exact ⟨['0'], rfl, rfl⟩
  · next hzero =>
    obtain ⟨digits, ⟨hne, hdigits⟩, rfl⟩ := exists_of_afterDigits? h
    obtain ⟨c, digits, rfl⟩ := List.exists_cons_of_ne_nil hne
    refine ⟨c :: digits, Text.Decimal.isNumeral_cons ?_ hdigits, rfl⟩
    rintro rfl
    exact hzero (digits ++ rest) rfl

/-- What is taken for a fraction is one, or nothing. -/
theorem exists_of_afterFraction? (h : afterFraction? cs = some rest) :
    ∃ fraction, IsFraction fraction ∧ cs = fraction ++ rest := by
  unfold afterFraction? at h
  split at h
  · obtain ⟨digits, hdigits, rfl⟩ := exists_of_afterDigits? h
    exact ⟨'.' :: digits, .present hdigits, rfl⟩
  · obtain rfl := Option.some.inj h
    exact ⟨[], .absent, rfl⟩

/-- What is taken for an exponent is one, or nothing. -/
theorem exists_of_afterExponent? (h : afterExponent? cs = some rest) :
    ∃ exponent, IsExponent exponent ∧ cs = exponent ++ rest := by
  have hpower {letter : Char} {cs : List Char} (hletter : letter = 'e' ∨ letter = 'E')
      (h : afterDigits? (afterSign cs) = some rest) :
      ∃ exponent, IsExponent exponent ∧ letter :: cs = exponent ++ rest := by
    obtain ⟨sign, hsign, hcs⟩ := exists_afterSign cs
    obtain ⟨digits, hdigits, hafter⟩ := exists_of_afterDigits? h
    refine ⟨letter :: (sign ++ digits), .present hletter hsign hdigits, ?_⟩
    rw [hcs, hafter, List.cons_append, List.append_assoc]
  unfold afterExponent? at h
  split at h
  · exact hpower (.inl rfl) h
  · exact hpower (.inr rfl) h
  · obtain rfl := Option.some.inj h
    exact ⟨[], .absent, rfl⟩

end

/-- The words that are read as numbers are the numbers of the grammar. -/
theorem isNumeral_iff {cs : List Char} : isNumeral cs = true ↔ IsToken cs := by
  refine ⟨fun h => ?_, IsToken.isNumeral⟩
  rw [isNumeral, beq_iff_eq] at h
  obtain ⟨_, h, hafterFraction⟩ := Option.bind_eq_some_iff.1 h
  obtain ⟨_, hafterMinus, hafterInteger⟩ := Option.bind_eq_some_iff.1 h
  obtain ⟨minus, hminus, hcs⟩ := exists_afterMinus cs
  obtain ⟨integer, hinteger, hsigned⟩ := exists_of_afterInteger? hafterMinus
  obtain ⟨fraction, hfraction, rfl⟩ := exists_of_afterFraction? hafterInteger
  obtain ⟨exponent, hexponent, rfl⟩ := exists_of_afterExponent? hafterFraction
  rw [hcs, hsigned, List.append_nil]
  exact .mk hminus hinteger hfraction hexponent

/-! ## What numbers are spelled with -/

/-- Whether a character can occur in a number. -/
def isPart (c : Char) : Bool := c.isDigit || c ∈ ['-', '+', '.', 'e', 'E']

/-- A number is made of the characters of numbers. -/
theorem IsToken.isPart {cs : List Char} (h : IsToken cs) : ∀ c ∈ cs, isPart c = true := by
  have hdigits {digits : List Char} (h : AreDigits digits) :
      ∀ c ∈ digits, Numeral.isPart c = true :=
    fun c hc => by simp [Numeral.isPart, h.2 c hc]
  cases h with
  | mk hminus hinteger hfraction hexponent =>
      simp only [List.forall_mem_append]
      refine ⟨?_, hdigits (areDigits_of_isNumeral hinteger), ?_, ?_⟩
      · obtain rfl | rfl := hminus <;> exact List.all_eq_true.1 rfl
      · cases hfraction with
        | absent => exact List.forall_mem_nil _
        | present h => exact List.forall_mem_cons.2 ⟨rfl, hdigits h⟩
      · cases hexponent with
        | absent => exact List.forall_mem_nil _
        | present hletter hsign h =>
            refine List.forall_mem_cons.2 ⟨?_, List.forall_mem_append.2 ⟨?_, hdigits h⟩⟩
            · obtain rfl | rfl := hletter <;> rfl
            · obtain rfl | rfl | rfl := hsign <;> exact List.all_eq_true.1 rfl

/-- A number has an integer, and so is not empty. -/
theorem IsToken.ne_nil {cs : List Char} (h : IsToken cs) : cs ≠ [] := by
  rintro rfl
  exact absurd h.isNumeral (by decide)

/-- A number of digits alone has no other part. -/
theorem IsToken.isNumeral_decimal {cs : List Char} (h : IsToken cs)
    (hdigits : ∀ c ∈ cs, c.isDigit = true) : Text.Decimal.isNumeral cs = true := by
  cases h with
  | mk hminus hinteger hfraction hexponent =>
      simp only [List.forall_mem_append] at hdigits
      obtain ⟨hminusDigits, -, hfractionDigits, hexponentDigits⟩ := hdigits
      obtain rfl | rfl := hminus
      · cases hfraction with
        | absent =>
            cases hexponent with
            | absent => simpa using hinteger
            | present hletter =>
                have hletterDigit := hexponentDigits _ List.mem_cons_self
                obtain rfl | rfl := hletter <;> exact absurd hletterDigit (by decide)
        | present => exact absurd (hfractionDigits _ List.mem_cons_self) (by decide)
      · exact absurd (hminusDigits _ List.mem_cons_self) (by decide)

/-- A numeral without sign, fraction and exponent is a number. -/
theorem isToken_of_decimal {cs : List Char} (h : Text.Decimal.isNumeral cs = true) :
    IsToken cs := by
  simpa using IsToken.mk (.inl rfl) h .absent .absent

end Dramatis.Json.Numeral
