import Dramatis.Proofs.Text.CodePoint
import Dramatis.Text.Decimal
import Mathlib.Data.List.Induction

/-!
# Dramatis.Proofs.Text.Decimal

Numbers are read as they are written, and only so.  The digits of a number are a numeral in
the strict sense, with a zero in front only for zero itself, and their value is the number; and
every numeral is the digits of its value.
-/

namespace Dramatis

namespace Text.Decimal

/-- Every number has a digit, zero included. -/
theorem digits_ne_nil (n : Nat) : digits n ≠ [] := Nat.toDigits_ne_nil

/-- A number is written in digits alone. -/
theorem isDigit_of_mem_digits {n : Nat} {c : Char} (h : c ∈ digits n) : c.isDigit = true :=
  Nat.isDigit_of_mem_toDigits (by decide) (by decide) h

/-- The digits of a number have its value. -/
@[simp] theorem value_digits (n : Nat) : value (digits n) = n := Nat.ofDigitChars_ten_toDigits

/-- Only the number zero has a zero in front. -/
theorem head?_digits_ne_zero {n : Nat} (hn : 0 < n) : (digits n).head? ≠ some '0' := by
  induction n using Nat.base_induction 10 (by decide) with
  | single d hd =>
      rw [digits, Nat.toDigits_of_lt_base hd]
      have hall : ∀ d < 10, 0 < d → [d.digitChar].head? ≠ some '0' := by decide
      exact hall d hd hn
  | digit m d hd hm ih =>
      rw [digits, ← Nat.toDigits_append_toDigits (by decide) hm hd, List.head?_append]
      obtain ⟨c, cs, hdigits⟩ := List.exists_cons_of_ne_nil (digits_ne_nil m)
      have hhead := ih hm
      rw [hdigits] at hhead
      rw [digits] at hdigits
      rw [hdigits]
      exact hhead

/-- Digits with something else than a zero in front are a numeral. -/
theorem isNumeral_cons {c : Char} {cs : List Char} (hc : c ≠ '0')
    (hdigits : ∀ d ∈ c :: cs, d.isDigit = true) : isNumeral (c :: cs) = true := by
  rw [isNumeral, Bool.and_eq_true, bne_iff_ne, List.all_eq_true]
  · exact ⟨hc, hdigits⟩
  · rintro rfl
    contradiction

/-- The digits of a number are a numeral. -/
theorem isNumeral_digits (n : Nat) : isNumeral (digits n) = true := by
  cases n with
  | zero => rfl
  | succ n =>
      obtain ⟨c, cs, hdigits⟩ := List.exists_cons_of_ne_nil (digits_ne_nil (n + 1))
      have hhead := head?_digits_ne_zero n.succ_pos
      rw [hdigits] at hhead ⊢
      refine isNumeral_cons (by simpa using hhead) fun d hd => ?_
      exact isDigit_of_mem_digits (n := n + 1) (hdigits ▸ hd)

/-- A number is read back from its digits. -/
@[simp] theorem read?_digits (n : Nat) : read? (digits n) = some n := by
  rw [read?, if_pos (isNumeral_digits n), value_digits]

theorem value_concat (cs : List Char) (d : Char) :
    value (cs ++ [d]) = 10 * value cs + (d.toNat - '0'.toNat) := by
  simp [value]

/-- A digit is the spelling of its value. -/
theorem digits_of_isDigit {d : Char} (h : d.isDigit = true) :
    d.toNat - '0'.toNat < 10 ∧ digits (d.toNat - '0'.toNat) = [d] := by
  have hlt : d.toNat < 58 := by
    simp only [Char.isDigit, Bool.and_eq_true, decide_eq_true_eq] at h
    exact Nat.lt_of_le_of_lt h.2 (by decide)
  have hall : d.isDigit = true → d.toNat - '0'.toNat < 10 ∧ digits (d.toNat - '0'.toNat) = [d] :=
    forall_char_lt d hlt (by decide)
  exact hall h

/-- Digits with no zero in front are the digits of their value.  The induction is on the digits
from the last one: the others are those of a tenth. -/
theorem digits_value_cons {c : Char} {cs : List Char} (hc : c ≠ '0')
    (hdigits : ∀ d ∈ c :: cs, d.isDigit = true) :
    0 < value (c :: cs) ∧ digits (value (c :: cs)) = c :: cs := by
  induction cs using List.reverseRecOn with
  | nil =>
      obtain ⟨-, hdigit⟩ := digits_of_isDigit (hdigits c List.mem_cons_self)
      have hvalue : value [c] = c.toNat - '0'.toNat := Nat.zero_add _
      rw [hvalue]
      refine ⟨Nat.pos_of_ne_zero fun hzero => hc ?_, hdigit⟩
      rw [hzero] at hdigit
      exact (List.singleton_inj.1 hdigit).symm
  | append_singleton cs d ih =>
      rw [← List.cons_append, List.forall_mem_append] at hdigits
      obtain ⟨hpos, hfront⟩ := ih hdigits.1
      obtain ⟨hlt, hdigit⟩ := digits_of_isDigit (hdigits.2 d List.mem_cons_self)
      rw [← List.cons_append, value_concat]
      refine ⟨by omega, ?_⟩
      rw [digits, ← Nat.toDigits_append_toDigits (by decide) hpos hlt, ← digits, ← digits, hfront,
        hdigit]

/-- A numeral is the only spelling of its value. -/
theorem read?_eq_some_iff {cs : List Char} {n : Nat} : read? cs = some n ↔ cs = digits n := by
  constructor
  · intro h
    obtain ⟨hnumeral, hvalue⟩ := Option.ite_none_right_eq_some.1 h
    obtain rfl := Option.some.inj hvalue
    unfold isNumeral at hnumeral
    split at hnumeral
    case h_1 => contradiction
    case h_2 => rfl
    case h_3 c cs _ =>
      rw [Bool.and_eq_true, bne_iff_ne, List.all_eq_true] at hnumeral
      exact (digits_value_cons hnumeral.1 hnumeral.2).2.symm
  · rintro rfl
    exact read?_digits n

end Text.Decimal

end Dramatis
