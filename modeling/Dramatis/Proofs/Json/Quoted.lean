import Dramatis.Json.Quoted
import Dramatis.Proofs.Text.CodePoint
import Mathlib.Tactic.SplitIfs

/-!
# Dramatis.Proofs.Json.Quoted

Quoted texts are read as they are written.  What a body is made of is said twice: by
the reader, and by a relation with a rule for each kind of piece, which is what the
writer is checked against.  Every character is written as one piece that stands for this
character alone, so the pieces of a written text are its characters, and joining them
gives the text back; no surrogates are written.
-/

namespace Dramatis.Json.Quoted

/-! ## Bodies by their pieces -/

/-- Whether a character stands for itself in a body. -/
def isPlain (c : Char) : Bool := !(c.toNat < 0x20 || c = '"' || c = '\\')

/-- A body and the pieces that it is made of. -/
inductive IsMadeOf : List Char → List Piece → Prop
  | nil : IsMadeOf [] []
  | plain {c : Char} {rest : List Char} {pieces : List Piece} (h : isPlain c = true)
      (hrest : IsMadeOf rest pieces) : IsMadeOf (c :: rest) (.char c :: pieces)
  | escape {c d : Char} {rest : List Char} {pieces : List Piece} (h : escaped? c = some d)
      (hrest : IsMadeOf rest pieces) : IsMadeOf ('\\' :: c :: rest) (.char d :: pieces)
  | code {a b c d : Char} {n : Nat} {rest : List Char} {pieces : List Piece}
      (h : code? a b c d = some n) (hrest : IsMadeOf rest pieces) :
      IsMadeOf ('\\' :: 'u' :: a :: b :: c :: d :: rest) (.ofCode n :: pieces)

/-- A body is cut into the pieces that it is made of. -/
theorem IsMadeOf.pieces?_eq {body : List Char} {pieces : List Piece} (h : IsMadeOf body pieces) :
    pieces? body = some pieces := by
  induction h with
  | nil => rfl
  | @plain c rest pieces h hrest ih =>
      have hbackslash : c ≠ '\\' := by
        rintro rfl
        contradiction
      rw [pieces?]
      · simp only [isPlain, Bool.not_eq_true'] at h
        simp [h, ih]
      · exact fun _ _ _ _ _ hc _ => hbackslash hc
      · exact fun _ _ hc _ => hbackslash hc
  | @escape c d rest pieces h hrest ih =>
      rw [pieces?]
      · simp [h, ih]
      · rintro - - - - - rfl
        contradiction
  | code h hrest ih => simp [pieces?, h, ih]

/-- A body is made of the pieces that it is cut into. -/
theorem isMadeOf_of_pieces? {body : List Char} {pieces : List Piece}
    (h : pieces? body = some pieces) : IsMadeOf body pieces := by
  fun_induction pieces? body generalizing pieces with
  | case1 =>
      obtain rfl := Option.some.inj h
      exact .nil
  | case2 a b c d rest ih =>
      simp only [Option.bind_eq_bind, Option.bind_eq_some_iff, Option.pure_def,
        Option.some.injEq] at h
      obtain ⟨n, hcode, later, hrest, rfl⟩ := h
      exact .code hcode (ih hrest)
  | case3 c rest _ ih =>
      simp only [Option.bind_eq_bind, Option.bind_eq_some_iff, Option.pure_def,
        Option.some.injEq] at h
      obtain ⟨d, hescape, later, hrest, rfl⟩ := h
      exact .escape hescape (ih hrest)
  | case4 => contradiction
  | case5 c rest _ _ hplain ih =>
      simp only [Option.bind_eq_bind, Option.bind_eq_some_iff, Option.pure_def,
        Option.some.injEq] at h
      obtain ⟨later, hrest, rfl⟩ := h
      exact .plain (by simpa [isPlain] using hplain) (ih hrest)

/-- The bodies that JSON allows are those that are made of pieces. -/
theorem isWellFormed_iff {body : List Char} :
    isWellFormed body = true ↔ ∃ pieces, IsMadeOf body pieces := by
  rw [isWellFormed, Option.isSome_iff_exists]
  exact exists_congr fun pieces => ⟨isMadeOf_of_pieces?, IsMadeOf.pieces?_eq⟩

/-- A hexadecimal digit is no quotation mark, no backslash and no control character. -/
theorem isPlain_of_hexValue? {c : Char} {n : Nat} (h : hexValue? c = some n) :
    isPlain c = true := by
  have hquote : c ≠ '"' := by
    rintro rfl
    contradiction
  have hbackslash : c ≠ '\\' := by
    rintro rfl
    contradiction
  have hcontrol : ¬ c.toNat < 0x20 := by
    intro hlow
    have hnone : hexValue? c = none := Text.forall_char_lt c hlow (by decide)
    rw [hnone] at h
    contradiction
  simp [isPlain, hquote, hbackslash, hcontrol]

/-- The four digits of a code stand for themselves, so a code ends no quoted text. -/
theorem isPlain_of_code? {a b c d : Char} {n : Nat} (h : code? a b c d = some n) :
    ∀ digit ∈ [a, b, c, d], isPlain digit = true := by
  simp only [code?, Option.bind_eq_bind, Option.bind_eq_some_iff] at h
  obtain ⟨_, ha, _, hb, _, hc, _, hd, -⟩ := h
  simp [isPlain_of_hexValue? ha, isPlain_of_hexValue? hb, isPlain_of_hexValue? hc,
    isPlain_of_hexValue? hd]

/-! ## What is written -/

/-- A hexadecimal digit is read as it is written. -/
theorem hexValue?_hexDigit {n : Nat} (h : n < 16) : hexValue? (hexDigit n) = some n := by
  have hall : ∀ n < 16, hexValue? (hexDigit n) = some n := by decide
  exact hall n h

/-- The code of a control character is written in full. -/
theorem code?_hexDigit {n : Nat} (h : n < 0x20) :
    code? '0' '0' (hexDigit (n / 16)) (hexDigit (n % 16)) = some n := by
  have hzero : hexValue? '0' = some 0 := rfl
  rw [code?, hzero, hexValue?_hexDigit (by omega), hexValue?_hexDigit (by omega)]
  simp only [Option.bind_eq_bind, Option.bind_some, Option.pure_def, Option.some.injEq]
  omega

/-- The code of a control character is that of a character, not of half a pair. -/
theorem Piece.ofCode_toNat {c : Char} (h : c.toNat < 0x20) : Piece.ofCode c.toNat = .char c := by
  rw [ofCode, if_neg (by simp; omega), if_neg (by simp; omega), Char.ofNat_toNat]

/-- A character is written as a single piece, which stands for the character. -/
theorem IsMadeOf.encodeChar {rest : List Char} {pieces : List Piece} (h : IsMadeOf rest pieces)
    (c : Char) : IsMadeOf (encodeChar c ++ rest) (.char c :: pieces) := by
  unfold Quoted.encodeChar
  split_ifs with hquote hbackslash hb hf hn hr ht hcontrol
  · subst hquote
    exact .escape rfl h
  · subst hbackslash
    exact .escape rfl h
  · subst hb
    exact .escape rfl h
  · subst hf
    exact .escape rfl h
  · subst hn
    exact .escape rfl h
  · subst hr
    exact .escape rfl h
  · subst ht
    exact .escape rfl h
  · exact Piece.ofCode_toNat hcontrol ▸ .code (code?_hexDigit hcontrol) h
  · exact .plain (by simp [isPlain, hquote, hbackslash, hcontrol]) h

/-- A text is written with a piece for each of its characters. -/
theorem isMadeOf_encode (cs : List Char) : IsMadeOf (encode cs) (cs.map .char) := by
  induction cs with
  | nil => exact .nil
  | cons c cs ih => exact ih.encodeChar c

/-- What is written can be read. -/
theorem isWellFormed_encode (cs : List Char) : isWellFormed (encode cs) = true :=
  isWellFormed_iff.2 ⟨_, isMadeOf_encode cs⟩

/-- Pieces that are characters spell the text of these characters. -/
theorem join?_map_char (cs : List Char) : join? (cs.map .char) = some cs := by
  induction cs with
  | nil => rfl
  | cons c cs ih => rw [List.map_cons, join?, ih, Option.map_some]

/-- A text is read back from its body. -/
@[simp] theorem decode?_encode (cs : List Char) : decode? (encode cs) = some cs := by
  rw [decode?, (isMadeOf_encode cs).pieces?_eq]
  exact join?_map_char cs

/-! ## What a body spells -/

/-- The bodies that spell a text.  A code spells the character that has it; for a character
beyond the first plane there are two codes, which share out its bits. -/
inductive Spells : List Char → List Char → Prop
  | nil : Spells [] []
  | plain {c : Char} {body cs : List Char} (h : isPlain c = true) (hrest : Spells body cs) :
      Spells (c :: body) (c :: cs)
  | escape {c d : Char} {body cs : List Char} (h : escaped? c = some d)
      (hrest : Spells body cs) : Spells ('\\' :: c :: body) (d :: cs)
  | code {a b c d : Char} {n : Nat} {body cs : List Char} (h : code? a b c d = some n)
      (hn : n < 0xD800 ∨ 0xE000 ≤ n) (hrest : Spells body cs) :
      Spells ('\\' :: 'u' :: a :: b :: c :: d :: body) (Char.ofNat n :: cs)
  | pair {a b c d e f g h : Char} {high low : Nat} {body cs : List Char}
      (hhigh : code? a b c d = some (0xD800 + high)) (hhigh_lt : high < 0x400)
      (hlow : code? e f g h = some (0xDC00 + low)) (hlow_lt : low < 0x400)
      (hrest : Spells body cs) :
      Spells ('\\' :: 'u' :: a :: b :: c :: d :: '\\' :: 'u' :: e :: f :: g :: h :: body)
        (Char.ofNat (0x10000 + high * 0x400 + low) :: cs)

/-- The codes of characters are those that are no surrogates. -/
theorem Piece.ofCode_eq_char_iff {n : Nat} {c : Char} :
    Piece.ofCode n = .char c ↔ (n < 0xD800 ∨ 0xE000 ≤ n) ∧ Char.ofNat n = c := by
  grind [Piece.ofCode]

/-- The codes that open a pair. -/
theorem Piece.ofCode_eq_high_iff {n bits : Nat} :
    Piece.ofCode n = .high bits ↔ n = 0xD800 + bits ∧ bits < 0x400 := by
  grind [Piece.ofCode]

/-- The codes that close a pair. -/
theorem Piece.ofCode_eq_low_iff {n bits : Nat} :
    Piece.ofCode n = .low bits ↔ n = 0xDC00 + bits ∧ bits < 0x400 := by
  grind [Piece.ofCode]

/-! The pieces of a body are one for each character, but for a pair of codes they are two. -/

/-- A body that spells a text has pieces that come together to the text. -/
theorem Spells.exists_pieces {body cs : List Char} (h : Spells body cs) :
    ∃ pieces, IsMadeOf body pieces ∧ join? pieces = some cs := by
  induction h with
  | nil => exact ⟨[], .nil, rfl⟩
  | plain h _ ih =>
      obtain ⟨pieces, hmade, hjoin⟩ := ih
      exact ⟨_, .plain h hmade, by rw [join?, hjoin, Option.map_some]⟩
  | escape h _ ih =>
      obtain ⟨pieces, hmade, hjoin⟩ := ih
      exact ⟨_, .escape h hmade, by rw [join?, hjoin, Option.map_some]⟩
  | code h hn _ ih =>
      obtain ⟨pieces, hmade, hjoin⟩ := ih
      refine ⟨_, .code h hmade, ?_⟩
      rw [Piece.ofCode_eq_char_iff.2 ⟨hn, rfl⟩, join?, hjoin, Option.map_some]
  | pair hhigh hhigh_lt hlow hlow_lt _ ih =>
      obtain ⟨pieces, hmade, hjoin⟩ := ih
      refine ⟨_, .code hhigh (.code hlow hmade), ?_⟩
      rw [Piece.ofCode_eq_high_iff.2 ⟨rfl, hhigh_lt⟩, Piece.ofCode_eq_low_iff.2 ⟨rfl, hlow_lt⟩,
        join?, hjoin, Option.map_some]

/-- Pieces that come together to a text are the pieces of a body that spells it. -/
theorem IsMadeOf.spells {body cs : List Char} {pieces : List Piece} (h : IsMadeOf body pieces)
    (hjoin : join? pieces = some cs) : Spells body cs := by
  fun_induction join? pieces generalizing body cs with
  | case1 =>
      obtain rfl := Option.some.inj hjoin
      cases h
      exact .nil
  | case2 c pieces ih =>
      obtain ⟨cs, hcs, rfl⟩ := Option.map_eq_some_iff.1 hjoin
      generalize hpiece : Piece.char c = piece at h
      cases h with
      | plain h hrest =>
          obtain rfl := Piece.char.inj hpiece
          exact .plain h (ih hrest hcs)
      | escape h hrest =>
          obtain rfl := Piece.char.inj hpiece
          exact .escape h (ih hrest hcs)
      | code h hrest =>
          obtain ⟨hn, rfl⟩ := Piece.ofCode_eq_char_iff.1 hpiece.symm
          exact .code h hn (ih hrest hcs)
  | case3 high low pieces ih =>
      obtain ⟨cs, hcs, rfl⟩ := Option.map_eq_some_iff.1 hjoin
      generalize hpiece : Piece.high high = piece at h
      cases h with
      | plain | escape => contradiction
      | code hhigh hrest =>
          generalize hnext : Piece.low low = next at hrest
          cases hrest with
          | plain | escape => contradiction
          | code hlow hrest =>
              obtain ⟨rfl, hhigh_lt⟩ := Piece.ofCode_eq_high_iff.1 hpiece.symm
              obtain ⟨rfl, hlow_lt⟩ := Piece.ofCode_eq_low_iff.1 hnext.symm
              exact .pair hhigh hhigh_lt hlow hlow_lt (ih hrest hcs)
  | case4 => contradiction

/-- A body is read as the text that it spells, if it spells one. -/
theorem decode?_eq_some_iff {body cs : List Char} : decode? body = some cs ↔ Spells body cs := by
  simp only [decode?, Option.bind_eq_bind, Option.bind_eq_some_iff]
  constructor
  · rintro ⟨pieces, hpieces, hjoin⟩
    exact (isMadeOf_of_pieces? hpieces).spells hjoin
  · intro h
    obtain ⟨pieces, hmade, hjoin⟩ := h.exists_pieces
    exact ⟨pieces, hmade.pieces?_eq, hjoin⟩

/-- A body spells one text at most. -/
theorem Spells.eq {body cs ds : List Char} (h : Spells body cs) (hother : Spells body ds) :
    cs = ds := by
  rw [← decode?_eq_some_iff] at h hother
  exact Option.some.inj (h.symm.trans hother)

end Dramatis.Json.Quoted
