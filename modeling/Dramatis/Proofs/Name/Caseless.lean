import Dramatis.Proofs.Name.Normal

/-!
# Dramatis.Proofs.Name.Caseless

Names in upper and in lower case.  Either mapping keeps the words of a text apart as they
are: blanks stay, and nothing else becomes one.  So a text and its other spelling have the
same normal form exactly if their words have the same capitalized forms, one for one.

Most names do.  The exceptions come from characters that the two mappings do not lead back
to where they started: `ς` has the capital `Σ`, whose small letter is `σ`; the capital of
`ß` is `SS`.
-/

namespace Dramatis.Name

open Text

/-! ## Words, character by character -/

/-- A word that goes on is put before the first word of what follows. -/
theorem words_append_of_not_end {w rest : List Char} (hw : ∀ c ∈ w, isBlank c = false)
    (hrest : atWordEnd rest = false) :
    words (w ++ rest) = (words rest).modifyHead (w ++ ·) := by
  induction w with
  | nil => cases hwords : words rest <;> simp [hwords]
  | cons c w ih =>
      obtain ⟨hc, hw⟩ := List.forall_mem_cons.1 hw
      have hend : atWordEnd (w ++ rest) = false := by
        cases w with
        | nil => exact hrest
        | cons d w => exact hw d List.mem_cons_self
      rw [List.cons_append, words_cons_of_not_end hc hend, ih hw, List.modifyHead_modifyHead]
      rfl

/-- A mapping of characters that leaves blanks alone and makes words of everything else. -/
structure KeepsWords (f : Char → List Char) : Prop where
  blank : ∀ c, isBlank c = true → f c = [c]
  word : ∀ c, isBlank c = false → IsWord (f c)

/-- Putting characters in upper case keeps words apart, and the gaps between them. -/
theorem keepsWords_upper : KeepsWords upper where
  blank _ := upper_of_isBlank
  word c hc := ⟨upper_ne_nil c, fun _ => isBlank_of_mem_upper hc⟩

/-- Putting characters in lower case keeps words apart, and the gaps between them. -/
theorem keepsWords_lower : KeepsWords lower where
  blank _ := lower_of_isBlank
  word c hc := ⟨lower_ne_nil c, fun _ => isBlank_of_mem_lower hc⟩

namespace KeepsWords

variable {f : Char → List Char}

/-- Such a mapping leaves blanks where they were, so a word still ends where it did. -/
theorem atWordEnd_flatMap (h : KeepsWords f) (cs : List Char) :
    atWordEnd (cs.flatMap f) = atWordEnd cs := by
  cases cs with
  | nil => rfl
  | cons c cs =>
      cases hc : isBlank c with
      | true => simp [h.blank c hc, atWordEnd]
      | false =>
          obtain ⟨d, ds, himage⟩ := List.exists_cons_of_ne_nil (h.word c hc).ne_nil
          have hd : isBlank d = false := (h.word c hc).not_blank d (by simp [himage])
          simp [himage, atWordEnd, hc, hd]

/-- Such a mapping acts on each word by itself. -/
theorem words_flatMap (h : KeepsWords f) (cs : List Char) :
    words (cs.flatMap f) = (words cs).map fun w => w.flatMap f := by
  induction cs with
  | nil => rfl
  | cons c cs ih =>
      rw [List.flatMap_cons]
      cases hc : isBlank c with
      | true =>
          rw [h.blank c hc, List.singleton_append, words_cons_blank hc, words_cons_blank hc, ih]
      | false =>
          have hends := h.atWordEnd_flatMap cs
          cases hend : atWordEnd cs with
          | true =>
              rw [words_append (h.word c hc) (hends.trans hend), ih, words_cons_of_end hc hend]
              simp
          | false =>
              rw [words_append_of_not_end (h.word c hc).not_blank (hends.trans hend), ih,
                words_cons_of_not_end hc hend]
              cases words cs <;> simp

end KeepsWords

/-- Texts have the same normal form exactly if their words have the same capitalized forms. -/
theorem normalizeChars_eq_iff {cs ds : List Char} :
    normalizeChars cs = normalizeChars ds ↔
      (words cs).map capitalize = (words ds).map capitalize := by
  constructor
  · intro hforms
    rw [← words_normalizeChars, hforms, words_normalizeChars]
  · intro hwords
    rw [normalizeChars, hwords, normalizeChars]

/-! ## Whole names -/

/-- A name with every character put in upper case. -/
def upperCase (name : String) : String := String.ofList (name.toList.flatMap upper)

/-- A name with every character put in lower case. -/
def lowerCase (name : String) : String := String.ofList (name.toList.flatMap lower)

/-- No word of a name capitalizes differently when it is put in upper or in lower case
first. -/
def IsCaseless (name : String) : Prop :=
  ∀ w ∈ words name.toList,
    capitalize (w.flatMap upper) = capitalize w ∧ capitalize (w.flatMap lower) = capitalize w

instance : DecidablePred IsCaseless := fun _ => inferInstanceAs (Decidable (∀ _ ∈ _, _))

/-- Such a mapping leaves the normal form of a name alone exactly if it leaves the capitalized
form of each of its words alone. -/
theorem KeepsWords.normalize_eq_iff {f : Char → List Char} (h : KeepsWords f) (name : String) :
    normalize (String.ofList (name.toList.flatMap f)) = normalize name ↔
      ∀ w ∈ words name.toList, capitalize (w.flatMap f) = capitalize w := by
  rw [← String.toList_inj, toList_normalize, toList_normalize, String.toList_ofList,
    normalizeChars_eq_iff, h.words_flatMap, List.map_map, List.map_inj_left]
  rfl

/-- The names with one normal form for all their spellings. -/
theorem isCaseless_iff (name : String) :
    IsCaseless name ↔
      normalize (upperCase name) = normalize name ∧
        normalize (lowerCase name) = normalize name := by
  rw [upperCase, lowerCase, keepsWords_upper.normalize_eq_iff, keepsWords_lower.normalize_eq_iff,
    IsCaseless]
  exact forall₂_and

/-- A blank name has no words to tell apart. -/
theorem isCaseless_of_isBlankText {name : String} (h : isBlankText name = true) :
    IsCaseless name := by
  rw [IsCaseless, words_eq_nil_iff.2 h]
  exact List.forall_mem_nil _

/-- A name is as blank in upper case as it was. -/
theorem isBlankText_upperCase (name : String) :
    isBlankText (upperCase name) = isBlankText name := by
  rw [isBlankText, isBlankText, Bool.eq_iff_iff, ← words_eq_nil_iff, ← words_eq_nil_iff, upperCase,
    String.toList_ofList, keepsWords_upper.words_flatMap, List.map_eq_nil_iff]

/-- A name in upper case settles at once: no character of it has a capital but itself. -/
theorem isSettled_upperCase (name : String) : IsSettled (upperCase name) := by
  refine (isSettled_iff _).2 fun w hw c hc => ?_
  rw [upperCase, String.toList_ofList, keepsWords_upper.words_flatMap] at hw
  obtain ⟨v, -, rfl⟩ := List.mem_map.1 hw
  obtain ⟨d, -, hd⟩ := List.mem_flatMap.1 (List.mem_of_mem_head? hc)
  rw [upper_of_mem_upper hd]
  rfl

/-! ## Which names are caseless -/

/-- A character that comes back from either case, at the front of a word and within one. -/
def ComesBack (c : Char) : Prop :=
  capitalize (upper c) = upper c ∧ capitalize (lower c) = upper c ∧
    (upper c).flatMap lower = lower c

instance : DecidablePred ComesBack := fun _ => inferInstanceAs (Decidable (_ ∧ _ ∧ _))

/-- Only the first part of a word is capitalized; the rest goes to lower case. -/
theorem capitalize_append {u : List Char} (hu : u ≠ []) (v : List Char) :
    capitalize (u ++ v) = capitalize u ++ v.flatMap lower := by
  obtain ⟨c, cs, rfl⟩ := List.exists_cons_of_ne_nil hu
  simp [capitalize]

/-- A name whose characters come back is caseless. -/
theorem isCaseless_of_comesBack {name : String} (h : ∀ c ∈ name.toList, ComesBack c) :
    IsCaseless name := by
  intro w hw
  have hback : ∀ c ∈ w, ComesBack c := fun c hc => h c (mem_of_mem_words hw hc)
  obtain ⟨c, cs, rfl⟩ := List.exists_cons_of_ne_nil (isWord_of_mem_words hw).ne_nil
  obtain ⟨⟨hupper, hlower, -⟩, hcs⟩ := List.forall_mem_cons.1 hback
  have htail : (cs.flatMap upper).flatMap lower = cs.flatMap lower := by
    rw [List.flatMap_assoc]
    exact List.flatMap_congr fun d hd => (hcs d hd).2.2
  constructor
  · rw [List.flatMap_cons, capitalize_append (upper_ne_nil c), hupper, htail, capitalize]
  · rw [List.flatMap_cons, capitalize_append (lower_ne_nil c), hlower,
      flatMap_lower_flatMap_lower, capitalize]

/-- The characters of ASCII come back. -/
theorem comesBack_of_lt {c : Char} (hc : c.toNat < 128) : ComesBack c := by
  obtain ⟨hupper, hlower, hupper', hlower', hback⟩ :
    c.toUpper.toNat < 128 ∧ c.toLower.toNat < 128 ∧ c.toUpper.toUpper = c.toUpper ∧
      c.toLower.toUpper = c.toUpper ∧ c.toUpper.toLower = c.toLower :=
    forall_char_lt c hc (by decide)
  rw [ComesBack, upper_of_ascii hc, lower_of_ascii hc]
  simp [capitalize, upper_of_ascii hupper, upper_of_ascii hlower, lower_of_ascii hupper, *]

/-- A name of ASCII characters is caseless. -/
theorem isCaseless_of_ascii {name : String} (h : ∀ c ∈ name.toList, c.toNat < 128) :
    IsCaseless name :=
  isCaseless_of_comesBack fun c hc => comesBack_of_lt (h c hc)

/-- The last letter of `Ζεύς` is not the small letter of its capital. -/
example : ¬ IsCaseless "Ζεύς" ∧ IsCaseless "Ζεύ" := by decide

end Dramatis.Name
