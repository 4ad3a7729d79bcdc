import Dramatis.Name
import Dramatis.Proofs.Text.Casing

/-!
# Dramatis.Proofs.Name.Words

The words of a text, and what becomes of them when the text is put into normal
form.

* Words are not empty and hold no blank, and joining them by single spaces gives a
  text with just these words.
* Capitalizing a word gives a word.
* The words of a normal form are therefore the capitalized words of the text, one
  for one, and normalizing again is capitalizing each word again.
-/

namespace Dramatis.Name

open Text

/-! ## Words -/

/-- A stretch of characters that can be a word of some text. -/
structure IsWord (w : List Char) : Prop where
  ne_nil : w ≠ []
  not_blank : ∀ c ∈ w, isBlank c = false

/-- A word is a character that is no blank and others of that kind after it. -/
theorem isWord_cons {c : Char} {cs : List Char} :
    IsWord (c :: cs) ↔ isBlank c = false ∧ ∀ d ∈ cs, isBlank d = false := by
  constructor
  · intro h
    exact ⟨h.not_blank c List.mem_cons_self, fun d hd => h.not_blank d (List.mem_cons_of_mem c hd)⟩
  · rintro ⟨hc, hcs⟩
    exact ⟨List.cons_ne_nil c cs, List.forall_mem_cons.2 ⟨hc, hcs⟩⟩

/-- A blank at the front of a text belongs to no word. -/
theorem words_cons_blank {c : Char} (h : isBlank c = true) (cs : List Char) :
    words (c :: cs) = words cs := by
  simp [words, h]

/-- A character at the front that a blank or nothing follows is a word by itself. -/
theorem words_cons_of_end {c : Char} {cs : List Char} (hc : isBlank c = false)
    (hend : atWordEnd cs = true) : words (c :: cs) = [c] :: words cs := by
  simp [words, hc, hend]

/-- A character at the front that a word follows is put before that word. -/
theorem words_cons_of_not_end {c : Char} {cs : List Char} (hc : isBlank c = false)
    (hend : atWordEnd cs = false) : words (c :: cs) = (words cs).modifyHead (c :: ·) := by
  simp [words, hc, hend]

/-- A word that is complete is the first word of its text. -/
theorem words_append {w rest : List Char} (hw : IsWord w) (hrest : atWordEnd rest = true) :
    words (w ++ rest) = w :: words rest := by
  obtain ⟨c, cs, rfl⟩ := List.exists_cons_of_ne_nil hw.ne_nil
  induction cs generalizing c with
  | nil =>
      obtain ⟨hc, -⟩ := isWord_cons.1 hw
      exact words_cons_of_end hc hrest
  | cons d cs ih =>
      obtain ⟨hc, hcs⟩ := isWord_cons.1 hw
      have hd : isBlank d = false := hcs d List.mem_cons_self
      have htail : IsWord (d :: cs) := ⟨List.cons_ne_nil d cs, hcs⟩
      have hmore : atWordEnd (d :: cs ++ rest) = false := hd
      rw [List.cons_append, words_cons_of_not_end hc hmore, ih d htail, List.modifyHead_cons]

/-- A word has itself for its only word. -/
theorem words_eq_singleton {w : List Char} (hw : IsWord w) : words w = [w] := by
  have hend : atWordEnd [] = true := rfl
  simpa [words] using words_append hw hend

/-- A text that starts with something else than a blank has a first word, which
starts with the same character. -/
theorem exists_words_eq_cons {c : Char} (hc : isBlank c = false) (cs : List Char) :
    ∃ w ws, words (c :: cs) = (c :: w) :: ws := by
  induction cs generalizing c with
  | nil => exact ⟨[], [], words_cons_of_end hc rfl⟩
  | cons d cs ih =>
      cases hd : isBlank d with
      | true => exact ⟨[], words (d :: cs), words_cons_of_end hc hd⟩
      | false =>
          obtain ⟨w, ws, hwords⟩ := ih hd
          have hend : atWordEnd (d :: cs) = false := hd
          refine ⟨d :: w, ws, ?_⟩
          rw [words_cons_of_not_end hc hend, hwords, List.modifyHead_cons]

/-- What is not at the end of a word has a first word. -/
theorem exists_words_of_not_end {cs : List Char} (h : atWordEnd cs = false) :
    ∃ w ws, words cs = w :: ws := by
  cases cs with
  | nil => simp [atWordEnd] at h
  | cons c cs =>
      obtain ⟨w, ws, hwords⟩ := exists_words_eq_cons h cs
      exact ⟨c :: w, ws, hwords⟩

/-- The words of a text are not empty and hold no blank. -/
theorem isWord_of_mem_words {cs w : List Char} (h : w ∈ words cs) : IsWord w := by
  induction cs generalizing w with
  | nil => simp [words] at h
  | cons c cs ih =>
      cases hc : isBlank c with
      | true => exact ih (words_cons_blank hc cs ▸ h)
      | false =>
          cases hend : atWordEnd cs with
          | true =>
              rw [words_cons_of_end hc hend, List.mem_cons] at h
              cases h with
              | inl heq => exact heq ▸ isWord_cons.2 ⟨hc, by simp⟩
              | inr hlater => exact ih hlater
          | false =>
              -- The word goes on, so the rest has a first word, and `c` is put before it.
              obtain ⟨v, vs, hwords⟩ := exists_words_of_not_end hend
              rw [words_cons_of_not_end hc hend, hwords, List.modifyHead_cons, List.mem_cons] at h
              cases h with
              | inl heq =>
                  have hfirst : IsWord v := ih (by simp [hwords])
                  exact heq ▸ isWord_cons.2 ⟨hc, hfirst.not_blank⟩
              | inr hlater => exact ih (by simp [hwords, hlater])

/-- The words hold the characters of the text that are no blanks, in order. -/
theorem flatten_words (cs : List Char) : (words cs).flatten = cs.filter (!isBlank ·) := by
  induction cs with
  | nil => rfl
  | cons c cs ih =>
      cases hc : isBlank c with
      | true => simp [words_cons_blank hc, hc, ih]
      | false =>
          rw [List.filter_cons_of_pos (by simp [hc]), ← ih]
          cases hend : atWordEnd cs with
          | true => simp [words_cons_of_end hc hend]
          | false =>
              obtain ⟨v, vs, hwords⟩ := exists_words_of_not_end hend
              simp [words_cons_of_not_end hc hend, hwords]

theorem mem_of_mem_words {cs w : List Char} {c : Char} (hw : w ∈ words cs) (hc : c ∈ w) :
    c ∈ cs := by
  have hall : c ∈ (words cs).flatten := List.mem_flatten.2 ⟨w, hw, hc⟩
  rw [flatten_words] at hall
  exact (List.mem_filter.1 hall).1

/-- A text has no words exactly if it is blank. -/
theorem words_eq_nil_iff {cs : List Char} : words cs = [] ↔ cs.all isBlank = true := by
  rw [List.all_eq_true]
  constructor
  · intro hwords
    have hrest := flatten_words cs
    rw [hwords, List.flatten_nil, eq_comm, List.filter_eq_nil_iff] at hrest
    simpa using hrest
  · intro hblank
    refine List.eq_nil_iff_forall_not_mem.2 fun w hw => ?_
    obtain ⟨c, hc⟩ := List.exists_mem_of_ne_nil w (isWord_of_mem_words hw).ne_nil
    have hword := (isWord_of_mem_words hw).not_blank c hc
    rw [hblank c (mem_of_mem_words hw hc)] at hword
    contradiction

/-- Joining words by single spaces loses and mixes up none of them. -/
theorem words_intercalate {ws : List (List Char)} (h : ∀ w ∈ ws, IsWord w) :
    words ([' '].intercalate ws) = ws := by
  induction ws with
  | nil => rfl
  | cons w ws ih =>
      have hw : IsWord w := h w List.mem_cons_self
      have hrest := ih fun v hv => h v (List.mem_cons_of_mem w hv)
      have hspace : isBlank ' ' = true := by decide
      have hend (cs : List Char) : atWordEnd (' ' :: cs) = true := hspace
      cases ws with
      | nil => rw [List.intercalate_singleton, words_eq_singleton hw]
      | cons v vs =>
          rw [List.intercalate_cons_cons, List.append_assoc, List.singleton_append,
            words_append hw (hend _), words_cons_blank hspace, hrest]

/-! ## Capitalized words -/

/-- Capitalizing a word gives a word: no image of a character is empty, and none holds a blank. -/
theorem isWord_capitalize {w : List Char} (h : IsWord w) : IsWord (capitalize w) := by
  obtain ⟨c, cs, rfl⟩ := List.exists_cons_of_ne_nil h.ne_nil
  obtain ⟨hc, hcs⟩ := isWord_cons.1 h
  refine ⟨by simp [capitalize, upper_ne_nil], fun d hd => ?_⟩
  cases List.mem_append.1 hd with
  | inl hcapital => exact isBlank_of_mem_upper hc hcapital
  | inr htail =>
      obtain ⟨e, he, hlower⟩ := List.mem_flatMap.1 htail
      exact isBlank_of_mem_lower (hcs e he) hlower

/-- The words of a normal form are the capitalized words of the text. -/
theorem words_normalizeChars (cs : List Char) :
    words (normalizeChars cs) = (words cs).map capitalize := by
  refine words_intercalate fun w hw => ?_
  obtain ⟨v, hv, rfl⟩ := List.mem_map.1 hw
  exact isWord_capitalize (isWord_of_mem_words hv)

/-- A character of words joined by spaces is one of the spaces or is in one of the words. -/
theorem mem_intercalate_space {ws : List (List Char)} {c : Char} (h : c ∈ [' '].intercalate ws) :
    c = ' ' ∨ ∃ w ∈ ws, c ∈ w := by
  induction ws with
  | nil => simp at h
  | cons w ws ih =>
      cases ws with
      | nil => exact .inr ⟨w, List.mem_cons_self, by simpa using h⟩
      | cons v vs =>
          rw [List.intercalate_cons_cons, List.append_assoc, List.mem_append, List.mem_append,
            List.mem_singleton] at h
          obtain hw | hspace | hrest := h
          · exact .inr ⟨w, List.mem_cons_self, hw⟩
          · exact .inl hspace
          · refine (ih hrest).imp_right fun ⟨u, hu, hc⟩ => ?_
            exact ⟨u, List.mem_cons_of_mem w hu, hc⟩

/-- The only blanks of a normal form are spaces. -/
theorem eq_space_of_mem_normalizeChars {cs : List Char} {c : Char} (h : c ∈ normalizeChars cs)
    (hc : isBlank c = true) : c = ' ' := by
  obtain hspace | ⟨w, hw, hmem⟩ := mem_intercalate_space h
  · exact hspace
  · rw [← words_normalizeChars] at hw
    rw [(isWord_of_mem_words hw).not_blank c hmem] at hc
    contradiction

/-- Normalizing a normal form capitalizes each word a second time. -/
theorem normalizeChars_normalizeChars (cs : List Char) :
    normalizeChars (normalizeChars cs) =
      [' '].intercalate ((words cs).map fun w => capitalize (capitalize w)) := by
  rw [normalizeChars, words_normalizeChars, List.map_map]
  rfl

end Dramatis.Name
