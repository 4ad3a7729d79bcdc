import Dramatis.Factory
import Dramatis.Proofs.Name.Normal
import Mathlib.Data.List.Chain

/-!
# Dramatis.Proofs.Name.Separated

The words of a text and those of its normal form.

A text falls into gaps of blanks and, between them, words that no blank stands in; this can be
done in one way only (`words_eq_iff`).  Its normal form falls into the capitalized words, one
for one.  The only gaps in that are single spaces between words, so a name is blank exactly if
nothing is left of it, and then a factory of characters refuses it.

The normal form can also be written word after word, with a space before each unless nothing
has been written so far (`foldl_appendWord`).  This comes to the same only because no word
capitalizes to nothing.
-/

namespace Dramatis.Name

open Text

/-! ## Falling into words -/

/-- A text falls into words: gaps of blanks, and between them stretches without a blank, each as
long as it can be. -/
inductive FallsInto : List Char → List (List Char) → Prop
  | gap {cs : List Char} (blank : ∀ c ∈ cs, isBlank c = true) : FallsInto cs []
  | word {cs w rest : List Char} {ws : List (List Char)} (blank : ∀ c ∈ cs, isBlank c = true)
      (isWord : IsWord w) (ends : ∀ c ∈ rest.head?, isBlank c = true) (later : FallsInto rest ws) :
      FallsInto (cs ++ (w ++ rest)) (w :: ws)

/-- A blank more in front only makes the first gap longer. -/
theorem FallsInto.cons_blank {c : Char} {cs : List Char} {ws : List (List Char)}
    (hc : isBlank c = true) (h : FallsInto cs ws) : FallsInto (c :: cs) ws := by
  cases h with
  | gap blank => exact .gap (List.forall_mem_cons.2 ⟨hc, blank⟩)
  | word blank isWord ends later =>
      exact .word (List.forall_mem_cons.2 ⟨hc, blank⟩) isWord ends later

/-- A text may begin with a word. -/
theorem FallsInto.first {w rest : List Char} {ws : List (List Char)} (isWord : IsWord w)
    (ends : ∀ c ∈ rest.head?, isBlank c = true) (later : FallsInto rest ws) :
    FallsInto (w ++ rest) (w :: ws) := by
  have h := FallsInto.word (List.forall_mem_nil _) isWord ends later
  rwa [List.nil_append] at h

/-- Words end before a blank and at the end of the text. -/
theorem atWordEnd_iff {cs : List Char} :
    atWordEnd cs = true ↔ ∀ c ∈ cs.head?, isBlank c = true := by
  cases cs <;> simp [atWordEnd]

/-- A gap at the front of a text belongs to no word. -/
theorem words_append_gap {gap : List Char} (h : ∀ c ∈ gap, isBlank c = true) (cs : List Char) :
    words (gap ++ cs) = words cs := by
  induction gap with
  | nil => simp
  | cons c gap ih =>
      obtain ⟨hc, hgap⟩ := List.forall_mem_cons.1 h
      rw [List.cons_append, words_cons_blank hc, ih hgap]

/-- There is only one way in which a text falls into words. -/
theorem FallsInto.words_eq {cs : List Char} {ws : List (List Char)} (h : FallsInto cs ws) :
    words cs = ws := by
  induction h with
  | gap blank => simpa [words_eq_nil_iff] using blank
  | word blank isWord ends _ ih =>
      rw [words_append_gap blank, words_append isWord (atWordEnd_iff.2 ends), ih]

/-- A text falls into its words. The induction is on the text: a character that is no blank begins
a word of its own or is put in front of the next word. -/
theorem fallsInto_words (cs : List Char) : FallsInto cs (words cs) := by
  induction cs with
  | nil => exact .gap (by simp)
  | cons c cs ih =>
      cases hc : isBlank c with
      | true =>
          rw [words_cons_blank hc]
          exact ih.cons_blank hc
      | false =>
          cases hend : atWordEnd cs with
          | true =>
              have hword : IsWord [c] := isWord_cons.2 ⟨hc, by simp⟩
              rw [words_cons_of_end hc hend]
              exact .first hword (atWordEnd_iff.1 hend) ih
          | false =>
              -- The rest begins with a word and not with a gap, and `c` is put before it.
              obtain ⟨v, vs, hwords⟩ := exists_words_of_not_end hend
              rw [hwords] at ih
              rw [words_cons_of_not_end hc hend, hwords, List.modifyHead_cons]
              cases ih with
              | @word gap _ rest _ blank isWord ends later =>
                  cases gap with
                  | cons d gap => simp [atWordEnd, blank d] at hend
                  | nil =>
                      have hword : IsWord (c :: v) := isWord_cons.2 ⟨hc, isWord.not_blank⟩
                      exact .first hword ends later

/-- The words of a text are the only ones that it falls into. -/
theorem words_eq_iff {cs : List Char} {ws : List (List Char)} :
    words cs = ws ↔ FallsInto cs ws := by
  constructor
  · intro h
    rw [← h]
    exact fallsInto_words cs
  · exact FallsInto.words_eq

/-! ## Single spaces -/

/-- The only blanks of a text are spaces, each by itself and between other characters. -/
structure SinglySpaced (cs : List Char) : Prop where
  blank_eq_space : ∀ c ∈ cs, isBlank c = true → c = ' '
  front : ∀ c ∈ cs.head?, isBlank c = false
  back : ∀ c ∈ cs.getLast?, isBlank c = false
  apart : cs.IsChain fun c d => isBlank c = false ∨ isBlank d = false

theorem singlySpaced_nil : SinglySpaced [] := ⟨by simp, by simp, by simp, .nil⟩

/-- A word has no blanks to be spaced. -/
theorem IsWord.singlySpaced {w : List Char} (h : IsWord w) : SinglySpaced w where
  blank_eq_space c hc hblank := by simp [h.not_blank c hc] at hblank
  front c hc := h.not_blank c (List.mem_of_mem_head? hc)
  back c hc := h.not_blank c (List.mem_of_getLast? hc)
  apart := List.Pairwise.isChain (List.pairwise_iff_forall_sublist.2 fun {c d} hsub =>
    .inl (h.not_blank c (hsub.subset (by simp))))

/-- Texts that begin and end in words stay singly spaced when a space joins them. -/
theorem SinglySpaced.append_space {us vs : List Char} (hus : SinglySpaced us)
    (hvs : SinglySpaced vs) (hu : us ≠ []) (hv : vs ≠ []) : SinglySpaced (us ++ ' ' :: vs) where
  blank_eq_space c hc hblank := by
    simp only [List.mem_append, List.mem_cons] at hc
    obtain hc | hc | hc := hc
    · exact hus.blank_eq_space c hc hblank
    · exact hc
    · exact hvs.blank_eq_space c hc hblank
  front := by
    rw [List.head?_append_of_ne_nil _ hu]
    exact hus.front
  back := by
    rw [List.getLast?_append_of_ne_nil _ (List.cons_ne_nil _ _), List.getLast?_cons_of_ne_nil hv]
    exact hvs.back
  apart := by
    have hspace : (' ' :: vs).IsChain fun c d => isBlank c = false ∨ isBlank d = false :=
      List.isChain_cons.2 ⟨fun d hd => .inr (hvs.front d hd), hvs.apart⟩
    exact List.isChain_append.2 ⟨hus.apart, hspace, fun c hc _ _ => .inl (hus.back c hc)⟩

/-- Words joined by spaces are singly spaced. -/
theorem singlySpaced_intercalate {ws : List (List Char)} (h : ∀ w ∈ ws, IsWord w) :
    SinglySpaced ([' '].intercalate ws) := by
  induction ws with
  | nil => exact singlySpaced_nil
  | cons w ws ih =>
      obtain ⟨hw, hws⟩ := List.forall_mem_cons.1 h
      cases ws with
      | nil => simpa using hw.singlySpaced
      | cons v vs =>
          have hrest : [' '].intercalate (v :: vs) ≠ [] := by
            intro hnil
            have hwords := words_intercalate hws
            simp [hnil, words] at hwords
          rw [List.intercalate_cons_cons, List.append_assoc, List.singleton_append]
          exact hw.singlySpaced.append_space (ih hws) hw.ne_nil hrest

/-! ## Word after word -/

/-- Writes a capitalized word after what has been written, with a space between the two
unless nothing has. -/
def appendWord (written w : List Char) : List Char :=
  (if written.isEmpty then [] else written ++ [' ']) ++ capitalize w

/-- After something has been written each word comes with a space before it. -/
theorem foldl_appendWord_of_ne_nil {written : List Char} (h : written ≠ [])
    (ws : List (List Char)) :
    ws.foldl appendWord written = [' '].intercalate (written :: ws.map capitalize) := by
  induction ws generalizing written with
  | nil => simp
  | cons w ws ih =>
      have hwritten : appendWord written w = written ++ [' '] ++ capitalize w := by
        simp [appendWord, h]
      rw [List.foldl_cons, hwritten, ih (by simp)]
      cases ws <;> simp [List.intercalate_cons_cons]

/-- Writing word after word gives the normal form. The first word does not come to nothing, so
every other word gets its space. -/
theorem foldl_appendWord (cs : List Char) : (words cs).foldl appendWord [] = normalizeChars cs := by
  rw [normalizeChars]
  cases hwords : words cs with
  | nil => rfl
  | cons w ws =>
      have hmem : w ∈ words cs := by simp [hwords]
      have hw : IsWord (capitalize w) := isWord_capitalize (isWord_of_mem_words hmem)
      have hfirst : appendWord [] w = capitalize w := by simp [appendWord]
      rw [List.foldl_cons, hfirst, foldl_appendWord_of_ne_nil hw.ne_nil,
        List.map_cons]

/-! ## Blank names -/

/-- Nothing is left of a blank name, and something of every other. -/
theorem normalize_eq_empty_iff (name : String) : normalize name = "" ↔ isBlankText name = true := by
  have hchars : normalizeChars name.toList = [] ↔ words name.toList = [] := by
    constructor
    · intro hnil
      have hwords := words_normalizeChars name.toList
      simpa [hnil, words] using hwords.symm
    · intro hnil
      simp [normalizeChars, hnil]
  rw [← String.toList_inj, toList_normalize, isBlankText, ← words_eq_nil_iff, ← hchars]
  rfl

/-- Blank names are the only ones of which no character is made. -/
theorem character_refuses_iff (persona : Persona) :
    (∃ failure, (Factory.character persona ()).1 = .error failure) ↔
      isBlankText persona.name = true := by
  cases hblank : isBlankText persona.name <;> simp [Factory.character, Factory.stateless, hblank]

/-! ## All together -/

/-- The normal form of a text falls into the capitalized words of the text, with single spaces
between them and no other blanks, and is what is got by writing them one after another.  It
depends on the words alone, and it is empty exactly if the text is blank, which is when no
character is made of a persona with that name. -/
theorem normal_form_of_words (name : String) :
    (∀ ws, words name.toList = ws ↔ FallsInto name.toList ws) ∧
    FallsInto (normalize name).toList ((words name.toList).map capitalize) ∧
    SinglySpaced (normalize name).toList ∧
    (words name.toList).foldl appendWord [] = (normalize name).toList ∧
    (∀ other : String, words other.toList = words name.toList → normalize other = normalize name) ∧
    (normalize name = "" ↔ isBlankText name = true) ∧
    ∀ description location,
      (∃ failure, (Factory.character ⟨name, description, location⟩ ()).1 = .error failure) ↔
        isBlankText name = true := by
  have hforms : ∀ w ∈ (words name.toList).map capitalize, IsWord w := by
    rw [← words_normalizeChars]
    exact fun _ => isWord_of_mem_words
  rw [toList_normalize]
  refine ⟨fun ws => words_eq_iff, words_eq_iff.1 (words_normalizeChars _),
    singlySpaced_intercalate hforms, foldl_appendWord _, fun other hsame => ?_,
    normalize_eq_empty_iff name, fun description location => character_refuses_iff _⟩
  rw [normalize, normalize, normalizeChars, normalizeChars, hsame]

/-- A wide space between the words and a space at the end leave them the same words. -/
theorem normal_form_of_words_ghost :
    words "the\u3000GHOST ".toList = words "the GHOST".toList ∧
      normalize "the\u3000GHOST " = normalize "the GHOST" := by
  have hwords : words "the\u3000GHOST ".toList = words "the GHOST".toList := by decide
  obtain ⟨-, -, -, -, hsame, -⟩ := normal_form_of_words "the GHOST"
  exact ⟨hwords, hsame _ hwords⟩

end Dramatis.Name
