import Dramatis.Proofs.Name.Normal

/-!
# Dramatis.Proofs.Name.Canonical

Which names are their own normal forms.

Normalizing replaces characters by rows of characters that are never empty, so it never
makes a word shorter.  A word that it leaves as it is has therefore not been shifted
within itself: each of its characters has been replaced by itself alone.

* `capitalize_eq_self_iff` — a word capitalizes to itself exactly if its first character is
  its own capital and every other one its own small letter.
* `normalizeChars_eq_self_iff` — a text is its own normal form exactly if it is a row of
  such words with single spaces between them.
-/

namespace Dramatis.Name

open Text

/-! ## Words that stay as they are -/

section Kept

variable {f : Char → List Char}

/-- A mapping that makes something of every character makes no text shorter. -/
theorem length_le_length_flatMap (hf : ∀ c, f c ≠ []) (cs : List Char) :
    cs.length ≤ (cs.flatMap f).length := by
  induction cs with
  | nil => simp
  | cons c cs ih =>
      have hc := List.length_pos_iff.2 (hf c)
      simp only [List.flatMap_cons, List.length_append, List.length_cons]
      omega

/-- Nothing makes up for a first part of several characters, so a text that stays as it is
begins with a part of one. -/
theorem eq_singleton_of_append_flatMap (hf : ∀ c, f c ≠ []) {u cs : List Char} {c : Char}
    (hu : u ≠ []) (h : u ++ cs.flatMap f = c :: cs) : u = [c] ∧ cs.flatMap f = cs := by
  obtain ⟨d, ds, rfl⟩ := List.exists_cons_of_ne_nil hu
  have hlength := congrArg List.length h
  have hgrow := length_le_length_flatMap hf cs
  simp only [List.cons_append, List.length_cons, List.length_append] at hlength
  have hds : ds = [] := List.length_eq_zero_iff.1 (by omega)
  simpa [hds] using h

/-- A mapping that makes every character into something keeps a text as it is only if it
keeps each character. -/
theorem flatMap_eq_self_iff (hf : ∀ c, f c ≠ []) (cs : List Char) :
    cs.flatMap f = cs ↔ ∀ c ∈ cs, f c = [c] := by
  induction cs with
  | nil => simp
  | cons c cs ih =>
      rw [List.flatMap_cons, List.forall_mem_cons, ← ih]
      constructor
      · exact eq_singleton_of_append_flatMap hf (hf c)
      · intro h
        simp [h]

end Kept

/-- The first character is its own capital, and every other one is its own small letter. -/
def IsCapitalized (w : List Char) : Prop :=
  (∀ c ∈ w.head?, upper c = [c]) ∧ ∀ d ∈ w.tail, lower d = [d]

/-- The words that capitalizing leaves as they are. -/
theorem capitalize_eq_self_iff (w : List Char) : capitalize w = w ↔ IsCapitalized w := by
  cases w with
  | nil => simp [capitalize, IsCapitalized]
  | cons c cs =>
      simp only [capitalize, IsCapitalized, List.head?_cons, List.tail_cons, Option.mem_def,
        Option.some.injEq, forall_eq']
      rw [← flatMap_eq_self_iff lower_ne_nil]
      constructor
      · exact eq_singleton_of_append_flatMap lower_ne_nil (upper_ne_nil c)
      · intro h
        simp [h]

/-! ## Texts that stay as they are -/

/-- A row of capitalized words with single spaces between them. -/
def IsCanonical (cs : List Char) : Prop :=
  ∃ ws, (∀ w ∈ ws, IsWord w ∧ IsCapitalized w) ∧ cs = [' '].intercalate ws

/-- The texts that normalizing leaves as they are. The words of such a text are those of its
normal form, so each of them is left as it is. -/
theorem normalizeChars_eq_self_iff (cs : List Char) : normalizeChars cs = cs ↔ IsCanonical cs := by
  constructor
  · intro hself
    have hwords : (words cs).map capitalize = (words cs).map id := by
      rw [← words_normalizeChars, hself, List.map_id]
    have hkept : ∀ w ∈ words cs, capitalize w = w := List.map_inj_left.1 hwords
    refine ⟨words cs, fun w hw => ⟨isWord_of_mem_words hw, ?_⟩, ?_⟩
    · exact (capitalize_eq_self_iff w).1 (hkept w hw)
    · calc cs = normalizeChars cs := hself.symm
        _ = [' '].intercalate (words cs) := by rw [normalizeChars, hwords, List.map_id]
  · rintro ⟨ws, hws, hcs⟩
    have hwords : words cs = ws := by rw [hcs, words_intercalate fun w hw => (hws w hw).1]
    have hkept : ws.map capitalize = ws.map id :=
      List.map_congr_left fun w hw => (capitalize_eq_self_iff w).2 (hws w hw).2
    rw [normalizeChars, hwords, hkept, List.map_id, hcs]

instance : DecidablePred IsCanonical := fun cs =>
  decidable_of_iff _ (normalizeChars_eq_self_iff cs)

-- Capitalizing `ß` gives `SS`, which the next round turns into `Ss`.
example : ¬ IsCanonical ['S', 'S', 'a'] ∧ IsCanonical ['S', 's', 'a'] := by decide

/-- Two rounds of normalizing are as many as can change a name, and not even one changes
those that are rows of capitalized words with single spaces between them, and no others. -/
theorem normal_forms (name : String) :
    normalize (normalize (normalize name)) = normalize (normalize name) ∧
      (normalize name = name ↔ IsCanonical name.toList) := by
  refine ⟨normalize_settles name, ?_⟩
  rw [← normalizeChars_eq_self_iff, ← toList_normalize, String.toList_inj]

end Dramatis.Name
