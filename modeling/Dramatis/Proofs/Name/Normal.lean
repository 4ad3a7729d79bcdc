import Dramatis.Proofs.Name.Words
import Mathlib.Data.List.Basic

/-!
# Dramatis.Proofs.Name.Normal

Normalizing settles after two rounds.

The first round puts a capital in front of a word.  If that capital has several
characters, the second round puts all but the first of them in lower case.  Neither
step can be taken twice, because the images of a case mapping stay under it, so a
third round changes nothing.  `ß` shows that the second round is needed.
-/

namespace Dramatis.Name

open Text

/-- A row of characters that are their own lower case stays in lower case. -/
theorem flatMap_lower_eq_self {ds : List Char} (h : ∀ d ∈ ds, lower d = [d]) :
    ds.flatMap lower = ds := by
  rw [List.flatMap_congr h, List.flatMap_singleton']

/-- Putting characters in lower case once is enough. -/
theorem flatMap_lower_flatMap_lower (cs : List Char) :
    (cs.flatMap lower).flatMap lower = cs.flatMap lower := by
  refine flatMap_lower_eq_self fun d hd => ?_
  obtain ⟨c, -, hd⟩ := List.mem_flatMap.1 hd
  exact lower_of_mem_lower hd

/-- The first character of a capital is its own capital. -/
theorem upper_of_upper_eq_cons {c h : Char} {t : List Char} (hupper : upper c = h :: t) :
    upper h = [h] := by
  have hmem : h ∈ upper c := by rw [hupper]; exact List.mem_cons_self
  exact upper_of_mem_upper hmem

/-- Capitalizing twice leaves the first character of the capital alone and puts
everything after it in lower case. -/
theorem capitalize_capitalize {c h : Char} {t : List Char} (hupper : upper c = h :: t)
    (cs : List Char) :
    capitalize (capitalize (c :: cs)) = h :: (t.flatMap lower ++ cs.flatMap lower) := by
  rw [capitalize, hupper, List.cons_append, capitalize, upper_of_upper_eq_cons hupper,
    List.flatMap_append, flatMap_lower_flatMap_lower, List.singleton_append]

/-- Two rounds are as many as can change a word. -/
theorem capitalize_settles (w : List Char) :
    capitalize (capitalize (capitalize w)) = capitalize (capitalize w) := by
  cases w with
  | nil => rfl
  | cons c cs =>
      obtain ⟨h, t, hupper⟩ := List.exists_cons_of_ne_nil (upper_ne_nil c)
      rw [capitalize_capitalize hupper, capitalize, upper_of_upper_eq_cons hupper,
        List.flatMap_append, flatMap_lower_flatMap_lower, flatMap_lower_flatMap_lower,
        List.singleton_append]

/-- Names are normalized as the rows of characters that they are. -/
@[simp] theorem toList_normalize (name : String) :
    (normalize name).toList = normalizeChars name.toList :=
  String.toList_ofList

/-- Two rounds are as many as can change a name. -/
theorem normalize_settles (name : String) :
    normalize (normalize (normalize name)) = normalize (normalize name) := by
  apply String.toList_inj.1
  rw [toList_normalize, toList_normalize, toList_normalize, normalizeChars,
    words_normalizeChars, words_normalizeChars, normalizeChars_normalizeChars, List.map_map,
    List.map_map]
  refine congrArg [' '].intercalate (List.map_congr_left fun w _ => ?_)
  exact capitalize_settles w

/-! ## Names that settle at once -/

/-- One round of normalizing is enough for a name. -/
def IsSettled (name : String) : Prop := normalize (normalize name) = normalize name

instance : DecidablePred IsSettled := fun _ => inferInstanceAs (Decidable (_ = _))

/-- One round is enough for a word exactly if all that follows the first character of its capital
is in lower case already. -/
theorem capitalize_capitalize_eq_iff (c : Char) (cs : List Char) :
    capitalize (capitalize (c :: cs)) = capitalize (c :: cs) ↔
      (upper c).tail.flatMap lower = (upper c).tail := by
  obtain ⟨h, t, hupper⟩ := List.exists_cons_of_ne_nil (upper_ne_nil c)
  rw [capitalize_capitalize hupper, capitalize, hupper, List.tail_cons, List.cons_append,
    List.cons.injEq, List.append_cancel_right_eq]
  simp

/-- A name settles at once if no word of it begins with a character whose capital goes
on in upper case, as that of `ß` does. -/
theorem isSettled_iff (name : String) :
    IsSettled name ↔ ∀ w ∈ words name.toList, ∀ c ∈ w.head?,
      (upper c).tail.flatMap lower = (upper c).tail := by
  rw [IsSettled, ← String.toList_inj, toList_normalize, toList_normalize]
  constructor
  · intro hsettled w hw c hc
    -- Equal normal forms have equal words, so no word changes in the second round.
    have hwords := congrArg words hsettled
    rw [words_normalizeChars, words_normalizeChars, List.map_map] at hwords
    obtain ⟨cs, rfl⟩ := List.head?_eq_some_iff.1 hc
    exact (capitalize_capitalize_eq_iff c cs).1 (List.map_inj_left.1 hwords _ hw)
  · intro htails
    rw [normalizeChars_normalizeChars, normalizeChars]
    refine congrArg [' '].intercalate (List.map_congr_left fun w hw => ?_)
    obtain ⟨c, cs, rfl⟩ := List.exists_cons_of_ne_nil (isWord_of_mem_words hw).ne_nil
    exact (capitalize_capitalize_eq_iff c cs).2 (htails _ hw c rfl)

end Dramatis.Name
