import Dramatis.Json.Lexeme
import Dramatis.Proofs.Json.Quoted
import Mathlib.Tactic.SplitIfs

/-!
# Dramatis.Proofs.Json.Lexeme

The lexemes of a text.  A text is laid out by putting lexemes one after another, with
any white space between them; only a bare word must not be followed by another character
of a word, or it would be a longer word.  Every text so laid out is cut into just these
lexemes.
-/

namespace Dramatis.Json.Lexeme

/-- The texts that spell a row of lexemes. -/
inductive Layout : List Lexeme → List Char → Prop
  | nil : Layout [] []
  | space {c : Char} {lexemes : List Lexeme} {cs : List Char} (hc : isSpace c = true)
      (rest : Layout lexemes cs) : Layout lexemes (c :: cs)
  | mark {c : Char} {mark : Lexeme} {lexemes : List Lexeme} {cs : List Char}
      (hc : ofMark? c = some mark) (rest : Layout lexemes cs) : Layout (mark :: lexemes) (c :: cs)
  | word {w : List Char} {lexemes : List Lexeme} {cs : List Char} (hne : w ≠ [])
      (hw : ∀ c ∈ w, isWordChar c = true) (hend : startsWord cs = false)
      (rest : Layout lexemes cs) : Layout (word w :: lexemes) (w ++ cs)
  | quoted {body : List Char} {lexemes : List Lexeme} {cs : List Char}
      (hbody : Quoted.isWellFormed body = true) (rest : Layout lexemes cs) :
      Layout (quoted body :: lexemes) ('"' :: (body ++ '"' :: cs))

/-! ## Cutting a text up -/

variable {lexemes : List Lexeme} {cs : List Char}

/-- The structural characters are neither white space nor quotation marks, and each is
the spelling of its lexeme. -/
theorem of_ofMark? {c : Char} {mark : Lexeme} (hc : ofMark? c = some mark) :
    isSpace c = false ∧ c ≠ '"' ∧ mark.spelling = [c] := by
  simp only [ofMark?] at hc
  split_ifs at hc with h1 h2 h3 h4 h5 h6
  all_goals
    obtain rfl := Option.some.inj hc
    subst c
    decide

/-- A mark outside of quoted texts is a lexeme of its own. -/
theorem scan_outside_mark {c : Char} {mark : Lexeme} (hc : ofMark? c = some mark)
    (cs : List Char) : scan .outside (c :: cs) = (scan .outside cs).map (mark :: ·) := by
  obtain ⟨hspace, hquote, -⟩ := of_ofMark? hc
  simp [scan, hspace, hquote, hc]

/-- A character of a word goes to the word that the rest of the text begins with, if it begins
with one. -/
theorem scan_outside_wordChar {c : Char} (hc : isWordChar c = true) (cs : List Char) :
    scan .outside (c :: cs) = (scan .outside cs).map (consWord c (startsWord cs)) := by
  simp only [isWordChar, Bool.and_eq_true, Bool.not_eq_true', bne_iff_ne, Option.isNone_iff_eq_none]
    at hc
  obtain ⟨⟨hspace, hquote⟩, hmark⟩ := hc
  simp [scan, hspace, hquote, hmark]

/-- A complete word is one lexeme. -/
theorem scan_outside_word {w : List Char} (hne : w ≠ []) (hw : ∀ c ∈ w, isWordChar c = true)
    (hend : startsWord cs = false) :
    scan .outside (w ++ cs) = (scan .outside cs).map (word w :: ·) := by
  obtain ⟨c, w, rfl⟩ := List.exists_cons_of_ne_nil hne
  induction w generalizing c with
  | nil =>
      have hc : isWordChar c = true := hw c List.mem_cons_self
      rw [List.singleton_append, scan_outside_wordChar hc, hend]
      congr 1
      funext lexemes
      cases lexemes with
      | nil => rfl
      | cons lexeme lexemes => cases lexeme <;> rfl
  | cons d w ih =>
      obtain ⟨hc, hrest⟩ := List.forall_mem_cons.1 hw
      have hd : startsWord (d :: (w ++ cs)) = true := hrest d List.mem_cons_self
      have hlater := ih d (List.cons_ne_nil d w) hrest
      rw [List.cons_append] at hlater
      rw [List.cons_append, List.cons_append, scan_outside_wordChar hc, hd, hlater, Option.map_map]
      rfl

/-- A quotation mark opens a quoted text. -/
theorem scan_outside_quote (cs : List Char) :
    scan .outside ('"' :: cs) = scan .within cs :=
  rfl

/-- A plain character goes to the quoted text that it stands in. -/
theorem scan_within_plain {c : Char} (hc : Quoted.isPlain c = true) (cs : List Char) :
    scan .within (c :: cs) = (scan .within cs).map (consQuoted c) := by
  simp only [Quoted.isPlain, Bool.not_eq_true', Bool.or_eq_false_iff, decide_eq_false_iff_not] at hc
  obtain ⟨⟨-, hquote⟩, hbackslash⟩ := hc
  simp [scan, hquote, hbackslash]

/-- An escape takes up the character behind it, be it a quotation mark. -/
theorem scan_within_escape (c : Char) (cs : List Char) :
    scan .within ('\\' :: c :: cs) = ((scan .within cs).map (consQuoted c)).map (consQuoted '\\') :=
  rfl

/-- A quoted text ends at the first quotation mark that no escape takes up. -/
theorem scan_within_body {body : List Char} {pieces : List Quoted.Piece}
    (h : Quoted.IsMadeOf body pieces) (cs : List Char) :
    scan .within (body ++ '"' :: cs) = (scan .outside cs).map (quoted body :: ·) := by
  induction h with
  | nil => rfl
  | plain hc hrest ih =>
      rw [List.cons_append, scan_within_plain hc, ih, Option.map_map]
      rfl
  | escape hc hrest ih =>
      rw [List.cons_append, List.cons_append, scan_within_escape, ih, Option.map_map,
        Option.map_map]
      rfl
  | code hcode hrest ih =>
      have hdigits := Quoted.isPlain_of_code? hcode
      simp only [List.forall_mem_cons, List.not_mem_nil] at hdigits
      obtain ⟨ha, hb, hc, hd, -⟩ := hdigits
      simp only [List.cons_append]
      rw [scan_within_escape, scan_within_plain ha, scan_within_plain hb, scan_within_plain hc,
        scan_within_plain hd, ih]
      simp only [Option.map_map]
      rfl

/-- A text is cut into the lexemes that it was laid out from. -/
theorem Layout.ofChars?_eq (h : Layout lexemes cs) : ofChars? cs = some lexemes := by
  rw [ofChars?]
  induction h with
  | nil => rfl
  | space hc rest ih => simp [scan, hc, ih]
  | mark hc rest ih => rw [scan_outside_mark hc, ih, Option.map_some]
  | word hne hw hend rest ih => rw [scan_outside_word hne hw hend, ih, Option.map_some]
  | quoted hbody rest ih =>
      obtain ⟨pieces, hpieces⟩ := Quoted.isWellFormed_iff.1 hbody
      rw [scan_outside_quote, scan_within_body hpieces, ih, Option.map_some]

/-! ## What a text is cut into -/

/-- Within a quoted text the scan comes to a quotation mark that closes it, and goes on behind
it. -/
theorem exists_of_scan_within {place : Place} (hplace : place = .within ∨ place = .escaped)
    (h : scan place cs = some lexemes) :
    ∃ body rest later, cs = body ++ '"' :: rest ∧ lexemes = quoted body :: later ∧
      scan .outside rest = some later := by
  induction cs generalizing place lexemes with
  | nil => obtain rfl | rfl := hplace <;> contradiction
  | cons c cs ih =>
      -- A character that does not close the text is put in front of the body.
      have hconsed {next : Place} (hnext : next = .within ∨ next = .escaped)
          (h : (scan next cs).map (consQuoted c) = some lexemes) :
          ∃ body rest later, c :: cs = body ++ '"' :: rest ∧ lexemes = quoted body :: later ∧
            scan .outside rest = some later := by
        obtain ⟨inner, hinner, rfl⟩ := Option.map_eq_some_iff.1 h
        obtain ⟨body, rest, later, rfl, rfl, hlater⟩ := ih hnext hinner
        exact ⟨c :: body, rest, later, rfl, rfl, hlater⟩
      obtain rfl | rfl := hplace
      · rw [scan] at h
        split_ifs at h with hquote hbackslash
        · obtain ⟨later, hlater, rfl⟩ := Option.map_eq_some_iff.1 h
          exact ⟨[], cs, later, by rw [hquote, List.nil_append], rfl, hlater⟩
        · exact hconsed (.inr rfl) h
        · exact hconsed (.inl rfl) h
      · exact hconsed (.inl rfl) h

/-- A character of a word adds no quoted text and takes none away. -/
theorem quoted_mem_consWord_iff {c : Char} {goesOn : Bool} {body : List Char} :
    quoted body ∈ consWord c goesOn lexemes ↔ quoted body ∈ lexemes := by
  unfold consWord
  split
  · split <;> simp
  · simp

/-- A character is a word by itself where the rest of the text does not go on with it. -/
theorem consWord_false (c : Char) (lexemes : List Lexeme) :
    consWord c false lexemes = word [c] :: lexemes := by
  unfold consWord
  split <;> simp

/-- A character of a word lengthens the word that the text behind it begins with, or is a word of
its own. -/
theorem Layout.cons_wordChar {c : Char} (hc : isWordChar c = true) (h : Layout lexemes cs) :
    Layout (consWord c (startsWord cs) lexemes) (c :: cs) := by
  cases hstarts : startsWord cs with
  | false =>
      rw [consWord_false]
      exact .word (w := [c]) (List.cons_ne_nil c []) (by simpa using hc) hstarts h
  | true =>
      cases h with
      | nil => contradiction
      | space hd rest => simp [startsWord, isWordChar, hd] at hstarts
      | mark hd rest => simp [startsWord, isWordChar, hd] at hstarts
      | @word w _ rest hne hw hend hrest =>
          exact .word (w := c :: w) (List.cons_ne_nil c w) (List.forall_mem_cons.2 ⟨hc, hw⟩) hend
            hrest
      | quoted hbody rest => simp [startsWord, isWordChar] at hstarts

/-- A text is laid out from the lexemes that it is cut into, if the quoted texts among them are
well spelled. -/
theorem layout_of_scan (h : scan .outside cs = some lexemes)
    (hquoted : ∀ body, quoted body ∈ lexemes → Quoted.isWellFormed body = true) :
    Layout lexemes cs := by
  induction hlength : cs.length using Nat.strongRecOn generalizing cs lexemes with
  | ind n ih =>
    cases cs with
    | nil =>
        obtain rfl := Option.some.inj h
        exact .nil
    | cons c cs =>
        have hshorter : cs.length < n := by simp [← hlength]
        by_cases hspace : isSpace c = true
        · rw [scan, if_pos hspace] at h
          exact .space hspace (ih _ hshorter h hquoted rfl)
        by_cases hquote : c = '"'
        · subst hquote
          rw [scan_outside_quote] at h
          obtain ⟨body, rest, later, rfl, rfl, hlater⟩ := exists_of_scan_within (.inl rfl) h
          have hrest : rest.length < n := by
            rw [List.length_append, List.length_cons] at hshorter
            omega
          exact .quoted (hquoted body List.mem_cons_self) (ih _ hrest hlater
            (fun body hmem => hquoted body (List.mem_cons_of_mem _ hmem)) rfl)
        cases hmark : ofMark? c with
        | some mark =>
            rw [scan_outside_mark hmark] at h
            obtain ⟨later, hlater, rfl⟩ := Option.map_eq_some_iff.1 h
            exact .mark hmark (ih _ hshorter hlater
              (fun body hmem => hquoted body (List.mem_cons_of_mem _ hmem)) rfl)
        | none =>
            have hc : isWordChar c = true := by simp [isWordChar, hspace, hquote, hmark]
            rw [scan_outside_wordChar hc] at h
            obtain ⟨later, hlater, rfl⟩ := Option.map_eq_some_iff.1 h
            exact (ih _ hshorter hlater
              (fun body hmem => hquoted body (quoted_mem_consWord_iff.2 hmem)) rfl).cons_wordChar hc

/-- The quoted texts in a text that is laid out are well spelled. -/
theorem Layout.isWellFormed_of_mem (h : Layout lexemes cs) {body : List Char}
    (hmem : Lexeme.quoted body ∈ lexemes) : Quoted.isWellFormed body = true := by
  induction h with
  | nil => contradiction
  | space _ _ ih => exact ih hmem
  | mark hc _ ih =>
      obtain rfl | hmem := List.mem_cons.1 hmem
      · obtain ⟨-, -, hspelling⟩ := of_ofMark? hc
        simp [spelling] at hspelling
      · exact ih hmem
  | word _ _ _ _ ih => exact ih (by simpa using hmem)
  | quoted hbody _ ih =>
      obtain heq | hmem := List.mem_cons.1 hmem
      · exact Lexeme.quoted.inj heq ▸ hbody
      · exact ih hmem

/-! ## More text behind a text -/

/-- A row of lexemes takes some characters to spell. -/
theorem Layout.ne_nil (h : Layout lexemes cs) (hne : lexemes ≠ []) : cs ≠ [] := by
  cases h with
  | nil => contradiction
  | word hw => simp [hw]
  | space | mark | quoted => exact List.cons_ne_nil _ _

/-- What stands behind a text that does not end in a word is cut up on its own. -/
theorem Layout.scan_append (h : Layout lexemes cs)
    (hlast : ∀ w, lexemes.getLast? ≠ some (.word w)) (ds : List Char) :
    scan .outside (cs ++ ds) = (scan .outside ds).map (lexemes ++ ·) := by
  have hrest {lexeme : Lexeme} {later : List Lexeme}
      (hlast : ∀ w, (lexeme :: later).getLast? ≠ some (.word w)) (w : List Char) :
      later.getLast? ≠ some (.word w) := fun hw => hlast w (by simp [List.getLast?_cons, hw])
  induction h with
  | nil => simp
  | space hc _ ih => rw [List.cons_append, scan, if_pos hc, ih hlast]
  | mark hc _ ih =>
      rw [List.cons_append, scan_outside_mark hc, ih (hrest hlast), Option.map_map]
      rfl
  | @word w later cs hne hw hend rest ih =>
      have hlater : later ≠ [] := by
        rintro rfl
        exact hlast w rfl
      have hgoesOn : startsWord (cs ++ ds) = false := by
        obtain ⟨c, cs, rfl⟩ := List.exists_cons_of_ne_nil (rest.ne_nil hlater)
        exact hend
      rw [List.append_assoc, scan_outside_word hne hw hgoesOn, ih (hrest hlast), Option.map_map]
      rfl
  | @quoted body later cs hbody _ ih =>
      obtain ⟨pieces, hpieces⟩ := Quoted.isWellFormed_iff.1 hbody
      rw [List.cons_append, List.append_assoc, List.cons_append, scan_outside_quote,
        scan_within_body hpieces, ih (hrest hlast), Option.map_map]
      rfl

/-- A text that holds no lexemes is white space. -/
theorem Layout.forall_isSpace (h : Layout [] cs) : ∀ c ∈ cs, isSpace c = true := by
  generalize hnone : ([] : List Lexeme) = lexemes at h
  induction h with
  | nil => exact List.forall_mem_nil _
  | space hc _ ih => exact List.forall_mem_cons.2 ⟨hc, ih hnone⟩
  | mark | word | quoted => contradiction

/-! ## Compact texts -/

/-- Texts that do not begin with a word can be put one behind the other and still do not. -/
theorem startsWord_append {cs ds : List Char} (hcs : startsWord cs = false)
    (hds : startsWord ds = false) : startsWord (cs ++ ds) = false := by
  cases cs with
  | nil => exact hds
  | cons c cs => exact hcs

/-- One text may follow another if it does not go on with a bare word. -/
theorem Layout.append {later : List Lexeme} {ds : List Char} (h : Layout lexemes cs)
    (hlater : Layout later ds) (hds : startsWord ds = false) :
    Layout (lexemes ++ later) (cs ++ ds) := by
  induction h with
  | nil => exact hlater
  | space hc rest ih => exact .space hc ih
  | mark hc rest ih => exact .mark hc ih
  | word hne hw hend rest ih =>
      rw [List.append_assoc]
      exact .word hne hw (startsWord_append hend hds) ih
  | quoted hbody rest ih =>
      simpa only [List.cons_append, List.append_assoc] using Layout.quoted hbody ih

/-- A row of lexemes that can do without white space. -/
def IsCompact (lexemes : List Lexeme) : Prop := Layout lexemes (lexemes.flatMap spelling)

section Compact

variable {later : List Lexeme} {c : Char} {mark : Lexeme}

theorem isCompact_nil : IsCompact [] := .nil

/-- A bare word can do without white space. -/
theorem isCompact_word {w : List Char} (hne : w ≠ []) (hw : ∀ c ∈ w, isWordChar c = true) :
    IsCompact [word w] :=
  .word hne hw rfl .nil

/-- A quoted text can do without white space behind it. -/
theorem IsCompact.cons_quoted {body : List Char} (hbody : Quoted.isWellFormed body = true)
    (h : IsCompact lexemes) : IsCompact (quoted body :: lexemes) := by
  simpa [IsCompact, spelling] using Layout.quoted hbody h

/-- A mark can do without white space behind it. -/
theorem IsCompact.cons_mark (h : IsCompact lexemes) (hc : ofMark? c = some mark) :
    IsCompact (mark :: lexemes) := by
  obtain ⟨-, -, hspelling⟩ := of_ofMark? hc
  rw [IsCompact, List.flatMap_cons, hspelling]
  exact .mark hc h

/-- A mark keeps what stands before it apart from what comes after it. -/
theorem IsCompact.append_mark (h : IsCompact lexemes) (hlater : IsCompact later)
    (hc : ofMark? c = some mark) : IsCompact (lexemes ++ mark :: later) := by
  have hends : startsWord ((mark :: later).flatMap spelling) = false := by
    obtain ⟨-, -, hspelling⟩ := of_ofMark? hc
    rw [List.flatMap_cons, hspelling, List.singleton_append, startsWord, isWordChar, hc]
    simp
  rw [IsCompact, List.flatMap_append]
  exact Layout.append h (hlater.cons_mark hc) hends

end Compact

end Dramatis.Json.Lexeme
