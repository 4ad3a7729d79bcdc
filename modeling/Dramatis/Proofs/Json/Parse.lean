import Dramatis.Json.Basic
import Dramatis.Proofs.Json.Lexeme
import Dramatis.Proofs.Json.Numeral

/-!
# Dramatis.Proofs.Json.Parse

Values are read back from their text.  For a value whose numbers and quoted texts are
well spelled, the lexemes can do without white space between them, so its compact text
is cut into just its lexemes; and reading these takes the reader from where a value must
follow to where this value is complete, whatever is under way around it.
-/

namespace Dramatis

namespace Json

open Lexeme

/-! ## Well-formed values -/

/-- A value whose numbers and quoted texts are well spelled throughout. -/
inductive IsWellFormed : Json → Prop
  | null : IsWellFormed .null
  | bool (value : Bool) : IsWellFormed (.bool value)
  | number {numeral : List Char} (h : Numeral.isNumeral numeral = true) :
      IsWellFormed (.number numeral)
  | string {body : List Char} (h : Quoted.isWellFormed body = true) : IsWellFormed (.string body)
  | array {elements : List Json} (h : ∀ element ∈ elements, IsWellFormed element) :
      IsWellFormed (.array elements)
  | object {members : List (List Char × Json)}
      (hkeys : ∀ member ∈ members, Quoted.isWellFormed member.1 = true)
      (hvalues : ∀ member ∈ members, IsWellFormed member.2) : IsWellFormed (.object members)

/-! ## Compact texts -/

/-- The characters of numbers are characters of bare words. -/
theorem isWordChar_of_isPart {c : Char} (h : Numeral.isPart c = true) : isWordChar c = true := by
  have hascii : c.toNat < 128 := by
    simp only [Numeral.isPart, Char.isDigit, Bool.or_eq_true, Bool.and_eq_true,
      decide_eq_true_eq, List.mem_cons, List.not_mem_nil, or_false] at h
    obtain ⟨-, hdigit⟩ | rfl | rfl | rfl | rfl | rfl := h
    · exact Nat.lt_of_le_of_lt hdigit (by decide)
    all_goals decide
  have hall : Numeral.isPart c = true → isWordChar c = true :=
    Text.forall_char_lt c hascii (by decide)
  exact hall h

/-- Elements that can do without white space can do so in an array, where commas keep them apart.
-/
theorem isCompact_elementLexemes {elements : List Json}
    (h : ∀ element ∈ elements, IsCompact element.lexemes) :
    IsCompact (elementLexemes elements) := by
  induction elements with
  | nil => exact isCompact_nil
  | cons element elements ih =>
      obtain ⟨helement, hrest⟩ := List.forall_mem_cons.1 h
      cases elements with
      | nil => exact helement
      | cons next later => exact helement.append_mark (c := ',') (ih hrest) rfl

/-- Members whose values can do without white space can do so in an object. -/
theorem isCompact_memberLexemes {members : List (List Char × Json)}
    (hkeys : ∀ member ∈ members, Quoted.isWellFormed member.1 = true)
    (h : ∀ member ∈ members, IsCompact member.2.lexemes) : IsCompact (memberLexemes members) := by
  induction members with
  | nil => exact isCompact_nil
  | cons member members ih =>
      obtain ⟨key, value⟩ := member
      obtain ⟨hkey, hkeys⟩ := List.forall_mem_cons.1 hkeys
      obtain ⟨hvalue, hrest⟩ := List.forall_mem_cons.1 h
      cases members with
      | nil => exact (hvalue.cons_mark (c := ':') rfl).cons_quoted hkey
      | cons next later =>
          have hmembers := hvalue.append_mark (c := ',') (ih hkeys hrest) rfl
          exact (hmembers.cons_mark (c := ':') rfl).cons_quoted hkey

/-- A well-formed value can be written without white space. -/
theorem IsWellFormed.isCompact {json : Json} (h : json.IsWellFormed) : IsCompact json.lexemes := by
  induction h with
  | null => exact isCompact_word (List.cons_ne_nil _ _) (List.all_eq_true.1 rfl)
  | bool value =>
      cases value <;> exact isCompact_word (List.cons_ne_nil _ _) (List.all_eq_true.1 rfl)
  | number h =>
      have htoken := Numeral.isNumeral_iff.1 h
      exact isCompact_word htoken.ne_nil fun c hc => isWordChar_of_isPart (htoken.isPart c hc)
  | string h => exact isCompact_nil.cons_quoted h
  | array h ih =>
      have hclosed := (isCompact_elementLexemes ih).append_mark (c := ']') isCompact_nil rfl
      exact hclosed.cons_mark (c := '[') rfl
  | object hkeys hvalues ih =>
      have hclosed := (isCompact_memberLexemes hkeys ih).append_mark (c := '\x7d') isCompact_nil rfl
      exact hclosed.cons_mark (c := '\x7b') rfl

/-! ## Reading -/

namespace Reading

/-- A row of lexemes takes a reading from one stage to another. -/
def Leads (start : Reading) (lexemes : List Lexeme) (stop : Reading) : Prop :=
  lexemes.foldlM step? start = some stop

variable {start middle stop : Reading} {lexemes later : List Lexeme} {lexeme : Lexeme}

theorem leads_nil : Leads start [] start := rfl

theorem Leads.cons (hstep : step? start lexeme = some middle) (h : Leads middle lexemes stop) :
    Leads start (lexeme :: lexemes) stop := by
  rw [Leads, List.foldlM_cons, hstep]
  exact h

theorem Leads.append (h : Leads start lexemes middle) (hlater : Leads middle later stop) :
    Leads start (lexemes ++ later) stop := by
  rw [Leads, List.foldlM_append, h]
  exact hlater

/-- Lexemes that can be read at one stage can be read at any stage that takes the first
of them to the same effect. -/
theorem Leads.of_step?_eq {other : Reading} (h : Leads start (lexeme :: lexemes) stop)
    (hstep : step? other lexeme = step? start lexeme) : Leads other (lexeme :: lexemes) stop := by
  rw [Leads, List.foldlM_cons, hstep, ← List.foldlM_cons]
  exact h

end Reading

open Reading

/-- A value can be read wherever one must follow. -/
def IsRead (json : Json) : Prop :=
  ∀ outer, Leads (.expectValue outer) json.lexemes (.complete json outer)

/-- No value begins with the end of an array. -/
theorem exists_lexemes_eq_cons (json : Json) :
    ∃ lexeme rest, json.lexemes = lexeme :: rest ∧ lexeme ≠ .closeArray := by
  cases json <;> exact ⟨_, _, rfl, by simp⟩

/-- The elements of an array that has some do not begin with its end. -/
theorem exists_elementLexemes_eq_cons (element : Json) (elements : List Json) :
    ∃ lexeme rest, elementLexemes (element :: elements) = lexeme :: rest ∧
      lexeme ≠ .closeArray := by
  obtain ⟨lexeme, rest, hlexemes, hclose⟩ := exists_lexemes_eq_cons element
  cases elements with
  | nil => exact ⟨lexeme, rest, hlexemes, hclose⟩
  | cons next later =>
      refine ⟨lexeme, rest ++ .comma :: elementLexemes (next :: later), ?_, hclose⟩
      simp [elementLexemes, hlexemes]

/-- The members of an object begin with the key of the first. -/
theorem exists_memberLexemes_eq_cons (member : List Char × Json)
    (members : List (List Char × Json)) :
    ∃ rest, memberLexemes (member :: members) = .quoted member.1 :: rest := by
  cases members <;> exact ⟨_, rfl⟩

/-- An array that does not end at once goes on as if a value had to follow. -/
theorem step?_openedArray {lexeme : Lexeme} (h : lexeme ≠ .closeArray) (outer : List Frame) :
    step? (.openedArray outer) lexeme = step? (.expectValue (.array [] :: outer)) lexeme := by
  cases lexeme with
  | closeArray => contradiction
  | _ => rfl

/-- The elements of an array are read one after another and pile up, the latest first. -/
theorem leads_elementLexemes {elements : List Json} (hne : elements ≠ [])
    (h : ∀ element ∈ elements, IsRead element) (read : List Json) (outer : List Frame) :
    Leads (.expectValue (.array read :: outer)) (elementLexemes elements ++ [.closeArray])
      (.complete (.array (read.reverse ++ elements)) outer) := by
  induction elements generalizing read with
  | nil => contradiction
  | cons element elements ih =>
      obtain ⟨helement, hrest⟩ := List.forall_mem_cons.1 h
      have hread := helement (.array read :: outer)
      cases elements with
      | nil =>
          have hclose : Leads (.complete element (.array read :: outer)) [.closeArray]
            (.complete (.array (element :: read).reverse) outer) := leads_nil.cons rfl
          simpa [elementLexemes] using hread.append hclose
      | cons next later =>
          have hlater := ih (List.cons_ne_nil next later) hrest (element :: read)
          have hcomma : Leads (.complete element (.array read :: outer)) (.comma :: _) _ :=
            hlater.cons rfl
          simpa [elementLexemes] using hread.append hcomma

/-- The members of an object are read in the same way, each from its key on. -/
theorem leads_memberLexemes {members : List (List Char × Json)} (hne : members ≠ [])
    (hkeys : ∀ member ∈ members, Quoted.isWellFormed member.1 = true)
    (h : ∀ member ∈ members, IsRead member.2) (read : List (List Char × Json))
    (outer : List Frame) :
    Leads (.expectKey read outer) (memberLexemes members ++ [.closeObject])
      (.complete (.object (read.reverse ++ members)) outer) := by
  induction members generalizing read with
  | nil => contradiction
  | cons member members ih =>
      obtain ⟨key, value⟩ := member
      obtain ⟨hkey, hkeys⟩ := List.forall_mem_cons.1 hkeys
      obtain ⟨hvalue, hrest⟩ := List.forall_mem_cons.1 h
      have hread : Leads (.expectKey read outer) (.quoted key :: .colon :: value.lexemes)
          (.complete value (.object read key :: outer)) := by
        refine .cons (if_pos hkey) (.cons rfl ?_)
        exact hvalue (.object read key :: outer)
      cases members with
      | nil =>
          have hclose : Leads (.complete value (.object read key :: outer)) [.closeObject]
            (.complete (.object ((key, value) :: read).reverse) outer) := leads_nil.cons rfl
          simpa [memberLexemes] using hread.append hclose
      | cons next later =>
          have hlater := ih (List.cons_ne_nil next later) hkeys hrest ((key, value) :: read)
          have hcomma : Leads (.complete value (.object read key :: outer)) (.comma :: _) _ :=
            hlater.cons rfl
          simpa [memberLexemes] using hread.append hcomma

/-- An array is read if each element is. The induction is on the elements, and what has been read
of them piles up in the frame. -/
theorem isRead_array {elements : List Json} (h : ∀ element ∈ elements, IsRead element) :
    IsRead (.array elements) := by
  intro outer
  rw [lexemes]
  refine .cons rfl ?_
  cases elements with
  | nil => exact leads_nil.cons rfl
  | cons element elements =>
      have hread := leads_elementLexemes (List.cons_ne_nil element elements) h [] outer
      obtain ⟨lexeme, rest, hlexemes, hclose⟩ := exists_elementLexemes_eq_cons element elements
      rw [hlexemes, List.cons_append] at hread ⊢
      exact hread.of_step?_eq (step?_openedArray hclose outer)

/-- An object is read if the value of each member is. -/
theorem isRead_object {members : List (List Char × Json)}
    (hkeys : ∀ member ∈ members, Quoted.isWellFormed member.1 = true)
    (h : ∀ member ∈ members, IsRead member.2) : IsRead (.object members) := by
  intro outer
  rw [lexemes]
  refine .cons rfl ?_
  cases members with
  | nil => exact leads_nil.cons rfl
  | cons member members =>
      have hread := leads_memberLexemes (List.cons_ne_nil member members) hkeys h [] outer
      obtain ⟨rest, hlexemes⟩ := exists_memberLexemes_eq_cons member members
      rw [hlexemes, List.cons_append] at hread ⊢
      exact hread.of_step?_eq rfl

/-- A number is none of the three words that stand for other values. -/
theorem ofWord?_of_isNumeral {cs : List Char} (h : Numeral.isNumeral cs = true) :
    ofWord? cs = some (.number cs) := by
  have hother : ∀ w ∈ [nullWord, boolWord true, boolWord false], cs ≠ w := by
    rintro w hw rfl
    have hnone : ∀ w ∈ [nullWord, boolWord true, boolWord false], Numeral.isNumeral w = false := by
      decide
    rw [hnone cs hw] at h
    contradiction
  simp only [List.forall_mem_cons] at hother
  obtain ⟨hnull, htrue, hfalse, -⟩ := hother
  rw [ofWord?, if_neg hnull, if_neg htrue, if_neg hfalse, if_pos h]

/-- A well-formed value is read from its lexemes. -/
theorem IsWellFormed.isRead {json : Json} (h : json.IsWellFormed) : IsRead json := by
  induction h with
  | null => exact fun outer => leads_nil.cons rfl
  | bool value => cases value <;> exact fun outer => leads_nil.cons rfl
  | number h =>
      intro outer
      refine leads_nil.cons ?_
      rw [step?, value?, ofWord?_of_isNumeral h, Option.map_some]
  | string h =>
      intro outer
      refine leads_nil.cons ?_
      rw [step?, value?, ofQuoted?, if_pos h, Option.map_some]
  | array h ih => exact isRead_array ih
  | object hkeys hvalues ih => exact isRead_object hkeys ih

/-- The lexemes of a well-formed value are read as the value. -/
theorem IsWellFormed.ofLexemes?_eq {json : Json} (h : json.IsWellFormed) :
    ofLexemes? json.lexemes = some json := by
  have hread : json.lexemes.foldlM step? (.expectValue []) = some (.complete json []) :=
    h.isRead []
  rw [ofLexemes?, hread]
  rfl

/-- A well-formed value is read back from its text. -/
theorem IsWellFormed.parse?_text {json : Json} (h : json.IsWellFormed) :
    parse? json.text = some json := by
  rw [parse?, text, String.toList_ofList, h.isCompact.ofChars?_eq]
  exact h.ofLexemes?_eq

end Json

end Dramatis
