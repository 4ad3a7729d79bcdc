import Dramatis.Proofs.Json.Parse

/-!
# Dramatis.Proofs.Json.Grammar

The texts that a value is read from.  They are those that spell it: its lexemes, one after
another, with any white space between them.  So reading accepts what the grammar of JSON allows
and nothing else, and a text is read as one value at most.

That reading accepts nothing else is seen from what it keeps: every stage of reading still tells
the lexemes that have led to it, those of the arrays and objects under way included.
-/

namespace Dramatis.Json

open Lexeme

/-! ## What has been read -/

/-- The lexemes of the elements of an array with a comma behind each. -/
def spentElements (elements : List Json) : List Lexeme :=
  elements.flatMap fun element => element.lexemes ++ [.comma]

/-- The lexemes of the members of an object with a comma behind each. -/
def spentMembers (members : List (List Char × Json)) : List Lexeme :=
  members.flatMap fun (key, value) => .quoted key :: .colon :: (value.lexemes ++ [.comma])

/-- The last element of an array has no comma behind it, and every other one has. -/
theorem elementLexemes_concat (elements : List Json) (last : Json) :
    elementLexemes (elements ++ [last]) = spentElements elements ++ last.lexemes := by
  induction elements with
  | nil => rfl
  | cons element elements ih =>
      have hne : elements ++ [last] ≠ [] := by simp
      obtain ⟨next, later, hnext⟩ := List.exists_cons_of_ne_nil hne
      rw [List.cons_append, hnext, elementLexemes, ← hnext, ih]
      simp [spentElements]
      exact fun h => absurd h (List.cons_ne_nil next later)

/-- The last member of an object has no comma behind it, and every other one has. -/
theorem memberLexemes_concat (members : List (List Char × Json)) (key : List Char) (last : Json) :
    memberLexemes (members ++ [(key, last)]) =
      spentMembers members ++ .quoted key :: .colon :: last.lexemes := by
  induction members with
  | nil => rfl
  | cons member members ih =>
      have hne : members ++ [(key, last)] ≠ [] := by simp
      obtain ⟨next, later, hnext⟩ := List.exists_cons_of_ne_nil hne
      rw [List.cons_append, hnext, memberLexemes, ← hnext, ih]
      simp [spentMembers]
      exact fun h => absurd h (List.cons_ne_nil next later)

/-- The members of an object are well spelled. -/
def AreWellFormed (members : List (List Char × Json)) : Prop :=
  ∀ member ∈ members, Quoted.isWellFormed member.1 = true ∧ member.2.IsWellFormed

theorem AreWellFormed.cons {members : List (List Char × Json)} {key : List Char} {value : Json}
    (hkey : Quoted.isWellFormed key = true) (hvalue : value.IsWellFormed)
    (h : AreWellFormed members) : AreWellFormed ((key, value) :: members) :=
  List.forall_mem_cons.2 ⟨⟨hkey, hvalue⟩, h⟩

/-- An object whose members are well spelled is so itself; they have piled up the latest first. -/
theorem AreWellFormed.isWellFormed_object {members : List (List Char × Json)}
    (h : AreWellFormed members) : (Json.object members.reverse).IsWellFormed :=
  .object (fun member hmember => (h member (List.mem_reverse.1 hmember)).1)
    fun member hmember => (h member (List.mem_reverse.1 hmember)).2

namespace Frame

/-- The lexemes of an array or an object under way, up to where its next value begins. -/
def spent : Frame → List Lexeme
  | array elements => .openArray :: spentElements elements.reverse
  | object members key => .openObject :: (spentMembers members.reverse ++ [.quoted key, .colon])

/-- What has been read of an array or an object is well spelled. -/
def IsWellFormed : Frame → Prop
  | array elements => ∀ element ∈ elements, element.IsWellFormed
  | object members key => AreWellFormed members ∧ Quoted.isWellFormed key = true

end Frame

namespace Reading

/-- The lexemes of what is under way, the outermost first. -/
def spentOuter (outer : List Frame) : List Lexeme := outer.reverse.flatMap Frame.spent

/-- What is innermost has been read last. -/
@[simp] theorem spentOuter_cons (frame : Frame) (outer : List Frame) :
    spentOuter (frame :: outer) = spentOuter outer ++ frame.spent := by
  simp [spentOuter]

/-- The lexemes that lead to a stage of reading. -/
def spent : Reading → List Lexeme
  | expectValue outer => spentOuter outer
  | openedArray outer => spentOuter outer ++ [.openArray]
  | openedObject outer => spentOuter outer ++ [.openObject]
  | expectKey members outer => spentOuter outer ++ .openObject :: spentMembers members.reverse
  | expectColon members key outer =>
    spentOuter outer ++ .openObject :: (spentMembers members.reverse ++ [.quoted key])
  | complete value outer => spentOuter outer ++ value.lexemes

/-- What has been read is well spelled. -/
def IsWellFormed : Reading → Prop
  | expectValue outer | openedArray outer | openedObject outer =>
    ∀ frame ∈ outer, frame.IsWellFormed
  | expectKey members outer => AreWellFormed members ∧ ∀ frame ∈ outer, frame.IsWellFormed
  | expectColon members key outer =>
    AreWellFormed members ∧ Quoted.isWellFormed key = true ∧ ∀ frame ∈ outer, frame.IsWellFormed
  | complete value outer => value.IsWellFormed ∧ ∀ frame ∈ outer, frame.IsWellFormed

/-- A stage of reading that these lexemes have led to. -/
structure Follows (reading : Reading) (lexemes : List Lexeme) : Prop where
  spent_eq : reading.spent = lexemes
  isWellFormed : reading.IsWellFormed

variable {outer : List Frame} {lexeme : Lexeme} {next : Reading}

/-- Where a value must follow, a lexeme is one by itself or opens one. -/
theorem value?_follows (houter : ∀ frame ∈ outer, frame.IsWellFormed)
    (h : value? outer lexeme = some next) : next.Follows (spentOuter outer ++ [lexeme]) := by
  cases lexeme with
  | openArray =>
      obtain rfl := Option.some.inj h
      exact ⟨rfl, houter⟩
  | openObject =>
      obtain rfl := Option.some.inj h
      exact ⟨rfl, houter⟩
  | word cs =>
      obtain ⟨value, hvalue, rfl⟩ := Option.map_eq_some_iff.1 h
      simp only [ofWord?] at hvalue
      split_ifs at hvalue with hnull htrue hfalse hnumber <;> obtain rfl := Option.some.inj hvalue
      · exact ⟨by rw [hnull]; rfl, .null, houter⟩
      · exact ⟨by rw [htrue]; rfl, .bool true, houter⟩
      · exact ⟨by rw [hfalse]; rfl, .bool false, houter⟩
      · exact ⟨rfl, .number hnumber, houter⟩
  | quoted body =>
      obtain ⟨value, hvalue, rfl⟩ := Option.map_eq_some_iff.1 h
      obtain ⟨hbody, hvalue⟩ := Option.ite_none_right_eq_some.1 hvalue
      obtain rfl := Option.some.inj hvalue
      exact ⟨rfl, .string hbody, houter⟩
  | closeArray | closeObject | colon | comma => contradiction

/-- Where a key must follow, a lexeme is one. -/
theorem key?_follows {members : List (List Char × Json)} (hmembers : AreWellFormed members)
    (houter : ∀ frame ∈ outer, frame.IsWellFormed) (h : key? members outer lexeme = some next) :
    next.Follows
      (spentOuter outer ++ .openObject :: (spentMembers members.reverse ++ [lexeme])) := by
  cases lexeme with
  | quoted key =>
      obtain ⟨hkey, hnext⟩ := Option.ite_none_right_eq_some.1 h
      obtain rfl := Option.some.inj hnext
      exact ⟨rfl, hmembers, hkey, houter⟩
  | _ => contradiction

/-- Behind an element the array goes on or ends. -/
theorem afterElement?_follows {value : Json} {elements : List Json} (hvalue : value.IsWellFormed)
    (helements : ∀ element ∈ elements, element.IsWellFormed)
    (houter : ∀ frame ∈ outer, frame.IsWellFormed)
    (h : afterElement? (value :: elements) outer lexeme = some next) :
    next.Follows (spentOuter (.array elements :: outer) ++ value.lexemes ++ [lexeme]) := by
  have hall : ∀ element ∈ value :: elements, element.IsWellFormed :=
    List.forall_mem_cons.2 ⟨hvalue, helements⟩
  cases lexeme with
  | comma =>
      obtain rfl := Option.some.inj h
      refine ⟨?_, List.forall_mem_cons.2 ⟨hall, houter⟩⟩
      simp [spent, Frame.spent, spentElements]
  | closeArray =>
      obtain rfl := Option.some.inj h
      refine ⟨?_, .array fun element hmem => hall element (List.mem_reverse.1 hmem), houter⟩
      simp [spent, Frame.spent, lexemes, elementLexemes_concat]
  | _ => contradiction

/-- Behind a member the object goes on or ends. -/
theorem afterMember?_follows {value : Json} {members : List (List Char × Json)} {key : List Char}
    (hvalue : value.IsWellFormed) (hkey : Quoted.isWellFormed key = true)
    (hmembers : AreWellFormed members) (houter : ∀ frame ∈ outer, frame.IsWellFormed)
    (h : afterMember? ((key, value) :: members) outer lexeme = some next) :
    next.Follows (spentOuter (.object members key :: outer) ++ value.lexemes ++ [lexeme]) := by
  have hall := hmembers.cons hkey hvalue
  cases lexeme with
  | comma =>
      obtain rfl := Option.some.inj h
      exact ⟨by simp [spent, Frame.spent, spentMembers], hall, houter⟩
  | closeObject =>
      obtain rfl := Option.some.inj h
      refine ⟨?_, hall.isWellFormed_object, houter⟩
      simp [spent, Frame.spent, lexemes, memberLexemes_concat]
  | _ => contradiction

/-- A further lexeme leads on from where the lexemes before it have led. -/
theorem Follows.step {reading : Reading} {lexemes : List Lexeme} (h : reading.Follows lexemes)
    (hstep : step? reading lexeme = some next) : next.Follows (lexemes ++ [lexeme]) := by
  obtain ⟨rfl, hwell⟩ := h
  cases reading with
  | expectValue outer => exact value?_follows hwell hstep
  | openedArray outer =>
      by_cases hclose : lexeme = .closeArray
      · subst hclose
        obtain rfl := Option.some.inj hstep
        exact ⟨by simp [spent, lexemes, elementLexemes], .array (List.forall_mem_nil _), hwell⟩
      · rw [step?_openedArray hclose] at hstep
        have hframes : ∀ frame ∈ Frame.array [] :: outer, frame.IsWellFormed :=
          List.forall_mem_cons.2 ⟨List.forall_mem_nil _, hwell⟩
        simpa [spent, Frame.spent, spentElements] using value?_follows hframes hstep
  | openedObject outer =>
      have hnone : AreWellFormed [] := List.forall_mem_nil _
      by_cases hclose : lexeme = .closeObject
      · subst hclose
        obtain rfl := Option.some.inj hstep
        exact ⟨by simp [spent, lexemes, memberLexemes], hnone.isWellFormed_object, hwell⟩
      · have hkey : key? [] outer lexeme = some next := by
          cases lexeme with
          | closeObject => contradiction
          | _ => exact hstep
        simpa [spent, spentMembers] using key?_follows hnone hwell hkey
  | expectKey members outer => simpa [spent] using key?_follows hwell.1 hwell.2 hstep
  | expectColon members key outer =>
      obtain ⟨hmembers, hkey, houter⟩ := hwell
      cases lexeme with
      | colon =>
          obtain rfl := Option.some.inj hstep
          exact ⟨by simp [spent, Frame.spent], List.forall_mem_cons.2 ⟨⟨hmembers, hkey⟩, houter⟩⟩
      | _ => contradiction
  | complete value outer =>
      obtain ⟨hvalue, hframes⟩ := hwell
      cases outer with
      | nil => contradiction
      | cons frame outer =>
          obtain ⟨hframe, houter⟩ := List.forall_mem_cons.1 hframes
          cases frame with
          | array elements => exact afterElement?_follows hvalue hframe houter hstep
          | object members key =>
              exact afterMember?_follows hvalue hframe.2 hframe.1 houter hstep

/-- Further lexemes lead on from where the lexemes before them have led. -/
theorem Follows.foldlM {start stop : Reading} {lexemes later : List Lexeme}
    (h : start.Follows lexemes) (hrun : later.foldlM step? start = some stop) :
    stop.Follows (lexemes ++ later) := by
  induction later generalizing start lexemes with
  | nil =>
      obtain rfl := Option.some.inj hrun
      rwa [List.append_nil]
  | cons lexeme later ih =>
      rw [List.foldlM_cons] at hrun
      obtain ⟨next, hstep, hrun⟩ := Option.bind_eq_some_iff.1 hrun
      rw [← List.singleton_append, ← List.append_assoc]
      exact ih (h.step hstep) hrun

end Reading

/-- Only the lexemes of a well-formed value are read as this value. -/
theorem ofLexemes?_eq_some_iff {lexemes : List Lexeme} {json : Json} :
    ofLexemes? lexemes = some json ↔ json.IsWellFormed ∧ json.lexemes = lexemes := by
  constructor
  · intro h
    obtain ⟨stop, hrun, hfinish⟩ := Option.bind_eq_some_iff.1 h
    have hstart : (Reading.expectValue []).Follows [] := ⟨rfl, List.forall_mem_nil _⟩
    have hstop := hstart.foldlM hrun
    cases stop with
    | complete value outer =>
        cases outer with
        | nil =>
            obtain rfl := Option.some.inj hfinish
            exact ⟨hstop.isWellFormed.1, hstop.spent_eq⟩
        | cons => contradiction
    | _ => contradiction
  · rintro ⟨hwell, rfl⟩
    exact hwell.ofLexemes?_eq

/-! ## The texts of a value -/

/-- A text that spells a value: its numbers and quoted texts are well spelled, and its lexemes stand
one after another, with any white space between them. -/
structure Spells (text : String) (json : Json) : Prop where
  isWellFormed : json.IsWellFormed
  layout : Layout json.lexemes text.toList

/-- A text is read as the value that it spells, if it spells one. -/
theorem parse?_eq_some_iff {text : String} {json : Json} :
    parse? text = some json ↔ Spells text json := by
  simp only [parse?, Option.bind_eq_bind, Option.bind_eq_some_iff]
  constructor
  · rintro ⟨lexemes, hscan, hread⟩
    obtain ⟨hwell, rfl⟩ := ofLexemes?_eq_some_iff.1 hread
    exact ⟨hwell, layout_of_scan hscan fun body => hwell.isCompact.isWellFormed_of_mem⟩
  · rintro ⟨hwell, hlayout⟩
    exact ⟨json.lexemes, hlayout.ofChars?_eq, hwell.ofLexemes?_eq⟩

/-- A text spells one value at most, since it is read as whatever it spells. -/
theorem Spells.eq {text : String} {json other : Json} (h : Spells text json)
    (hother : Spells text other) : json = other := by
  rw [← parse?_eq_some_iff] at h hother
  exact Option.some.inj (h.symm.trans hother)

/-- Behind a complete value no lexeme is read. -/
theorem IsWellFormed.ofLexemes?_append {json : Json} (h : json.IsWellFormed) {later : List Lexeme}
    (hne : later ≠ []) : ofLexemes? (json.lexemes ++ later) = none := by
  obtain ⟨lexeme, later, rfl⟩ := List.exists_cons_of_ne_nil hne
  have hread : json.lexemes.foldlM Reading.step? (.expectValue []) = some (.complete json []) :=
    h.isRead []
  rw [ofLexemes?, List.foldlM_append, hread]
  rfl

/-- Behind an object nothing may follow but white space. -/
theorem Spells.parse?_append {text rest : String} {members : List (List Char × Json)}
    (h : Spells text (.object members)) (hrest : ∃ c ∈ rest.toList, isSpace c = false) :
    parse? (text ++ rest) = none := by
  have hlast : ∀ w, (Json.object members).lexemes.getLast? ≠ some (.word w) := by
    simp [lexemes, List.getLast?_cons]
  rw [parse?, String.toList_append, ofChars?, h.layout.scan_append hlast]
  cases hscan : scan .outside rest.toList with
  | none => rfl
  | some later =>
      refine h.isWellFormed.ofLexemes?_append ?_
      rintro rfl
      have hlayout := layout_of_scan hscan fun _ hmem => absurd hmem List.not_mem_nil
      obtain ⟨c, hc, hnot⟩ := hrest
      rw [hlayout.forall_isSpace c hc] at hnot
      contradiction

end Dramatis.Json
