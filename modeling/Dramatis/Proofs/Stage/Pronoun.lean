import Dramatis.Proofs.Stage.Bounds

/-!
# Dramatis.Proofs.Stage.Pronoun

Who "you" is, and why it is nobody, on every stage that a play can lead to.  What is asked
for is an actor, and what is found out first is a position; on a sound stage there is an
actor at it, so the answer is decided by the positions on stage alone.
-/

namespace Dramatis

variable {σ α : Type}

namespace Stage

variable {built : Cast α} {stage : Stage α} {name : String} {i j : Nat} {actor : α}

/-- Two are facing each other exactly when two are on stage. -/
theorem Sound.isSome_pair? (h : stage.Sound built) :
    stage.pair?.isSome = true ↔ stage.headcount = 2 := by
  rw [← pairPositions?_isSome, pair?]
  cases hpair : stage.pairPositions? with
  | none => simp
  | some pair =>
      obtain ⟨hleft, hright⟩ := mem_present_of_pairPositions? hpair
      have hleft : pair.1 < stage.cast.actors.length := h.present_lt pair.1 hleft
      have hright : pair.2 < stage.cast.actors.length := h.present_lt pair.2 hright
      simp [List.getElem?_eq_getElem hleft, List.getElem?_eq_getElem hright]

variable [Actor α]

/-- The answer is the actor at the position opposite to the speaker. -/
theorem answer_addressee (name : String) (stage : Stage α) :
    ((addressee name).perform stage).answer =
      (stage.exchange name).bind fun pair => stage.cast.actorAt pair.2 := by
  rw [perform_addressee]
  cases stage.exchange name with
  | error error => rfl
  | ok pair =>
      simp only [Except.bind]
      cases stage.cast.actorAt pair.2 <;> rfl

/-- Spoken under a name, "you" is the actor at a position: that position is found opposite
to the speaker's, and the actor at it is the answer. -/
def Addresses (stage : Stage α) (name : String) (j : Nat) : Prop :=
  ∃ i actor, stage.exchange name = .ok (i, j) ∧ stage.cast.actors[j]? = some actor ∧
    ((addressee name).perform stage).answer = .ok actor

/-- There is an actor at the position of every addressee. -/
theorem Sound.addresses_iff (h : stage.Sound built) :
    stage.Addresses name j ↔ ∃ i, stage.exchange name = .ok (i, j) := by
  constructor
  · rintro ⟨i, actor, hexchange, -, -⟩
    exact ⟨i, hexchange⟩
  · rintro ⟨i, hexchange⟩
    obtain ⟨-, hpartner⟩ := exchange_eq_ok_iff_partner?.1 hexchange
    have hlt : j < stage.cast.actors.length := h.present_lt j (mem_present_of_partner? hpartner)
    have hactor : stage.cast.actors[j]? = some stage.cast.actors[j] := List.getElem?_eq_getElem hlt
    refine ⟨i, _, hexchange, hactor, ?_⟩
    rw [answer_addressee, hexchange, Except.bind, Cast.actorAt, hactor]

/-- A speaker addresses whoever is the only other one on stage. -/
theorem Sound.addresses_iff_of_position? (h : stage.Sound built)
    (hname : stage.cast.position? name = some i) :
    stage.Addresses name j ↔ j ≠ i ∧ stage.present = .of [i, j] := by
  rw [h.addresses_iff]
  constructor
  · rintro ⟨k, hexchange⟩
    obtain ⟨hk, hpair⟩ := exchange_eq_ok.1 hexchange
    obtain rfl : i = k := Option.some.inj (hname.symm.trans hk)
    exact hpair
  · intro hpair
    exact ⟨i, exchange_eq_ok.2 ⟨hname, hpair⟩⟩

/-- The only reasons against an addressee are those against an exchange. -/
theorem Sound.answer_eq_error_iff (h : stage.Sound built) {error : Mistake} :
    ((addressee name).perform stage).answer = .error error ↔
      stage.exchange name = .error error := by
  cases hexchange : stage.exchange name with
  | error first => simp [answer_addressee, hexchange, Except.bind]
  | ok pair =>
      obtain ⟨i, actor, -, -, hanswer⟩ := h.addresses_iff.2 ⟨pair.1, hexchange⟩
      simp [hanswer]

/-- Whoever is the answer is addressed. -/
theorem Sound.answer_eq_ok_iff (h : stage.Sound built) :
    ((addressee name).perform stage).answer = .ok actor ↔
      ∃ j, stage.Addresses name j ∧ stage.cast.actors[j]? = some actor := by
  constructor
  · intro hanswer
    cases hexchange : stage.exchange name with
    | error error => simp [answer_addressee, hexchange, Except.bind] at hanswer
    | ok pair =>
        have haddresses : stage.Addresses name pair.2 := h.addresses_iff.2 ⟨pair.1, hexchange⟩
        have ⟨i, other, _, hother, hsame⟩ := haddresses
        obtain rfl : actor = other := Except.ok.inj (hanswer.symm.trans hsame)
        exact ⟨pair.2, haddresses, hother⟩
  · rintro ⟨j, ⟨i, other, -, hother, hanswer⟩, hactor⟩
    obtain rfl : actor = other := Option.some.inj (hactor.symm.trans hother)
    exact hanswer

/-! ## The rules of "you" -/

/-- What "you" means on a stage, and what the answer is when it means nobody. -/
structure PronounRules (stage : Stage α) : Prop where
  /-- A name that stands for nobody is unknown, and no other name is. -/
  unknown_iff : ∀ name shown, ((addressee name).perform stage).answer = .error (.unknown shown) ↔
    stage.cast.position? name = none ∧ shown = Name.normalize name
  /-- The addressee is whoever is on stage with the speaker and nobody else. -/
  addresses_iff : ∀ name i, stage.cast.position? name = some i →
    ∀ j, stage.Addresses name j ↔ j ≠ i ∧ stage.present = .of [i, j]
  /-- An actor is the answer only as the addressee. -/
  ok_iff : ∀ name actor, ((addressee name).perform stage).answer = .ok actor ↔
    ∃ j, stage.Addresses name j ∧ stage.cast.actors[j]? = some actor
  /-- A speaker off stage is told so, however many are on. -/
  notPresent_iff : ∀ name i, stage.cast.position? name = some i →
    ∀ shown, ((addressee name).perform stage).answer = .error (.notPresent shown) ↔
      i ∉ stage.present ∧ shown = stage.reportName i
  ambiguous_iff : ∀ name i, stage.cast.position? name = some i →
    ∀ shown, ((addressee name).perform stage).answer = .error (.ambiguous shown) ↔
      i ∈ stage.present ∧ 3 ≤ stage.headcount ∧ shown = stage.reportName i
  alone_iff : ∀ name i, stage.cast.position? name = some i →
    ∀ shown, ((addressee name).perform stage).answer = .error (.alone shown) ↔
      stage.present = .of [i] ∧ shown = stage.reportName i
  /-- Whoever is addressed addresses the speaker. -/
  addresses_symm : ∀ name other i j, stage.cast.position? name = some i →
    stage.cast.position? other = some j → stage.Addresses name j → stage.Addresses other i
  isSome_pair?_iff : stage.pair?.isSome = true ↔ stage.headcount = 2
  /-- The pair facing each other are the two on stage, in the order of declaration. -/
  pair?_iff : ∀ left right, stage.pair? = some (left, right) ↔
    ∃ i j, i < j ∧ stage.present = .of [i, j] ∧
      stage.cast.actors[i]? = some left ∧ stage.cast.actors[j]? = some right

/-- The rules hold wherever nobody is out of range. -/
theorem Sound.pronounRules (h : stage.Sound built) : stage.PronounRules where
  unknown_iff name shown := h.answer_eq_error_iff.trans exchange_eq_unknown_iff
  addresses_iff name i hname j := h.addresses_iff_of_position? hname
  ok_iff name actor := h.answer_eq_ok_iff
  notPresent_iff name i hname shown :=
    h.answer_eq_error_iff.trans (exchange_eq_notPresent_iff hname)
  ambiguous_iff name i hname shown := h.answer_eq_error_iff.trans (exchange_eq_ambiguous_iff hname)
  alone_iff name i hname shown := h.answer_eq_error_iff.trans (exchange_eq_alone_iff hname)
  addresses_symm name other i j hname hother haddresses := by
    obtain ⟨hne, hpresent⟩ := (h.addresses_iff_of_position? hname).1 haddresses
    exact (h.addresses_iff_of_position? hother).2
      ⟨hne.symm, hpresent.trans (Positions.of_pair_comm i j)⟩
  isSome_pair?_iff := h.isSome_pair?
  pair?_iff left right := pair?_eq_some

/-- From the assembly of a cast on, whatever is done with it and on its stage, "you" means
the other one of two on stage, each for the other, and never anybody else.  When it means
nobody, each of the reasons is given exactly when it applies. -/
theorem pronounRules_of_assemble {factory : Factory σ α} {personae : List Persona} {s : σ}
    {cast : Cast α} (h : ((Cast.assemble factory personae).perform s).answer = .ok cast)
    (play : List (Direction α)) : ((ofCast cast).after play).PronounRules := by
  obtain ⟨hfiled, -⟩ := Cast.filed_of_assemble h
  exact ((sound_ofCast hfiled.indexed).after play).pronounRules

/-- The last to enter is spoken to by the first, once the third has left. -/
theorem pronounRules_of_assemble_three_players :
    ∃ cast : Cast Player,
      ((Cast.assemble .raw [⟨"Romeo", none, none⟩, ⟨"Juliet", none, none⟩,
        ⟨"Tybalt", none, none⟩]).perform 0).answer = .ok cast ∧
      let stage := (ofCast cast).after [.bringOn ["Tybalt", "Juliet", "Romeo"], .dismiss "Juliet"]
      stage.PronounRules ∧ stage.Addresses "romeo" 2 ∧ stage.Addresses "tybalt" 0 ∧
        ((addressee "juliet").perform stage).answer = .error (.notPresent "Juliet") := by
  have hbuilt : ((Cast.assemble .raw [⟨"Romeo", none, none⟩, ⟨"Juliet", none, none⟩,
      ⟨"Tybalt", none, none⟩]).perform 0).answer =
      .ok ⟨[⟨"Romeo", 1, []⟩, ⟨"Juliet", 2, []⟩, ⟨"Tybalt", 3, []⟩],
        [("Romeo", 0), ("Juliet", 1), ("Tybalt", 2)]⟩ := rfl
  have hrules := pronounRules_of_assemble hbuilt
    [.bringOn ["Tybalt", "Juliet", "Romeo"], .dismiss "Juliet"]
  have hromeo := (hrules.addresses_iff "romeo" 0 rfl 2).2 ⟨by decide, rfl⟩
  exact ⟨_, hbuilt, hrules, hromeo, hrules.addresses_symm "romeo" "tybalt" 0 2 rfl rfl hromeo,
    (hrules.notPresent_iff "juliet" 1 rfl "Juliet").2 ⟨by decide, rfl⟩⟩

end Stage

end Dramatis
