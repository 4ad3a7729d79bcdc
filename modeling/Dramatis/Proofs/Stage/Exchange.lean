import Dramatis.Proofs.Positions
import Dramatis.Stage.Pronoun

/-!
# Dramatis.Proofs.Stage.Exchange

Speakers and addressees by their positions.  From the point of view of a speaker a stage is
one of four: the speaker is off, or is on alone, or with one companion, or with several.
The first decides against an addressee whatever the others do, and the companion of the
third is the addressee.  The first and the last two are told apart by membership and by the
size of the company alone.
-/

namespace Dramatis.Stage

variable {α : Type} {stage : Stage α} {name : String} {i j : Nat}

/-! ## Pairs -/

/-- The two who face each other are all who are on stage, and the one declared first comes first.
-/
theorem pairPositions?_eq_some :
    stage.pairPositions? = some (i, j) ↔ i < j ∧ stage.present = .of [i, j] := by
  rw [← Positions.toList_eq_pair_iff, pairPositions?]
  split
  · next a b hlist => simp [hlist]
  · next hnot =>
    constructor
    · nofun
    · intro hlist
      exact absurd hlist (hnot i j)

/-- Somebody faces somebody exactly if two are on stage. -/
theorem pairPositions?_isSome : stage.pairPositions?.isSome = true ↔ stage.headcount = 2 := by
  rw [Option.isSome_iff_exists, Prod.exists, headcount, Positions.size_eq_two_iff]
  simp only [pairPositions?_eq_some]

/-- The pair facing each other are the two on stage, in the order of declaration. -/
theorem pair?_eq_some {left right : α} :
    stage.pair? = some (left, right) ↔ ∃ i j, i < j ∧ stage.present = .of [i, j] ∧
      stage.cast.actors[i]? = some left ∧ stage.cast.actors[j]? = some right := by
  rw [pair?]
  simp only [← and_assoc, ← pairPositions?_eq_some]
  cases stage.pairPositions? with
  | none => simp
  | some pair => simp [Option.bind_eq_some_iff, Prod.ext_iff]

/-- Somebody has a partner if the two are on stage and nobody else is. -/
theorem partner?_eq_some :
    stage.partner? i = some j ↔ j ≠ i ∧ stage.present = .of [i, j] := by
  constructor
  · intro hpartner
    rw [partner?] at hpartner
    cases hpair : stage.pairPositions? with
    | none => simp [hpair] at hpartner
    | some pair =>
        obtain ⟨hlt, hpresent⟩ := pairPositions?_eq_some.1 hpair
        simp only [hpair, Option.bind_eq_bind, Option.bind_some] at hpartner
        split at hpartner
        · next hleft =>
          obtain rfl : pair.2 = j := Option.some.inj hpartner
          exact ⟨by omega, hleft ▸ hpresent⟩
        · split at hpartner
          · next hright =>
            obtain rfl : pair.1 = j := Option.some.inj hpartner
            refine ⟨by omega, ?_⟩
            rw [hpresent, Positions.of_pair_comm, hright]
          · contradiction
  · rintro ⟨hne, hpresent⟩
    cases Nat.lt_or_gt_of_ne hne with
    | inl hlt =>
        have hpair := pairPositions?_eq_some.2 ⟨hlt, hpresent.trans (Positions.of_pair_comm i j)⟩
        simp [partner?, hpair, hne]
    | inr hgt =>
        have hpair := pairPositions?_eq_some.2 ⟨hgt, hpresent⟩
        simp [partner?, hpair]

/-- Somebody faces nobody exactly if there is not just one other on stage with them. -/
theorem partner?_eq_none_iff :
    stage.partner? i = none ↔ ∀ j, j ≠ i → stage.present ≠ .of [i, j] := by
  simp only [Option.eq_none_iff_forall_ne_some, ne_eq, partner?_eq_some, not_and]

/-- Those who face each other are on stage. -/
theorem mem_present_of_pairPositions? {pair : Nat × Nat} (h : stage.pairPositions? = some pair) :
    pair.1 ∈ stage.present ∧ pair.2 ∈ stage.present := by
  obtain ⟨-, hpresent⟩ := pairPositions?_eq_some.1 h
  simp [hpresent]

/-- Whoever faces a speaker is on stage. -/
theorem mem_present_of_partner? (h : stage.partner? i = some j) : j ∈ stage.present := by
  obtain ⟨-, hpresent⟩ := partner?_eq_some.1 h
  simp [hpresent]

/-! ## Exchanges -/

section Exchanges

variable [Actor α]

/-- A speaker must be in the cast. -/
theorem exchange_of_unknown (hname : stage.cast.position? name = none) :
    stage.exchange name = .error (.unknown (Name.normalize name)) := by
  rw [exchange, Cast.position, hname]
  rfl

/-- A speaker of the cast: the one opposite, or the first of the three reasons for there being
none. -/
theorem exchange_eq (hname : stage.cast.position? name = some i) :
    stage.exchange name =
      match stage.partner? i with
      | some j => .ok (i, j)
      | none =>
        if !stage.present.contains i then .error (.notPresent (stage.reportName i))
        else if 2 < stage.present.size then .error (.ambiguous (stage.reportName i))
        else .error (.alone (stage.reportName i)) := by
  rw [exchange, Cast.position, hname]
  rfl

/-- A speaker has an addressee exactly if somebody is opposite to the position of the name. -/
theorem exchange_eq_ok_iff_partner? :
    stage.exchange name = .ok (i, j) ↔
      stage.cast.position? name = some i ∧ stage.partner? i = some j := by
  constructor
  · intro hexchange
    cases hname : stage.cast.position? name with
    | none => simp [exchange_of_unknown hname] at hexchange
    | some k =>
        rw [exchange_eq hname] at hexchange
        cases hpartner : stage.partner? k with
        | none =>
            simp only [hpartner] at hexchange
            split at hexchange
            · contradiction
            · split at hexchange <;> contradiction
        | some l =>
            obtain ⟨rfl, rfl⟩ : k = i ∧ l = j := by simpa [hpartner] using hexchange
            exact ⟨rfl, hpartner⟩
  · rintro ⟨hname, hpartner⟩
    rw [exchange_eq hname, hpartner]

/-- An exchange is between the position of a name and one other, the two being all that
are on stage. -/
theorem exchange_eq_ok :
    stage.exchange name = .ok (i, j) ↔
      stage.cast.position? name = some i ∧ j ≠ i ∧ stage.present = .of [i, j] := by
  rw [exchange_eq_ok_iff_partner?, partner?_eq_some]

/-- A speaker off stage has no addressee, whoever else is on stage. -/
theorem exchange_of_absent (hname : stage.cast.position? name = some i)
    (h : i ∉ stage.present) :
    stage.exchange name = .error (.notPresent (stage.reportName i)) := by
  have hpartner : stage.partner? i = none :=
    partner?_eq_none_iff.2 fun j _ hpair => h (by simp [hpair])
  have hcontains : stage.present.contains i = false := by
    rw [← Bool.not_eq_true, Positions.contains_iff]
    exact h
  simp only [exchange_eq hname, hpartner, hcontains, Bool.not_false, ↓reduceIte]

/-- A speaker who is alone on stage has no addressee. -/
theorem exchange_of_alone (hname : stage.cast.position? name = some i)
    (h : stage.present = .of [i]) :
    stage.exchange name = .error (.alone (stage.reportName i)) := by
  have hpartner : stage.partner? i = none := by
    refine partner?_eq_none_iff.2 fun j hne hpair => ?_
    have hmem : j ∈ Positions.of [i] := by simp [← h, hpair]
    exact hne (by simpa using hmem)
  have hcontains : stage.present.contains i = true := by simp [Positions.contains_iff, h]
  have hsize : ¬ 2 < stage.present.size := by simp [h, Positions.size_of_singleton]
  simp only [exchange_eq hname, hpartner, hcontains, hsize, Bool.not_true, Bool.false_eq_true,
    ↓reduceIte]

/-- A speaker among three or more has no addressee. -/
theorem exchange_of_crowd (hname : stage.cast.position? name = some i)
    (hmem : i ∈ stage.present) (h : 2 < stage.present.size) :
    stage.exchange name = .error (.ambiguous (stage.reportName i)) := by
  have hpartner : stage.partner? i = none := by
    refine partner?_eq_none_iff.2 fun j hne hpair => ?_
    rw [hpair, Positions.size_of_pair hne] at h
    contradiction
  have hcontains : stage.present.contains i = true := Positions.contains_iff.2 hmem
  simp only [exchange_eq hname, hpartner, hcontains, h, Bool.not_true, Bool.false_eq_true,
    ↓reduceIte]

/-! ## The reasons against an addressee -/

/-- A speaker is unknown exactly if the name stands for nobody; the mistake tells its normal form.
-/
theorem exchange_eq_unknown_iff {shown : String} :
    stage.exchange name = .error (.unknown shown) ↔
      stage.cast.position? name = none ∧ shown = Name.normalize name := by
  cases hname : stage.cast.position? name with
  | none => simp [exchange_of_unknown hname, eq_comm]
  | some i =>
      cases stage.present.company i with
      | absent h => simp [exchange_of_absent hname h]
      | alone h => simp [exchange_of_alone hname h]
      | facing j hne h => simp [exchange_eq_ok.2 ⟨hname, hne, h⟩]
      | crowd hmem h => simp [exchange_of_crowd hname hmem h]

/-- A speaker is missed on stage exactly if it is off; the mistake tells its name of now. -/
theorem exchange_eq_notPresent_iff (hname : stage.cast.position? name = some i) {shown : String} :
    stage.exchange name = .error (.notPresent shown) ↔
      i ∉ stage.present ∧ shown = stage.reportName i := by
  cases stage.present.company i with
  | absent h => simp [exchange_of_absent hname h, h, eq_comm]
  | alone h => simp [exchange_of_alone hname h, h]
  | facing j hne h => simp [exchange_eq_ok.2 ⟨hname, hne, h⟩, h]
  | crowd hmem h => simp [exchange_of_crowd hname hmem h, hmem]

/-- An address is ambiguous exactly if the speaker is on stage with two others or more. -/
theorem exchange_eq_ambiguous_iff (hname : stage.cast.position? name = some i) {shown : String} :
    stage.exchange name = .error (.ambiguous shown) ↔
      i ∈ stage.present ∧ 3 ≤ stage.headcount ∧ shown = stage.reportName i := by
  rw [headcount]
  cases stage.present.company i with
  | absent h => simp [exchange_of_absent hname h, h]
  | alone h => simp [exchange_of_alone hname h, h, Positions.size_of_singleton]
  | facing j hne h => simp [exchange_eq_ok.2 ⟨hname, hne, h⟩, h, Positions.size_of_pair hne]
  | crowd hmem h =>
      have hthree : 3 ≤ stage.present.size := h
      simp [exchange_of_crowd hname hmem h, hmem, hthree, eq_comm]

/-- A speaker is told to be alone exactly if nobody else is on stage with it. -/
theorem exchange_eq_alone_iff (hname : stage.cast.position? name = some i) {shown : String} :
    stage.exchange name = .error (.alone shown) ↔
      stage.present = .of [i] ∧ shown = stage.reportName i := by
  have hone (hpresent : stage.present = .of [i]) : stage.present.size = 1 := by
    rw [hpresent, Positions.size_of_singleton]
  cases stage.present.company i with
  | absent h =>
      have hnot : stage.present ≠ .of [i] := fun hpresent => h (by simp [hpresent])
      simp [exchange_of_absent hname h, hnot]
  | alone h => simp [exchange_of_alone hname h, h, eq_comm]
  | facing j hne h =>
      have hnot : stage.present ≠ .of [i] := fun hpresent => by
        have htwo := hone hpresent
        rw [h, Positions.size_of_pair hne] at htwo
        contradiction
      simp [exchange_eq_ok.2 ⟨hname, hne, h⟩, hnot]
  | crowd hmem h =>
      have hnot : stage.present ≠ .of [i] := fun hpresent => by
        have := hone hpresent
        omega
      simp [exchange_of_crowd hname hmem h, hnot]

end Exchanges

end Dramatis.Stage
