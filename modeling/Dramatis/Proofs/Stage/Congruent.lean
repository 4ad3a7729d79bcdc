import Dramatis.Proofs.Stage.Exchange
import Dramatis.Proofs.Stage.Group

/-!
# Dramatis.Proofs.Stage.Congruent

Two stages with different actors.  They have as many actors, under the same keys, and the
same positions on stage; what the actors are, and what they are called now, may differ.

What decides whether a direction succeeds comes out alike on both: whom a name stands for
depends on the index, whether somebody can enter or leave on who is on stage, and who is
addressed on both.  The names of actors are read for the texts of mistakes only, so
mistakes are compared by their kinds.
-/

namespace Dramatis

variable {α β γ δ : Type}

/-! ## Kinds of mistakes -/

/-- What is wrong, without the names and places that a mistake tells. -/
inductive Mistake.Kind where
  | duplicate
  | unknown
  | alreadyPresent
  | notPresent
  | ambiguous
  | alone
  | refused
deriving DecidableEq

@[simp] def Mistake.kind : Mistake → Kind
  | duplicate _ _ => .duplicate
  | unknown _ => .unknown
  | alreadyPresent _ => .alreadyPresent
  | notPresent _ => .notPresent
  | ambiguous _ => .ambiguous
  | alone _ => .alone
  | refused _ _ _ => .refused

/-- Two answers that agree but for the words of a mistake: both are right and related, or
both are wrong, and for the same kind of reason. -/
inductive Concur (R : γ → δ → Prop) : Except Mistake γ → Except Mistake δ → Prop
  | ok {c : γ} {d : δ} (h : R c d) : Concur R (.ok c) (.ok d)
  | error {error other : Mistake} (h : error.kind = other.kind) :
      Concur R (.error error) (.error other)

namespace Concur

variable {R : γ → δ → Prop} {answer : Except Mistake γ} {other : Except Mistake δ}

/-- Answers related in one way are related in every weaker way. -/
theorem imp {S : γ → δ → Prop} (h : Concur R answer other) (himp : ∀ c d, R c d → S c d) :
    Concur S answer other := by
  cases h with
  | ok h => exact .ok (himp _ _ h)
  | error h => exact .error h

/-- What comes of answers that agree agrees if it does for right ones. -/
theorem map {γ' δ' : Type} {S : γ' → δ' → Prop} {f : γ → γ'} {g : δ → δ'}
    (h : Concur R answer other) (hmap : ∀ c d, R c d → S (f c) (g d)) :
    Concur S (answer.map f) (other.map g) := by
  cases h with
  | ok h => exact .ok (hmap _ _ h)
  | error h => exact .error h

/-- Two checks agree if their first parts do, and their second ones after answers that agree. -/
theorem bind {γ' δ' : Type} {S : γ' → δ' → Prop} {f : γ → Except Mistake γ'}
    {g : δ → Except Mistake δ'} (h : Concur R answer other)
    (hbind : ∀ c d, R c d → Concur S (f c) (g d)) : Concur S (answer >>= f) (other >>= g) := by
  cases h with
  | ok h => exact hbind _ _ h
  | error h => exact .error h

end Concur

namespace Stage

/-! ## Groups -/

/-- Groups whose names are found alike are accepted or refused alike. -/
theorem concur_groupPositions {locate locate' : String → Except Mistake Nat}
    {again again' : Nat → Mistake} (hlocate : ∀ name, Concur Eq (locate name) (locate' name))
    (hagain : ∀ i, (again i).kind = (again' i).kind) (seen : List Nat) (names : List String) :
    Concur Eq (groupPositions locate again seen names)
      (groupPositions locate' again' seen names) := by
  induction names generalizing seen with
  | nil => exact .ok rfl
  | cons name names ih =>
      have hname := hlocate name
      generalize hfirst : locate name = answer, hother : locate' name = other at hname
      cases hname with
      | error hkind =>
          rw [groupPositions_cons_error hfirst, groupPositions_cons_error hother]
          exact .error hkind
      | @ok i j heq =>
          subst heq
          by_cases hi : i ∈ seen
          · rw [groupPositions_cons_again hfirst hi, groupPositions_cons_again hother hi]
            exact .error (hagain i)
          · rw [groupPositions_cons_ok hfirst hi, groupPositions_cons_ok hother hi]
            exact (ih (i :: seen)).map fun is js heq => congrArg (i :: ·) heq

/-! ## Stages with different actors -/

/-- Two stages with as many actors, under the same keys, and the same positions on stage.
The actors and the boolean may be different ones. -/
structure Congruent (stage : Stage α) (other : Stage β) : Prop where
  index_eq : stage.cast.index = other.cast.index
  size_eq : stage.cast.size = other.cast.size
  present_eq : stage.present = other.present

namespace Congruent

variable {stage : Stage α} {other : Stage β}

/-- Names stand for the same positions. -/
theorem position?_eq (h : stage.Congruent other) :
    stage.cast.position? = other.cast.position? := by
  funext name
  simp only [Cast.position?, Cast.positionOfKey?, h.index_eq]

theorem isPresent_eq (h : stage.Congruent other) : stage.isPresent = other.isPresent := by
  funext name
  rw [isPresent, isPresent, h.position?_eq, h.present_eq]

theorem pairPositions?_eq (h : stage.Congruent other) :
    stage.pairPositions? = other.pairPositions? := by
  rw [pairPositions?, pairPositions?, h.present_eq]

theorem partner?_eq (h : stage.Congruent other) (i : Nat) :
    stage.partner? i = other.partner? i := by
  rw [partner?, partner?, h.pairPositions?_eq]

/-- Whoever is on stage, if it is the same positions. -/
theorem withPresent (h : stage.Congruent other) (present : Positions) :
    ({ stage with present } : Stage α).Congruent { other with present } :=
  ⟨h.index_eq, h.size_eq, rfl⟩

theorem withFlag (h : stage.Congruent other) (value value' : Bool) :
    ({ stage with flag := value } : Stage α).Congruent { other with flag := value' } :=
  ⟨h.index_eq, h.size_eq, h.present_eq⟩

/-- Whatever is put at a position. -/
theorem put (h : stage.Congruent other) (i : Nat) (actor : α) (actor' : β) :
    ({ stage with cast := stage.cast.put i actor } : Stage α).Congruent
      { other with cast := other.cast.put i actor' } := by
  refine ⟨h.index_eq, ?_, h.present_eq⟩
  simpa [Cast.put, Cast.size] using h.size_eq

/-- A name leads to the same position, or to none on either stage. -/
theorem concur_position (h : stage.Congruent other) (name : String) :
    Concur Eq (stage.cast.position name) (other.cast.position name) := by
  rw [Cast.position, Cast.position, h.position?_eq]
  cases other.cast.position? name with
  | none => exact .error rfl
  | some i => exact .ok rfl

/-- There is an actor at a position on both stages or on neither. -/
theorem concur_actorAt (h : stage.Congruent other) (i : Nat) :
    Concur (fun actor actor' => stage.cast.actors[i]? = some actor ∧
      other.cast.actors[i]? = some actor') (stage.cast.actorAt i) (other.cast.actorAt i) := by
  have hsize : stage.cast.actors.length = other.cast.actors.length := h.size_eq
  rw [Cast.actorAt, Cast.actorAt]
  by_cases hi : i < stage.cast.actors.length
  · have hi' : i < other.cast.actors.length := hsize ▸ hi
    rw [List.getElem?_eq_getElem hi, List.getElem?_eq_getElem hi']
    exact .ok ⟨rfl, rfl⟩
  · have hi' : ¬ i < other.cast.actors.length := hsize ▸ hi
    rw [List.getElem?_eq_none_iff.2 (by omega), List.getElem?_eq_none_iff.2 (by omega)]
    exact .error rfl

variable [Actor α] [Actor β]

/-- Somebody is found on stage alike. -/
theorem concur_presentPosition (h : stage.Congruent other) (name : String) :
    Concur Eq (stage.presentPosition name) (other.presentPosition name) := by
  refine (h.concur_position name).bind fun i _ heq => ?_
  rw [← heq, h.present_eq]
  cases other.present.contains i with
  | true => exact .ok rfl
  | false => exact .error (by simp)

theorem concur_absentPosition (h : stage.Congruent other) (name : String) :
    Concur Eq (stage.absentPosition name) (other.absentPosition name) := by
  refine (h.concur_position name).bind fun i _ heq => ?_
  rw [← heq, h.present_eq]
  cases other.present.contains i with
  | true => exact .error (by simp)
  | false => exact .ok rfl

theorem concur_requirePresent (h : stage.Congruent other) (name : String) :
    Concur Eq (stage.requirePresent name) (other.requirePresent name) :=
  (h.concur_presentPosition name).bind fun _ _ _ => .ok rfl

theorem concur_requireAbsent (h : stage.Congruent other) (name : String) :
    Concur Eq (stage.requireAbsent name) (other.requireAbsent name) :=
  (h.concur_absentPosition name).bind fun _ _ _ => .ok rfl

/-- A group can enter both stages or neither, and takes the same positions. -/
theorem concur_entering (h : stage.Congruent other) (names : List String) :
    Concur Eq (stage.entering names) (other.entering names) := by
  refine concur_groupPositions h.concur_absentPosition (fun i => ?_) [] names
  simp

/-- A group can leave both stages or neither, and frees the same positions. -/
theorem concur_leaving (h : stage.Congruent other) (names : List String) :
    Concur Eq (stage.leaving names) (other.leaving names) := by
  refine concur_groupPositions h.concur_presentPosition (fun i => ?_) [] names
  simp

/-- A speaker has an addressee on both stages or on neither, and at the same position. -/
theorem concur_exchange (h : stage.Congruent other) (name : String) :
    Concur Eq (stage.exchange name) (other.exchange name) := by
  have hposition := h.position?_eq
  cases hname : stage.cast.position? name with
  | none =>
      rw [exchange_of_unknown hname, exchange_of_unknown (hposition ▸ hname)]
      exact .error rfl
  | some i =>
      rw [exchange_eq hname, exchange_eq (hposition ▸ hname), h.partner?_eq, h.present_eq]
      cases other.partner? i with
      | some j => exact .ok rfl
      | none =>
          simp only
          split
          · exact .error (by simp)
          · split <;> exact .error (by simp)

end Congruent

end Stage

end Dramatis
