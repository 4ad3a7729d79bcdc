import Dramatis.Proofs.Positions
import Dramatis.Proofs.Stage.Effects
import Dramatis.Proofs.Stage.Group

/-!
# Dramatis.Proofs.Stage.InTurn

Groups and single entrances or exits.  A group is checked against the stage as it was,
name by name, with a list of the positions already seen.  One actor after another is
checked against a stage that changes on the way.  Both come to the same, because
somebody who has been seen is somebody who has moved:

* either every step succeeds, and the group ends on the stage that the steps end on;
* or some step fails, and the group fails with the error of the first that does, on the
  stage as it was.
-/

namespace Dramatis

namespace Act

variable {σ β : Type}

/-- A step for each of a list, one after another until one fails. -/
def inTurn (step : β → Act σ Unit) : List β → Act σ Unit
  | [] => return ()
  | b :: bs => do step b; inTurn step bs

/-- An action does what steps do in turn if all of them succeed; else it fails with the
error of the first that does not, and has done nothing. -/
structure AllOrNothing (act : Act σ Unit) (step : β → Act σ Unit) (bs : List β) (s : σ) : Prop where
  answer_eq : (act.perform s).answer = ((inTurn step bs).perform s).answer
  state_of_ok : ((inTurn step bs).perform s).answer = .ok () →
    (act.perform s).state = ((inTurn step bs).perform s).state
  state_of_error : ∀ error, ((inTurn step bs).perform s).answer = .error error →
    (act.perform s).state = s

/-- When the first step succeeds the others decide how all of it goes. -/
theorem inTurn_cons_ok {step : β → Act σ Unit} {b : β} {s t : σ} {notices : List Notice}
    (h : (step b).perform s = ⟨.ok (), t, notices⟩) (bs : List β) :
    ((inTurn step (b :: bs)).perform s).answer = ((inTurn step bs).perform t).answer ∧
      ((inTurn step (b :: bs)).perform s).state = ((inTurn step bs).perform t).state := by
  rw [inTurn, perform_bind_ok h]
  exact ⟨rfl, rfl⟩

/-- When the first step fails all of it has failed. -/
theorem inTurn_cons_error {step : β → Act σ Unit} {b : β} {s t : σ} {error : Mistake}
    {notices : List Notice} (h : (step b).perform s = ⟨.error error, t, notices⟩) (bs : List β) :
    ((inTurn step (b :: bs)).perform s).answer = .error error := by
  rw [inTurn, perform_bind_error h]

end Act

namespace Stage

variable {α : Type}

/-! ## Passages -/

/-- The stage after some have moved, whoever moved last being first in the list. -/
def moved (move : Positions → Nat → Positions) (stage : Stage α) (seen : List Nat) : Stage α :=
  { stage with present := seen.foldr (fun i ps => move ps i) stage.present }

/-- One of the ways to move actors: how one is found, what is wrong with one found
before, and what becomes of those on stage.  Whoever has moved is found no more, just as
if found before, and for nobody else has anything changed. -/
structure Passage (α : Type) where
  locate : Stage α → String → Except Mistake Nat
  again : Stage α → Nat → Mistake
  move : Positions → Nat → Positions
  locate_moved : ∀ stage seen name, locate (stage.moved move seen) name =
    match locate stage name with
    | .ok i => if i ∈ seen then .error (again stage i) else .ok i
    | .error error => .error error

namespace Passage

variable {passage : Passage α} {stage : Stage α}

/-- The positions of a group, some others having been seen before it. -/
def group (passage : Passage α) (stage : Stage α) (seen : List Nat) (names : List String) :
    Except Mistake (List Nat) :=
  groupPositions (passage.locate stage) (passage.again stage) seen names

/-- Whoever has not been seen is found where they were. -/
theorem locate_moved_of_not_mem {seen : List Nat} {name : String} {i : Nat}
    (h : passage.locate stage name = .ok i) (hi : i ∉ seen) :
    passage.locate (stage.moved passage.move seen) name = .ok i := by
  simp only [passage.locate_moved, h, hi, ↓reduceIte]

/-- A step moves the one actor it is about, or fails and moves nobody. -/
structure IsStep (passage : Passage α) (step : String → Act (Stage α) Unit) : Prop where
  perform_ok : ∀ {stage name i}, passage.locate stage name = .ok i →
    ∃ notices, (step name).perform stage =
      ⟨.ok (), { stage with present := passage.move stage.present i }, notices⟩
  perform_error : ∀ {stage name error}, passage.locate stage name = .error error →
    (step name).perform stage = ⟨.error error, stage, []⟩

/-- An action on a group moves all it is about, or fails and moves nobody. -/
structure IsGroup (passage : Passage α) (act : List String → Act (Stage α) Unit) : Prop where
  perform_ok : ∀ {stage names is}, passage.group stage [] names = .ok is →
    ∃ notices, (act names).perform stage =
      ⟨.ok (), { stage with present := is.foldl passage.move stage.present }, notices⟩
  perform_error : ∀ {stage names error}, passage.group stage [] names = .error error →
    (act names).perform stage = ⟨.error error, stage, []⟩

/-! ## Steps in turn -/

variable {step : String → Act (Stage α) Unit}

/-- If a group passes, then so do its members in turn.  The induction is on the names;
those seen so far are those who have moved. -/
theorem IsStep.inTurn_ok (h : passage.IsStep step) {seen : List Nat} {names : List String}
    {is : List Nat} (hgroup : passage.group stage seen names = .ok is) :
    ((Act.inTurn step names).perform (stage.moved passage.move seen)).answer = .ok () ∧
      ((Act.inTurn step names).perform (stage.moved passage.move seen)).state =
        { stage with
          present := is.foldl passage.move (stage.moved passage.move seen).present } := by
  induction names generalizing seen is with
  | nil =>
      obtain rfl : [] = is := by simpa [group, groupPositions, pure, Except.pure] using hgroup
      exact ⟨rfl, rfl⟩
  | cons name names ih =>
      obtain ⟨i, js, hname, hi, hjs, rfl⟩ := groupPositions_cons_eq_ok.1 hgroup
      obtain ⟨notices, hstep⟩ := h.perform_ok (locate_moved_of_not_mem hname hi)
      obtain ⟨hanswer, hstate⟩ := Act.inTurn_cons_ok hstep names
      obtain ⟨hrest, hend⟩ := ih hjs
      exact ⟨hanswer.trans hrest, hstate.trans hend⟩

/-- If a group fails, then so does the step for the member it fails for, in the same way. -/
theorem IsStep.inTurn_error (h : passage.IsStep step) {seen : List Nat} {names : List String}
    {error : Mistake} (hgroup : passage.group stage seen names = .error error) :
    ((Act.inTurn step names).perform (stage.moved passage.move seen)).answer = .error error := by
  induction names generalizing seen with
  | nil => simp [group, groupPositions, pure, Except.pure] at hgroup
  | cons name names ih =>
      cases groupPositions_cons_eq_error.1 hgroup with
      | inl hname =>
          have hmoved : passage.locate (stage.moved passage.move seen) name = .error error := by
            simp only [passage.locate_moved, hname]
          exact Act.inTurn_cons_error (h.perform_error hmoved) names
      | inr hfound =>
          obtain ⟨i, hname, hagain⟩ := hfound
          cases hagain with
          | inl hseen =>
              obtain ⟨hi, hwrong⟩ := hseen
              have hmoved : passage.locate (stage.moved passage.move seen) name = .error error := by
                simp only [passage.locate_moved, hname, hi, ↓reduceIte, hwrong]
              exact Act.inTurn_cons_error (h.perform_error hmoved) names
          | inr hfresh =>
              obtain ⟨hi, hrest⟩ := hfresh
              obtain ⟨notices, hstep⟩ := h.perform_ok (locate_moved_of_not_mem hname hi)
              exact (Act.inTurn_cons_ok hstep names).1.trans (ih hrest)

/-- A group passes as its members would in turn, or not at all. -/
theorem IsStep.allOrNothing (hstep : passage.IsStep step)
    {act : List String → Act (Stage α) Unit} (hact : passage.IsGroup act) (names : List String)
    (stage : Stage α) : (act names).AllOrNothing step names stage := by
  cases hgroup : passage.group stage [] names with
  | ok is =>
      obtain ⟨notices, hperform⟩ := hact.perform_ok hgroup
      obtain ⟨hanswer, hstate⟩ := hstep.inTurn_ok hgroup
      change ((Act.inTurn step names).perform stage).answer = .ok () at hanswer
      constructor
      · rw [hperform, hanswer]
      · intro _
        rw [hperform]
        exact hstate.symm
      · intro error herror
        rw [hanswer] at herror
        contradiction
  | error error =>
      have hperform := hact.perform_error hgroup
      have hanswer : ((Act.inTurn step names).perform stage).answer = .error error :=
        hstep.inTurn_error hgroup
      constructor
      · rw [hperform, hanswer]
      · intro hok
        rw [hanswer] at hok
        contradiction
      · intro _ _
        rw [hperform]

end Passage

/-! ## Entrances and exits -/

/-- Those on stage after entrances are those who have entered and those who were on before. -/
theorem mem_moved_insert {stage : Stage α} {seen : List Nat} {i : Nat} :
    i ∈ (stage.moved .insert seen).present ↔ i ∈ seen ∨ i ∈ stage.present := by
  induction seen with
  | nil => simp [moved]
  | cons j seen ih =>
      have hcons : (stage.moved .insert (j :: seen)).present =
        (stage.moved .insert seen).present.insert j := rfl
      rw [hcons, Positions.mem_insert, ih, List.mem_cons, or_assoc]

theorem mem_moved_erase {stage : Stage α} {seen : List Nat} {i : Nat} :
    i ∈ (stage.moved .erase seen).present ↔ i ∈ stage.present ∧ i ∉ seen := by
  induction seen with
  | nil => simp [moved]
  | cons j seen ih =>
      have hcons : (stage.moved .erase (j :: seen)).present =
        (stage.moved .erase seen).present.erase j := rfl
      rw [hcons, Positions.mem_erase, ih, List.mem_cons, not_or, and_assoc, and_comm (a := ¬ i = j)]

variable [Actor α]

/-- Coming on stage. -/
def entrance : Passage α where
  locate := absentPosition
  again stage i := .alreadyPresent (stage.reportName i)
  move := .insert
  locate_moved stage seen name := by
    have hcast : (stage.moved .insert seen).cast = stage.cast := rfl
    have hreport : (stage.moved .insert seen).reportName = stage.reportName := rfl
    rw [absentPosition_eq, absentPosition_eq, hcast, hreport]
    cases stage.cast.position? name with
    | none => rfl
    | some i =>
        have hmoved : (stage.moved .insert seen).present.contains i =
            (decide (i ∈ seen) || stage.present.contains i) := by
          rw [Bool.eq_iff_iff, Positions.contains_iff, mem_moved_insert, Bool.or_eq_true,
            decide_eq_true_iff, Positions.contains_iff]
        cases hpresent : stage.present.contains i <;> by_cases hseen : i ∈ seen <;>
          simp [hmoved, hpresent, hseen]

/-- Going off stage. -/
def departure : Passage α where
  locate := presentPosition
  again stage i := .notPresent (stage.reportName i)
  move := .erase
  locate_moved stage seen name := by
    have hcast : (stage.moved .erase seen).cast = stage.cast := rfl
    have hreport : (stage.moved .erase seen).reportName = stage.reportName := rfl
    rw [presentPosition_eq, presentPosition_eq, hcast, hreport]
    cases stage.cast.position? name with
    | none => rfl
    | some i =>
        have hmoved : (stage.moved .erase seen).present.contains i =
            (stage.present.contains i && !decide (i ∈ seen)) := by
          rw [Bool.eq_iff_iff, Positions.contains_iff, mem_moved_erase, Bool.and_eq_true,
            Bool.not_eq_true', decide_eq_false_iff_not, Positions.contains_iff]
        cases hpresent : stage.present.contains i <;> by_cases hseen : i ∈ seen <;>
          simp [hmoved, hpresent, hseen]

/-- A group comes on stage by way of entrances. -/
theorem isGroup_bringOn : (entrance : Passage α).IsGroup bringOn where
  perform_ok {stage names is} his := by
    have hentering : stage.entering names = .ok is := his
    rw [perform_bringOn, hentering]
    exact ⟨_, rfl⟩
  perform_error {stage names error} herror := by
    have hentering : stage.entering names = .error error := herror
    rw [perform_bringOn, hentering]

theorem isGroup_sendOff : (departure : Passage α).IsGroup sendOff where
  perform_ok {stage names is} his := by
    have hleaving : stage.leaving names = .ok is := his
    rw [perform_sendOff, hleaving]
    exact ⟨_, rfl⟩
  perform_error {stage names error} herror := by
    have hleaving : stage.leaving names = .error error := herror
    rw [perform_sendOff, hleaving]

/-- To enter by oneself is to be a group of one. -/
theorem isStep_bringOn : (entrance : Passage α).IsStep fun name => bringOn [name] where
  perform_ok {stage name i} hi := by
    have hentering : stage.entering [name] = .ok [i] :=
      groupPositions_cons_ok hi List.not_mem_nil []
    rw [perform_bringOn, hentering]
    exact ⟨_, rfl⟩
  perform_error {stage name error} herror := by
    have hentering : stage.entering [name] = .error error := groupPositions_cons_error herror [] []
    rw [perform_bringOn, hentering]

/-- To leave by oneself is a single exit. -/
theorem isStep_dismiss : (departure : Passage α).IsStep dismiss where
  perform_ok {stage name i} hi := by
    have hpresent : stage.presentPosition name = .ok i := hi
    rw [perform_dismiss, hpresent]
    exact ⟨_, rfl⟩
  perform_error {stage name error} herror := by
    have hpresent : stage.presentPosition name = .error error := herror
    rw [perform_dismiss, hpresent]

/-! ## Groups -/

/-- A group that enters adds its members to those on stage, each counted once. -/
theorem headcount_of_bringOn {names : List String} {stage : Stage α}
    (h : ((bringOn names).perform stage).answer = .ok ()) :
    ((bringOn names).perform stage).state.headcount = stage.headcount + names.length := by
  rw [perform_bringOn] at h ⊢
  cases his : stage.entering names with
  | error error => simp [his] at h
  | ok is =>
      obtain ⟨hnames, hnodup⟩ := entering_eq_ok.1 his
      have hnew : ∀ i ∈ is, i ∉ stage.present := fun i hi => by
        obtain ⟨name, -, hname⟩ := (mem_groupPositions his).1 hi
        exact (absentPosition_eq_ok.1 hname).2
      rw [hnames.length_eq]
      exact Positions.size_insertAll hnodup hnew

/-- A group that leaves takes its members from those on stage, each counted once. -/
theorem headcount_of_sendOff {names : List String} {stage : Stage α}
    (h : ((sendOff names).perform stage).answer = .ok ()) :
    ((sendOff names).perform stage).state.headcount + names.length = stage.headcount := by
  rw [perform_sendOff] at h ⊢
  cases his : stage.leaving names with
  | error error => simp [his] at h
  | ok is =>
      obtain ⟨hnames, hnodup⟩ := leaving_eq_ok.1 his
      have hold : ∀ i ∈ is, i ∈ stage.present := fun i hi => by
        obtain ⟨name, -, hname⟩ := (mem_groupPositions his).1 hi
        exact (presentPosition_eq_ok.1 hname).2
      rw [hnames.length_eq]
      exact Positions.size_eraseAll hnodup hold

/-- A group enters as its members would one after another, and leaves as they would, or
nobody moves and the error is the one that would have come first.  Everybody in a group
that moves counts. -/
theorem groups_allOrNothing (names : List String) (stage : Stage α) :
    ((bringOn names).AllOrNothing (fun name => bringOn [name]) names stage ∧
      (((bringOn names).perform stage).answer = .ok () →
        ((bringOn names).perform stage).state.headcount = stage.headcount + names.length)) ∧
    ((sendOff names).AllOrNothing dismiss names stage ∧
      (((sendOff names).perform stage).answer = .ok () →
        ((sendOff names).perform stage).state.headcount + names.length = stage.headcount)) :=
  ⟨⟨isStep_bringOn.allOrNothing isGroup_bringOn names stage, headcount_of_bringOn⟩,
    isStep_dismiss.allOrNothing isGroup_sendOff names stage, headcount_of_sendOff⟩

/-- Two enter together; one who is named twice does not enter at all. -/
theorem groups_allOrNothing_two_characters :
    ∃ stage : Stage Character, stage.cast.names = ["Romeo", "Juliet"] ∧
      ((bringOn ["romeo", "JULIET"]).perform stage).state.headcount = stage.headcount + 2 ∧
      ((bringOn ["romeo", " Romeo"]).perform stage).state = stage := by
  refine ⟨ofCast ⟨[⟨"Romeo", none, none⟩, ⟨"Juliet", none, none⟩],
    [("Romeo", 0), ("Juliet", 1)]⟩, rfl, ?_, ?_⟩
  · exact (groups_allOrNothing ["romeo", "JULIET"] _).1.2 rfl
  · exact (groups_allOrNothing ["romeo", " Romeo"] _).1.1.state_of_error
      (.alreadyPresent "Romeo") rfl

end Stage

end Dramatis
