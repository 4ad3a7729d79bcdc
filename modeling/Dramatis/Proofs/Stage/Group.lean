import Dramatis.Stage.Transition
import Mathlib.Data.List.Forall2

/-!
# Dramatis.Proofs.Stage.Group

When somebody is found on stage or off, and when a group can enter or leave.  The
names of a group have to stand for one position each, all different, and all off
stage or all on.  The positions come in the order of the names.
-/

namespace Dramatis.Stage

section Locating

variable {α : Type} [Actor α] {stage : Stage α} {name : String} {i : Nat}

/-- Somebody to be found on stage can be unknown, off stage, or found. -/
theorem presentPosition_eq (stage : Stage α) (name : String) :
    stage.presentPosition name =
      match stage.cast.position? name with
      | none => .error (.unknown (Name.normalize name))
      | some i =>
        if stage.present.contains i then .ok i else .error (.notPresent (stage.reportName i)) := by
  rw [presentPosition, Cast.position]
  cases stage.cast.position? name <;> rfl

/-- Somebody to be found off stage can be unknown, on stage, or found. -/
theorem absentPosition_eq (stage : Stage α) (name : String) :
    stage.absentPosition name =
      match stage.cast.position? name with
      | none => .error (.unknown (Name.normalize name))
      | some i =>
        if stage.present.contains i then .error (.alreadyPresent (stage.reportName i))
        else .ok i := by
  rw [absentPosition, Cast.position]
  cases stage.cast.position? name <;> rfl

/-- Somebody is found on stage exactly if the name stands for a position that is on stage. -/
theorem presentPosition_eq_ok :
    stage.presentPosition name = .ok i ↔
      stage.cast.position? name = some i ∧ i ∈ stage.present := by
  rw [presentPosition_eq, ← Positions.contains_iff]
  cases stage.cast.position? name with
  | none => simp
  | some j =>
      by_cases hj : stage.present.contains j = true
      · simp only [hj, ↓reduceIte]
        grind
      · simp only [hj, Bool.false_eq_true, ↓reduceIte]
        grind

theorem absentPosition_eq_ok :
    stage.absentPosition name = .ok i ↔
      stage.cast.position? name = some i ∧ i ∉ stage.present := by
  rw [absentPosition_eq, ← Positions.contains_iff]
  cases stage.cast.position? name with
  | none => simp
  | some j =>
      by_cases hj : stage.present.contains j = true
      · simp only [hj, ↓reduceIte]
        grind
      · simp only [hj, Bool.false_eq_true, ↓reduceIte]
        grind

/-- To require somebody on stage is to find them there and forget where. -/
theorem requirePresent_eq (stage : Stage α) (name : String) :
    stage.requirePresent name = (stage.presentPosition name).map fun _ => () := by
  rw [requirePresent]
  cases stage.presentPosition name <;> rfl

theorem requireAbsent_eq (stage : Stage α) (name : String) :
    stage.requireAbsent name = (stage.absentPosition name).map fun _ => () := by
  rw [requireAbsent]
  cases stage.absentPosition name <;> rfl

end Locating

/-! ## Groups -/

section Groups

variable {locate : String → Except Mistake Nat} {again : Nat → Mistake}

/-- A group is refused if its first name is. -/
theorem groupPositions_cons_error {name : String} {error : Mistake}
    (h : locate name = .error error) (seen : List Nat) (names : List String) :
    groupPositions locate again seen (name :: names) = .error error := by
  rw [groupPositions, h]
  rfl

/-- A group is refused if its first name stands for somebody seen before. -/
theorem groupPositions_cons_again {name : String} {i : Nat} (h : locate name = .ok i)
    {seen : List Nat} (hseen : i ∈ seen) (names : List String) :
    groupPositions locate again seen (name :: names) = .error (again i) := by
  have hcontains : seen.contains i = true := by simpa using hseen
  rw [groupPositions, h]
  simp only [bind, Except.bind, hcontains, ↓reduceIte]
  rfl

/-- A group that may go on to its second name has seen the position of its first. -/
theorem groupPositions_cons_ok {name : String} {i : Nat} (h : locate name = .ok i)
    {seen : List Nat} (hseen : i ∉ seen) (names : List String) :
    groupPositions locate again seen (name :: names) =
      (groupPositions locate again (i :: seen) names).map (i :: ·) := by
  have hcontains : seen.contains i = false := by simpa using hseen
  rw [groupPositions, h]
  simp only [bind, Except.bind, hcontains, Bool.false_eq_true, ↓reduceIte]
  cases groupPositions locate again (i :: seen) names <;> rfl

/-- A group of one is its member. -/
theorem groupPositions_singleton (name : String) :
    groupPositions locate again [] [name] = (locate name).map fun i => [i] := by
  cases hname : locate name with
  | error error => rw [groupPositions_cons_error hname, Except.map]
  | ok i =>
      rw [groupPositions_cons_ok hname List.not_mem_nil]
      rfl

/-- A group passes exactly if its first name is found, at a position not seen before, and the
others pass after it. -/
theorem groupPositions_cons_eq_ok {name : String} {seen : List Nat} {names : List String}
    {is : List Nat} :
    groupPositions locate again seen (name :: names) = .ok is ↔
      ∃ i js, locate name = .ok i ∧ i ∉ seen ∧
        groupPositions locate again (i :: seen) names = .ok js ∧ is = i :: js := by
  cases hname : locate name with
  | error error => simp [groupPositions_cons_error hname]
  | ok i =>
      by_cases hi : i ∈ seen
      · simp [groupPositions_cons_again hname hi, hi]
      · rw [groupPositions_cons_ok hname hi]
        cases hrest : groupPositions locate again (i :: seen) names with
        | error error => simp [Except.map, hrest]
        | ok js => simp [Except.map, hi, hrest, eq_comm]

/-- A group is refused for its first name, or for one of the others. -/
theorem groupPositions_cons_eq_error {name : String} {seen : List Nat} {names : List String}
    {error : Mistake} :
    groupPositions locate again seen (name :: names) = .error error ↔
      locate name = .error error ∨ ∃ i, locate name = .ok i ∧
        (i ∈ seen ∧ again i = error ∨
          i ∉ seen ∧ groupPositions locate again (i :: seen) names = .error error) := by
  cases hname : locate name with
  | error first => simp [groupPositions_cons_error hname]
  | ok i =>
      by_cases hi : i ∈ seen
      · simp [groupPositions_cons_again hname hi, hi]
      · rw [groupPositions_cons_ok hname hi]
        cases hrest : groupPositions locate again (i :: seen) names with
        | error first => simp [Except.map, hi, hrest]
        | ok js => simp [Except.map, hi, hrest]

/-- A group is accepted if each of its names is, and no position comes twice. -/
theorem groupPositions_eq_ok {seen : List Nat} {names : List String} {is : List Nat} :
    groupPositions locate again seen names = .ok is ↔
      List.Forall₂ (fun name i => locate name = .ok i) names is ∧ is.Nodup ∧
        ∀ i ∈ is, i ∉ seen := by
  induction names generalizing seen is with
  | nil => cases is <;> simp [groupPositions, pure, Except.pure]
  | cons name names ih =>
      rw [groupPositions_cons_eq_ok, List.forall₂_cons_left_iff]
      constructor
      · rintro ⟨i, js, hname, hi, hjs, rfl⟩
        obtain ⟨hall, hnodup, hfresh⟩ := ih.1 hjs
        have hdiffers : i ∉ js := fun hmem => hfresh i hmem List.mem_cons_self
        have hseen : ∀ k ∈ js, k ∉ seen := fun k hk hmem =>
          hfresh k hk (List.mem_cons_of_mem i hmem)
        exact ⟨⟨i, js, hname, hall, rfl⟩, List.nodup_cons.2 ⟨hdiffers, hnodup⟩,
          List.forall_mem_cons.2 ⟨hi, hseen⟩⟩
      · rintro ⟨⟨i, js, hname, hall, rfl⟩, hnodup, hfresh⟩
        obtain ⟨hdiffers, hnodup⟩ := List.nodup_cons.1 hnodup
        obtain ⟨hi, hseen⟩ := List.forall_mem_cons.1 hfresh
        have hrest : ∀ k ∈ js, k ∉ i :: seen := fun k hk =>
          List.not_mem_cons_of_ne_of_not_mem (fun heq => hdiffers (heq ▸ hk)) (hseen k hk)
        exact ⟨i, js, hname, hi, ih.2 ⟨hall, hnodup, hrest⟩, rfl⟩

/-- Only the names of the group are looked for, and only those found are reported. -/
theorem groupPositions_congr {locate' : String → Except Mistake Nat} {again' : Nat → Mistake}
    {names : List String} (hlocate : ∀ name ∈ names, locate name = locate' name)
    (hagain : ∀ name ∈ names, ∀ i, locate name = .ok i → again i = again' i) (seen : List Nat) :
    groupPositions locate again seen names = groupPositions locate' again' seen names := by
  induction names generalizing seen with
  | nil => rfl
  | cons name names ih =>
      obtain ⟨hhead, hrest⟩ := List.forall_mem_cons.1 hlocate
      obtain ⟨hfound, hagain⟩ := List.forall_mem_cons.1 hagain
      cases hname : locate name with
      | error error =>
          rw [groupPositions_cons_error hname, groupPositions_cons_error (hhead ▸ hname)]
      | ok i =>
          by_cases hi : i ∈ seen
          · rw [groupPositions_cons_again hname hi, hfound i hname,
              groupPositions_cons_again (hhead ▸ hname) hi]
          · rw [groupPositions_cons_ok hname hi, ih hrest hagain,
              groupPositions_cons_ok (hhead ▸ hname) hi]

/-- The positions of an accepted group are those at which its names are found. -/
theorem mem_groupPositions {seen : List Nat} {names : List String} {is : List Nat}
    (h : groupPositions locate again seen names = .ok is) {i : Nat} :
    i ∈ is ↔ ∃ name ∈ names, locate name = .ok i := by
  induction names generalizing seen is with
  | nil =>
      obtain rfl : [] = is := by simpa [groupPositions, pure, Except.pure] using h
      simp
  | cons name names ih =>
      obtain ⟨j, js, hname, -, hjs, rfl⟩ := groupPositions_cons_eq_ok.1 h
      rw [List.mem_cons, ih hjs, List.exists_mem_cons_iff, hname, Except.ok.injEq, eq_comm]

/-- Every name of an accepted group is found. -/
theorem exists_position_of_groupPositions {seen : List Nat} {names : List String} {is : List Nat}
    (h : groupPositions locate again seen names = .ok is) {name : String} (hmem : name ∈ names) :
    ∃ i, locate name = .ok i := by
  obtain ⟨hall, -⟩ := groupPositions_eq_ok.1 h
  obtain ⟨hlength, hfound⟩ := List.forall₂_iff_get.1 hall
  obtain ⟨k, hk, rfl⟩ := List.mem_iff_getElem.1 hmem
  exact ⟨_, hfound k hk (hlength ▸ hk)⟩

/-- Where finding somebody means finding what the name stands for, the positions of an
accepted group are those for which its names stand. -/
theorem mem_groupPositions_iff {position? : String → Option Nat}
    (hlocate : ∀ {name i}, locate name = .ok i → position? name = some i) {seen : List Nat}
    {names : List String} {is : List Nat} (h : groupPositions locate again seen names = .ok is)
    {i : Nat} : i ∈ is ↔ ∃ name ∈ names, position? name = some i := by
  rw [mem_groupPositions h]
  refine exists_congr fun name => and_congr_right fun hmem => ?_
  obtain ⟨j, hj⟩ := exists_position_of_groupPositions h hmem
  rw [hj, hlocate hj, Except.ok.injEq, Option.some.injEq]

end Groups

section Groups

variable {α : Type} [Actor α] {stage : Stage α} {names : List String} {is : List Nat}

/-- A group can enter exactly if its names stand for different positions, all of them off stage.
-/
theorem entering_eq_ok :
    stage.entering names = .ok is ↔
      List.Forall₂ (fun name i => stage.cast.position? name = some i ∧ i ∉ stage.present) names is ∧
        is.Nodup := by
  rw [entering, groupPositions_eq_ok]
  simp [absentPosition_eq_ok]

/-- A group can leave exactly if its names stand for different positions, all of them on stage. -/
theorem leaving_eq_ok :
    stage.leaving names = .ok is ↔
      List.Forall₂ (fun name i => stage.cast.position? name = some i ∧ i ∈ stage.present) names is ∧
        is.Nodup := by
  rw [leaving, groupPositions_eq_ok]
  simp [presentPosition_eq_ok]

/-- A group of one enters as the one would. -/
theorem entering_singleton (stage : Stage α) (name : String) :
    stage.entering [name] = (stage.absentPosition name).map fun i => [i] :=
  groupPositions_singleton name

theorem leaving_singleton (stage : Stage α) (name : String) :
    stage.leaving [name] = (stage.presentPosition name).map fun i => [i] :=
  groupPositions_singleton name

/-- Those who enter are those whom a name of the group stands for. -/
theorem mem_entering (h : stage.entering names = .ok is) {i : Nat} :
    i ∈ is ↔ ∃ name ∈ names, stage.cast.position? name = some i :=
  mem_groupPositions_iff (fun hname => (absentPosition_eq_ok.1 hname).1) h

/-- Those who leave are those whom a name of the group stands for. -/
theorem mem_leaving (h : stage.leaving names = .ok is) {i : Nat} :
    i ∈ is ↔ ∃ name ∈ names, stage.cast.position? name = some i :=
  mem_groupPositions_iff (fun hname => (presentPosition_eq_ok.1 hname).1) h

end Groups

end Dramatis.Stage
