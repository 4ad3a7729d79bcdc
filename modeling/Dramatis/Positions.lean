/-!
# Dramatis.Positions

Finite sets of positions in a cast, kept in ascending order without repetition.
The order is part of the type, so two sets with the same members are equal.
-/

namespace Dramatis

/-- A finite set of positions, listed in ascending order. -/
structure Positions where
  toList : List Nat
  ascending : toList.Pairwise (· < ·)
deriving DecidableEq

namespace Positions

/-- The set without members. -/
def empty : Positions := ⟨[], .nil⟩

/-- Whether a position is a member. -/
def contains (ps : Positions) (i : Nat) : Bool := ps.toList.contains i

/-- How many members there are. -/
def size (ps : Positions) : Nat := ps.toList.length

/-- Whether there are no members. -/
def isEmpty (ps : Positions) : Bool := ps.toList.isEmpty

/-- Puts a position in its place in an ascending list, unless it is there. -/
def insertAscending (i : Nat) : List Nat → List Nat
  | [] => [i]
  | j :: js =>
    if i < j then i :: j :: js
    else if i = j then j :: js
    else j :: insertAscending i js

/-- Inserting adds one number and drops none. -/
theorem mem_insertAscending {i k : Nat} {js : List Nat} :
    k ∈ insertAscending i js ↔ k = i ∨ k ∈ js := by
  induction js with
  | nil => simp [insertAscending]
  | cons j js ih =>
    unfold insertAscending
    split
    · simp
    · split
      · next h => simp [h]
      · simp only [List.mem_cons, ih]
        exact or_left_comm

/-- A number is inserted at its place in the order, and only once. -/
theorem ascending_insertAscending (i : Nat) {js : List Nat} (h : js.Pairwise (· < ·)) :
    (insertAscending i js).Pairwise (· < ·) := by
  induction js with
  | nil => simp [insertAscending]
  | cons j js ih =>
    obtain ⟨hj, hjs⟩ := List.pairwise_cons.1 h
    unfold insertAscending
    split
    · next hij =>
      refine List.pairwise_cons.2 ⟨fun k hk => ?_, h⟩
      cases List.mem_cons.1 hk with
      | inl heq => exact heq ▸ hij
      | inr hmem => exact Nat.lt_trans hij (hj k hmem)
    · split
      · exact h
      · refine List.pairwise_cons.2 ⟨fun k hk => ?_, ih hjs⟩
        cases mem_insertAscending.1 hk with
        | inl heq => omega
        | inr hmem => exact hj k hmem

/-- The set with one more member. -/
def insert (ps : Positions) (i : Nat) : Positions :=
  ⟨insertAscending i ps.toList, ascending_insertAscending i ps.ascending⟩

/-- The set without one of its members. -/
def erase (ps : Positions) (i : Nat) : Positions :=
  ⟨ps.toList.filter (· != i), ps.ascending.filter _⟩

/-- The set with every position of a list added. -/
def insertAll (ps : Positions) (is : List Nat) : Positions := is.foldl insert ps

/-- The set without the positions of a list. -/
def eraseAll (ps : Positions) (is : List Nat) : Positions := is.foldl erase ps

/-! ## Membership -/

instance : Membership Nat Positions := ⟨fun ps i => i ∈ ps.toList⟩

theorem mem_def {ps : Positions} {i : Nat} : i ∈ ps ↔ i ∈ ps.toList := Iff.rfl

theorem contains_iff {ps : Positions} {i : Nat} : ps.contains i = true ↔ i ∈ ps := by
  simp [contains, mem_def]

@[simp] theorem not_mem_empty {i : Nat} : i ∉ empty := by simp [mem_def, empty]

@[simp] theorem mem_insert {ps : Positions} {i k : Nat} : k ∈ ps.insert i ↔ k = i ∨ k ∈ ps :=
  mem_insertAscending

@[simp] theorem mem_erase {ps : Positions} {i k : Nat} : k ∈ ps.erase i ↔ k ∈ ps ∧ k ≠ i := by
  simp [mem_def, erase]

/-- The only new members are those inserted. -/
@[simp] theorem mem_insertAll {ps : Positions} {is : List Nat} {k : Nat} :
    k ∈ ps.insertAll is ↔ k ∈ is ∨ k ∈ ps := by
  induction is generalizing ps with
  | nil => simp [insertAll]
  | cons i is ih =>
    have := @ih (ps.insert i)
    simp only [insertAll, List.foldl_cons] at this ⊢
    rw [this, mem_insert, List.mem_cons]
    exact or_left_comm.trans or_assoc.symm

/-- The only members lost are those erased. -/
@[simp] theorem mem_eraseAll {ps : Positions} {is : List Nat} {k : Nat} :
    k ∈ ps.eraseAll is ↔ k ∈ ps ∧ k ∉ is := by
  induction is generalizing ps with
  | nil => simp [eraseAll]
  | cons i is ih =>
    have := @ih (ps.erase i)
    simp only [eraseAll, List.foldl_cons] at this ⊢
    rw [this, mem_erase, List.mem_cons, not_or, and_assoc]

/-- A set is determined by its members. -/
theorem ext {ps qs : Positions} (h : ∀ i, i ∈ ps ↔ i ∈ qs) : ps = qs := by
  obtain ⟨xs, hx⟩ := ps
  obtain ⟨ys, hy⟩ := qs
  congr
  simp only [mem_def] at h
  induction xs generalizing ys with
  | nil => exact (List.eq_nil_iff_forall_not_mem.2 fun i hi => by simpa using (h i).2 hi).symm
  | cons x xs ih =>
    cases ys with
    | nil => simpa using (h x).1
    | cons y ys =>
      obtain ⟨hx, hxs⟩ := List.pairwise_cons.1 hx
      obtain ⟨hy, hys⟩ := List.pairwise_cons.1 hy
      have hxy : x = y := by
        cases List.mem_cons.1 ((h x).1 List.mem_cons_self) with
        | inl heq => exact heq
        | inr hxys =>
            cases List.mem_cons.1 ((h y).2 List.mem_cons_self) with
            | inl heq => exact heq.symm
            | inr hyxs => exact absurd (hy x hxys) (Nat.lt_asymm (hx y hyxs))
      subst hxy
      refine congrArg (x :: ·) (ih hxs ys hys fun i => ?_)
      have hi := h i
      simp only [List.mem_cons] at hi
      constructor
      · intro hm
        have := hx i hm
        exact (hi.1 (.inr hm)).resolve_left (by omega)
      · intro hm
        have := hy i hm
        exact (hi.2 (.inr hm)).resolve_left (by omega)

end Positions

end Dramatis
