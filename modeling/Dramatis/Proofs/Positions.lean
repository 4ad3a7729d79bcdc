import Dramatis.Positions
import Mathlib.Data.List.Basic

/-!
# Dramatis.Proofs.Positions

How many members a set of positions has after insertions and erasures, and the sets with
one and with two members.
-/

namespace Dramatis.Positions

variable {ps : Positions} {i : Nat}

instance (i : Nat) (ps : Positions) : Decidable (i ∈ ps) :=
  inferInstanceAs (Decidable (i ∈ ps.toList))

@[simp] theorem insertAll_cons (ps : Positions) (i : Nat) (is : List Nat) :
    ps.insertAll (i :: is) = (ps.insert i).insertAll is := rfl

@[simp] theorem eraseAll_cons (ps : Positions) (i : Nat) (is : List Nat) :
    ps.eraseAll (i :: is) = (ps.erase i).eraseAll is := rfl

theorem length_insertAscending {js : List Nat} (h : i ∉ js) :
    (insertAscending i js).length = js.length + 1 := by
  induction js with
  | nil => rfl
  | cons j js ih =>
      obtain ⟨hij, hjs⟩ := List.ne_and_not_mem_of_not_mem_cons h
      rw [insertAscending]
      by_cases hlt : i < j
      · rw [if_pos hlt, List.length_cons]
      · rw [if_neg hlt, if_neg hij, List.length_cons, ih hjs, List.length_cons]

/-- A new member counts once. -/
theorem size_insert (h : i ∉ ps) : (ps.insert i).size = ps.size + 1 :=
  length_insertAscending h

/-- Putting back what was taken away. -/
theorem insert_erase (h : i ∈ ps) : (ps.erase i).insert i = ps := by
  refine ext fun k => ?_
  rw [mem_insert, mem_erase]
  by_cases hk : k = i
  · subst hk
    simp [h]
  · simp [hk]

/-- The lost member was counted once. -/
theorem size_erase (h : i ∈ ps) : (ps.erase i).size + 1 = ps.size := by
  have hgone : i ∉ ps.erase i := fun hmem => (mem_erase.1 hmem).2 rfl
  rw [← size_insert hgone, insert_erase h]

/-- Every new member counts. -/
theorem size_insertAll {is : List Nat} (hnodup : is.Nodup) (hnew : ∀ i ∈ is, i ∉ ps) :
    (ps.insertAll is).size = ps.size + is.length := by
  induction is generalizing ps with
  | nil => rfl
  | cons i is ih =>
      obtain ⟨hi, his⟩ := List.nodup_cons.1 hnodup
      have hfirst : i ∉ ps := hnew i List.mem_cons_self
      have hrest : ∀ k ∈ is, k ∉ ps.insert i := fun k hk => by
        rw [mem_insert, not_or]
        exact ⟨fun heq => hi (heq ▸ hk), hnew k (List.mem_cons_of_mem i hk)⟩
      rw [insertAll_cons, ih his hrest, size_insert hfirst, List.length_cons]
      omega

/-- Every lost member counts. -/
theorem size_eraseAll {is : List Nat} (hnodup : is.Nodup) (hold : ∀ i ∈ is, i ∈ ps) :
    (ps.eraseAll is).size + is.length = ps.size := by
  induction is generalizing ps with
  | nil => rfl
  | cons i is ih =>
      obtain ⟨hi, his⟩ := List.nodup_cons.1 hnodup
      have hfirst : (ps.erase i).size + 1 = ps.size := size_erase (hold i List.mem_cons_self)
      have hrest : ∀ k ∈ is, k ∈ ps.erase i := fun k hk => by
        rw [mem_erase]
        exact ⟨hold k (List.mem_cons_of_mem i hk), fun heq => hi (heq ▸ hk)⟩
      have := ih his hrest
      rw [eraseAll_cons, List.length_cons]
      omega

/-! ## Sets of one and of two -/

/-- The set of the positions in a list. -/
def of (is : List Nat) : Positions := empty.insertAll is

/-- The set of a list has the members of the list. -/
@[simp] theorem mem_of {is : List Nat} {k : Nat} : k ∈ of is ↔ k ∈ is := by
  simp [of]

/-- A set of two does not tell which of them was named first. -/
theorem of_pair_comm (i j : Nat) : of [i, j] = of [j, i] :=
  ext fun k => by simp [or_comm]

/-- One position is listed exactly if it is all there is. -/
theorem toList_eq_singleton_iff : ps.toList = [i] ↔ ps = of [i] := by
  constructor
  · intro hlist
    exact ext fun k => by rw [mem_def, hlist, mem_of]
  · rintro rfl
    rfl

/-- Two positions are listed in their order. -/
theorem toList_eq_pair_iff {j : Nat} : ps.toList = [i, j] ↔ i < j ∧ ps = of [i, j] := by
  constructor
  · intro hlist
    have hascending := ps.ascending
    rw [hlist] at hascending
    refine ⟨by simpa using hascending, ext fun k => ?_⟩
    rw [mem_def, hlist, mem_of]
  · rintro ⟨hlt, rfl⟩
    have hnot : ¬ j < i := by omega
    have hne : ¬ j = i := by omega
    simp [of, insertAll, insert, insertAscending, empty, hnot, hne]

/-- The sets with one member. -/
theorem size_eq_one_iff : ps.size = 1 ↔ ∃ i, ps = of [i] := by
  rw [size, List.length_eq_one_iff]
  simp only [toList_eq_singleton_iff]

/-- The sets with two members, the smaller one named first. -/
theorem size_eq_two_iff : ps.size = 2 ↔ ∃ i j, i < j ∧ ps = of [i, j] := by
  rw [size, List.length_eq_two]
  simp only [toList_eq_pair_iff]

theorem size_of_singleton (i : Nat) : (of [i]).size = 1 := rfl

/-- Two different positions are two members. -/
theorem size_of_pair {j : Nat} (h : j ≠ i) : (of [i, j]).size = 2 := by
  rw [size_eq_two_iff]
  cases Nat.lt_or_gt_of_ne h with
  | inl hlt => exact ⟨j, i, hlt, of_pair_comm i j⟩
  | inr hgt => exact ⟨i, j, hgt, rfl⟩

/-- A set from the point of view of one position: it is out of the set, or the only
member, or has one companion, or has several. -/
inductive Company (ps : Positions) (i : Nat) : Prop
  | absent (h : i ∉ ps)
  | alone (h : ps = of [i])
  | facing (j : Nat) (hne : j ≠ i) (h : ps = of [i, j])
  | crowd (hmem : i ∈ ps) (h : 2 < ps.size)

/-- Every position is in one of the four situations. -/
theorem company (ps : Positions) (i : Nat) : ps.Company i := by
  by_cases hmem : i ∈ ps
  · obtain hnone | hone | htwo | hmore : ps.size = 0 ∨ ps.size = 1 ∨ ps.size = 2 ∨ 2 < ps.size := by
      omega
    · have hlist : ps.toList = [] := List.length_eq_zero_iff.1 hnone
      rw [mem_def, hlist] at hmem
      contradiction
    · obtain ⟨j, rfl⟩ := size_eq_one_iff.1 hone
      obtain rfl : i = j := by simpa using hmem
      exact .alone rfl
    · obtain ⟨j, k, hlt, rfl⟩ := size_eq_two_iff.1 htwo
      obtain rfl | rfl : i = j ∨ i = k := by simpa using hmem
      · exact .facing k (by omega) rfl
      · exact .facing j (by omega) (of_pair_comm j i)
    · exact .crowd hmem hmore
  · exact .absent hmem

end Dramatis.Positions
