import Dramatis.Proofs.Text.CodePoint
import Dramatis.Text.Blank
import Dramatis.Text.Casing

/-!
# Dramatis.Proofs.Text.Casing

Facts about the case of every character:

* an image is never empty, and no image of a word's character is a blank;
* an image stays as it is when the same mapping is applied to it again;
* a blank is its own image, and the images of ASCII characters are those that the core
  library gives.

The tables move almost three thousand code points by fewer than five hundred
entries, so the facts are decided entry by entry: the images of a whole run lie in
an interval, which is compared with the first and the last member of every other
run. Only runs that overlap are compared member by member, and where runs lie next
to each other a whole block of them is compared at once.
-/

namespace Dramatis.Text

/-! ## Entries of a table as runs -/

namespace CaseRun

/-- The members of a run, ascending. -/
def members (run : CaseRun) : List Nat :=
  (List.range ((run.last - run.first) / run.step + 1)).map fun k => run.first + run.step * k

/-- A code point as a run of its own that stays where it is. -/
def point (n : Nat) : CaseRun := ⟨n, n, 1, n⟩

/-- The greatest image that a member can have. -/
def top (run : CaseRun) : Nat := run.target + (run.last - run.first)

/-- Whether no image of a run is a member of another one. -/
def clears (run other : CaseRun) : Bool :=
  Nat.blt run.top other.first || Nat.blt other.last run.target ||
    run.members.all fun n => !other.contains (run.image n)

/-- The least and the greatest code point between which some runs lie. -/
def hull (runs : List CaseRun) : Nat × Nat :=
  runs.foldr (fun run (low, high) => (min run.first low, max run.last high)) (0x110000, 0)

/-- Whether no image of a run is a member of any run of a block. -/
def clearsBlock (run : CaseRun) (block : List CaseRun) : Bool :=
  Nat.blt run.top (hull block).1 || Nat.blt (hull block).2 run.target || block.all run.clears

/-- Runs in blocks of a given size; what is left over makes the last block. -/
def blocks (size : Nat) : Nat → List CaseRun → List (List CaseRun)
  | 0, runs => [runs]
  | count + 1, runs => runs.take size :: blocks size count (runs.drop size)

/-- Whether no image of a run lies between two code points. -/
def avoids (run : CaseRun) (first last : Nat) : Bool :=
  Nat.blt run.top first || Nat.blt last run.target

/-- The members of a run lie between its ends, in steps from the first one. -/
theorem contains_iff {run : CaseRun} {n : Nat} :
    run.contains n = true ↔ run.first ≤ n ∧ n ≤ run.last ∧ (n - run.first) % run.step = 0 := by
  simp [contains, and_assoc]

/-- All members are listed. -/
theorem mem_members {run : CaseRun} {n : Nat} (h : run.contains n = true) : n ∈ run.members := by
  obtain ⟨hfirst, hlast, hstep⟩ := contains_iff.1 h
  have hsteps : run.step * ((n - run.first) / run.step) = n - run.first :=
    Nat.mul_div_cancel' (Nat.dvd_of_mod_eq_zero hstep)
  have hle : (n - run.first) / run.step ≤ (run.last - run.first) / run.step :=
    Nat.div_le_div_right (by omega)
  exact List.mem_map.2 ⟨(n - run.first) / run.step, List.mem_range.2 (by omega), by omega⟩

/-- No image lies before the image of the first member. -/
theorem target_le_image (run : CaseRun) (n : Nat) : run.target ≤ run.image n :=
  Nat.le_add_right _ _

/-- The images of members end where the run, moved as a whole, ends. -/
theorem image_le_top {run : CaseRun} {n : Nat} (h : run.contains n = true) :
    run.image n ≤ run.top := by
  obtain ⟨-, hlast, -⟩ := contains_iff.1 h
  unfold image top
  omega

/-- What the check of two runs decides: the images of the one are no members of the other. -/
theorem not_contains_image {run other : CaseRun} (hclears : run.clears other = true) {n : Nat}
    (h : run.contains n = true) : other.contains (run.image n) = false := by
  have hlow := run.target_le_image n
  have hhigh := image_le_top h
  simp only [clears, Bool.or_eq_true, Nat.blt_eq, List.all_eq_true] at hclears
  cases hclears with
  | inl hapart =>
      simp only [contains]
      grind
  | inr hmembers => simpa using hmembers n (mem_members h)

/-- Every run of a list lies within its hull. -/
theorem mem_hull {runs : List CaseRun} {run : CaseRun} (h : run ∈ runs) :
    (hull runs).1 ≤ run.first ∧ run.last ≤ (hull runs).2 := by
  induction runs with
  | nil => simp at h
  | cons other runs ih =>
      simp only [hull, List.foldr_cons] at ih ⊢
      cases List.mem_cons.1 h with
      | inl heq => exact heq ▸ ⟨Nat.min_le_left _ _, Nat.le_max_left _ _⟩
      | inr hlater =>
          obtain ⟨hlow, hhigh⟩ := ih hlater
          exact ⟨Nat.le_trans (Nat.min_le_right _ _) hlow,
            Nat.le_trans hhigh (Nat.le_max_right _ _)⟩

/-- Comparing a run with the hull of a block is as good as comparing it with each run of the
block. -/
theorem clears_of_clearsBlock {run other : CaseRun} {block : List CaseRun}
    (h : run.clearsBlock block = true) (hother : other ∈ block) : run.clears other = true := by
  obtain ⟨hlow, hhigh⟩ := mem_hull hother
  simp only [clearsBlock, Bool.or_eq_true, Nat.blt_eq] at h
  obtain (hbelow | habove) | hall := h
  · simp [clears, Nat.lt_of_lt_of_le hbelow hlow]
  · simp [clears, Nat.lt_of_le_of_lt hhigh habove]
  · exact List.all_eq_true.1 hall other hother

/-- Cutting runs into blocks loses none of them and keeps their order. -/
theorem flatten_blocks (size count : Nat) (runs : List CaseRun) :
    (blocks size count runs).flatten = runs := by
  induction count generalizing runs with
  | zero => simp [blocks]
  | succ count ih => rw [blocks, List.flatten_cons, ih, List.take_append_drop]

/-- What the check of a run against two code points decides: its images lie outside of them. -/
theorem image_lt_or_lt {run : CaseRun} {first last : Nat} (havoids : run.avoids first last = true)
    {n : Nat} (h : run.contains n = true) : run.image n < first ∨ last < run.image n := by
  have hlow := run.target_le_image n
  have hhigh := image_le_top h
  simp only [avoids, Bool.or_eq_true, Nat.blt_eq] at havoids
  omega

theorem contains_point {m n : Nat} : (point m).contains n = true ↔ n = m := by
  rw [contains_iff]
  simp only [point, Nat.mod_one, and_true]
  omega

end CaseRun

namespace CaseTable

/-- The code points that a table moves. -/
def domain (table : CaseTable) : List CaseRun :=
  table.runs ++ table.expansions.map fun entry => .point entry.1

/-- The images of the code points that a table moves: those of its runs, and the
parts of its expansions. -/
def images (table : CaseTable) : List CaseRun :=
  table.runs ++ table.expansions.flatMap fun entry => entry.2.map .point

/-- A code point that a table does not move is its own image. -/
theorem image_eq_self {table : CaseTable} {n : Nat}
    (h : ∀ run ∈ table.domain, run.contains n = false) : table.image n = [n] := by
  have hruns : table.runs.find? (·.contains n) = none :=
    List.find?_eq_none.2 fun run hrun => by simp [h run (List.mem_append_left _ hrun)]
  have hexpansions : table.expansions.lookup n = none := by
    refine List.lookup_eq_none_iff.2 fun entry hentry => bne_iff_ne.2 fun heq => ?_
    have hpoint := h (.point entry.1) (List.mem_append_right _ (List.mem_map_of_mem hentry))
    rw [CaseRun.contains_point.2 heq] at hpoint
    contradiction
  simp only [image, hruns, hexpansions, Option.getD_none]

/-- A code point is its own image, or its image is one of those listed. -/
theorem mem_image {table : CaseTable} {m n : Nat} (h : m ∈ table.image n) :
    table.image n = [n] ∧ m = n ∨
      ∃ run ∈ table.images, ∃ k, run.contains k = true ∧ m = run.image k := by
  simp only [image] at h ⊢
  cases hrun : table.runs.find? (·.contains n) with
  | some run =>
      simp only [hrun, List.mem_singleton] at h
      have hcontains : run.contains n = true := by simpa using List.find?_some hrun
      exact .inr ⟨run, List.mem_append_left _ (List.mem_of_find?_eq_some hrun), n, hcontains, h⟩
  | none =>
      simp only [hrun] at h
      cases hlookup : table.expansions.lookup n with
      | none =>
          simp only [hlookup, Option.getD_none, List.mem_singleton] at h
          exact .inl ⟨rfl, h⟩
      | some ms =>
          simp only [hlookup, Option.getD_some] at h
          obtain ⟨before, after, hsplit, -⟩ := List.lookup_eq_some_iff.1 hlookup
          have hmem : (n, ms) ∈ table.expansions := by simp [hsplit]
          have hpart : CaseRun.point m ∈ table.images :=
            List.mem_append_right _ (List.mem_flatMap.2 ⟨_, hmem, List.mem_map_of_mem h⟩)
          have hself : m = (CaseRun.point m).image m := by simp [CaseRun.image, CaseRun.point]
          exact .inr ⟨.point m, hpart, m, CaseRun.contains_point.2 rfl, hself⟩

/-! ## What is decided of a table -/

/-- Whether no image is moved again. -/
def settles (table : CaseTable) : Bool :=
  table.images.all fun run => table.domain.all run.clears

/-- Images may be compared with the domain block by block, which is faster to decide. -/
theorem settles_of_blocks {table : CaseTable} (size count : Nat)
    (h : (table.images.all fun run =>
      (CaseRun.blocks size count table.domain).all run.clearsBlock) = true) :
    table.settles = true := by
  refine List.all_eq_true.2 fun run hrun => List.all_eq_true.2 fun other hother => ?_
  rw [← CaseRun.flatten_blocks size count table.domain] at hother
  obtain ⟨block, hblock, hother⟩ := List.mem_flatten.1 hother
  have hclears := List.all_eq_true.1 (List.all_eq_true.1 h run hrun) block hblock
  exact CaseRun.clears_of_clearsBlock hclears hother

/-- Whether all images are code points of characters. -/
def staysInRange (table : CaseTable) : Bool :=
  table.images.all fun run =>
    Nat.blt run.top 0xD800 || (Nat.blt 0xDFFF run.target && Nat.blt run.top 0x110000)

/-- Whether no image is a blank. -/
def avoidsBlanks (table : CaseTable) : Bool :=
  table.images.all fun run => blankRanges.all fun (first, last) => run.avoids first last

/-- Whether every image holds something. -/
def hasNoHoles (table : CaseTable) : Bool := table.expansions.all fun entry => !entry.2.isEmpty

/-- A table that passes the four checks. -/
structure Lawful (table : CaseTable) : Prop where
  settles : table.settles = true
  staysInRange : table.staysInRange = true
  avoidsBlanks : table.avoidsBlanks = true
  hasNoHoles : table.hasNoHoles = true

namespace Lawful

variable {table : CaseTable}

/-- Every code point has an image. -/
theorem image_ne_nil (h : table.Lawful) (n : Nat) : table.image n ≠ [] := by
  simp only [image]
  split
  · exact List.cons_ne_nil _ _
  · cases hlookup : table.expansions.lookup n with
    | none => exact List.cons_ne_nil _ _
    | some ms =>
        obtain ⟨before, after, hsplit, -⟩ := List.lookup_eq_some_iff.1 hlookup
        have hholes := h.hasNoHoles
        simp only [CaseTable.hasNoHoles, hsplit, List.all_append, List.all_cons] at hholes
        grind

/-- An image is not moved again: none of the runs that the table moves holds it. -/
theorem image_of_mem_image (h : table.Lawful) {m n : Nat} (hm : m ∈ table.image n) :
    table.image m = [m] := by
  cases mem_image hm with
  | inl hsame => exact hsame.2 ▸ hsame.1
  | inr hmoved =>
      obtain ⟨run, hrun, k, hk, rfl⟩ := hmoved
      have hclears := List.all_eq_true.1 h.settles run hrun
      exact image_eq_self fun other hother =>
        CaseRun.not_contains_image (List.all_eq_true.1 hclears other hother) hk

/-- The image of a character is made of characters. -/
theorem isValidChar_of_mem_image (h : table.Lawful) {m n : Nat} (hn : n.isValidChar)
    (hm : m ∈ table.image n) : m.isValidChar := by
  cases mem_image hm with
  | inl hsame => exact hsame.2 ▸ hn
  | inr hmoved =>
      obtain ⟨run, hrun, k, hk, rfl⟩ := hmoved
      have hrange := List.all_eq_true.1 h.staysInRange run hrun
      have hlow := run.target_le_image k
      have hhigh := CaseRun.image_le_top hk
      simp only [Bool.or_eq_true, Bool.and_eq_true, Nat.blt_eq] at hrange
      unfold Nat.isValidChar
      omega

/-- A code point that moves does not move onto a blank. -/
theorem image_lt_or_lt (h : table.Lawful) {m n : Nat} (hm : m ∈ table.image n) :
    m = n ∨ ∀ range ∈ blankRanges, m < range.1 ∨ range.2 < m := by
  cases mem_image hm with
  | inl hsame => exact .inl hsame.2
  | inr hmoved =>
      obtain ⟨run, hrun, k, hk, rfl⟩ := hmoved
      have havoids := List.all_eq_true.1 h.avoidsBlanks run hrun
      exact .inr fun range hrange =>
        CaseRun.image_lt_or_lt (List.all_eq_true.1 havoids range hrange) hk

end Lawful

end CaseTable

/-- The table of capitals passes the four checks. -/
theorem lawful_upperTable : upperTable.Lawful where
  settles := CaseTable.settles_of_blocks 16 20 (by decide +kernel)
  staysInRange := by decide +kernel
  avoidsBlanks := by decide +kernel
  hasNoHoles := by decide +kernel

/-- The table of small letters passes the four checks. -/
theorem lawful_lowerTable : lowerTable.Lawful where
  settles := CaseTable.settles_of_blocks 16 20 (by decide +kernel)
  staysInRange := by decide +kernel
  avoidsBlanks := by decide +kernel
  hasNoHoles := by decide +kernel

/-! ## Blanks and ASCII -/

namespace CaseTable

/-- Whether no blank lies where a table moves anything. -/
def sparesBlanks (table : CaseTable) : Bool :=
  table.domain.all fun run => blankRanges.all fun (first, last) =>
    Nat.blt last run.first || Nat.blt run.last first

/-- Whether a table moves nothing below code point 128 but the members of its first run. -/
def sparesAscii (table : CaseTable) : Bool :=
  (table.runs.tail.all fun run => Nat.ble 128 run.first) &&
    table.expansions.all fun entry => Nat.ble 128 entry.1

/-- A table that has nothing to do with blanks, and little with ASCII. -/
structure Sparing (table : CaseTable) : Prop where
  sparesBlanks : table.sparesBlanks = true
  sparesAscii : table.sparesAscii = true

namespace Sparing

variable {table : CaseTable}

/-- A blank stays as it is. -/
theorem apply_of_isBlank (h : table.Sparing) {c : Char} (hc : isBlank c = true) :
    table.apply c = [c] := by
  obtain ⟨range, hrange, hin⟩ := List.any_eq_true.1 hc
  simp only [Bool.and_eq_true, decide_eq_true_eq] at hin
  have himage : table.image c.toNat = [c.toNat] := image_eq_self fun run hrun => by
    have hapart := List.all_eq_true.1 (List.all_eq_true.1 h.sparesBlanks run hrun) range hrange
    simp only [Bool.or_eq_true, Nat.blt_eq] at hapart
    grind [CaseRun.contains_iff]
  rw [apply, himage, List.map_singleton, Char.ofNat_toNat]

/-- On ASCII a table comes down to its first run. -/
theorem image_of_lt (h : table.Sparing) {run : CaseRun} {rest : List CaseRun}
    (hruns : table.runs = run :: rest) {n : Nat} (hn : n < 128) :
    table.image n = [if run.contains n then run.image n else n] := by
  have hascii := h.sparesAscii
  simp only [CaseTable.sparesAscii, hruns, List.tail_cons, Bool.and_eq_true, List.all_eq_true,
    Nat.ble_eq] at hascii
  obtain ⟨hrest, hexpansions⟩ := hascii
  cases hmember : run.contains n with
  | true => simp [image, hruns, hmember]
  | false =>
      refine image_eq_self fun other hother => ?_
      rw [domain, hruns, List.cons_append, List.mem_cons, List.mem_append, List.mem_map] at hother
      obtain rfl | hother | ⟨entry, hentry, rfl⟩ := hother
      · exact hmember
      · have := hrest other hother
        grind [CaseRun.contains_iff]
      · have := hexpansions entry hentry
        grind [CaseRun.contains_point]

end Sparing

end CaseTable

/-- The table of capitals spares blanks, and all of ASCII but its first run. -/
theorem sparing_upperTable : upperTable.Sparing where
  sparesBlanks := by decide +kernel
  sparesAscii := by decide +kernel

/-- The table of small letters spares blanks, and all of ASCII but its first run. -/
theorem sparing_lowerTable : lowerTable.Sparing where
  sparesBlanks := by decide +kernel
  sparesAscii := by decide +kernel

/-! ## Characters -/

namespace CaseTable.Lawful

variable {table : CaseTable} {c d : Char}

/-- No character maps to nothing. -/
theorem apply_ne_nil (h : table.Lawful) (c : Char) : table.apply c ≠ [] := by
  simp [CaseTable.apply, h.image_ne_nil]

/-- The characters of an image have the code points of the image, as all of these are valid. -/
theorem toNat_mem_image (h : table.Lawful) (hd : d ∈ table.apply c) :
    d.toNat ∈ table.image c.toNat := by
  obtain ⟨m, hm, rfl⟩ := List.mem_map.1 hd
  have hvalid : m.isValidChar := h.isValidChar_of_mem_image c.valid hm
  have hchar : Char.ofNat m = Char.ofNatAux m hvalid := dif_pos hvalid
  have htoNat : (Char.ofNatAux m hvalid).toNat = m := rfl
  rwa [hchar, htoNat]

/-- A mapping leaves alone what it has produced. -/
theorem apply_of_mem_apply (h : table.Lawful) (hd : d ∈ table.apply c) : table.apply d = [d] := by
  simp [CaseTable.apply, h.image_of_mem_image (h.toNat_mem_image hd)]

/-- No part of a word maps to a blank. -/
theorem isBlank_of_mem_apply (h : table.Lawful) (hc : isBlank c = false) (hd : d ∈ table.apply c) :
    isBlank d = false := by
  cases h.image_lt_or_lt (h.toNat_mem_image hd) with
  | inl heq => rwa [Char.toNat_inj.1 heq]
  | inr hout =>
      simp only [isBlank, List.any_eq_false, Bool.and_eq_true, decide_eq_true_eq, not_and]
      intro range hrange hle
      have := hout range hrange
      omega

end CaseTable.Lawful

section Characters

variable {c d : Char}

/-- Every character has a capital. -/
theorem upper_ne_nil (c : Char) : upper c ≠ [] := lawful_upperTable.apply_ne_nil c

/-- A character that stands in a capital is its own capital. -/
theorem upper_of_mem_upper (h : d ∈ upper c) : upper d = [d] :=
  lawful_upperTable.apply_of_mem_apply h

/-- The capital of a character within a word holds no blank. -/
theorem isBlank_of_mem_upper (hc : isBlank c = false) (h : d ∈ upper c) : isBlank d = false :=
  lawful_upperTable.isBlank_of_mem_apply hc h

/-- Every character has a small letter. -/
theorem lower_ne_nil (c : Char) : lower c ≠ [] := lawful_lowerTable.apply_ne_nil c

theorem lower_of_mem_lower (h : d ∈ lower c) : lower d = [d] :=
  lawful_lowerTable.apply_of_mem_apply h

theorem isBlank_of_mem_lower (hc : isBlank c = false) (h : d ∈ lower c) : isBlank d = false :=
  lawful_lowerTable.isBlank_of_mem_apply hc h

/-- A blank is its own capital. -/
theorem upper_of_isBlank (hc : isBlank c = true) : upper c = [c] :=
  sparing_upperTable.apply_of_isBlank hc

theorem lower_of_isBlank (hc : isBlank c = true) : lower c = [c] :=
  sparing_lowerTable.apply_of_isBlank hc

/-- On ASCII the tables are the letter mappings of the core library. -/
theorem upper_of_ascii (hc : c.toNat < 128) : upper c = [c.toUpper] := by
  let letters : CaseRun := ⟨0x61, 0x7A, 1, 0x41⟩
  have hletters :
      Char.ofNat (if letters.contains c.toNat then letters.image c.toNat else c.toNat) =
        c.toUpper := forall_char_lt c hc (by decide)
  rw [upper, CaseTable.apply, sparing_upperTable.image_of_lt rfl hc, List.map_singleton, hletters]

/-- On ASCII the table of small letters, too, is the mapping of the core library. -/
theorem lower_of_ascii (hc : c.toNat < 128) : lower c = [c.toLower] := by
  let letters : CaseRun := ⟨0x41, 0x5A, 1, 0x61⟩
  have hletters :
      Char.ofNat (if letters.contains c.toNat then letters.image c.toNat else c.toNat) =
        c.toLower := forall_char_lt c hc (by decide)
  rw [lower, CaseTable.apply, sparing_lowerTable.image_of_lt rfl hc, List.map_singleton, hletters]

end Characters

end Dramatis.Text
