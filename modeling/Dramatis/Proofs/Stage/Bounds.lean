import Dramatis.Proofs.Cast.Assembly
import Dramatis.Proofs.Stage.Reads
import Dramatis.Proofs.Stage.Run
import Mathlib.Logic.ExistsUnique

/-!
# Dramatis.Proofs.Stage.Bounds

Why no position is ever out of range.  A cast is assembled with one key for each of
its positions and with no other keys.  No direction touches the index or the number
of actors, and a position comes on stage only from the index.  So whatever a position
was found by, there is an actor at it.

This goes for every actor that a direction depends on.  `Direction.reads` and `Direction.passes`
list the positions of these, and by `Direction.dependsOnly_reads` there are no others.
-/

namespace Dramatis

variable {σ α : Type}

/-! ## Casts -/

/-- The index maps its keys one to one onto the positions of the actors. -/
structure Cast.Indexed (cast : Cast α) : Prop where
  keys_nodup : (cast.index.map Prod.fst).Nodup
  lt_size : ∀ {key : String} {i : Nat}, cast.positionOfKey? key = some i → i < cast.size
  existsUnique_key : ∀ {i : Nat}, i < cast.size → ∃! key, cast.positionOfKey? key = some i

namespace Cast

/-- A name leads to no position without an actor, be it a key itself or in its normal form. -/
theorem Indexed.position?_lt {cast : Cast α} (h : cast.Indexed) {name : String} {i : Nat}
    (hname : cast.position? name = some i) : i < cast.size := by
  rw [position?] at hname
  cases hkey : cast.positionOfKey? name with
  | some j =>
      rw [hkey] at hname
      obtain rfl : j = i := Option.some.inj hname
      exact h.lt_size hkey
  | none =>
      rw [hkey] at hname
      exact h.lt_size hname

variable [Actor α]

/-- If every actor is filed under its key then the index is one to one. -/
theorem Filed.indexed {cast : Cast α} (h : cast.Filed) : cast.Indexed where
  keys_nodup := by
    rw [h.index_eq, List.zipIdx_map_fst]
    exact h.keys_nodup
  lt_size hkey := by
    obtain ⟨actor, hactor, -⟩ := h.positionOfKey?_eq_some.1 hkey
    exact (List.getElem?_eq_some_iff.1 hactor).1
  existsUnique_key {i} hi := by
    have hactor : cast.actors[i]? = some cast.actors[i] := List.getElem?_eq_getElem hi
    refine ⟨Actor.key cast.actors[i], h.positionOfKey?_eq_some.2 ⟨_, hactor, rfl⟩, ?_⟩
    intro key hkey
    obtain ⟨actor, hother, rfl⟩ := h.positionOfKey?_eq_some.1 hkey
    rw [hactor, Option.some.injEq] at hother
    rw [hother]

end Cast

/-! ## Stages -/

namespace Stage

variable {built : Cast α} {stage : Stage α}

/-- A stage whose cast still has the index and the number of actors it was assembled
with, and on which nobody is out of range. -/
structure Sound (built : Cast α) (stage : Stage α) : Prop where
  index_eq : stage.cast.index = built.index
  size_eq : stage.cast.size = built.size
  indexed : stage.cast.Indexed
  present_lt : ∀ i ∈ stage.present, i < stage.cast.size

/-- Before the play nobody is on stage, so nobody is out of range. -/
theorem sound_ofCast (h : built.Indexed) : (ofCast built).Sound built where
  index_eq := rfl
  size_eq := rfl
  indexed := h
  present_lt _ hi := absurd hi Positions.not_mem_empty

/-- Another actor at a position of the cast changes nothing about the positions. -/
theorem Sound.put (h : stage.Sound built) (i : Nat) (actor : α) :
    ({ stage with cast := stage.cast.put i actor } : Stage α).Sound built := by
  have hsize : (stage.cast.put i actor).size = stage.cast.size := List.length_set
  refine ⟨h.index_eq, hsize.trans h.size_eq,
    ⟨h.indexed.keys_nodup, fun hkey => ?_, fun hj => ?_⟩, fun j hj => ?_⟩
  · rw [hsize]
    exact h.indexed.lt_size hkey
  · rw [hsize] at hj
    exact h.indexed.existsUnique_key hj
  · rw [hsize]
    exact h.present_lt j hj

/-- Nobody comes on stage but from the index. -/
theorem Sound.withPresent (h : stage.Sound built) {present : Positions}
    (hlt : ∀ i ∈ present, i ∈ stage.present ∨ ∃ name, stage.cast.position? name = some i) :
    ({ stage with present } : Stage α).Sound built := by
  refine ⟨h.index_eq, h.size_eq, h.indexed, fun i hi => ?_⟩
  cases hlt i hi with
  | inl hold => exact h.present_lt i hold
  | inr hnamed =>
      obtain ⟨name, hname⟩ := hnamed
      exact h.indexed.position?_lt hname

variable [Actor α]

/-- Whatever a move changes, it puts nobody out of range. -/
theorem Sound.of_move {next : Stage α} (h : stage.Sound built) (hmove : stage.Move next) :
    next.Sound built := by
  cases hmove with
  | stay => exact h
  | @enter names is his =>
      refine h.withPresent fun i hi => ?_
      rw [Positions.mem_insertAll] at hi
      cases hi with
      | inl hnew =>
          obtain ⟨name, -, hname⟩ := (mem_entering his).1 hnew
          exact .inr ⟨name, hname⟩
      | inr hold => exact .inl hold
  | leave _ => exact h.withPresent fun i hi => .inl (Positions.mem_eraseAll.1 hi).1
  | exit _ => exact h.withPresent fun i hi => .inl (Positions.mem_erase.1 hi).1
  | clear => exact h.withPresent fun i hi => absurd hi Positions.not_mem_empty
  | setFlag _ => exact ⟨h.index_eq, h.size_eq, h.indexed, h.present_lt⟩
  | put _ changed => exact h.put _ changed

/-- A whole play puts nobody out of range. -/
theorem Sound.after (h : stage.Sound built) (play : List (Direction α)) :
    (stage.after play).Sound built :=
  (kept_of_move Sound.of_move h play).1

end Stage

/-! ## What is read is there -/

/-- An order reads an actor only where the index leads. -/
theorem CastOrder.reads_lt {cast : Cast α} (h : cast.Indexed) (order : CastOrder α) :
    ∀ i ∈ order.reads cast, i < cast.size := by
  cases order with
  | lookup name | change name =>
      intro i hi
      exact h.position?_lt (Option.mem_toList.1 hi)
  | size | isEmpty | names | actors | contains => exact fun i hi => absurd hi List.not_mem_nil

/-- A direction reads an actor only where the index leads or where somebody is on stage. -/
theorem Direction.reads_lt {built : Cast α} {stage : Stage α} (h : stage.Sound built)
    (direction : Direction α) : ∀ i ∈ direction.reads stage, i < stage.cast.size := by
  intro i hi
  cases direction with
  | bringOn names | sendOff names =>
      obtain ⟨name, -, hname⟩ := List.mem_filterMap.1 hi
      exact h.indexed.position?_lt hname
  | dismiss name | requirePresent name | requireAbsent name | lookup name | change name =>
      exact h.indexed.position?_lt (Option.mem_toList.1 hi)
  | addressee name | changeAddressee name =>
      cases List.mem_append.1 hi with
      | inl hspeaker => exact h.indexed.position?_lt (Option.mem_toList.1 hspeaker)
      | inr hpartner =>
          obtain ⟨speaker, -, hpair⟩ := Option.bind_eq_some_iff.1 (Option.mem_toList.1 hpartner)
          exact h.present_lt i (Stage.mem_present_of_partner? hpair)
  | presentNames | presentActors | text | snapshot => exact h.present_lt i hi
  | pair =>
      rw [reads] at hi
      cases hpair : stage.pairPositions? with
      | none => simp [hpair] at hi
      | some pair =>
          obtain ⟨hleft, hright⟩ := Stage.mem_present_of_pairPositions? hpair
          rw [hpair] at hi
          cases List.mem_cons.1 hi with
          | inl heq => exact h.present_lt i (heq ▸ hleft)
          | inr hmem => exact h.present_lt i (List.mem_singleton.1 hmem ▸ hright)
  | cast order => exact order.reads_lt h.indexed i hi
  | clear | setFlag | flag | isPresent | headcount | absentNames | absentActors =>
      exact absurd hi List.not_mem_nil

/-- Going through a cast leads to no position beyond its end. -/
theorem CastOrder.passes_lt (order : CastOrder α) (cast : Cast α) :
    ∀ i ∈ order.passes cast, i < cast.size := by
  cases order with
  | names | actors => exact fun i => List.mem_range.1
  | size | isEmpty | contains | lookup | change => exact fun i hi => absurd hi List.not_mem_nil

/-- A direction on its way through the cast keeps to the cast. -/
theorem Direction.passes_lt (direction : Direction α) (stage : Stage α) :
    ∀ i ∈ direction.passes stage, i < stage.cast.size := by
  intro i hi
  cases direction with
  | absentNames | absentActors | text | snapshot => exact (Stage.mem_absentPositions.1 hi).1
  | cast order => exact order.passes_lt stage.cast i hi
  | _ => exact absurd hi List.not_mem_nil

/-- From the assembly of a cast on, whatever is done with it and on its stage, the
index maps its keys one to one onto the positions of the actors, index and number of
actors stay as they were, and everybody on stage has a position in range.  So whichever
direction comes next, there is an actor at every position it reads, and it depends on no actor
but those at the positions it reads or comes by. -/
theorem Stage.sound_of_assemble [Actor α] {factory : Factory σ α} {personae : List Persona} {s : σ}
    {cast : Cast α} (h : ((Cast.assemble factory personae).perform s).answer = .ok cast)
    (play : List (Direction α)) :
    ((ofCast cast).after play).Sound cast ∧
      ∀ direction : Direction α,
        (∀ i ∈ direction.reads ((ofCast cast).after play) ++
            direction.passes ((ofCast cast).after play),
          i < ((ofCast cast).after play).cast.size) ∧
        direction.DependsOnly ((ofCast cast).after play)
          (direction.reads ((ofCast cast).after play) ++
            direction.passes ((ofCast cast).after play)) := by
  obtain ⟨hfiled, -⟩ := Cast.filed_of_assemble h
  have hsound : ((ofCast cast).after play).Sound cast := (sound_ofCast hfiled.indexed).after play
  refine ⟨hsound, fun direction => ⟨fun i hi => ?_, direction.dependsOnly_reads _⟩⟩
  cases List.mem_append.1 hi with
  | inl hread => exact direction.reads_lt hsound i hread
  | inr hpassed => exact direction.passes_lt _ i hpassed

/-- Two players enter, a stranger does not, and one of the two is changed by the other. -/
theorem Stage.sound_of_assemble_two_players :
    ∃ cast : Cast Player,
      ((Cast.assemble .raw [⟨"Romeo", none, none⟩, ⟨"juliet", none, none⟩]).perform 0).answer =
        .ok cast ∧
      let stage := (ofCast cast).after [.bringOn ["juliet", "romeo"], .bringOn ["Hamlet"],
        .changeAddressee "Romeo" (Player.assign 7)]
      stage.headcount = 2 ∧ stage.Sound cast ∧
        (∀ i ∈ (Direction.addressee "Juliet").reads stage, i < stage.cast.size) ∧
        (Direction.addressee "Juliet").DependsOnly stage [1, 0] := by
  have hbuilt : ((Cast.assemble .raw
      [⟨"Romeo", none, none⟩, ⟨"juliet", none, none⟩]).perform 0).answer =
      .ok ⟨[⟨"Romeo", 1, []⟩, ⟨"juliet", 2, []⟩], [("Romeo", 0), ("Juliet", 1)]⟩ := rfl
  obtain ⟨hsound, hreads⟩ := sound_of_assemble hbuilt [.bringOn ["juliet", "romeo"],
    .bringOn ["Hamlet"], .changeAddressee "Romeo" (Player.assign 7)]
  obtain ⟨hlt, hdepends⟩ := hreads (.addressee "Juliet")
  exact ⟨_, hbuilt, rfl, hsound, fun i hi => hlt i (List.mem_append_left _ hi), hdepends⟩

end Dramatis
