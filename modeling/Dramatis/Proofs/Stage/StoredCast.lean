import Dramatis.Proofs.Stage.Bounds

/-!
# Dramatis.Proofs.Stage.StoredCast

What becomes of a stage when another cast is stored in the place of its own.  The access to
its cast that a stage gives is to the whole of it, so this can be done; who is on stage is left
as it was, by position.

Everybody on stage is part of the cast after that exactly if the new cast reaches as far as
the last position on stage.  Directions never bring a position out of range by themselves, so
over a whole course of events it is the casts stored that decide (`forall_inRange_iff`).  A
cast with at least as many actors is always good, and a smaller one is not: somebody beyond its
end may have entered before (`inRange_store_iff`).
-/

namespace Dramatis

variable {α : Type} [Actor α]

/-! ## Casts -/

/-- The casts that there are: those that factories make, and what becomes of these when they
are those of stages. -/
inductive Cast.IsMade : Cast α → Prop
  | assembled {σ : Type} {factory : Factory σ α} {personae : List Persona} {s : σ} {cast : Cast α}
      (h : ((assemble factory personae).perform s).answer = .ok cast) : IsMade cast
  | directed {stage : Stage α} (h : IsMade stage.cast) (direction : Direction α) :
      IsMade (direction.act.perform stage).state.cast

/-- A direction leaves the index of the cast one to one, whoever is on stage. -/
theorem Stage.Move.indexed {stage next : Stage α} (h : stage.Move next)
    (hindexed : stage.cast.Indexed) : next.cast.Indexed := by
  cases h with
  | put _ changed => exact ((sound_ofCast hindexed).put _ changed).indexed
  | stay | enter | leave | exit | clear | setFlag => exact hindexed

/-- The index of every cast that there is is one to one. -/
theorem Cast.IsMade.indexed {cast : Cast α} (h : cast.IsMade) : cast.Indexed := by
  induction h with
  | assembled h => exact (Cast.filed_of_assemble h).1.indexed
  | @directed stage _ direction ih => exact (direction.move_act stage).indexed ih

/-! ## Stages -/

/-- What can happen to a stage: a direction is carried out, or another cast is stored in the
place of its own. -/
inductive Event (α : Type) where
  | direct (direction : Direction α)
  | store (cast : Cast α)

namespace Stage

/-- Everybody on stage is part of the cast. -/
def InRange (stage : Stage α) : Prop := ∀ i ∈ stage.present, i < stage.cast.size

/-- A stage after another cast has been stored in the place of its own. -/
def store (stage : Stage α) (cast : Cast α) : Stage α :=
  ((onCast (Act.become cast)).perform stage).state

/-- A stage after an event. -/
def next (stage : Stage α) : Event α → Stage α
  | .direct direction => (direction.act.perform stage).state
  | .store cast => stage.store cast

/-- The stages that a course of events leads through, the first and the last one included. -/
def course (stage : Stage α) : List (Event α) → List (Stage α)
  | [] => [stage]
  | event :: events => stage :: (stage.next event).course events

/-- Whichever cast is stored in a course of events reaches as far as those on stage then. -/
def Fits (stage : Stage α) : List (Event α) → Prop
  | [] => True
  | .direct direction :: events => (stage.next (.direct direction)).Fits events
  | .store cast :: events => (∀ i ∈ stage.present, i < cast.size) ∧ (stage.store cast).Fits events

variable {stage : Stage α} {events : List (Event α)}

/-- The first stage of a course is the one that it starts from. -/
theorem mem_course (stage : Stage α) (events : List (Event α)) : stage ∈ stage.course events := by
  cases events <;> simp [course]

/-- Every event leaves the index of the cast one to one. -/
theorem indexed_next (h : stage.cast.Indexed) {event : Event α}
    (hevent : ∀ cast, event = .store cast → cast.IsMade) : (stage.next event).cast.Indexed := by
  cases event with
  | direct direction => exact (direction.move_act stage).indexed h
  | store cast => exact (hevent cast rfl).indexed

/-- Directions bring nobody out of range. -/
theorem InRange.direct (h : stage.InRange) (hindexed : stage.cast.Indexed)
    (direction : Direction α) : (stage.next (.direct direction)).InRange := by
  have hsound : stage.Sound stage.cast := ⟨rfl, rfl, hindexed, h⟩
  exact (hsound.of_move (direction.move_act stage)).present_lt

/-- The index of the cast is one to one throughout a course of events. -/
theorem indexed_of_mem_course (h : stage.cast.Indexed)
    (hmade : ∀ cast, .store cast ∈ events → cast.IsMade) {other : Stage α}
    (hother : other ∈ stage.course events) : other.cast.Indexed := by
  induction events generalizing stage with
  | nil =>
      obtain rfl : other = stage := by simpa [course] using hother
      exact h
  | cons event events ih =>
      rw [course, List.mem_cons] at hother
      cases hother with
      | inl heq => exact heq ▸ h
      | inr hlater =>
          have hnext : (stage.next event).cast.Indexed :=
            indexed_next h fun cast heq => hmade cast (by simp [heq])
          exact ih hnext (fun cast hcast => hmade cast (List.mem_cons_of_mem _ hcast)) hlater

/-- Everybody on stage is part of the cast throughout exactly if every cast that is stored
reaches as far as those on stage then.  The induction is on the events; an index that is one to
one is what directions need for bringing nobody out of range. -/
theorem forall_inRange_iff (h : stage.cast.Indexed) (hrange : stage.InRange)
    (hmade : ∀ cast, .store cast ∈ events → cast.IsMade) :
    (∀ other ∈ stage.course events, other.InRange) ↔ stage.Fits events := by
  induction events generalizing stage with
  | nil => simp [course, Fits, hrange]
  | cons event events ih =>
      have hnext : (stage.next event).cast.Indexed :=
        indexed_next h fun cast heq => hmade cast (by simp [heq])
      have hlater := fun hnextRange =>
        ih hnext hnextRange fun cast hcast => hmade cast (List.mem_cons_of_mem _ hcast)
      rw [course, List.forall_mem_cons]
      cases event with
      | direct direction => simp [Fits, hrange, hlater (hrange.direct h direction)]
      | store cast =>
          rw [Fits]
          constructor
          · intro ⟨_, hall⟩
            have hfits : (stage.store cast).InRange := hall _ (mem_course _ _)
            exact ⟨hfits, (hlater hfits).1 hall⟩
          · intro ⟨hfits, hrest⟩
            exact ⟨hrange, (hlater hfits).2 hrest⟩

omit [Actor α] in
/-- No direction reads beyond the cast exactly if everybody on stage is part of it: those on
stage are read as soon as they are listed. -/
theorem inRange_iff_reads_lt (h : stage.cast.Indexed) :
    stage.InRange ↔
      ∀ direction : Direction α, ∀ i ∈ direction.reads stage, i < stage.cast.size := by
  constructor
  · intro hrange direction
    have hsound : stage.Sound stage.cast := ⟨rfl, rfl, h, hrange⟩
    exact direction.reads_lt hsound
  · intro hreads
    exact hreads .presentActors

/-- A cast may be stored at any time during a play exactly if it has as many actors as the
stage's own cast, or more. -/
theorem inRange_store_iff {cast : Cast α} (h : cast.Indexed) (other : Cast α) :
    (∀ play, (((ofCast cast).after play).store other).InRange) ↔ cast.size ≤ other.size := by
  constructor
  · intro hall
    by_contra hsmaller
    -- The first actor beyond the end of the other cast enters, called by the key.
    obtain ⟨key, hkey, -⟩ := h.existsUnique_key (Nat.lt_of_not_le hsmaller)
    have hposition : (ofCast cast).cast.position? key = some other.size := by
      simp [ofCast, Cast.position?, hkey]
    have habsent : (ofCast cast).absentPosition key = .ok other.size :=
      absentPosition_eq_ok.2 ⟨hposition, Positions.not_mem_empty⟩
    have henters : other.size ∈ ((ofCast cast).after [.bringOn [key]]).present := by
      simp [after, Direction.act, Act.perform_bind_pure, perform_bringOn, entering_singleton,
        habsent, Except.map]
    exact Nat.lt_irrefl _ (hall [.bringOn [key]] _ henters)
  · intro hsize play i hi
    have hsound := (sound_ofCast h).after play
    calc i < ((ofCast cast).after play).cast.size := hsound.present_lt i hi
      _ = cast.size := hsound.size_eq
      _ ≤ other.size := hsize

/-- Whatever is directed and whichever casts are stored, from the assembly of a cast on: everybody
on stage is part of the cast throughout exactly if every cast that is stored reaches as far as those
on stage then, and in every stage that is come to this is what keeps all directions from reading
beyond the cast.  A cast may be stored at any time during a play exactly if it has as many actors as
the stage's own, or more. -/
theorem casts_stored {cast : Cast α} (h : cast.IsMade) :
    (∀ events : List (Event α), (∀ other, .store other ∈ events → other.IsMade) →
      ((∀ stage ∈ (ofCast cast).course events, stage.InRange) ↔ (ofCast cast).Fits events) ∧
      ∀ stage ∈ (ofCast cast).course events,
        (stage.InRange ↔
          ∀ direction : Direction α, ∀ i ∈ direction.reads stage, i < stage.cast.size)) ∧
    ∀ other : Cast α,
      (∀ play, (((ofCast cast).after play).store other).InRange) ↔ cast.size ≤ other.size := by
  have hindexed : (ofCast cast).cast.Indexed := h.indexed
  have hnobody : (ofCast cast).InRange := fun _ hi => absurd hi Positions.not_mem_empty
  refine ⟨fun events hmade => ⟨forall_inRange_iff hindexed hnobody hmade, ?_⟩, ?_⟩
  · intro stage hstage
    exact inRange_iff_reads_lt (indexed_of_mem_course hindexed hmade hstage)
  · exact inRange_store_iff h.indexed

/-- Romeo is on stage when a cast is stored in which Hamlet has the place of Romeo.  A cast of
nobody is too small. -/
theorem casts_stored_hamlet :
    ∃ cast hamlet : Cast Character, cast.IsMade ∧ hamlet.IsMade ∧
      (∀ stage ∈ (ofCast cast).course [.direct (.bringOn ["Romeo"]), .store hamlet],
        stage.InRange) ∧
      (((ofCast cast).after [.bringOn ["Romeo"]]).store hamlet).presentNames = ["Hamlet"] ∧
      ¬ ∀ play, (((ofCast cast).after play).store Cast.empty).InRange := by
  have hromeo : ((Cast.ofPersonae [⟨"Romeo", none, none⟩, ⟨"Juliet", none, none⟩]).perform
      ()).answer = .ok ⟨[⟨"Romeo", none, none⟩, ⟨"Juliet", none, none⟩],
        [("Romeo", 0), ("Juliet", 1)]⟩ := rfl
  have hhamlet : ((Cast.ofPersonae [⟨"Hamlet", none, none⟩]).perform ()).answer =
      .ok ⟨[⟨"Hamlet", none, none⟩], [("Hamlet", 0)]⟩ := rfl
  obtain ⟨hcourse, hany⟩ := casts_stored (.assembled hromeo)
  have hmade : ∀ other : Cast Character,
      .store other ∈ ([.direct (.bringOn ["Romeo"]),
        .store ⟨[⟨"Hamlet", none, none⟩], [("Hamlet", 0)]⟩] : List (Event Character)) →
      other.IsMade := by
    intro other hother
    obtain rfl : other = ⟨[⟨"Hamlet", none, none⟩], [("Hamlet", 0)]⟩ := by simpa using hother
    exact .assembled hhamlet
  have hfits : ∀ i ∈ [0], i < 1 := by decide
  refine ⟨_, _, .assembled hromeo, .assembled hhamlet, (hcourse _ hmade).1.2 ⟨hfits, trivial⟩,
    rfl, fun hall => ?_⟩
  exact absurd ((hany _).1 hall) (by decide)

/-- Somebody on stage can be left without a part in the cast. -/
theorem not_inRange_store :
    ¬ ∀ (cast other : Cast Character) (play : List (Direction Character)), cast.IsMade →
      other.IsMade → (((ofCast cast).after play).store other).InRange := by
  intro hall
  have hromeo : ((Cast.ofPersonae [⟨"Romeo", none, none⟩]).perform ()).answer =
      .ok ⟨[⟨"Romeo", none, none⟩], [("Romeo", 0)]⟩ := rfl
  have hnobody : ((Cast.ofPersonae []).perform ()).answer = .ok Cast.empty := rfl
  have hrange := hall _ _ [.bringOn ["Romeo"]] (.assembled hromeo) (.assembled hnobody) 0
    (by decide)
  exact Nat.not_lt_zero 0 hrange

end Stage

end Dramatis
