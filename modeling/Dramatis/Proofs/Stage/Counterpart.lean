import Dramatis.Proofs.Cast.OwnName
import Dramatis.Proofs.Stage.Parallel

/-!
# Dramatis.Proofs.Stage.Counterpart

Questions for an actor, and changes of the actor.  To each direction that changes an actor there
is one that only asks for the actor: the actor a name stands for, be it asked of the stage or of
the cast, or the one whom a speaker addresses.

The two look for the actor in the same way, so they fail together and for the same reason, and
they write the same notices.  If they succeed, the change is made to the very actor that is the
answer to the question.  It may be any change, also one that gives the actor the name of somebody
else: names stand for positions by the index, which nothing touches, and so the question finds
the changed actor afterwards, and every other question finds whom it found before.
-/

namespace Dramatis

variable {α : Type}

namespace Stage

/-- The stage with another actor at a position of its cast. -/
def recast (stage : Stage α) (i : Nat) (actor : α) : Stage α :=
  { stage with cast := stage.cast.put i actor }

variable {stage : Stage α} {i : Nat} {actor changed : α} {name : String}

/-- Names stand for the positions that they stood for. -/
@[simp] theorem position?_recast : (stage.recast i changed).cast.position? = stage.cast.position? :=
  rfl

theorem actors_recast : (stage.recast i changed).cast.actors = stage.cast.actors.set i changed :=
  rfl

theorem size_recast : (stage.recast i changed).cast.size = stage.cast.size := List.length_set

/-- Whoever is put at a position is there. -/
theorem getElem?_recast_self (hactor : stage.cast.actors[i]? = some actor) :
    (stage.recast i changed).cast.actors[i]? = some changed :=
  List.getElem?_set_self (List.getElem?_eq_some_iff.1 hactor).1

/-- Names that stand for other positions find whom they found before. -/
theorem lookup_recast_of_ne (hname : stage.cast.position? name ≠ some i) :
    (stage.recast i changed).lookup name = stage.lookup name := by
  rw [lookup, lookup, Cast.lookup, Cast.lookup, Cast.position, Cast.position, position?_recast]
  cases hposition : stage.cast.position? name with
  | none => rfl
  | some j =>
      have hij : i ≠ j := fun heq => hname (heq ▸ hposition)
      simp only [bind, Except.bind, Cast.actorAt, actors_recast, List.getElem?_set_ne hij]

end Stage

/-! ## What directions for actors come to -/

variable {f : α → α} {i : Nat} {actor : α} {name : String}

namespace Cast

variable {cast : Cast α}

/-- The actor at a position is found if there is one. -/
theorem actorAt_eq_ok_iff : cast.actorAt i = .ok actor ↔ cast.actors[i]? = some actor := by
  rw [actorAt]
  cases cast.actors[i]? <;> simp

/-- Whoever is looked up is at the position that the name stands for. -/
theorem lookup_eq_ok_iff : cast.lookup name = .ok actor ↔
    ∃ i, cast.position? name = some i ∧ cast.actors[i]? = some actor := by
  rw [lookup, position]
  cases cast.position? name with
  | none => simp [bind, Except.bind]
  | some i => simp [bind, Except.bind, actorAt_eq_ok_iff]

/-- Whoever is found is changed in place. -/
theorem perform_change_of_position? (hname : cast.position? name = some i)
    (hactor : cast.actors[i]? = some actor) :
    (change name f).perform cast = ⟨.ok (f actor), cast.put i (f actor), []⟩ := by
  simp only [perform_change, position, hname, actorAt, hactor]

/-- Whoever cannot be looked up cannot be changed, for the same reason. -/
theorem perform_change_of_lookup_eq_error {error : Mistake}
    (h : cast.lookup name = .error error) :
    (change name f).perform cast = ⟨.error error, cast, []⟩ := by
  rw [perform_change]
  rw [lookup] at h
  cases hposition : cast.position name with
  | error first =>
      rw [hposition] at h
      rw [Except.error.inj h]
  | ok i =>
      simp only [hposition, bind, Except.bind] at h
      simp only [h]

end Cast

variable [Actor α]

namespace Direction

theorem perform_lookup (name : String) (stage : Stage α) :
    (lookup name).act.perform stage = ⟨(stage.cast.lookup name).map .actor, stage, []⟩ := by
  simp only [act, Act.perform_state_bind, Act.perform_bind_pure, Act.perform_ofExcept, Stage.lookup]

/-- A change of the stage is a change of its cast. -/
theorem perform_change (name : String) (f : α → α) (stage : Stage α) :
    (change name f).act.perform stage =
      ⟨((Cast.change name f).perform stage.cast).answer.map .actor,
        { stage with cast := ((Cast.change name f).perform stage.cast).state },
        ((Cast.change name f).perform stage.cast).notices⟩ := by
  simp only [act, Stage.change, Stage.onCast, Act.perform_within, Act.perform_bind_pure]

/-- The cast is asked for an actor as the stage is. -/
theorem perform_cast_lookup (name : String) (stage : Stage α) :
    (cast (.lookup name)).act.perform stage = (lookup name).act.perform stage := by
  simp only [act, CastOrder.act, Stage.onCast, Act.perform_within, Act.perform_state_bind,
    Act.perform_bind_pure, Act.perform_ofExcept, Stage.lookup]

/-- The cast is changed through the stage as it is by itself. -/
theorem perform_cast_change (name : String) (f : α → α) (stage : Stage α) :
    (cast (.change name f)).act.perform stage = (change name f).act.perform stage := by
  simp only [act, CastOrder.act, Stage.change, Stage.onCast, Act.perform_within,
    Act.perform_bind_pure]

end Direction

/-! ## Questions and changes of the answer -/

/-- A question that is answered with an actor, and the direction that changes the answer. -/
inductive Direction.Counterpart (f : α → α) : Direction α → Direction α → Prop
  | lookup (name : String) : Counterpart f (.lookup name) (.change name f)
  | addressee (name : String) : Counterpart f (.addressee name) (.changeAddressee name f)
  | cast (name : String) : Counterpart f (.cast (.lookup name)) (.cast (.change name f))

/-- How a question and the change of its answer come out on a stage. -/
inductive Stage.SideBySide (stage : Stage α) (f : α → α) (ask amend : Direction α) : Prop
  /-- There is nobody to be found, and both fail in the same way and without a trace. -/
  | fail {error : Mistake}
      (hnobody : ∀ i actor, ask.chosen stage = [i] → stage.cast.actors[i]? ≠ some actor)
      (hask : ask.act.perform stage = ⟨.error error, stage, []⟩)
      (hamend : amend.act.perform stage = ⟨.error error, stage, []⟩)
  /-- One reads and the other replaces the actor at the position that the question singles out. -/
  | find {i : Nat} {actor : α} {notices : List Notice} (hchosen : ask.chosen stage = [i])
      (hactor : stage.cast.actors[i]? = some actor)
      (hask : ask.act.perform stage = ⟨.ok (.actor actor), stage, notices⟩)
      (hamend : amend.act.perform stage =
        ⟨.ok (.actor (f actor)), stage.recast i (f actor), notices⟩)

namespace Stage

/-- A lookup and the change of whom it finds. -/
theorem sideBySide_lookup (stage : Stage α) (name : String) (f : α → α) :
    stage.SideBySide f (.lookup name) (.change name f) := by
  have hask := Direction.perform_lookup name stage
  have hamend := Direction.perform_change name f stage
  cases hlookup : stage.cast.lookup name with
  | error error =>
      rw [hlookup] at hask
      rw [Cast.perform_change_of_lookup_eq_error hlookup] at hamend
      refine .fail (fun i actor hchosen hactor => ?_) hask hamend
      have hname : stage.cast.position? name = some i := Option.toList_eq_singleton_iff.1 hchosen
      rw [Cast.lookup_of_position? hname hactor] at hlookup
      contradiction
  | ok actor =>
      obtain ⟨i, hname, hactor⟩ := Cast.lookup_eq_ok_iff.1 hlookup
      rw [hlookup] at hask
      rw [Cast.perform_change_of_position? hname hactor] at hamend
      exact .find (Option.toList_eq_singleton_iff.2 hname) hactor hask hamend

/-- A speaker singles out the position found opposite to its own. -/
theorem chosen_addressee_eq_iff {stage : Stage α} :
    (Direction.addressee name).chosen stage = [i] ↔
      ∃ speaker, stage.exchange name = .ok (speaker, i) := by
  simp only [Direction.chosen, Option.toList_eq_singleton_iff, Option.bind_eq_some_iff,
    exchange_eq_ok_iff_partner?]

/-- The question whom a speaker addresses and the change of that actor. -/
theorem sideBySide_addressee (stage : Stage α) (name : String) (f : α → α) :
    stage.SideBySide f (.addressee name) (.changeAddressee name f) := by
  have hask : (Direction.addressee name).act.perform stage = _ :=
    Act.perform_bind_pure (addressee name) Reply.actor stage
  have hamend : (Direction.changeAddressee name f).act.perform stage = _ :=
    Act.perform_bind_pure (changeAddressee name f) Reply.actor stage
  rw [perform_addressee] at hask
  rw [perform_changeAddressee] at hamend
  cases hexchange : stage.exchange name with
  | error error =>
      rw [hexchange] at hask hamend
      refine .fail (fun i actor hchosen _ => ?_) hask hamend
      obtain ⟨speaker, hok⟩ := chosen_addressee_eq_iff.1 hchosen
      rw [hok] at hexchange
      contradiction
  | ok pair =>
      have hchosen : (Direction.addressee name).chosen stage = [pair.2] :=
        chosen_addressee_eq_iff.2 ⟨pair.1, hexchange⟩
      cases hfound : stage.cast.actorAt pair.2 with
      | error error =>
          simp only [hexchange, hfound] at hask hamend
          refine .fail (fun i actor hi hactor => ?_) hask hamend
          obtain rfl : pair.2 = i := List.singleton_inj.1 (hchosen.symm.trans hi)
          rw [Cast.actorAt_eq_ok_iff.2 hactor] at hfound
          contradiction
      | ok actor =>
          simp only [hexchange, hfound] at hask hamend
          exact .find hchosen (Cast.actorAt_eq_ok_iff.1 hfound) hask hamend

end Stage

namespace Direction.Counterpart

variable {ask amend : Direction α} {stage : Stage α}

/-- A question and the change of its answer come out side by side, whichever they are. -/
theorem sideBySide (h : Counterpart f ask amend) (stage : Stage α) :
    stage.SideBySide f ask amend := by
  cases h with
  | lookup name => exact stage.sideBySide_lookup name f
  | addressee name => exact stage.sideBySide_addressee name f
  | cast name =>
      cases stage.sideBySide_lookup name f with
      | fail hnobody hask hamend =>
          rw [← perform_cast_lookup] at hask
          rw [← perform_cast_change] at hamend
          exact .fail hnobody hask hamend
      | find hchosen hactor hask hamend =>
          rw [← perform_cast_lookup] at hask
          rw [← perform_cast_change] at hamend
          exact .find hchosen hactor hask hamend

omit [Actor α] in
/-- Whom a question singles out depends on names and positions only. -/
theorem chosen_recast (h : Counterpart f ask amend) {changed : α} :
    ask.chosen (stage.recast i changed) = ask.chosen stage := by
  cases h <;> rfl

/-- If there is an actor to be found, that actor is the answer. -/
theorem answer_of_chosen (h : Counterpart f ask amend) (hchosen : ask.chosen stage = [i])
    (hactor : stage.cast.actors[i]? = some actor) :
    (ask.act.perform stage).answer = .ok (.actor actor) := by
  cases h.sideBySide stage with
  | fail hnobody _ _ => exact absurd hactor (hnobody i actor hchosen)
  | @find j other _ hj hother hask _ =>
      obtain rfl : i = j := List.singleton_inj.1 (hchosen.symm.trans hj)
      obtain rfl : actor = other := Option.some.inj (hactor.symm.trans hother)
      rw [hask]

end Direction.Counterpart

/-! ## A change touches one actor -/

/-- A change does nothing but change the actor that a question is answered with. -/
structure Stage.ChangesOnly (stage : Stage α) (f : α → α) (ask amend : Direction α) : Prop where
  /-- The change fails exactly if the question does, and for the same reason. -/
  error_iff : ∀ error, (amend.act.perform stage).answer = .error error ↔
    (ask.act.perform stage).answer = .error error
  notices_eq : (amend.act.perform stage).notices = (ask.act.perform stage).notices
  /-- The question leaves the stage alone, and so does a change that fails. -/
  state_ask : (ask.act.perform stage).state = stage
  state_of_error : ∀ error, (amend.act.perform stage).answer = .error error →
    (amend.act.perform stage).state = stage
  /-- The answer is the actor at some position.  The change is made there, the question is
  answered with the changed actor from then on, and names of other positions find whom they
  found before. -/
  changed : ∀ reply, (ask.act.perform stage).answer = .ok reply → ∃ i actor,
    reply = .actor actor ∧ ask.chosen stage = [i] ∧ stage.cast.actors[i]? = some actor ∧
      (amend.act.perform stage).answer = .ok (.actor (f actor)) ∧
      (amend.act.perform stage).state.cast.actors = stage.cast.actors.set i (f actor) ∧
      (ask.act.perform (amend.act.perform stage).state).answer = .ok (.actor (f actor)) ∧
      ∀ name, stage.cast.position? name ≠ some i →
        (amend.act.perform stage).state.lookup name = stage.lookup name
  position?_eq : (amend.act.perform stage).state.cast.position? = stage.cast.position?
  size_eq : (amend.act.perform stage).state.cast.size = stage.cast.size
  present_eq : (amend.act.perform stage).state.present = stage.present
  flag_eq : (amend.act.perform stage).state.flag = stage.flag

/-- What is seen side by side tells all that the change does. -/
theorem Direction.Counterpart.changesOnly {ask amend : Direction α} (h : Counterpart f ask amend)
    (stage : Stage α) : stage.ChangesOnly f ask amend := by
  cases h.sideBySide stage with
  | fail _ hask hamend =>
      have hsame : amend.act.perform stage = ask.act.perform stage := hamend.trans hask.symm
      have hstate : (ask.act.perform stage).state = stage := by rw [hask]
      refine ⟨fun _ => by rw [hsame], by rw [hsame], hstate, fun _ _ => by rw [hsame, hstate],
        fun reply hreply => ?_, ?_, ?_, ?_, ?_⟩
      · rw [hask] at hreply
        contradiction
      all_goals rw [hsame, hstate]
  | @find i actor notices hchosen hactor hask hamend =>
      have hagain : (ask.act.perform (stage.recast i (f actor))).answer = .ok (.actor (f actor)) :=
        h.answer_of_chosen (h.chosen_recast.trans hchosen) (Stage.getElem?_recast_self hactor)
      refine ⟨fun _ => ?_, ?_, ?_, fun _ herror => ?_, fun reply hreply => ?_, ?_, ?_, ?_, ?_⟩
      · simp [hask, hamend]
      · rw [hask, hamend]
      · rw [hask]
      · simp [hamend] at herror
      · obtain rfl : .actor actor = reply := by simpa [hask] using hreply
        rw [hamend]
        exact ⟨i, actor, rfl, hchosen, hactor, rfl, rfl, hagain,
          fun name hname => Stage.lookup_recast_of_ne hname⟩
      · rw [hamend, Stage.position?_recast]
      · rw [hamend, Stage.size_recast]
      · rw [hamend]
        rfl
      · rw [hamend]
        rfl

/-- On every stage, a change through a name and the lookup of that name find the same actor or
fail for the same reason, and so do a change of the actor whom a speaker addresses and the
question for that actor.  The changed actor is found where it was, whatever it is called now, and
for everybody else, for the names, for those on stage and for the boolean nothing changes. -/
theorem Stage.changes_only (stage : Stage α) (name : String) (f : α → α) :
    stage.ChangesOnly f (.lookup name) (.change name f) ∧
    stage.ChangesOnly f (.addressee name) (.changeAddressee name f) ∧
    stage.ChangesOnly f (.cast (.lookup name)) (.cast (.change name f)) :=
  ⟨Direction.Counterpart.changesOnly (.lookup name) stage,
    Direction.Counterpart.changesOnly (.addressee name) stage,
    Direction.Counterpart.changesOnly (.cast name) stage⟩

/-- Juliet, addressed by Romeo, takes his name.  She is the one whom he addresses afterwards, and
his name is still his. -/
theorem Stage.changes_only_renamed :
    ∃ stage : Stage Player, stage.presentNames = ["Romeo", "Juliet"] ∧
      let renamed := ((Direction.changeAddressee "romeo" fun player =>
        { player with name := "Romeo" }).act.perform stage).state
      renamed.presentNames = ["Romeo", "Romeo"] ∧
      ((Direction.addressee "romeo").act.perform renamed).answer =
        .ok (.actor ⟨"Romeo", 2, []⟩) ∧
      renamed.lookup "Romeo" = .ok ⟨"Romeo", 1, []⟩ := by
  let stage : Stage Player := ⟨⟨[⟨"Romeo", 1, []⟩, ⟨"Juliet", 2, []⟩],
    [("Romeo", 0), ("Juliet", 1)]⟩, .of [0, 1], false⟩
  obtain ⟨-, haddressee, -⟩ := changes_only stage "romeo" fun player =>
    { player with name := "Romeo" }
  obtain ⟨i, actor, hreply, hchosen, -, -, -, hagain, hothers⟩ :=
    haddressee.changed (.actor ⟨"Juliet", 2, []⟩) rfl
  obtain rfl : 1 = i := List.singleton_inj.1 hchosen
  obtain rfl : ⟨"Juliet", 2, []⟩ = actor := Reply.actor.inj hreply
  exact ⟨stage, rfl, rfl, hagain, hothers "Romeo" (by decide)⟩

end Dramatis
