import Dramatis.Proofs.Stage.Counterpart
import Dramatis.Proofs.Stage.Reordered

/-!
# Dramatis.Proofs.Stage.DeclarationOrder

Plays of the same directions with the same personae declared in two orders.  At every step both
fail with the same mistake or both succeed, and they write the same notices.  Only a direction
that lists actors has two answers, and these differ in nothing but the order.

The two stages are reordered all the time: the bijection found when the casts were assembled
does for the whole play, since no step touches an index.
-/

namespace Dramatis

variable {α β : Type}

/-! ## Outcomes on reordered stages -/

/-- Two outcomes with the same answer and the same notices, which leave reordered stages. -/
structure Outcome.Reordered (π : Equiv.Perm Nat) (outcome other : Outcome (Stage α) β) : Prop
    extends outcome.Alike other where
  states : outcome.state.Reordered π other.state

/-- What is made of the answers afterwards does not count. -/
theorem Outcome.Reordered.bind_pure {γ : Type} {π : Equiv.Perm Nat} {act : Act (Stage α) β}
    {stage other : Stage α} (h : (act.perform stage).Reordered π (act.perform other))
    (f : β → γ) :
    ((act >>= fun b => pure (f b)).perform stage).Reordered π
      ((act >>= fun b => pure (f b)).perform other) := by
  refine ⟨h.toAlike.bind_pure f, ?_⟩
  rw [Act.perform_bind_pure, Act.perform_bind_pure]
  exact h.states

namespace Stage.Reordered

variable {π : Equiv.Perm Nat} {stage other : Stage α}

/-- Whatever fails in the same way on both leaves both as they are. -/
theorem fail (h : stage.Reordered π other) (error : Mistake) :
    Outcome.Reordered π (⟨.error error, stage, []⟩ : Outcome (Stage α) β)
      ⟨.error error, other, []⟩ :=
  ⟨⟨rfl, rfl⟩, h⟩

theorem reordered_clear (h : stage.Reordered π other) :
    ((clear : Act (Stage α) Unit).perform stage).Reordered π
      ((clear : Act (Stage α) Unit).perform other) := by
  have hsize : other.present.size = stage.present.size := h.headcount_eq
  have hempty : other.present.isEmpty = stage.present.isEmpty := by
    rw [Bool.eq_iff_iff, Positions.isEmpty, Positions.isEmpty, List.isEmpty_iff_length_eq_zero,
      List.isEmpty_iff_length_eq_zero]
    exact Eq.congr_left hsize
  rw [perform_clear, perform_clear, hsize, hempty]
  exact ⟨⟨rfl, rfl⟩, h.withPresent fun _ =>
    iff_of_false Positions.not_mem_empty Positions.not_mem_empty⟩

theorem reordered_setFlag (h : stage.Reordered π other) (value : Bool) :
    ((setFlag value).perform stage).Reordered π ((setFlag value).perform other) :=
  ⟨⟨rfl, rfl⟩, h.cast, h.mem_present_iff, rfl⟩

/-- A name finds the same actor to change. -/
theorem reordered_change (h : stage.Reordered π other) (name : String) (f : α → α) :
    ((change name f).perform stage).Reordered π ((change name f).perform other) := by
  rw [change, onCast, Act.perform_within, Act.perform_within, Cast.perform_change,
    Cast.perform_change, h.position_eq]
  cases stage.cast.position name with
  | error error => exact h.fail error
  | ok i =>
      simp only [Except.map, h.actorAt_eq]
      cases stage.cast.actorAt i with
      | error error => exact h.fail error
      | ok actor => exact ⟨⟨rfl, rfl⟩, h.put i (f actor)⟩

/-- A check that comes out alike on both stages, and a move of those who have passed it. -/
theorem reordered_move {ι : Type} (h : stage.Reordered π other)
    {check : Stage α → Except Mistake ι} {renamed : ι → ι}
    (hcheck : check other = (check stage).map renamed) {move : Positions → ι → Positions}
    (hmove : ∀ is, ({ stage with present := move stage.present is } : Stage α).Reordered π
      { other with present := move other.present (renamed is) })
    {notice : Stage α → ι → Nat → Notice}
    (hnotice : ∀ is count, notice other (renamed is) count = notice stage is count) :
    Outcome.Reordered π
      ((Act.state >>= fun stage => Act.ofExcept (check stage) >>= fun is =>
        Act.become { stage with present := move stage.present is } >>= fun _ =>
          Act.note (notice stage is (move stage.present is).size)).perform stage)
      ((Act.state >>= fun stage => Act.ofExcept (check stage) >>= fun is =>
        Act.become { stage with present := move stage.present is } >>= fun _ =>
          Act.note (notice stage is (move stage.present is).size)).perform other) := by
  rw [Act.perform_state_bind, Act.perform_state_bind, hcheck]
  cases check stage with
  | error error => exact h.fail error
  | ok is =>
      have hsize : (move other.present (renamed is)).size = (move stage.present is).size :=
        (hmove is).headcount_eq
      rw [Except.map, Act.perform_ofExcept_ok_bind, Act.perform_ofExcept_ok_bind, hsize, hnotice]
      exact ⟨⟨rfl, rfl⟩, hmove is⟩

variable [Actor α]

/-- A group enters both stages or neither. -/
theorem reordered_bringOn (h : stage.Reordered π other) (names : List String) :
    ((bringOn names).perform stage).Reordered π ((bringOn names).perform other) :=
  h.reordered_move (h.entering_eq names) h.insertAll fun is count =>
    congrArg (Notice.entered · count) (h.map_nameAt_eq is)

theorem reordered_sendOff (h : stage.Reordered π other) (names : List String) :
    ((sendOff names).perform stage).Reordered π ((sendOff names).perform other) :=
  h.reordered_move (h.leaving_eq names) h.eraseAll fun is count =>
    congrArg (Notice.leftTogether · count) (h.map_nameAt_eq is)

theorem reordered_dismiss (h : stage.Reordered π other) (name : String) :
    ((dismiss name).perform stage).Reordered π ((dismiss name).perform other) :=
  h.reordered_move (h.presentPosition_eq name) h.erase fun i count =>
    congrArg (Notice.leftAlone · count) (h.nameAt_eq i)

/-- A speaker addresses the same actor. -/
theorem reordered_addressee (h : stage.Reordered π other) (name : String) :
    ((addressee name).perform stage).Reordered π ((addressee name).perform other) := by
  rw [perform_addressee, perform_addressee, h.exchange_eq]
  cases stage.exchange name with
  | error error => exact h.fail error
  | ok pair =>
      simp only [Except.map, Prod.map, h.actorAt_eq, h.nameAt_eq]
      cases stage.cast.actorAt pair.2 with
      | error error => exact h.fail error
      | ok actor => exact ⟨⟨rfl, rfl⟩, h⟩

/-- A speaker addresses the same actor, who is changed where it is. -/
theorem reordered_changeAddressee (h : stage.Reordered π other) (name : String) (f : α → α) :
    ((changeAddressee name f).perform stage).Reordered π
      ((changeAddressee name f).perform other) := by
  rw [perform_changeAddressee, perform_changeAddressee, h.exchange_eq]
  cases stage.exchange name with
  | error error => exact h.fail error
  | ok pair =>
      simp only [Except.map, Prod.map, h.actorAt_eq, h.nameAt_eq]
      cases stage.cast.actorAt pair.2 with
      | error error => exact h.fail error
      | ok actor => exact ⟨⟨rfl, rfl⟩, h.put pair.2 (f actor)⟩

end Stage.Reordered

/-! ## Lists in another order -/

/-- Two answers that differ at most in the order in which they list actors. -/
inductive Reply.Reordered [Actor α] : Reply α → Reply α → Prop
  | same (reply : Reply α) : Reordered reply reply
  | names {names names' : List String} (h : names.Perm names') :
      Reordered (.names names) (.names names')
  | actors {actors actors' : List α} (h : actors.Perm actors') :
      Reordered (.actors actors) (.actors actors')
  | swapped (pair : Option (α × α)) : Reordered (.pair pair) (.pair (pair.map Prod.swap))
  | snapshot {snapshot snapshot' : Snapshot} (flag : snapshot.flag = snapshot'.flag)
      (present : snapshot.present.Perm snapshot'.present)
      (absent : snapshot.absent.Perm snapshot'.absent) :
      Reordered (.snapshot snapshot) (.snapshot snapshot')
  /-- The texts of two stages that have the same actors on and off. -/
  | text {stage other : Stage α} (flag : stage.flag = other.flag)
      (present : stage.presentActors.Perm other.presentActors)
      (absent : stage.absentActors.Perm other.absentActors) :
      Reordered (.text stage.text) (.text other.text)

/-- Those facing each other are the same two, or the same two the other way round. -/
theorem Stage.Reordered.pair?_eq {π : Equiv.Perm Nat} {stage other : Stage α}
    (h : stage.Reordered π other) :
    other.pair? = stage.pair? ∨ other.pair? = stage.pair?.map Prod.swap := by
  cases hpair : stage.pairPositions? with
  | none =>
      have hnot : other.pairPositions? = none := by
        rw [← Option.not_isSome_iff_eq_none, pairPositions?_isSome, h.headcount_eq,
          ← pairPositions?_isSome, hpair]
        exact Bool.false_ne_true
      rw [pair?, pair?, hpair, hnot]
      exact .inl rfl
  | some pair =>
      obtain ⟨i, j⟩ := pair
      obtain ⟨hlt, hpresent⟩ := pairPositions?_eq_some.1 hpair
      have hpresent' : other.present = .of [π i, π j] := (h.present_eq_of_iff [i, j]).2 hpresent
      have hne : π i ≠ π j := π.injective.ne (Nat.ne_of_lt hlt)
      cases Nat.lt_or_gt_of_ne hne with
      | inl hlt =>
          have hpair' := pairPositions?_eq_some.2 ⟨hlt, hpresent'⟩
          refine .inl ?_
          simp only [pair?, hpair, hpair', Option.bind_eq_bind, Option.bind_some, h.cast.actors_eq]
      | inr hgt =>
          have hpair' :=
            pairPositions?_eq_some.2 ⟨hgt, hpresent'.trans (Positions.of_pair_comm (π i) (π j))⟩
          refine .inr ?_
          simp only [pair?, hpair, hpair', Option.bind_eq_bind, Option.bind_some, h.cast.actors_eq]
          cases stage.cast.actors[i]? <;> cases stage.cast.actors[j]? <;> rfl

/-! ## Directions -/

/-- Whether the answer to an order is a list of actors or of their names. -/
def CastOrder.lists : CastOrder α → Bool
  | names | actors => true
  | _ => false

/-- Whether the answer to a direction is a list, or made of lists. -/
def Direction.lists : Direction α → Bool
  | presentNames | absentNames | presentActors | absentActors | pair | text | snapshot => true
  | cast order => order.lists
  | _ => false

section Directions

variable [Actor α] {π : Equiv.Perm Nat} {stage other : Stage α}

/-- A name finds the same actor. -/
theorem Direction.reordered_lookup (h : stage.Reordered π other) (name : String) :
    ((lookup name).act.perform stage).Reordered π ((lookup name).act.perform other) := by
  rw [perform_lookup, perform_lookup, h.lookup_eq]
  exact ⟨⟨rfl, rfl⟩, h⟩

/-- A direction that lists nobody has the same answer on reordered stages. -/
theorem Direction.reordered_of_not_lists {direction : Direction α}
    (hlists : direction.lists = false) (h : stage.Reordered π other) :
    (direction.act.perform stage).Reordered π (direction.act.perform other) := by
  cases direction with
  | presentNames | absentNames | presentActors | absentActors | pair | text | snapshot =>
      contradiction
  | bringOn names => exact (h.reordered_bringOn names).bind_pure _
  | sendOff names => exact (h.reordered_sendOff names).bind_pure _
  | dismiss name => exact (h.reordered_dismiss name).bind_pure _
  | clear => exact h.reordered_clear.bind_pure _
  | setFlag value => exact (h.reordered_setFlag value).bind_pure _
  | addressee name => exact (h.reordered_addressee name).bind_pure Reply.actor
  | changeAddressee name f => exact (h.reordered_changeAddressee name f).bind_pure Reply.actor
  | change name f => exact (h.reordered_change name f).bind_pure Reply.actor
  | requirePresent name =>
      simp only [act, Act.perform_state_bind, Act.perform_bind_pure, Act.perform_ofExcept,
        Stage.requirePresent_eq, h.presentPosition_eq]
      refine ⟨⟨?_, rfl⟩, h⟩
      cases stage.presentPosition name <;> rfl
  | requireAbsent name =>
      simp only [act, Act.perform_state_bind, Act.perform_bind_pure, Act.perform_ofExcept,
        Stage.requireAbsent_eq, h.absentPosition_eq]
      refine ⟨⟨?_, rfl⟩, h⟩
      cases stage.absentPosition name <;> rfl
  | lookup name => exact reordered_lookup h name
  | flag =>
      simp only [act, Act.perform_state_bind, Act.perform_pure, h.flag_eq]
      exact ⟨⟨rfl, rfl⟩, h⟩
  | isPresent name =>
      simp only [act, Act.perform_state_bind, Act.perform_pure, h.isPresent_eq]
      exact ⟨⟨rfl, rfl⟩, h⟩
  | headcount =>
      simp only [act, Act.perform_state_bind, Act.perform_pure, h.headcount_eq]
      exact ⟨⟨rfl, rfl⟩, h⟩
  | cast order =>
      cases order with
      | names | actors => contradiction
      | size =>
          simp only [act, CastOrder.act, Stage.onCast, Act.perform_within, Act.perform_state_bind,
            Act.perform_pure, h.size_eq]
          exact ⟨⟨rfl, rfl⟩, h⟩
      | isEmpty =>
          simp only [act, CastOrder.act, Stage.onCast, Act.perform_within, Act.perform_state_bind,
            Act.perform_pure, h.isEmpty_eq]
          exact ⟨⟨rfl, rfl⟩, h⟩
      | contains name =>
          simp only [act, CastOrder.act, Stage.onCast, Act.perform_within, Act.perform_state_bind,
            Act.perform_pure, Cast.contains, h.cast.position?_eq, Option.isSome_map]
          exact ⟨⟨rfl, rfl⟩, h⟩
      | lookup name =>
          rw [perform_cast_lookup, perform_cast_lookup]
          exact reordered_lookup h name
      | change name f =>
          rw [perform_cast_change, perform_cast_change]
          exact (h.reordered_change name f).bind_pure Reply.actor

/-- A direction that lists somebody does nothing else, and the lists agree but for the order. -/
theorem Direction.exists_reordered_of_lists {direction : Direction α}
    (hlists : direction.lists = true) (h : stage.Reordered π other) :
    ∃ reply reply', direction.act.perform stage = ⟨.ok reply, stage, []⟩ ∧
      direction.act.perform other = ⟨.ok reply', other, []⟩ ∧ reply.Reordered reply' := by
  have hpresent := h.perm_presentActors
  have habsent := h.perm_absentActors
  cases direction with
  | presentNames => exact ⟨_, _, rfl, rfl, .names (hpresent.map _)⟩
  | absentNames => exact ⟨_, _, rfl, rfl, .names (habsent.map _)⟩
  | presentActors => exact ⟨_, _, rfl, rfl, .actors hpresent⟩
  | absentActors => exact ⟨_, _, rfl, rfl, .actors habsent⟩
  | pair =>
      refine ⟨_, _, rfl, rfl, ?_⟩
      cases h.pair?_eq with
      | inl hsame =>
          rw [hsame]
          exact .same _
      | inr hswapped =>
          rw [hswapped]
          exact .swapped _
  | text => exact ⟨_, _, rfl, rfl, .text h.flag_eq hpresent habsent⟩
  | snapshot => exact ⟨_, _, rfl, rfl, .snapshot h.flag_eq (hpresent.map _) (habsent.map _)⟩
  | cast order =>
      cases order with
      | names => exact ⟨_, _, rfl, rfl, .names (h.perm_actors.map _)⟩
      | actors => exact ⟨_, _, rfl, rfl, .actors h.perm_actors⟩
      | size | isEmpty | contains | lookup | change => contradiction
  | _ => contradiction

end Directions

/-! ## Steps of two plays -/

variable [Actor α]

/-- Two stages that can be told apart by nothing but the order in which they list actors. -/
structure Stage.Interchangeable (stage other : Stage α) : Prop where
  lookup_eq : ∀ name, stage.lookup name = other.lookup name
  addressee_eq : ∀ name, ((addressee name).perform stage).answer =
    ((addressee name).perform other).answer
  isPresent_eq : ∀ name, stage.isPresent name = other.isPresent name
  headcount_eq : stage.headcount = other.headcount
  flag_eq : stage.flag = other.flag
  presentNames_perm : stage.presentNames.Perm other.presentNames
  absentNames_perm : stage.absentNames.Perm other.absentNames

/-- All that differs between reordered stages is the order in which they list actors. -/
theorem Stage.Reordered.interchangeable {π : Equiv.Perm Nat} {stage other : Stage α}
    (h : stage.Reordered π other) : stage.Interchangeable other where
  lookup_eq name := (h.lookup_eq name).symm
  addressee_eq name := (h.reordered_addressee name).answer_eq
  isPresent_eq name := (h.isPresent_eq name).symm
  headcount_eq := h.headcount_eq.symm
  flag_eq := h.flag_eq
  presentNames_perm := h.perm_presentActors.map _
  absentNames_perm := h.perm_absentActors.map _

/-- Two steps, of plays with the same cast declared in two orders, that go the same way. -/
structure Step.Reordered (step other : Step α) : Prop where
  direction_eq : step.direction = other.direction
  /-- One fails exactly if the other does, and with the same mistake. -/
  error_iff : ∀ error, step.outcome.answer = .error error ↔ other.outcome.answer = .error error
  /-- Whatever is found or counted is the same. -/
  answer_eq : step.direction.lists = false → step.outcome.answer = other.outcome.answer
  /-- Whatever is listed is the same but for the order. -/
  reply_reordered : ∀ reply reply', step.outcome.answer = .ok reply →
    other.outcome.answer = .ok reply' → reply.Reordered reply'
  notices_eq : step.outcome.notices = other.outcome.notices
  states : step.outcome.state.Interchangeable other.outcome.state

section Steps

variable {π : Equiv.Perm Nat} {stage other : Stage α}

/-- Every direction leaves reordered stages reordered, by the same bijection. -/
theorem Stage.Reordered.outcome (h : stage.Reordered π other) (direction : Direction α) :
    (Step.mk stage direction).outcome.state.Reordered π
      (Step.mk other direction).outcome.state := by
  cases hlists : direction.lists with
  | false => exact (Direction.reordered_of_not_lists hlists h).states
  | true =>
      obtain ⟨reply, reply', hperform, hperform', -⟩ := Direction.exists_reordered_of_lists hlists h
      rw [Step.outcome, Step.outcome, hperform, hperform']
      exact h

/-- Every direction goes the same way on reordered stages. -/
theorem Stage.Reordered.step (h : stage.Reordered π other) (direction : Direction α) :
    (Step.mk stage direction).Reordered ⟨other, direction⟩ := by
  have hstates := (h.outcome direction).interchangeable
  cases hlists : direction.lists with
  | false =>
      have houtcome := Direction.reordered_of_not_lists hlists h
      have hanswer : (Step.mk stage direction).outcome.answer =
        (Step.mk other direction).outcome.answer := houtcome.answer_eq
      refine ⟨rfl, fun error => by rw [hanswer], fun _ => hanswer, fun reply reply' hok hok' => ?_,
        houtcome.notices_eq, hstates⟩
      rw [hanswer, hok'] at hok
      rw [Except.ok.inj hok]
      exact .same reply
  | true =>
      obtain ⟨reply, reply', hperform, hperform', hreply⟩ :=
        Direction.exists_reordered_of_lists hlists h
      have hoks : (Step.mk stage direction).outcome.answer = .ok reply ∧
          (Step.mk other direction).outcome.answer = .ok reply' := by
        rw [Step.outcome, Step.outcome, hperform, hperform']
        exact ⟨rfl, rfl⟩
      refine ⟨rfl, fun error => ?_, fun hnot => ?_, fun answer answer' hok hok' => ?_, ?_, hstates⟩
      · rw [hoks.1, hoks.2]
        exact iff_of_false nofun nofun
      · rw [hlists] at hnot
        contradiction
      · rw [hoks.1] at hok
        rw [hoks.2] at hok'
        rwa [← Except.ok.inj hok, ← Except.ok.inj hok']
      · rw [Step.outcome, Step.outcome, hperform, hperform']

namespace Stage

/-- Plays of the same directions go the same way on reordered stages.  The induction is on the
play, and one bijection does for all of it. -/
theorem Reordered.steps (h : stage.Reordered π other) (play : List (Direction α)) :
    List.Forall₂ Step.Reordered (stage.steps play) (other.steps play) := by
  induction play generalizing stage other with
  | nil => exact .nil
  | cons direction play ih => exact .cons (h.step direction) (ih (h.outcome direction))

/-- The order of declaration decides nothing but the order of lists.  A cast is made of personae
in any order or in none; and of two plays of the same directions, with casts of the same personae
in two orders, each step goes the same way.  Both fail, with the same mistake, or both succeed;
names find and address the same actors, and as many are on stage, of whom those in the one list
of names are those in the other. -/
theorem reordered_of_ofPersonae {personae others : List Persona} (h : personae.Perm others) :
    ((∃ cast, ((Cast.ofPersonae personae).perform ()).answer = .ok cast) ↔
      ∃ cast, ((Cast.ofPersonae others).perform ()).answer = .ok cast) ∧
    ∀ cast cast', ((Cast.ofPersonae personae).perform ()).answer = .ok cast →
      ((Cast.ofPersonae others).perform ()).answer = .ok cast' →
      ∀ play, List.Forall₂ Step.Reordered ((ofCast cast).steps play)
        ((ofCast cast').steps play) := by
  refine ⟨Cast.exists_ofPersonae_perm h, fun cast cast' hcast hcast' play => ?_⟩
  obtain ⟨π, hπ⟩ := Cast.exists_reordered h hcast hcast'
  exact (reordered_ofCast hπ).steps play

/-- Romeo, whom Juliet addresses, takes another name. -/
theorem reordered_of_ofPersonae_renamed :
    [⟨"Romeo", none, none⟩, (⟨"juliet", none, none⟩ : Persona)].Perm
      [⟨"juliet", none, none⟩, ⟨"Romeo", none, none⟩] ∧
    ∃ cast cast' play,
      ((Cast.ofPersonae [⟨"Romeo", none, none⟩, ⟨"juliet", none, none⟩]).perform ()).answer =
        .ok cast ∧
      ((Cast.ofPersonae [⟨"juliet", none, none⟩, ⟨"Romeo", none, none⟩]).perform ()).answer =
        .ok cast' ∧
      play.length = 3 ∧ ((ofCast cast).after play).presentNames = ["Montague", "Juliet"] ∧
      ((ofCast cast').after play).presentNames = ["Juliet", "Montague"] ∧
      List.Forall₂ Step.Reordered ((ofCast cast).steps play) ((ofCast cast').steps play) := by
  have hperm : [⟨"Romeo", none, none⟩, (⟨"juliet", none, none⟩ : Persona)].Perm
    [⟨"juliet", none, none⟩, ⟨"Romeo", none, none⟩] := .swap _ _ _
  have hbuilt : ((Cast.ofPersonae
      [⟨"Romeo", none, none⟩, ⟨"juliet", none, none⟩]).perform ()).answer =
      .ok ⟨[⟨"Romeo", none, none⟩, ⟨"Juliet", none, none⟩], [("Romeo", 0), ("Juliet", 1)]⟩ := rfl
  have hbuilt' : ((Cast.ofPersonae
      [⟨"juliet", none, none⟩, ⟨"Romeo", none, none⟩]).perform ()).answer =
      .ok ⟨[⟨"Juliet", none, none⟩, ⟨"Romeo", none, none⟩], [("Juliet", 0), ("Romeo", 1)]⟩ := rfl
  obtain ⟨-, hsteps⟩ := reordered_of_ofPersonae hperm
  let play : List (Direction Character) := [.bringOn ["Juliet", "Romeo"],
    .changeAddressee "juliet" fun character => { character with name := "Montague" },
    .bringOn ["romeo"]]
  exact ⟨hperm, _, _, play, hbuilt, hbuilt', rfl, by decide, by decide,
    hsteps _ _ hbuilt hbuilt' play⟩

end Stage

end Steps

end Dramatis
