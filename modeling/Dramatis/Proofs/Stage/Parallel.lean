import Dramatis.Proofs.Stage.Congruent
import Dramatis.Proofs.Stage.Views

/-!
# Dramatis.Proofs.Stage.Parallel

Two plays of the same directions, with different actors.  The actors may differ in
everything, their names included, and so may every change that is made to one of them and
every value that the boolean is set to.

None of this ever decides anything.  The two plays go the same way step by step: the same
positions are on stage, the same steps fail and for the same kind of reason, and where an
actor is asked for, it is the one at the same position.
-/

namespace Dramatis

variable {σ τ α β γ δ : Type}

/-! ## Actions on stages with different actors -/

/-- What is left of two actions on stages with different actors: both have failed for the
same kind of reason, or both have answered with the actors at given positions; and the
stages differ in nothing but their actors afterwards either. -/
structure Outcome.Parallel (is : List Nat) (actors : γ → List α) (actors' : δ → List β)
    (outcome : Outcome (Stage α) γ) (other : Outcome (Stage β) δ) : Prop where
  answers : Concur (fun c d => outcome.state.ShowsAt is (actors c) ∧
    other.state.ShowsAt is (actors' d)) outcome.answer other.answer
  states : outcome.state.Congruent other.state

/-- The actors that a reply singles out. -/
def Reply.chosen : Reply α → List α
  | actor a => [a]
  | pair (some (left, right)) => [left, right]
  | _ => []

/-- What replies are made of the answers singles out the same actors. -/
theorem Outcome.Parallel.bind_pure {is : List Nat} {act : Act (Stage α) γ}
    {act' : Act (Stage β) δ} {stage : Stage α} {other : Stage β} {f : γ → Reply α}
    {g : δ → Reply β}
    (h : (act.perform stage).Parallel is (fun c => (f c).chosen) (fun d => (g d).chosen)
      (act'.perform other)) :
    ((act >>= fun c => pure (f c)).perform stage).Parallel is Reply.chosen Reply.chosen
      ((act' >>= fun d => pure (g d)).perform other) := by
  rw [Act.perform_bind_pure, Act.perform_bind_pure]
  exact ⟨h.answers.map fun _ _ hshows => hshows, h.states⟩

namespace Stage.Congruent

variable {stage : Stage α} {other : Stage β}

/-- The actor that a name stands for is changed, each by a change of its own. -/
theorem parallel_change (h : stage.Congruent other) (name : String) (f : α → α) (g : β → β) :
    ((change name f).perform stage).Parallel (stage.cast.position? name).toList
      (fun actor => [actor]) (fun actor => [actor]) ((change name g).perform other) := by
  rw [change, change, onCast, onCast, Act.perform_within, Act.perform_within,
    Cast.perform_change, Cast.perform_change, Cast.position, Cast.position, ← h.position?_eq]
  cases stage.cast.position? name with
  | none => exact ⟨.error rfl, h⟩
  | some i =>
      have hactor := h.concur_actorAt i
      simp only [Option.toList_some]
      generalize stage.cast.actorAt i = answer, other.cast.actorAt i = answer' at hactor ⊢
      cases hactor with
      | error hkind => exact ⟨.error hkind, h⟩
      | ok hactors =>
          exact ⟨.ok ⟨showsAt_put hactors.1 _, showsAt_put hactors.2 _⟩, h.put i _ _⟩

theorem parallel_clear (h : stage.Congruent other) :
    ((clear : Act (Stage α) Unit).perform stage).Parallel [] (fun _ => ([] : List α))
      (fun _ => ([] : List β)) ((clear : Act (Stage β) Unit).perform other) := by
  rw [perform_clear, perform_clear]
  exact ⟨.ok ⟨rfl, rfl⟩, h.withPresent .empty⟩

theorem parallel_setFlag (h : stage.Congruent other) (value value' : Bool) :
    ((setFlag value).perform stage).Parallel [] (fun _ => ([] : List α)) (fun _ => ([] : List β))
      ((setFlag value').perform other) :=
  ⟨.ok ⟨rfl, rfl⟩, h.withFlag value value'⟩

variable [Actor α] [Actor β]

omit [Actor α] [Actor β] in
/-- A check that comes out alike on both stages, and a move of those who have passed it. -/
theorem parallel_move {ι : Type} (h : stage.Congruent other)
    {check : Stage α → Except Mistake ι} {check' : Stage β → Except Mistake ι}
    (hcheck : Concur Eq (check stage) (check' other)) (move : Positions → ι → Positions)
    (notice : Stage α → ι → Notice) (notice' : Stage β → ι → Notice) :
    Outcome.Parallel [] (fun _ => ([] : List α)) (fun _ => ([] : List β))
      ((Act.state >>= fun stage => Act.ofExcept (check stage) >>= fun is =>
        Act.become { stage with present := move stage.present is } >>= fun _ =>
          Act.note (notice stage is)).perform stage)
      ((Act.state >>= fun other => Act.ofExcept (check' other) >>= fun is =>
        Act.become { other with present := move other.present is } >>= fun _ =>
          Act.note (notice' other is)).perform other) := by
  rw [Act.perform_state_bind, Act.perform_state_bind]
  generalize check stage = answer, check' other = answer' at hcheck ⊢
  cases hcheck with
  | error hkind => exact ⟨.error hkind, h⟩
  | ok heq =>
      subst heq
      rw [Act.perform_ofExcept_ok_bind, Act.perform_ofExcept_ok_bind, ← h.present_eq]
      exact ⟨.ok ⟨rfl, rfl⟩, h.withPresent _⟩

/-- A group enters both stages or neither. -/
theorem parallel_bringOn (h : stage.Congruent other) (names : List String) :
    ((bringOn names).perform stage).Parallel [] (fun _ => ([] : List α)) (fun _ => ([] : List β))
      ((bringOn names).perform other) :=
  h.parallel_move (h.concur_entering names) Positions.insertAll _ _

theorem parallel_sendOff (h : stage.Congruent other) (names : List String) :
    ((sendOff names).perform stage).Parallel [] (fun _ => ([] : List α)) (fun _ => ([] : List β))
      ((sendOff names).perform other) :=
  h.parallel_move (h.concur_leaving names) Positions.eraseAll _ _

theorem parallel_dismiss (h : stage.Congruent other) (name : String) :
    ((dismiss name).perform stage).Parallel [] (fun _ => ([] : List α)) (fun _ => ([] : List β))
      ((dismiss name).perform other) :=
  h.parallel_move (h.concur_presentPosition name) Positions.erase _ _

/-- Whoever is addressed is at the same position on both stages, and what is done with
them may differ. -/
theorem parallel_exchange (h : stage.Congruent other) (name : String)
    {next : Nat → Nat → α → Outcome (Stage α) α} {next' : Nat → Nat → β → Outcome (Stage β) β}
    (hnext : ∀ speaker partner actor actor', stage.cast.actors[partner]? = some actor →
      other.cast.actors[partner]? = some actor' →
      (next speaker partner actor).Parallel [partner] (fun actor => [actor])
        (fun actor => [actor]) (next' speaker partner actor')) :
    Outcome.Parallel ((stage.cast.position? name).bind stage.partner?).toList
      (fun actor => [actor]) (fun actor => [actor])
      (match stage.exchange name with
        | .error error => ⟨.error error, stage, []⟩
        | .ok (speaker, partner) =>
          match stage.cast.actorAt partner with
          | .error error => ⟨.error error, stage, []⟩
          | .ok actor => next speaker partner actor)
      (match other.exchange name with
        | .error error => ⟨.error error, other, []⟩
        | .ok (speaker, partner) =>
          match other.cast.actorAt partner with
          | .error error => ⟨.error error, other, []⟩
          | .ok actor => next' speaker partner actor) := by
  have hpair := h.concur_exchange name
  generalize hexchange : stage.exchange name = answer, other.exchange name = answer' at hpair ⊢
  cases hpair with
  | error hkind => exact ⟨.error hkind, h⟩
  | @ok pair pair' heq =>
      subst heq
      obtain ⟨hname, hpartner⟩ := exchange_eq_ok_iff_partner?.1 hexchange
      have hactor := h.concur_actorAt pair.2
      simp only [hname, Option.bind_some, hpartner, Option.toList_some]
      generalize stage.cast.actorAt pair.2 = answer, other.cast.actorAt pair.2 = answer'
        at hactor ⊢
      cases hactor with
      | error hkind => exact ⟨.error hkind, h⟩
      | ok hactors => exact hnext pair.1 pair.2 _ _ hactors.1 hactors.2

/-- A speaker addresses whoever is opposite, at the same position on both stages. -/
theorem parallel_addressee (h : stage.Congruent other) (name : String) :
    ((addressee name).perform stage).Parallel
      ((stage.cast.position? name).bind stage.partner?).toList (fun actor => [actor])
      (fun actor => [actor]) ((addressee name).perform other) := by
  rw [perform_addressee, perform_addressee]
  refine h.parallel_exchange name fun speaker partner actor actor' hactor hactor' => ?_
  exact ⟨.ok ⟨showsAt_of_getElem? hactor, showsAt_of_getElem? hactor'⟩, h⟩

/-- Whoever is opposite to a speaker is changed, at the same position on both stages. -/
theorem parallel_changeAddressee (h : stage.Congruent other) (name : String) (f : α → α)
    (g : β → β) :
    ((changeAddressee name f).perform stage).Parallel
      ((stage.cast.position? name).bind stage.partner?).toList (fun actor => [actor])
      (fun actor => [actor]) ((changeAddressee name g).perform other) := by
  rw [perform_changeAddressee, perform_changeAddressee]
  refine h.parallel_exchange name fun speaker partner actor actor' hactor hactor' => ?_
  exact ⟨.ok ⟨showsAt_put hactor _, showsAt_put hactor' _⟩, h.put partner _ _⟩

end Stage.Congruent

/-! ## Directions that match -/

/-- Two orders that differ at most in how they change an actor. -/
inductive CastOrder.Matches : CastOrder α → CastOrder β → Prop
  | size : Matches .size .size
  | isEmpty : Matches .isEmpty .isEmpty
  | names : Matches .names .names
  | actors : Matches .actors .actors
  | contains (name : String) : Matches (.contains name) (.contains name)
  | lookup (name : String) : Matches (.lookup name) (.lookup name)
  | change (name : String) (f : α → α) (g : β → β) : Matches (.change name f) (.change name g)

/-- Two directions that differ at most in how they change an actor, or in the value they
set the boolean to. -/
inductive Direction.Matches : Direction α → Direction β → Prop
  | bringOn (names : List String) : Matches (.bringOn names) (.bringOn names)
  | sendOff (names : List String) : Matches (.sendOff names) (.sendOff names)
  | dismiss (name : String) : Matches (.dismiss name) (.dismiss name)
  | clear : Matches .clear .clear
  | requirePresent (name : String) : Matches (.requirePresent name) (.requirePresent name)
  | requireAbsent (name : String) : Matches (.requireAbsent name) (.requireAbsent name)
  | setFlag (value value' : Bool) : Matches (.setFlag value) (.setFlag value')
  | flag : Matches .flag .flag
  | isPresent (name : String) : Matches (.isPresent name) (.isPresent name)
  | headcount : Matches .headcount .headcount
  | presentNames : Matches .presentNames .presentNames
  | absentNames : Matches .absentNames .absentNames
  | presentActors : Matches .presentActors .presentActors
  | absentActors : Matches .absentActors .absentActors
  | pair : Matches .pair .pair
  | lookup (name : String) : Matches (.lookup name) (.lookup name)
  | addressee (name : String) : Matches (.addressee name) (.addressee name)
  | change (name : String) (f : α → α) (g : β → β) : Matches (.change name f) (.change name g)
  | changeAddressee (name : String) (f : α → α) (g : β → β) :
      Matches (.changeAddressee name f) (.changeAddressee name g)
  | text : Matches .text .text
  | snapshot : Matches .snapshot .snapshot
  | cast {order : CastOrder α} {other : CastOrder β} (h : order.Matches other) :
      Matches (.cast order) (.cast other)

/-- The positions of the actors that a direction singles out, when it succeeds. -/
def Direction.chosen (stage : Stage α) : Direction α → List Nat
  | lookup name | change name _ => (stage.cast.position? name).toList
  | addressee name | changeAddressee name _ =>
    ((stage.cast.position? name).bind stage.partner?).toList
  | pair =>
    match stage.pairPositions? with
    | some (i, j) => [i, j]
    | none => []
  | cast (.lookup name) | cast (.change name _) => (stage.cast.position? name).toList
  | _ => []

variable {stage : Stage α} {other : Stage β}

/-- Directions that match single out the same positions. -/
theorem Direction.Matches.chosen_eq {direction : Direction α} {direction' : Direction β}
    (hmatches : direction.Matches direction') (h : stage.Congruent other) :
    direction.chosen stage = direction'.chosen other := by
  have hpartner : stage.partner? = other.partner? := funext h.partner?_eq
  cases hmatches with
  | lookup name | change name f g => simp only [Direction.chosen, h.position?_eq]
  | addressee name | changeAddressee name f g =>
      simp only [Direction.chosen, h.position?_eq, hpartner]
  | pair => simp only [Direction.chosen, h.pairPositions?_eq]
  | cast horder =>
      cases horder with
      | lookup name | change name f g => simp only [Direction.chosen, h.position?_eq]
      | _ => rfl
  | _ => rfl

namespace Stage.Congruent

/-- A name finds an actor on both stages or on neither, at the same position. -/
theorem concur_lookup (h : stage.Congruent other) (name : String) :
    Concur (fun actor actor' => stage.ShowsAt (stage.cast.position? name).toList [actor] ∧
      other.ShowsAt (stage.cast.position? name).toList [actor'])
      (stage.cast.lookup name) (other.cast.lookup name) := by
  rw [Cast.lookup, Cast.lookup, Cast.position, Cast.position, ← h.position?_eq]
  cases stage.cast.position? name with
  | none => exact .error rfl
  | some i =>
      exact (h.concur_actorAt i).imp fun actor actor' hactors =>
        ⟨showsAt_of_getElem? hactors.1, showsAt_of_getElem? hactors.2⟩

end Stage.Congruent

/-- With nobody out of range, those facing each other are at the positions of the pair. -/
theorem Stage.Sound.showsAt_pair {built : Cast α} (hsound : stage.Sound built) :
    stage.ShowsAt (Direction.pair.chosen stage) (Reply.pair stage.pair?).chosen := by
  rw [Direction.chosen, pair?]
  cases hpair : stage.pairPositions? with
  | none => rfl
  | some pair =>
      obtain ⟨hleft, hright⟩ := mem_present_of_pairPositions? hpair
      have hleft : pair.1 < stage.cast.actors.length := hsound.present_lt pair.1 hleft
      have hright : pair.2 < stage.cast.actors.length := hsound.present_lt pair.2 hright
      simp [ShowsAt, Reply.chosen, List.getElem?_eq_getElem hleft, List.getElem?_eq_getElem hright]

variable [Actor α] [Actor β]

/-- Directions that match come out in parallel, one case for each kind of direction. -/
theorem Direction.Matches.parallel {direction : Direction α} {direction' : Direction β}
    (hmatches : direction.Matches direction') (h : stage.Congruent other) {built : Cast α}
    {built' : Cast β} (hsound : stage.Sound built) (hsound' : other.Sound built') :
    (direction.act.perform stage).Parallel (direction.chosen stage) Reply.chosen Reply.chosen
      (direction'.act.perform other) := by
  cases hmatches with
  | bringOn names => exact (h.parallel_bringOn names).bind_pure
  | sendOff names => exact (h.parallel_sendOff names).bind_pure
  | dismiss name => exact (h.parallel_dismiss name).bind_pure
  | clear => exact h.parallel_clear.bind_pure
  | setFlag value value' => exact (h.parallel_setFlag value value').bind_pure
  | addressee name => exact (h.parallel_addressee name).bind_pure
  | changeAddressee name f g => exact (h.parallel_changeAddressee name f g).bind_pure
  | change name f g => exact (h.parallel_change name f g).bind_pure
  | requirePresent name =>
      simp only [Direction.act, Act.perform_state_bind, Act.perform_bind_pure,
        Act.perform_ofExcept]
      exact ⟨(h.concur_requirePresent name).map fun _ _ _ => ⟨rfl, rfl⟩, h⟩
  | requireAbsent name =>
      simp only [Direction.act, Act.perform_state_bind, Act.perform_bind_pure,
        Act.perform_ofExcept]
      exact ⟨(h.concur_requireAbsent name).map fun _ _ _ => ⟨rfl, rfl⟩, h⟩
  | lookup name =>
      simp only [Direction.act, Act.perform_state_bind, Act.perform_bind_pure,
        Act.perform_ofExcept]
      exact ⟨(h.concur_lookup name).map fun _ _ hshows => hshows, h⟩
  | pair =>
      refine ⟨.ok ⟨hsound.showsAt_pair, ?_⟩, h⟩
      rw [Matches.pair.chosen_eq h]
      exact hsound'.showsAt_pair
  | cast horder =>
      cases horder with
      | lookup name =>
          simp only [Direction.act, Stage.onCast, Act.perform_within, CastOrder.act,
            Act.perform_state_bind, Act.perform_bind_pure, Act.perform_ofExcept]
          exact ⟨(h.concur_lookup name).map fun _ _ hshows => hshows, h⟩
      | change name f g =>
          have hchange := h.parallel_change name f g
          simp only [Direction.act, Stage.onCast, CastOrder.act, Act.perform_within,
            Act.perform_bind_pure]
          exact ⟨hchange.answers.map fun _ _ hshows => hshows, hchange.states⟩
      | size | isEmpty | names | actors | contains name => exact ⟨.ok ⟨rfl, rfl⟩, h⟩
  | flag | isPresent | headcount | presentNames | absentNames | presentActors | absentActors
  | text | snapshot => exact ⟨.ok ⟨rfl, rfl⟩, h⟩

/-! ## Steps of two plays -/

/-- The positions of the actors that a step singles out, when it succeeds. -/
def Step.chosen (step : Step α) : List Nat := step.direction.chosen step.stage

/-- Two steps, of plays with different actors, that go the same way. -/
structure Step.Parallel (step : Step α) (other : Step β) : Prop where
  /-- Both fail for the same kind of reason, or both succeed, and then the actors that they
  single out are those at the positions chosen. -/
  answers : Concur (fun reply reply' => step.outcome.state.ShowsAt step.chosen reply.chosen ∧
    other.outcome.state.ShowsAt other.chosen reply'.chosen) step.outcome.answer other.outcome.answer
  chosen_eq : step.chosen = other.chosen
  present_eq : step.outcome.state.present = other.outcome.state.present
  index_eq : step.outcome.state.cast.index = other.outcome.state.cast.index
  headcount_eq : step.outcome.state.headcount = other.outcome.state.headcount
  isPresent_eq : step.outcome.state.isPresent = other.outcome.state.isPresent

/-- Directions that match make steps that go the same way. -/
theorem Direction.Matches.parallel_step {direction : Direction α} {direction' : Direction β}
    (hmatches : direction.Matches direction') (h : stage.Congruent other) {built : Cast α}
    {built' : Cast β} (hsound : stage.Sound built) (hsound' : other.Sound built') :
    (Step.mk stage direction).Parallel ⟨other, direction'⟩ := by
  have houtcome := hmatches.parallel h hsound hsound'
  have hchosen : (Step.mk stage direction).chosen = (Step.mk other direction').chosen :=
    hmatches.chosen_eq h
  refine ⟨?_, hchosen, houtcome.states.present_eq, houtcome.states.index_eq, ?_,
    houtcome.states.isPresent_eq⟩
  · rw [← hchosen]
    exact houtcome.answers
  · exact congrArg Positions.size houtcome.states.present_eq

namespace Stage

/-- Plays of matching directions go the same way at every step.  The induction is on the
plays; what carries it is that the stages differ in nothing but their actors. -/
theorem parallel_steps {built : Cast α} {built' : Cast β} (h : stage.Congruent other)
    (hsound : stage.Sound built) (hsound' : other.Sound built') {play : List (Direction α)}
    {play' : List (Direction β)} (hplay : List.Forall₂ Direction.Matches play play') :
    List.Forall₂ Step.Parallel (stage.steps play) (other.steps play') := by
  induction hplay generalizing stage other with
  | nil => exact .nil
  | @cons direction direction' play play' hmatches hplay ih =>
      refine .cons (hmatches.parallel_step h hsound hsound') (ih ?_ ?_ ?_)
      · exact (hmatches.parallel h hsound hsound').states
      · exact hsound.of_move (direction.move_act stage)
      · exact hsound'.of_move (direction'.move_act other)

/-- Casts that file the same keys under the same positions have as many actors. -/
theorem congruent_ofCast {cast : Cast α} {cast' : Cast β} (h : cast.Filed) (h' : cast'.Filed)
    (hindex : ∀ key, cast.positionOfKey? key = cast'.positionOfKey? key) :
    (ofCast cast).Congruent (ofCast cast') := by
  have hkeys : cast.actors.map Actor.key = cast'.actors.map Actor.key := by
    refine List.ext_getElem? fun i => Option.ext fun key => ?_
    simp only [List.getElem?_map, Option.map_eq_some_iff]
    rw [← h.positionOfKey?_eq_some, ← h'.positionOfKey?_eq_some, hindex]
  have hsize := congrArg List.length hkeys
  rw [List.length_map, List.length_map] at hsize
  exact ⟨by rw [ofCast, ofCast, h.index_eq, h'.index_eq, hkeys], hsize, rfl⟩

/-- Actors and the boolean never decide how a play goes.  Casts that any two factories have
made, of actors of any two kinds, may have nothing in common but their index; then of two
plays of matching directions each step goes the same way in both, whatever becomes of the
actors.  It fails in both, for the same kind of reason, or in neither; afterwards the same
positions are on stage and the index is the same, so every name stands for the same position
and is on stage in both or in neither; and whoever is looked up, faced or addressed is at the
same position. -/
theorem parallel_of_assemble {factory : Factory σ α} {factory' : Factory τ β}
    {personae personae' : List Persona} {s : σ} {t : τ} {cast : Cast α} {cast' : Cast β}
    (h : ((Cast.assemble factory personae).perform s).answer = .ok cast)
    (h' : ((Cast.assemble factory' personae').perform t).answer = .ok cast')
    (hindex : ∀ key, cast.positionOfKey? key = cast'.positionOfKey? key)
    {play : List (Direction α)} {play' : List (Direction β)}
    (hplay : List.Forall₂ Direction.Matches play play') :
    List.Forall₂ Step.Parallel ((ofCast cast).steps play) ((ofCast cast').steps play') := by
  obtain ⟨hfiled, -⟩ := Cast.filed_of_assemble h
  obtain ⟨hfiled', -⟩ := Cast.filed_of_assemble h'
  exact parallel_steps (congruent_ofCast hfiled hfiled' hindex) (sound_ofCast hfiled.indexed)
    (sound_ofCast hfiled'.indexed) hplay

/-- In one of the plays Romeo takes Juliet's name, and the boolean is set. -/
theorem parallel_of_assemble_renamed :
    ∃ (cast : Cast Player) (cast' : Cast Character) (play : List (Direction Player))
      (play' : List (Direction Character)),
      ((Cast.assemble .raw [⟨"ROMEO", none, none⟩, ⟨"juliet", none, none⟩]).perform 0).answer =
        .ok cast ∧
      ((Cast.assemble .character [⟨"Romeo", none, none⟩, ⟨"Juliet", none, none⟩]).perform
        ()).answer = .ok cast' ∧
      (∀ key, cast.positionOfKey? key = cast'.positionOfKey? key) ∧ play.length = 5 ∧
      ((ofCast cast).after play).presentNames = ["Juliet", "juliet"] ∧
      ((ofCast cast').after play').presentNames = ["Romeo", "Juliet"] ∧
      List.Forall₂ Step.Parallel ((ofCast cast).steps play) ((ofCast cast').steps play') := by
  have hbuilt : ((Cast.assemble .raw
      [⟨"ROMEO", none, none⟩, ⟨"juliet", none, none⟩]).perform 0).answer =
      .ok ⟨[⟨"ROMEO", 1, []⟩, ⟨"juliet", 2, []⟩], [("Romeo", 0), ("Juliet", 1)]⟩ := rfl
  have hbuilt' : ((Cast.assemble .character
      [⟨"Romeo", none, none⟩, ⟨"Juliet", none, none⟩]).perform ()).answer =
      .ok ⟨[⟨"Romeo", none, none⟩, ⟨"Juliet", none, none⟩], [("Romeo", 0), ("Juliet", 1)]⟩ := rfl
  have hsteps := parallel_of_assemble hbuilt hbuilt' (fun _ => rfl)
    (.cons (.bringOn ["romeo", "juliet"])
      (.cons (.change "Romeo" (fun player => { player with name := "Juliet" }) id)
        (.cons (.setFlag true false) (.cons (.bringOn ["Romeo"])
          (.cons (.changeAddressee "Romeo" (Player.assign 7) id) .nil)))))
  exact ⟨_, _, _, _, hbuilt, hbuilt', fun _ => rfl, rfl, rfl, rfl, hsteps⟩

end Stage

end Dramatis
