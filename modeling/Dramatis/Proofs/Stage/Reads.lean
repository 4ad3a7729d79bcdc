import Dramatis.Proofs.Stage.Effects
import Dramatis.Proofs.Stage.Exchange
import Dramatis.Proofs.Stage.Group

/-!
# Dramatis.Proofs.Stage.Reads

At which positions a direction reads an actor.  A position is read because a name
stands for it, because somebody at it is on stage, or because it faces a speaker.
A few directions go through the cast besides, from its first actor to its last; they come
by positions then, and need none for it.

The lists of positions are complete (`Direction.dependsOnly_reads`): two stages that agree in
everything but their actors, and in the actors at the positions read or come by, give the same
answer and the same notices.  The other stage may have a longer cast unless the direction goes
through it, so nothing beyond the end of a cast is read but at a position that is listed.
-/

namespace Dramatis

variable {α : Type}

/-! ## Positions read -/

/-- The positions at which an order may read an actor. -/
def CastOrder.reads (cast : Cast α) : CastOrder α → List Nat
  | lookup name | change name _ => (cast.position? name).toList
  | size | isEmpty | names | actors | contains _ => []

/-- Whether an order goes by the whole cast, as far as it reaches. -/
def CastOrder.walks : CastOrder α → Bool
  | size | isEmpty | names | actors => true
  | contains _ | lookup _ | change _ _ => false

/-- The positions whose actors an order shows on its way through the cast. -/
def CastOrder.passes (cast : Cast α) : CastOrder α → List Nat
  | names | actors => List.range cast.size
  | size | isEmpty | contains _ | lookup _ | change _ _ => []

/-- The positions of the cast that are off stage, in ascending order. -/
def Stage.absentPositions (stage : Stage α) : List Nat :=
  (List.range stage.cast.size).filter fun i => !stage.present.contains i

namespace Direction

/-- The positions at which a direction may read an actor. -/
def reads (stage : Stage α) : Direction α → List Nat
  | bringOn names | sendOff names => names.filterMap stage.cast.position?
  | dismiss name | requirePresent name | requireAbsent name | lookup name | change name _ =>
    (stage.cast.position? name).toList
  | addressee name | changeAddressee name _ =>
    (stage.cast.position? name).toList ++
      ((stage.cast.position? name).bind stage.partner?).toList
  | presentNames | presentActors | text | snapshot => stage.present.toList
  | pair =>
    match stage.pairPositions? with
    | some (i, j) => [i, j]
    | none => []
  | cast order => order.reads stage.cast
  | clear | setFlag _ | flag | isPresent _ | headcount | absentNames | absentActors => []

/-- Whether a direction goes by the whole cast, as far as it reaches. -/
def walks : Direction α → Bool
  | absentNames | absentActors | text | snapshot => true
  | cast order => order.walks
  | _ => false

/-- The positions whose actors a direction shows on its way through the cast. -/
def passes (stage : Stage α) : Direction α → List Nat
  | absentNames | absentActors | text | snapshot => stage.absentPositions
  | cast order => order.passes stage.cast
  | _ => []

end Direction

namespace Stage

/-- Those off stage are all others of the cast. -/
theorem mem_absentPositions {stage : Stage α} {i : Nat} :
    i ∈ stage.absentPositions ↔ i < stage.cast.size ∧ i ∉ stage.present := by
  rw [absentPositions, List.mem_filter, List.mem_range, Bool.not_eq_true',
    ← Positions.contains_iff, Bool.not_eq_true]

/-- Going through the actors with their positions is reading those at the positions. -/
theorem absentActors_eq_filterMap (stage : Stage α) :
    stage.absentActors = stage.absentPositions.filterMap fun i => stage.cast.actors[i]? := by
  have hrange : List.range stage.cast.size = stage.cast.actors.zipIdx.map Prod.snd := by
    rw [List.zipIdx_map_snd, List.range_eq_range', Cast.size]
  rw [absentPositions, absentActors, hrange, List.filter_map, List.filterMap_map,
    ← List.filterMap_eq_map]
  refine List.filterMap_congr fun entry hentry => ?_
  exact (List.mem_zipIdx_iff_getElem?.1 (List.mem_filter.1 hentry).1).symm

end Stage

/-! ## Stages that agree -/

/-- Two stages that differ at most in the actors outside a list of positions. -/
structure Stage.AgreeOn (is : List Nat) (stage other : Stage α) : Prop where
  index_eq : stage.cast.index = other.cast.index
  present_eq : stage.present = other.present
  flag_eq : stage.flag = other.flag
  actors_eq : ∀ i ∈ is, stage.cast.actors[i]? = other.cast.actors[i]?

namespace Stage.AgreeOn

variable {is : List Nat} {stage other : Stage α} {i : Nat} {name : String} {names : List String}

/-- Stages that agree on some positions agree on fewer. -/
theorem mono {js : List Nat} (h : AgreeOn is stage other) (hsub : ∀ j ∈ js, j ∈ is) :
    AgreeOn js stage other :=
  ⟨h.index_eq, h.present_eq, h.flag_eq, fun j hj => h.actors_eq j (hsub j hj)⟩

/-- Stages that agree on a group agree on each of its names. -/
theorem of_mem (h : AgreeOn (names.filterMap stage.cast.position?) stage other)
    (hname : name ∈ names) : AgreeOn (stage.cast.position? name).toList stage other :=
  h.mono fun _ hi => List.mem_filterMap.2 ⟨name, hname, Option.mem_toList.1 hi⟩

/-- Names stand for the same positions, since the index is the same. -/
theorem position?_eq (h : AgreeOn is stage other) :
    stage.cast.position? = other.cast.position? :=
  Cast.position?_congr h.index_eq

theorem actorAt_eq (h : AgreeOn is stage other) (hi : i ∈ is) :
    stage.cast.actorAt i = other.cast.actorAt i := by
  rw [Cast.actorAt, Cast.actorAt, h.actors_eq i hi]

/-- A name finds the same actor if the stages agree on the position that it stands for. -/
theorem lookup_eq (h : AgreeOn (stage.cast.position? name).toList stage other) :
    stage.cast.lookup name = other.cast.lookup name := by
  rw [Cast.lookup, Cast.lookup, Cast.position, Cast.position, ← h.position?_eq]
  cases hname : stage.cast.position? name with
  | none => rfl
  | some i => exact h.actorAt_eq (Option.mem_toList.2 hname)

/-- The same actors are on stage if the stages agree on those who are. -/
theorem presentActors_eq (h : AgreeOn stage.present.toList stage other) :
    stage.presentActors = other.presentActors := by
  rw [presentActors, presentActors, ← h.present_eq]
  exact List.filterMap_congr fun i hi => h.actors_eq i hi

/-- The same actors are off stage if the stages agree on those who are, and end with the same one.
-/
theorem absentActors_eq (h : AgreeOn stage.absentPositions stage other)
    (hsize : stage.cast.size = other.cast.size) : stage.absentActors = other.absentActors := by
  have hpositions : stage.absentPositions = other.absentPositions := by
    rw [absentPositions, absentPositions, hsize, h.present_eq]
  rw [absentActors_eq_filterMap, absentActors_eq_filterMap, ← hpositions]
  exact List.filterMap_congr fun i hi => h.actors_eq i hi

/-- Casts of one length with the same actor at every position have the same actors. -/
theorem actors_eq_of_size_eq (h : AgreeOn (List.range stage.cast.size) stage other)
    (hsize : stage.cast.size = other.cast.size) : stage.cast.actors = other.cast.actors := by
  refine List.ext_getElem? fun i => ?_
  obtain hi | hi := Nat.lt_or_ge i stage.cast.size
  · exact h.actors_eq i (List.mem_range.2 hi)
  · have hother : other.cast.size ≤ i := hsize ▸ hi
    rw [List.getElem?_eq_none hi, List.getElem?_eq_none hother]

theorem pairPositions?_eq (h : AgreeOn is stage other) :
    stage.pairPositions? = other.pairPositions? := by
  rw [pairPositions?, pairPositions?, h.present_eq]

theorem partner?_eq (h : AgreeOn is stage other) (speaker : Nat) :
    stage.partner? speaker = other.partner? speaker := by
  rw [partner?, partner?, h.pairPositions?_eq]

/-- The same two face each other if the stages agree on their positions. -/
theorem pair?_eq (h : AgreeOn (Direction.pair.reads stage) stage other) :
    stage.pair? = other.pair? := by
  rw [pair?, pair?, ← h.pairPositions?_eq]
  cases hpair : stage.pairPositions? with
  | none => rfl
  | some pair =>
      have hreads : Direction.pair.reads stage = [pair.1, pair.2] := by rw [Direction.reads, hpair]
      rw [hreads] at h
      have hleft := h.actors_eq pair.1 List.mem_cons_self
      have hright := h.actors_eq pair.2 (List.mem_cons_of_mem _ List.mem_cons_self)
      simp only [Option.bind_eq_bind, Option.bind_some, hleft, hright]

variable [Actor α]

theorem nameAt_eq (h : AgreeOn is stage other) (hi : i ∈ is) :
    stage.cast.nameAt i = other.cast.nameAt i := by
  rw [Cast.nameAt, Cast.nameAt, h.actors_eq i hi]

theorem reportName_eq (h : AgreeOn is stage other) (hi : i ∈ is) :
    stage.reportName i = other.reportName i := by
  rw [reportName, reportName, h.nameAt_eq hi]

/-- Somebody is found on stage, or missed there under the same name. -/
theorem presentPosition_eq (h : AgreeOn (stage.cast.position? name).toList stage other) :
    stage.presentPosition name = other.presentPosition name := by
  rw [Stage.presentPosition_eq, Stage.presentPosition_eq, ← h.position?_eq, ← h.present_eq]
  cases hname : stage.cast.position? name with
  | none => rfl
  | some i => simp only [h.reportName_eq (Option.mem_toList.2 hname)]

theorem absentPosition_eq (h : AgreeOn (stage.cast.position? name).toList stage other) :
    stage.absentPosition name = other.absentPosition name := by
  rw [Stage.absentPosition_eq, Stage.absentPosition_eq, ← h.position?_eq, ← h.present_eq]
  cases hname : stage.cast.position? name with
  | none => rfl
  | some i => simp only [h.reportName_eq (Option.mem_toList.2 hname)]

/-- A speaker has the same addressee, or none for the same reason: only the speaker's name is
told. -/
theorem exchange_eq (h : AgreeOn (stage.cast.position? name).toList stage other) :
    stage.exchange name = other.exchange name := by
  rw [exchange, exchange, Cast.position, Cast.position, ← h.position?_eq, ← h.present_eq]
  cases hname : stage.cast.position? name with
  | none => rfl
  | some i =>
      have hi : i ∈ (stage.cast.position? name).toList := Option.mem_toList.2 hname
      simp only [bind, Except.bind, ← h.partner?_eq, h.reportName_eq hi]

/-- A group can enter both stages, or is refused with the same mistake. -/
theorem entering_eq (h : AgreeOn (names.filterMap stage.cast.position?) stage other) :
    stage.entering names = other.entering names := by
  refine groupPositions_congr (fun name hmem => (h.of_mem hmem).absentPosition_eq) ?_ []
  intro name hmem i hi
  rw [(h.of_mem hmem).reportName_eq (Option.mem_toList.2 (absentPosition_eq_ok.1 hi).1)]

theorem leaving_eq (h : AgreeOn (names.filterMap stage.cast.position?) stage other) :
    stage.leaving names = other.leaving names := by
  refine groupPositions_congr (fun name hmem => (h.of_mem hmem).presentPosition_eq) ?_ []
  intro name hmem i hi
  rw [(h.of_mem hmem).reportName_eq (Option.mem_toList.2 (presentPosition_eq_ok.1 hi).1)]

/-- The notice of a group shows the same names. -/
theorem map_nameAt_eq (h : AgreeOn (names.filterMap stage.cast.position?) stage other)
    {js : List Nat} (hfound : ∀ j ∈ js, ∃ name ∈ names, stage.cast.position? name = some j) :
    js.map stage.cast.nameAt = js.map other.cast.nameAt :=
  List.map_congr_left fun j hj => h.nameAt_eq (List.mem_filterMap.2 (hfound j hj))

end Stage.AgreeOn

/-! ## Nothing else is read -/

/-- Two outcomes with the same answer and the same notices. -/
structure Outcome.Alike {σ τ β : Type} (outcome : Outcome σ β) (other : Outcome τ β) : Prop where
  answer_eq : outcome.answer = other.answer
  notices_eq : outcome.notices = other.notices

/-- What is made of like answers is alike. -/
theorem Outcome.Alike.bind_pure {σ β γ : Type} {act : Act σ β} {s t : σ}
    (h : (act.perform s).Alike (act.perform t)) (f : β → γ) :
    ((act >>= fun b => pure (f b)).perform s).Alike ((act >>= fun b => pure (f b)).perform t) := by
  rw [Act.perform_bind_pure, Act.perform_bind_pure]
  exact ⟨congrArg (Except.map f) h.answer_eq, h.notices_eq⟩

/-- A question with the same answer on two states. -/
theorem Outcome.alike_ask {σ β : Type} (ask : σ → β) {s t : σ} (h : ask s = ask t) :
    ((Act.state >>= fun state => pure (ask state)).perform s).Alike
      ((Act.state >>= fun state => pure (ask state)).perform t) :=
  ⟨congrArg Except.ok h, rfl⟩

/-- A check with the same result on two states, and what is made of it. -/
theorem Outcome.alike_check {σ β γ : Type} (check : σ → Except Mistake β) {s t : σ}
    (h : check s = check t) (f : β → γ) :
    ((Act.state >>= fun state => Act.ofExcept (check state) >>= fun b => pure (f b)).perform
        s).Alike
      ((Act.state >>= fun state => Act.ofExcept (check state) >>= fun b => pure (f b)).perform
        t) := by
  simp only [Act.perform_state_bind, Act.perform_bind_pure, Act.perform_ofExcept, h]
  exact ⟨rfl, rfl⟩

namespace Stage.AgreeOn

variable {stage other : Stage α} {name : String} {names : List String}

/-- A change reads the actor that it finds, and no other. -/
theorem alike_change (h : AgreeOn (stage.cast.position? name).toList stage other) (f : α → α) :
    ((Cast.change name f).perform stage.cast).Alike ((Cast.change name f).perform other.cast) := by
  rw [Cast.perform_change, Cast.perform_change, Cast.position, Cast.position, ← h.position?_eq]
  cases hname : stage.cast.position? name with
  | none => exact ⟨rfl, rfl⟩
  | some i =>
      simp only [← h.actorAt_eq (Option.mem_toList.2 hname)]
      cases stage.cast.actorAt i <;> exact ⟨rfl, rfl⟩

variable [Actor α]

/-- An entrance reads the actors whom it names, for the notice or for the mistake. -/
theorem alike_bringOn (h : AgreeOn (names.filterMap stage.cast.position?) stage other) :
    ((Stage.bringOn names).perform stage).Alike ((Stage.bringOn names).perform other) := by
  rw [perform_bringOn, perform_bringOn, ← h.entering_eq, ← h.present_eq]
  cases his : stage.entering names with
  | error error => exact ⟨rfl, rfl⟩
  | ok is =>
      simp only [h.map_nameAt_eq fun i hi => (mem_entering his).1 hi]
      exact ⟨rfl, rfl⟩

theorem alike_sendOff (h : AgreeOn (names.filterMap stage.cast.position?) stage other) :
    ((Stage.sendOff names).perform stage).Alike ((Stage.sendOff names).perform other) := by
  rw [perform_sendOff, perform_sendOff, ← h.leaving_eq, ← h.present_eq]
  cases his : stage.leaving names with
  | error error => exact ⟨rfl, rfl⟩
  | ok is =>
      simp only [h.map_nameAt_eq fun i hi => (mem_leaving his).1 hi]
      exact ⟨rfl, rfl⟩

/-- An exit of one reads the actor whom it names. -/
theorem alike_dismiss (h : AgreeOn (stage.cast.position? name).toList stage other) :
    ((Stage.dismiss name).perform stage).Alike ((Stage.dismiss name).perform other) := by
  rw [perform_dismiss, perform_dismiss, ← h.presentPosition_eq, ← h.present_eq]
  cases hi : stage.presentPosition name with
  | error error => exact ⟨rfl, rfl⟩
  | ok i =>
      simp only [h.nameAt_eq (Option.mem_toList.2 (presentPosition_eq_ok.1 hi).1)]
      exact ⟨rfl, rfl⟩

/-- A speaker is read when it is asked whom it addresses. -/
theorem exchange_eq_of_reads (h : AgreeOn ((Direction.addressee name).reads stage) stage other) :
    stage.exchange name = other.exchange name :=
  (h.mono fun _ hi => List.mem_append_left _ hi).exchange_eq

/-- A speaker and who faces it are both read when the addressee is asked for. -/
theorem mem_reads_of_exchange {pair : Nat × Nat} (hpair : stage.exchange name = .ok pair) :
    pair.1 ∈ (Direction.addressee name).reads stage ∧
      pair.2 ∈ (Direction.addressee name).reads stage := by
  obtain ⟨hname, hpartner⟩ := exchange_eq_ok_iff_partner?.1 hpair
  have hfound : (stage.cast.position? name).bind stage.partner? = some pair.2 :=
    Option.bind_eq_some_iff.2 ⟨pair.1, hname, hpartner⟩
  constructor
  · exact List.mem_append_left _ (Option.mem_toList.2 hname)
  · exact List.mem_append_right _ (Option.mem_toList.2 hfound)

/-- An address reads the speaker and the one spoken to. -/
theorem alike_addressee (h : AgreeOn ((Direction.addressee name).reads stage) stage other) :
    ((Stage.addressee name).perform stage).Alike ((Stage.addressee name).perform other) := by
  rw [perform_addressee, perform_addressee, ← h.exchange_eq_of_reads]
  cases hpair : stage.exchange name with
  | error error => exact ⟨rfl, rfl⟩
  | ok pair =>
      obtain ⟨hspeaker, hpartner⟩ := mem_reads_of_exchange hpair
      simp only [← h.actorAt_eq hpartner, h.nameAt_eq hspeaker, h.nameAt_eq hpartner]
      cases stage.cast.actorAt pair.2 <;> exact ⟨rfl, rfl⟩

/-- A change of the one spoken to reads whom the address reads. -/
theorem alike_changeAddressee (h : AgreeOn ((Direction.addressee name).reads stage) stage other)
    (f : α → α) :
    ((Stage.changeAddressee name f).perform stage).Alike
      ((Stage.changeAddressee name f).perform other) := by
  rw [perform_changeAddressee, perform_changeAddressee, ← h.exchange_eq_of_reads]
  cases hpair : stage.exchange name with
  | error error => exact ⟨rfl, rfl⟩
  | ok pair =>
      obtain ⟨hspeaker, hpartner⟩ := mem_reads_of_exchange hpair
      simp only [← h.actorAt_eq hpartner, h.nameAt_eq hspeaker, h.nameAt_eq hpartner]
      cases stage.cast.actorAt pair.2 <;> exact ⟨rfl, rfl⟩

end Stage.AgreeOn

variable [Actor α]

/-- What an order answers and writes depends on no actor but those it reads or shows. -/
theorem CastOrder.alike_of_agreeOn {order : CastOrder α} {stage other : Stage α}
    (hsize : order.walks = true → stage.cast.size = other.cast.size)
    (h : Stage.AgreeOn (order.reads stage.cast ++ order.passes stage.cast) stage other) :
    (order.act.perform stage.cast).Alike (order.act.perform other.cast) := by
  have hreads := h.mono fun _ hi => List.mem_append_left _ hi
  have hpasses := h.mono fun _ hi => List.mem_append_right _ hi
  cases order with
  | size =>
      exact Outcome.alike_ask (fun cast : Cast α => Reply.count cast.size)
        (congrArg _ (hsize rfl))
  | isEmpty =>
      have hempty : stage.cast.isEmpty = other.cast.isEmpty := by
        rw [Cast.isEmpty, Cast.isEmpty, Bool.eq_iff_iff, List.isEmpty_iff_length_eq_zero,
          List.isEmpty_iff_length_eq_zero]
        exact (hsize rfl).congr_left
      exact Outcome.alike_ask (fun cast : Cast α => Reply.flag cast.isEmpty) (congrArg _ hempty)
  | names =>
      have hactors := hpasses.actors_eq_of_size_eq (hsize rfl)
      exact Outcome.alike_ask (fun cast : Cast α => Reply.names cast.names)
        (congrArg (fun actors => Reply.names (actors.map Actor.name)) hactors)
  | actors =>
      have hactors := hpasses.actors_eq_of_size_eq (hsize rfl)
      exact Outcome.alike_ask (fun cast : Cast α => Reply.actors cast.actors) (congrArg _ hactors)
  | contains name =>
      have hcontains : stage.cast.contains name = other.cast.contains name := by
        rw [Cast.contains, Cast.contains, h.position?_eq]
      exact Outcome.alike_ask (fun cast : Cast α => Reply.flag (cast.contains name))
        (congrArg _ hcontains)
  | lookup name =>
      exact Outcome.alike_check (fun cast : Cast α => cast.lookup name) hreads.lookup_eq Reply.actor
  | change name f => exact (Stage.AgreeOn.alike_change hreads f).bind_pure Reply.actor

/-- What a direction answers and writes on a stage depends on no actor but those at some
positions: on another stage that differs from it in other actors only, the direction answers and
writes the same.  A direction that goes by the whole cast may tell how far that reaches; for any
other there can be further actors beyond the end. -/
def Direction.DependsOnly (direction : Direction α) (stage : Stage α) (is : List Nat) : Prop :=
  ∀ other : Stage α, (direction.walks = true → stage.cast.size = other.cast.size) →
    Stage.AgreeOn is stage other → (direction.act.perform stage).Alike (direction.act.perform other)

/-- Nothing is read but at the positions listed, whoever is on stage. -/
theorem Direction.dependsOnly_reads (direction : Direction α) (stage : Stage α) :
    direction.DependsOnly stage (direction.reads stage ++ direction.passes stage) := by
  intro other hsize h
  have hreads := h.mono fun _ hi => List.mem_append_left _ hi
  have hpasses := h.mono fun _ hi => List.mem_append_right _ hi
  cases direction with
  | bringOn names => exact (Stage.AgreeOn.alike_bringOn hreads).bind_pure _
  | sendOff names => exact (Stage.AgreeOn.alike_sendOff hreads).bind_pure _
  | dismiss name => exact (Stage.AgreeOn.alike_dismiss hreads).bind_pure _
  | addressee name => exact (Stage.AgreeOn.alike_addressee hreads).bind_pure Reply.actor
  | changeAddressee name f =>
      exact (Stage.AgreeOn.alike_changeAddressee hreads f).bind_pure Reply.actor
  | change name f =>
      have hchange : ((Stage.change name f).perform stage).Alike
          ((Stage.change name f).perform other) :=
        have hcast := Stage.AgreeOn.alike_change hreads f
        ⟨hcast.answer_eq, hcast.notices_eq⟩
      exact hchange.bind_pure Reply.actor
  | cast order =>
      have horder := order.alike_of_agreeOn hsize h
      exact ⟨horder.answer_eq, horder.notices_eq⟩
  | clear =>
      simp only [act, Act.perform_bind_pure, Stage.perform_clear, h.present_eq]
      exact ⟨rfl, rfl⟩
  | setFlag value => exact ⟨rfl, rfl⟩
  | requirePresent name =>
      have hcheck : stage.requirePresent name = other.requirePresent name := by
        rw [Stage.requirePresent_eq, Stage.requirePresent_eq, hreads.presentPosition_eq]
      exact Outcome.alike_check (fun stage : Stage α => stage.requirePresent name) hcheck
        fun _ => Reply.done
  | requireAbsent name =>
      have hcheck : stage.requireAbsent name = other.requireAbsent name := by
        rw [Stage.requireAbsent_eq, Stage.requireAbsent_eq, hreads.absentPosition_eq]
      exact Outcome.alike_check (fun stage : Stage α => stage.requireAbsent name) hcheck
        fun _ => Reply.done
  | lookup name =>
      exact Outcome.alike_check (fun stage : Stage α => stage.lookup name) hreads.lookup_eq
        Reply.actor
  | flag =>
      exact Outcome.alike_ask (fun stage : Stage α => Reply.flag stage.flag)
        (congrArg _ h.flag_eq)
  | isPresent name =>
      have hpresent : stage.isPresent name = other.isPresent name := by
        rw [Stage.isPresent, Stage.isPresent, h.position?_eq, h.present_eq]
      exact Outcome.alike_ask (fun stage : Stage α => Reply.flag (stage.isPresent name))
        (congrArg _ hpresent)
  | headcount =>
      exact Outcome.alike_ask (fun stage : Stage α => Reply.count stage.headcount)
        (congrArg (fun present => Reply.count present.size) h.present_eq)
  | presentNames =>
      exact Outcome.alike_ask (fun stage : Stage α => Reply.names stage.presentNames)
        (congrArg (fun actors => Reply.names (actors.map Actor.name)) hreads.presentActors_eq)
  | presentActors =>
      exact Outcome.alike_ask (fun stage : Stage α => Reply.actors stage.presentActors)
        (congrArg _ hreads.presentActors_eq)
  | absentNames =>
      exact Outcome.alike_ask (fun stage : Stage α => Reply.names stage.absentNames)
        (congrArg (fun actors => Reply.names (actors.map Actor.name))
          (hpasses.absentActors_eq (hsize rfl)))
  | absentActors =>
      exact Outcome.alike_ask (fun stage : Stage α => Reply.actors stage.absentActors)
        (congrArg _ (hpasses.absentActors_eq (hsize rfl)))
  | pair =>
      exact Outcome.alike_ask (fun stage : Stage α => Reply.pair stage.pair?)
        (congrArg _ hreads.pair?_eq)
  | text =>
      have htext : stage.text = other.text := by
        unfold Stage.text
        rw [h.flag_eq, hreads.presentActors_eq, hpasses.absentActors_eq (hsize rfl)]
      exact Outcome.alike_ask (fun stage : Stage α => Reply.text stage.text) (congrArg _ htext)
  | snapshot =>
      have hsnapshot : stage.snapshot = other.snapshot := by
        rw [Stage.snapshot, Stage.snapshot, Stage.presentNames, Stage.presentNames,
          Stage.absentNames, Stage.absentNames, h.flag_eq, hreads.presentActors_eq,
          hpasses.absentActors_eq (hsize rfl)]
      exact Outcome.alike_ask (fun stage : Stage α => Reply.snapshot stage.snapshot)
        (congrArg _ hsnapshot)

end Dramatis
