import Dramatis.Direction

/-!
# Dramatis.Proofs.Stage.Effects

What each action on a stage answers, leaves behind and writes.  An action first finds
the positions it is about; if it cannot, that is its error, and nothing else has
happened.  From these equations follows all that one direction can do to a stage: a
`Move`, or nothing.
-/

namespace Dramatis

variable {α : Type}

namespace Stage

/-! ## Actions that change a stage -/

section Transitions

variable [Actor α]

/-- An entrance of a group: its positions are added, if all may enter. -/
theorem perform_bringOn (names : List String) (stage : Stage α) :
    (bringOn names).perform stage =
      match stage.entering names with
      | .ok is =>
        ⟨.ok (), { stage with present := stage.present.insertAll is },
          [.entered (is.map stage.cast.nameAt) (stage.present.insertAll is).size]⟩
      | .error error => ⟨.error error, stage, []⟩ := by
  rw [bringOn, Act.perform_state_bind]
  cases stage.entering names <;> rfl

/-- An exit of a group: its positions are taken away, if all may leave. -/
theorem perform_sendOff (names : List String) (stage : Stage α) :
    (sendOff names).perform stage =
      match stage.leaving names with
      | .ok is =>
        ⟨.ok (), { stage with present := stage.present.eraseAll is },
          [.leftTogether (is.map stage.cast.nameAt) (stage.present.eraseAll is).size]⟩
      | .error error => ⟨.error error, stage, []⟩ := by
  rw [sendOff, Act.perform_state_bind]
  cases stage.leaving names <;> rfl

/-- An exit of one: the position is taken away, if it may leave. -/
theorem perform_dismiss (name : String) (stage : Stage α) :
    (dismiss name).perform stage =
      match stage.presentPosition name with
      | .ok i =>
        ⟨.ok (), { stage with present := stage.present.erase i },
          [.leftAlone (stage.cast.nameAt i) (stage.present.erase i).size]⟩
      | .error error => ⟨.error error, stage, []⟩ := by
  rw [dismiss, Act.perform_state_bind]
  cases stage.presentPosition name <;> rfl

/-- A speaker addresses whoever is opposite, if somebody is; nothing but the notice comes of it.
-/
theorem perform_addressee (name : String) (stage : Stage α) :
    (addressee name).perform stage =
      match stage.exchange name with
      | .error error => ⟨.error error, stage, []⟩
      | .ok (speaker, partner) =>
        match stage.cast.actorAt partner with
        | .error error => ⟨.error error, stage, []⟩
        | .ok actor =>
          ⟨.ok actor, stage,
            [.addressed (stage.cast.nameAt speaker) (stage.cast.nameAt partner)]⟩ := by
  rw [addressee, Act.perform_state_bind]
  cases stage.exchange name with
  | error error => rfl
  | ok pair =>
      simp only [Act.perform_ofExcept_ok_bind]
      cases stage.cast.actorAt pair.2 <;> rfl

/-- Whoever is opposite to the speaker is changed, and the notice shows the name from before. -/
theorem perform_changeAddressee (name : String) (f : α → α) (stage : Stage α) :
    (changeAddressee name f).perform stage =
      match stage.exchange name with
      | .error error => ⟨.error error, stage, []⟩
      | .ok (speaker, partner) =>
        match stage.cast.actorAt partner with
        | .error error => ⟨.error error, stage, []⟩
        | .ok actor =>
          ⟨.ok (f actor), { stage with cast := stage.cast.put partner (f actor) },
            [.addressed (stage.cast.nameAt speaker) (stage.cast.nameAt partner)]⟩ := by
  rw [changeAddressee, Act.perform_state_bind]
  cases stage.exchange name with
  | error error => rfl
  | ok pair =>
      simp only [Act.perform_ofExcept_ok_bind]
      cases stage.cast.actorAt pair.2 <;> rfl

/-- Nothing is changed by asking for the addressee. -/
theorem state_addressee (name : String) (stage : Stage α) :
    ((addressee name).perform stage).state = stage := by
  rw [perform_addressee]
  cases stage.exchange name with
  | error error => rfl
  | ok pair =>
      simp only
      cases stage.cast.actorAt pair.2 <;> rfl

/-- Nothing is changed but the actor at one position, if that. -/
theorem state_changeAddressee (name : String) (f : α → α) (stage : Stage α) :
    ((changeAddressee name f).perform stage).state = stage ∨
      ∃ i actor, stage.cast.actorAt i = .ok actor ∧
        ((changeAddressee name f).perform stage).state =
          { stage with cast := stage.cast.put i (f actor) } := by
  rw [perform_changeAddressee]
  cases stage.exchange name with
  | error error => exact .inl rfl
  | ok pair =>
      simp only
      cases hactor : stage.cast.actorAt pair.2 with
      | error error => exact .inl rfl
      | ok actor => exact .inr ⟨pair.2, actor, hactor, rfl⟩

end Transitions

/-- An exit of everybody: the stage is empty, and a notice tells how many there were if any were.
-/
theorem perform_clear (stage : Stage α) :
    (clear : Act (Stage α) Unit).perform stage =
      ⟨.ok (), { stage with present := .empty },
        if stage.present.isEmpty then [] else [.cleared stage.present.size]⟩ := by
  rw [clear, Act.perform_state_bind, Act.perform_become_bind]
  cases stage.present.isEmpty <;> rfl

theorem perform_setFlag (value : Bool) (stage : Stage α) :
    (setFlag value).perform stage = ⟨.ok (), { stage with flag := value }, []⟩ := rfl

end Stage

/-- A change puts an actor in the place of the one found, or fails and changes nothing. -/
theorem Cast.perform_change (name : String) (f : α → α) (cast : Cast α) :
    (Cast.change name f).perform cast =
      match cast.position name with
      | .error error => ⟨.error error, cast, []⟩
      | .ok i =>
        match cast.actorAt i with
        | .error error => ⟨.error error, cast, []⟩
        | .ok actor => ⟨.ok (f actor), cast.put i (f actor), []⟩ := by
  rw [Cast.change, Act.perform_state_bind]
  cases cast.position name with
  | error error => rfl
  | ok i =>
      simp only [Act.perform_ofExcept_ok_bind]
      cases cast.actorAt i <;> rfl

/-! ## What one direction can do to a stage -/

variable [Actor α]

/-- The stages that one direction can make of a stage. -/
inductive Stage.Move (stage : Stage α) : Stage α → Prop
  /-- A question was asked, or the direction failed. -/
  | stay : Move stage stage
  | enter {names : List String} {is : List Nat} (h : stage.entering names = .ok is) :
      Move stage { stage with present := stage.present.insertAll is }
  | leave {names : List String} {is : List Nat} (h : stage.leaving names = .ok is) :
      Move stage { stage with present := stage.present.eraseAll is }
  | exit {name : String} {i : Nat} (h : stage.presentPosition name = .ok i) :
      Move stage { stage with present := stage.present.erase i }
  | clear : Move stage { stage with present := .empty }
  | setFlag (value : Bool) : Move stage { stage with flag := value }
  /-- An actor was changed, wherever the direction found it. -/
  | put {i : Nat} {actor : α} (h : stage.cast.actorAt i = .ok actor) (changed : α) :
      Move stage { stage with cast := stage.cast.put i changed }

/-- An order to the cast changes one actor of it, or nothing. -/
theorem CastOrder.move_act (order : CastOrder α) (stage : Stage α) :
    stage.Move { stage with cast := (order.act.perform stage.cast).state } := by
  cases order with
  | change name f =>
      simp only [CastOrder.act, Act.perform_bind_pure, Cast.perform_change]
      cases stage.cast.position name with
      | error error => exact .stay
      | ok i =>
          cases hactor : stage.cast.actorAt i with
          | error error =>
              simp only [hactor]
              exact .stay
          | ok actor =>
              simp only [hactor]
              exact .put hactor (f actor)
  | lookup name =>
      simp only [CastOrder.act, Act.perform_state_bind, Act.perform_bind_pure, Act.perform_ofExcept]
      exact .stay
  | size | isEmpty | names | actors | contains => exact .stay

/-- Whatever a direction is, it makes one of the moves, or none. -/
theorem Direction.move_act (direction : Direction α) (stage : Stage α) :
    stage.Move (direction.act.perform stage).state := by
  cases direction with
  | bringOn names =>
      simp only [Direction.act, Act.perform_bind_pure, Stage.perform_bringOn]
      cases his : stage.entering names with
      | error error => exact .stay
      | ok is => exact .enter his
  | sendOff names =>
      simp only [Direction.act, Act.perform_bind_pure, Stage.perform_sendOff]
      cases his : stage.leaving names with
      | error error => exact .stay
      | ok is => exact .leave his
  | dismiss name =>
      simp only [Direction.act, Act.perform_bind_pure, Stage.perform_dismiss]
      cases hi : stage.presentPosition name with
      | error error => exact .stay
      | ok i => exact .exit hi
  | clear =>
      simp only [Direction.act, Act.perform_bind_pure, Stage.perform_clear]
      exact .clear
  | setFlag value =>
      simp only [Direction.act, Act.perform_bind_pure, Stage.perform_setFlag]
      exact .setFlag value
  | addressee name =>
      simp only [Direction.act, Act.perform_bind_pure, Stage.state_addressee]
      exact .stay
  | changeAddressee name f =>
      simp only [Direction.act, Act.perform_bind_pure]
      cases Stage.state_changeAddressee name f stage with
      | inl hstay =>
          rw [hstay]
          exact .stay
      | inr hput =>
          obtain ⟨i, actor, hactor, hput⟩ := hput
          rw [hput]
          exact .put hactor (f actor)
  | change name f =>
      have hmove := (CastOrder.change name f).move_act stage
      simp only [CastOrder.act, Act.perform_bind_pure] at hmove
      simpa only [Direction.act, Act.perform_bind_pure, Stage.change, Stage.onCast,
        Act.perform_within] using hmove
  | cast order => exact order.move_act stage
  | requirePresent name | requireAbsent name | lookup name =>
      simp only [Direction.act, Act.perform_state_bind, Act.perform_bind_pure, Act.perform_ofExcept]
      exact .stay
  | flag | isPresent | headcount | presentNames | absentNames | presentActors | absentActors
  | pair | text | snapshot => exact .stay

/-! ## What no direction can do -/

/-- No direction touches the index of the cast. -/
theorem Stage.Move.index_eq {stage next : Stage α} (h : stage.Move next) :
    next.cast.index = stage.cast.index := by
  cases h <;> rfl

omit [Actor α] in
/-- What names stand for depends on the index alone. -/
theorem Cast.position?_congr {cast other : Cast α} (h : cast.index = other.index) :
    cast.position? = other.position? := by
  funext name
  simp only [position?, positionOfKey?, h]

end Dramatis
