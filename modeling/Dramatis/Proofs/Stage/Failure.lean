import Dramatis.Proofs.Stage.Run

/-!
# Dramatis.Proofs.Stage.Failure

A direction that fails has done nothing.  Every action first reads the state and makes its
checks, which change nothing and write nothing; what it does after them cannot fail.  So a
failure always comes before the first change and before the first notice.

In the course of a play, then, the directions that fail might as well not have been given:
without them the play ends on the same stage and leaves the same notices.
-/

namespace Dramatis

namespace Act

variable {σ τ β γ : Type}

/-- An action that, if it fails, has changed nothing and written nothing. -/
def FailsClean (act : Act σ β) : Prop :=
  ∀ s error, (act.perform s).answer = .error error → act.perform s = ⟨.error error, s, []⟩

/-- An action that does not fail. -/
def Completes (act : Act σ β) : Prop := ∀ s error, (act.perform s).answer ≠ .error error

/-! ## Actions after the checks -/

theorem completes_pure (b : β) : (pure b : Act σ β).Completes := fun _ _ => nofun

theorem completes_become (t : σ) : (become t).Completes := fun _ _ => nofun

theorem completes_note (notice : Notice) : (note notice : Act σ Unit).Completes :=
  fun _ _ => nofun

/-- Two actions that do not fail do not fail one after the other. -/
theorem Completes.bind {act : Act σ β} {next : β → Act σ γ} (h : act.Completes)
    (hnext : ∀ b, (next b).Completes) : (act >>= next).Completes := by
  intro s error herror
  obtain ⟨answer, t, notices, hact⟩ : ∃ answer t notices,
    act.perform s = ⟨answer, t, notices⟩ := ⟨_, _, _, rfl⟩
  cases answer with
  | error first => exact h s first (by rw [hact])
  | ok b =>
      rw [perform_bind_ok hact] at herror
      exact hnext b t error herror

/-- A change, and the notice of it. -/
theorem completes_become_note (t : σ) (notice : Notice) :
    (become t >>= fun _ => note notice).Completes :=
  (completes_become t).bind fun _ => completes_note notice

/-- What never fails leaves nothing behind when it fails. -/
theorem Completes.failsClean {act : Act σ β} (h : act.Completes) : act.FailsClean :=
  fun s error herror => absurd herror (h s error)

/-! ## Checks before the action -/

/-- A check leaves nothing behind. -/
theorem failsClean_ofExcept (answer : Except Mistake β) :
    (ofExcept answer : Act σ β).FailsClean := by
  intro s error herror
  rw [perform_ofExcept] at herror ⊢
  rw [show answer = .error error from herror]

/-- The state is there to be read. -/
theorem failsClean_state_bind {next : σ → Act σ β} (h : ∀ t, (next t).FailsClean) :
    (state >>= next).FailsClean := by
  intro s error herror
  rw [perform_state_bind] at herror ⊢
  exact h s s error herror

/-- A check fails before the action, or is over without a trace. -/
theorem failsClean_ofExcept_bind {answer : Except Mistake β} {next : β → Act σ γ}
    (h : ∀ b, (next b).FailsClean) : (ofExcept answer >>= next).FailsClean := by
  intro s error herror
  cases answer with
  | ok b => exact h b s error herror
  | error first =>
      rw [perform_ofExcept_error_bind] at herror ⊢
      rw [Except.error.inj herror]

/-- First a check of the state, and then something that cannot fail. -/
theorem failsClean_check_bind {check : σ → Except Mistake β} {next : σ → β → Act σ γ}
    (h : ∀ s b, (next s b).Completes) :
    (state >>= fun s => ofExcept (check s) >>= next s).FailsClean :=
  failsClean_state_bind fun s => failsClean_ofExcept_bind fun b => (h s b).failsClean

/-- Making something of the answer leaves nothing behind. -/
theorem FailsClean.bind_pure {act : Act σ β} (h : act.FailsClean) (f : β → γ) :
    (act >>= fun b => pure (f b)).FailsClean := by
  intro s error herror
  rw [perform_bind_pure] at herror ⊢
  cases hanswer : (act.perform s).answer with
  | ok b => simp [hanswer, Except.map] at herror
  | error first =>
      obtain rfl : first = error := by simpa [hanswer, Except.map] using herror
      rw [h s first hanswer]
      rfl

/-- What leaves a part as it was leaves the whole as it was. -/
theorem FailsClean.within {act : Act τ β} {part : σ → τ} {replace : σ → τ → σ}
    (h : act.FailsClean) (hreplace : ∀ s, replace s (part s) = s) :
    (within part replace act).FailsClean := by
  intro s error herror
  rw [perform_within] at herror ⊢
  rw [h (part s) error herror, hreplace]

end Act

/-! ## Every direction -/

open Act

variable {α : Type}

/-- A change of an actor finds the actor before it changes anything. -/
theorem Cast.failsClean_change (name : String) (f : α → α) : (change name f).FailsClean :=
  failsClean_state_bind fun _ => failsClean_ofExcept_bind fun _ =>
    failsClean_ofExcept_bind fun _ =>
      ((completes_become _).bind fun _ => completes_pure _).failsClean

namespace Stage

/-- What leaves the cast as it was leaves the stage as it was. -/
theorem failsClean_onCast {β : Type} {act : Act (Cast α) β} (h : act.FailsClean) :
    (onCast act).FailsClean := h.within fun _ => rfl

/-- Everybody can always leave. -/
theorem completes_clear : (clear : Act (Stage α) Unit).Completes := by
  intro stage error herror
  rw [perform_clear] at herror
  contradiction

theorem completes_setFlag (value : Bool) : (setFlag value : Act (Stage α) Unit).Completes :=
  fun _ _ => nofun

variable [Actor α]

/-- A group is checked before it enters. -/
theorem failsClean_bringOn (names : List String) :
    (bringOn names : Act (Stage α) Unit).FailsClean :=
  failsClean_check_bind fun _ _ => completes_become_note _ _

theorem failsClean_sendOff (names : List String) :
    (sendOff names : Act (Stage α) Unit).FailsClean :=
  failsClean_check_bind fun _ _ => completes_become_note _ _

/-- An actor is found on stage before it leaves. -/
theorem failsClean_dismiss (name : String) : (dismiss name : Act (Stage α) Unit).FailsClean :=
  failsClean_check_bind fun _ _ => completes_become_note _ _

/-- An addressee is found before the notice is written. -/
theorem failsClean_addressee (name : String) : (addressee name : Act (Stage α) α).FailsClean :=
  failsClean_state_bind fun _ => failsClean_ofExcept_bind fun _ =>
    failsClean_ofExcept_bind fun _ =>
      ((completes_note _).bind fun _ => completes_pure _).failsClean

/-- An addressee is found before it is changed and the notice is written. -/
theorem failsClean_changeAddressee (name : String) (f : α → α) :
    (changeAddressee name f).FailsClean :=
  failsClean_state_bind fun _ => failsClean_ofExcept_bind fun _ =>
    failsClean_ofExcept_bind fun _ =>
      ((completes_note _).bind fun _ =>
        (completes_become _).bind fun _ => completes_pure _).failsClean

end Stage

variable [Actor α]

/-- An order that fails leaves the cast as it was. -/
theorem CastOrder.failsClean_act (order : CastOrder α) : order.act.FailsClean := by
  cases order with
  | lookup name => exact failsClean_state_bind fun _ => (failsClean_ofExcept _).bind_pure _
  | change name f => exact (Cast.failsClean_change name f).bind_pure _
  | size | isEmpty | names | actors | contains =>
      exact failsClean_state_bind fun _ => (completes_pure _).failsClean

/-- A direction that fails leaves the stage as it was, and no notice. -/
theorem Direction.failsClean_act (direction : Direction α) : direction.act.FailsClean := by
  cases direction with
  | bringOn names => exact (Stage.failsClean_bringOn names).bind_pure _
  | sendOff names => exact (Stage.failsClean_sendOff names).bind_pure _
  | dismiss name => exact (Stage.failsClean_dismiss name).bind_pure _
  | clear => exact Stage.completes_clear.failsClean.bind_pure _
  | setFlag value => exact (Stage.completes_setFlag value).failsClean.bind_pure _
  | addressee name => exact (Stage.failsClean_addressee name).bind_pure _
  | changeAddressee name f => exact (Stage.failsClean_changeAddressee name f).bind_pure _
  | change name f => exact (Stage.failsClean_onCast (Cast.failsClean_change name f)).bind_pure _
  | cast order => exact Stage.failsClean_onCast order.failsClean_act
  | requirePresent name | requireAbsent name | lookup name =>
      exact failsClean_state_bind fun _ => (failsClean_ofExcept _).bind_pure _
  | flag | isPresent | headcount | presentNames | absentNames | presentActors | absentActors
  | pair | text | snapshot => exact failsClean_state_bind fun _ => (completes_pure _).failsClean

/-- A step that does not succeed leaves the stage as it found it, and no notice. -/
theorem Step.outcome_of_not_succeeds {step : Step α} (h : ¬ step.Succeeds) :
    step.outcome.state = step.stage ∧ step.outcome.notices = [] := by
  obtain ⟨error, herror⟩ := exists_error_of_not_succeeds h
  have houtcome : step.outcome = ⟨.error error, step.stage, []⟩ :=
    step.direction.failsClean_act step.stage error herror
  rw [houtcome]
  exact ⟨rfl, rfl⟩

/-! ## Plays without failures -/

namespace Stage

/-- The directions of a play that succeed where they are given. -/
def fruitful (stage : Stage α) (play : List (Direction α)) : List (Direction α) :=
  ((stage.steps play).filter fun step => step.Succeeds).map Step.direction

/-- A direction that succeeds counts among the fruitful ones, and the play goes on after it. -/
theorem fruitful_cons_of_succeeds {stage : Stage α} {direction : Direction α}
    (h : (Step.mk stage direction).Succeeds) (play : List (Direction α)) :
    stage.fruitful (direction :: play) =
      direction :: (Step.mk stage direction).outcome.state.fruitful play := by
  simp only [fruitful, steps, List.filter_cons, h, decide_true, ↓reduceIte, List.map_cons]

/-- A direction that fails does not count, and the play goes on as if it had not been given. -/
theorem fruitful_cons_of_not_succeeds {stage : Stage α} {direction : Direction α}
    (h : ¬ (Step.mk stage direction).Succeeds) (play : List (Direction α)) :
    stage.fruitful (direction :: play) = stage.fruitful play := by
  simp only [fruitful, steps, List.filter_cons, h, decide_false, Bool.false_eq_true, ↓reduceIte,
    (Step.outcome_of_not_succeeds h).1]

/-- The directions that fail can be left out of a play. -/
theorem perform_fruitful (stage : Stage α) (play : List (Direction α)) :
    stage.after (stage.fruitful play) = stage.after play ∧
      stage.log (stage.fruitful play) = stage.log play := by
  induction play generalizing stage with
  | nil => exact ⟨rfl, rfl⟩
  | cons direction play ih =>
      by_cases hsucceeds : (Step.mk stage direction).Succeeds
      · obtain ⟨hafter, hlog⟩ := ih (Step.mk stage direction).outcome.state
        rw [fruitful_cons_of_succeeds hsucceeds, after_cons, after_cons, log_cons, log_cons,
          hafter, hlog]
        exact ⟨rfl, rfl⟩
      · obtain ⟨hstate, hnotices⟩ := Step.outcome_of_not_succeeds hsucceeds
        rw [fruitful_cons_of_not_succeeds hsucceeds, after_cons, log_cons, hstate, hnotices]
        exact ih stage

end Stage

/-- Whatever the stage and whatever the direction, one that fails leaves the stage as it
was, with its cast, those who are on and its boolean, and it leaves no notice.  So a play
goes as it would without the directions that fail in it. -/
theorem Direction.failure_leaves_no_trace (stage : Stage α) :
    (∀ (direction : Direction α) (error : Mistake),
      (direction.act.perform stage).answer = .error error →
        (direction.act.perform stage).state = stage ∧
          (direction.act.perform stage).notices = []) ∧
    ∀ play : List (Direction α), stage.after (stage.fruitful play) = stage.after play ∧
      stage.log (stage.fruitful play) = stage.log play := by
  refine ⟨fun direction error herror => ?_, stage.perform_fruitful⟩
  rw [direction.failsClean_act stage error herror]
  exact ⟨rfl, rfl⟩

/-- Romeo is on stage.  The group fails for its second name, and Juliet stays off. -/
theorem Direction.failure_leaves_no_trace_stranger :
    ∃ stage : Stage Character, stage.presentNames = ["Romeo"] ∧ stage.absentNames = ["Juliet"] ∧
      ((bringOn ["Juliet", "Mercutio"]).act.perform stage).answer =
        .error (.unknown "Mercutio") ∧
      ((bringOn ["Juliet", "Mercutio"]).act.perform stage).state = stage ∧
      ((bringOn ["Juliet", "Mercutio"]).act.perform stage).notices = [] := by
  have hfails : ((bringOn ["Juliet", "Mercutio"]).act.perform
      (⟨⟨[⟨"Romeo", none, none⟩, ⟨"Juliet", none, none⟩], [("Romeo", 0), ("Juliet", 1)]⟩,
        .insert .empty 0, false⟩ : Stage Character)).answer = .error (.unknown "Mercutio") := rfl
  exact ⟨_, rfl, rfl, hfails, (failure_leaves_no_trace _).1 _ _ hfails⟩

end Dramatis
