import Dramatis.Proofs.Stage.Failure
import Dramatis.Proofs.Stage.Group

/-!
# Dramatis.Proofs.Stage.History

Who is on stage, told from the play alone.  A step brings somebody on stage if it is the
entrance of a group and succeeds; it takes somebody off if it is an exit that succeeds, of
a group or of one actor, or the exit of everybody.  Nothing else moves anybody: not a
question, not a change of an actor, not a direction that fails.

So at the end of a play those are on stage whom some step has brought and no later step
has taken.
-/

namespace Dramatis

variable {α : Type} [Actor α]

/-! ## Steps that move somebody -/

namespace Step

/-- A step brings the actor at a position on stage: a group enters, and one of its names
stands for the position in the cast. -/
inductive Brings (cast : Cast α) (i : Nat) : Step α → Prop
  | group {stage : Stage α} {names : List String} {name : String}
      (succeeds : Succeeds ⟨stage, .bringOn names⟩) (mem : name ∈ names)
      (named : cast.position? name = some i) : Brings cast i ⟨stage, .bringOn names⟩

/-- A step takes the actor at a position off stage: a group leaves, and one of its names
stands for the position; or one actor leaves, whose name does; or everybody leaves. -/
inductive Takes (cast : Cast α) (i : Nat) : Step α → Prop
  | group {stage : Stage α} {names : List String} {name : String}
      (succeeds : Succeeds ⟨stage, .sendOff names⟩) (mem : name ∈ names)
      (named : cast.position? name = some i) : Takes cast i ⟨stage, .sendOff names⟩
  | single {stage : Stage α} {name : String} (succeeds : Succeeds ⟨stage, .dismiss name⟩)
      (named : cast.position? name = some i) : Takes cast i ⟨stage, .dismiss name⟩
  | everybody {stage : Stage α} : Takes cast i ⟨stage, .clear⟩

variable {cast : Cast α} {i : Nat} {stage : Stage α} {names : List String} {name : String}

/-- An entrance that succeeds brings those whom its names stand for. -/
theorem brings_bringOn_iff :
    Brings cast i ⟨stage, .bringOn names⟩ ↔
      Succeeds ⟨stage, .bringOn names⟩ ∧ ∃ name ∈ names, cast.position? name = some i := by
  constructor
  · rintro ⟨succeeds, mem, named⟩
    exact ⟨succeeds, _, mem, named⟩
  · rintro ⟨succeeds, name, mem, named⟩
    exact .group succeeds mem named

theorem takes_sendOff_iff :
    Takes cast i ⟨stage, .sendOff names⟩ ↔
      Succeeds ⟨stage, .sendOff names⟩ ∧ ∃ name ∈ names, cast.position? name = some i := by
  constructor
  · intro htakes
    cases htakes with
    | group succeeds mem named => exact ⟨succeeds, _, mem, named⟩
  · rintro ⟨succeeds, name, mem, named⟩
    exact .group succeeds mem named

/-- An exit of one that succeeds takes the one whom the name stands for. -/
theorem takes_dismiss_iff :
    Takes cast i ⟨stage, .dismiss name⟩ ↔
      Succeeds ⟨stage, .dismiss name⟩ ∧ cast.position? name = some i := by
  constructor
  · intro htakes
    cases htakes with
    | single succeeds named => exact ⟨succeeds, named⟩
  · rintro ⟨succeeds, named⟩
    exact .single succeeds named

/-- Only directions that succeed move anybody. -/
theorem Brings.succeeds {step : Step α} (h : step.Brings cast i) : step.Succeeds := by
  cases h with
  | group succeeds _ _ => exact succeeds

/-- Only directions that succeed take anybody off. -/
theorem Takes.succeeds {step : Step α} (h : step.Takes cast i) : step.Succeeds := by
  cases h with
  | group succeeds _ _ => exact succeeds
  | single succeeds _ => exact succeeds
  | everybody =>
      refine ⟨.done, ?_⟩
      rw [outcome, Direction.act, Act.perform_bind_pure, Stage.perform_clear]
      rfl

/-! ## Who is on stage after a step -/

/-- After an entrance the group is on stage, and everybody who was on before. -/
theorem mem_present_bringOn (h : Succeeds ⟨stage, .bringOn names⟩) :
    i ∈ (Step.mk stage (.bringOn names)).outcome.state.present ↔
      (∃ name ∈ names, stage.cast.position? name = some i) ∨ i ∈ stage.present := by
  obtain ⟨reply, hreply⟩ := h
  simp only [outcome, Direction.act, Act.perform_bind_pure, Stage.perform_bringOn] at hreply ⊢
  cases his : stage.entering names with
  | error error => simp [his, Except.map] at hreply
  | ok is => rw [Positions.mem_insertAll, Stage.mem_entering his]

/-- After an exit of a group everybody else is still on stage. -/
theorem mem_present_sendOff (h : Succeeds ⟨stage, .sendOff names⟩) :
    i ∈ (Step.mk stage (.sendOff names)).outcome.state.present ↔
      i ∈ stage.present ∧ ¬ ∃ name ∈ names, stage.cast.position? name = some i := by
  obtain ⟨reply, hreply⟩ := h
  simp only [outcome, Direction.act, Act.perform_bind_pure, Stage.perform_sendOff] at hreply ⊢
  cases his : stage.leaving names with
  | error error => simp [his, Except.map] at hreply
  | ok is => rw [Positions.mem_eraseAll, Stage.mem_leaving his]

theorem mem_present_dismiss (h : Succeeds ⟨stage, .dismiss name⟩) :
    i ∈ (Step.mk stage (.dismiss name)).outcome.state.present ↔
      i ∈ stage.present ∧ stage.cast.position? name ≠ some i := by
  obtain ⟨reply, hreply⟩ := h
  simp only [outcome, Direction.act, Act.perform_bind_pure, Stage.perform_dismiss] at hreply ⊢
  cases hj : stage.presentPosition name with
  | error error => simp [hj, Except.map] at hreply
  | ok j =>
      rw [Positions.mem_erase, (Stage.presentPosition_eq_ok.1 hj).1, ne_eq, ne_eq,
        Option.some.injEq, eq_comm]

theorem not_mem_present_clear : i ∉ (Step.mk stage .clear).outcome.state.present := by
  rw [outcome, Direction.act, Act.perform_bind_pure, Stage.perform_clear]
  exact Positions.not_mem_empty

end Step

/-- Whether a direction may move somebody. -/
def Direction.moves : Direction α → Bool
  | bringOn _ | sendOff _ | dismiss _ | clear => true
  | _ => false

/-- Every other direction leaves everybody where they are. -/
theorem Direction.present_eq {direction : Direction α} (h : direction.moves = false)
    (stage : Stage α) : (direction.act.perform stage).state.present = stage.present := by
  cases direction with
  | bringOn | sendOff | dismiss | clear => contradiction
  | addressee name => simp only [act, Act.perform_bind_pure, Stage.state_addressee]
  | changeAddressee name f =>
      simp only [act, Act.perform_bind_pure]
      cases Stage.state_changeAddressee name f stage with
      | inl hstay => rw [hstay]
      | inr hput =>
          obtain ⟨i, actor, -, hput⟩ := hput
          rw [hput]
  | requirePresent name | requireAbsent name | lookup name =>
      simp only [act, Act.perform_state_bind, Act.perform_bind_pure, Act.perform_ofExcept]
  | change name f => rw [act, Act.perform_bind_pure]; rfl
  | setFlag | cast | flag | isPresent | headcount | presentNames | absentNames
  | presentActors | absentActors | pair | text | snapshot => rfl

/-- Whatever brings somebody on stage is a direction that moves. -/
theorem Step.Brings.moves {cast : Cast α} {i : Nat} {step : Step α} (h : step.Brings cast i) :
    step.direction.moves = true := by
  cases h with
  | group _ _ _ => rfl

theorem Step.Takes.moves {cast : Cast α} {i : Nat} {step : Step α} (h : step.Takes cast i) :
    step.direction.moves = true := by
  cases h with
  | group _ _ _ => rfl
  | single _ _ => rfl
  | everybody => rfl

/-- Those are on stage after a step whom it has brought, and those it has not taken of the
ones who were on before. -/
theorem Step.mem_present_iff (step : Step α) {cast : Cast α}
    (hnames : step.stage.cast.position? = cast.position?) (i : Nat) :
    i ∈ step.outcome.state.present ↔
      step.Brings cast i ∨ i ∈ step.stage.present ∧ ¬ step.Takes cast i := by
  obtain ⟨stage, direction⟩ := step
  change stage.cast.position? = cast.position? at hnames
  by_cases hmoves : direction.moves = true ∧ Succeeds ⟨stage, direction⟩
  · obtain ⟨hmoves, hsucceeds⟩ := hmoves
    cases direction with
    | bringOn names =>
        have htakes : ¬ Takes cast i ⟨stage, .bringOn names⟩ := nofun
        rw [mem_present_bringOn hsucceeds, brings_bringOn_iff, hnames]
        simp only [hsucceeds, true_and, htakes, not_false_eq_true, and_true]
    | sendOff names =>
        have hbrings : ¬ Brings cast i ⟨stage, .sendOff names⟩ := nofun
        rw [mem_present_sendOff hsucceeds, takes_sendOff_iff, hnames]
        simp only [hsucceeds, true_and, hbrings, false_or]
    | dismiss name =>
        have hbrings : ¬ Brings cast i ⟨stage, .dismiss name⟩ := nofun
        rw [mem_present_dismiss hsucceeds, takes_dismiss_iff, hnames]
        simp only [hsucceeds, true_and, hbrings, false_or, ne_eq]
    | clear =>
        have hbrings : ¬ Brings cast i ⟨stage, .clear⟩ := nofun
        simp only [not_mem_present_clear, hbrings, Takes.everybody, not_true, and_false, or_self]
    | _ => contradiction
  · -- Nobody has moved: the direction is not one that moves anybody, or it has failed.
    have hstay : (Step.mk stage direction).outcome.state.present = stage.present := by
      by_cases hsucceeds : Succeeds ⟨stage, direction⟩
      · refine Direction.present_eq ?_ stage
        simpa [hsucceeds] using hmoves
      · rw [(outcome_of_not_succeeds hsucceeds).1]
    have hbrings : ¬ Brings cast i ⟨stage, direction⟩ :=
      fun h => hmoves ⟨h.moves, h.succeeds⟩
    have htakes : ¬ Takes cast i ⟨stage, direction⟩ :=
      fun h => hmoves ⟨h.moves, h.succeeds⟩
    simp only [hstay, hbrings, htakes, false_or, not_false_eq_true, and_true]

/-! ## Who is on stage after a play -/

/-- Some step of a row brings the actor at a position on stage, and no later one takes
the actor off. -/
def Step.LastBrought (cast : Cast α) (i : Nat) (steps : List (Step α)) : Prop :=
  ∃ earlier step later, steps = earlier ++ step :: later ∧ step.Brings cast i ∧
    ∀ other ∈ later, ¬ other.Takes cast i

/-- Somebody was brought last by a later step, or by the first one if no later step takes them. -/
theorem Step.lastBrought_cons {cast : Cast α} {i : Nat} {step : Step α} {steps : List (Step α)} :
    LastBrought cast i (step :: steps) ↔
      LastBrought cast i steps ∨ step.Brings cast i ∧ ∀ other ∈ steps, ¬ other.Takes cast i := by
  constructor
  · rintro ⟨earlier, entrance, later, hsteps, hbrings, hkept⟩
    cases List.cons_eq_append_iff.1 hsteps with
    | inl hfirst =>
        obtain ⟨-, hrest⟩ := hfirst
        obtain ⟨rfl, rfl⟩ := List.cons.inj hrest
        exact .inr ⟨hbrings, hkept⟩
    | inr hlater =>
        obtain ⟨earlier, -, rfl⟩ := hlater
        exact .inl ⟨earlier, entrance, later, rfl, hbrings, hkept⟩
  · rintro (⟨earlier, entrance, later, rfl, hbrings, hkept⟩ | ⟨hbrings, hkept⟩)
    · exact ⟨step :: earlier, entrance, later, rfl, hbrings, hkept⟩
    · exact ⟨[], step, steps, rfl, hbrings, hkept⟩

namespace Stage

/-- Those are on stage after a play who were brought last, and those who were on before
and have never been taken.  The induction is on the play; what carries it is that every
name goes on standing for the same position. -/
theorem mem_present_after_iff {stage : Stage α} {cast : Cast α}
    (hindex : stage.cast.index = cast.index) (play : List (Direction α)) (i : Nat) :
    i ∈ (stage.after play).present ↔
      Step.LastBrought cast i (stage.steps play) ∨
        i ∈ stage.present ∧ ∀ step ∈ stage.steps play, ¬ step.Takes cast i := by
  induction play generalizing stage with
  | nil => simp [after, steps, Step.LastBrought]
  | cons direction play ih =>
      have hfirst := Step.mem_present_iff ⟨stage, direction⟩ (Cast.position?_congr hindex) i
      have hnext := (Step.index_eq ⟨stage, direction⟩).trans hindex
      rw [after_cons, ih hnext, hfirst, steps, Step.lastBrought_cons, List.forall_mem_cons]
      tauto

/-- At the end of a play those are on stage whom some step has brought and no later step
has taken, whatever their actors have become meanwhile.  Names stand for the same positions
at every step and afterwards, so a question for anybody's name has the same answer. -/
theorem present_iff_lastBrought (cast : Cast α) (play : List (Direction α)) (i : Nat) :
    (i ∈ ((ofCast cast).after play).present ↔
      ∃ earlier step later, (ofCast cast).steps play = earlier ++ step :: later ∧
        step.Brings cast i ∧ ∀ other ∈ later, ¬ other.Takes cast i) ∧
    (∀ step ∈ (ofCast cast).steps play, step.stage.cast.position? = cast.position?) ∧
    ∀ name, cast.position? name = some i →
      (((ofCast cast).after play).isPresent name = true ↔
        i ∈ ((ofCast cast).after play).present) := by
  obtain ⟨hafter, hsteps⟩ := (ofCast cast).index_eq_of_play play
  refine ⟨?_, fun step hstep => ?_, fun name hname => ?_⟩
  · have hnobody : i ∉ (ofCast cast).present := Positions.not_mem_empty
    have hindex : (ofCast cast).cast.index = cast.index := rfl
    rw [mem_present_after_iff hindex play i, Step.LastBrought]
    simp only [hnobody, false_and, or_false]
  · exact Cast.position?_congr (hsteps step hstep)
  · have hposition : ((ofCast cast).after play).cast.position? name = some i := by
      rw [Cast.position?_congr hafter]
      exact hname
    rw [isPresent, hposition, Option.any_some, Positions.contains_iff]

/-- Romeo enters and is renamed, a second entrance of his fails, and Juliet leaves. -/
theorem present_iff_lastBrought_renamed :
    ∃ (cast : Cast Player) (play : List (Direction Player)),
      play.length = 4 ∧ ((ofCast cast).after play).presentNames = ["Montague"] ∧
      ((ofCast cast).after play).isPresent "romeo" = true ∧
      ∃ earlier step later, (ofCast cast).steps play = earlier ++ step :: later ∧
        step.Brings cast 0 ∧ ∀ other ∈ later, ¬ other.Takes cast 0 := by
  obtain ⟨hpresent, -, hquery⟩ := present_iff_lastBrought
    (⟨[⟨"Romeo", 0, []⟩, ⟨"Juliet", 0, []⟩], [("Romeo", 0), ("Juliet", 1)]⟩ : Cast Player)
    [.bringOn ["romeo", "Juliet"], .change "Romeo" fun player => { player with name := "Montague" },
      .bringOn ["ROMEO"], .dismiss "juliet"] 0
  have hon := (hquery "romeo" rfl).1 rfl
  exact ⟨_, _, rfl, rfl, rfl, hpresent.1 hon⟩

end Stage

end Dramatis
