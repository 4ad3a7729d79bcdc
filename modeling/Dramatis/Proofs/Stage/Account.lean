import Dramatis.Proofs.Stage.Counterpart
import Dramatis.Proofs.Stage.History
import Dramatis.Proofs.Stage.Shift
import Dramatis.Proofs.Text.Decimal

/-!
# Dramatis.Proofs.Stage.Account

What the log of a play says of it.  A step that succeeds and moves a group or one actor leaves
one line, with the names that those who move have at the time, in the order in which the
direction names them, and with the number of actors on stage afterwards.  A stage that is
cleared leaves a line only if somebody was on it.  A question for an addressee, and a change of
one, leaves a line if it succeeds.  No other step leaves any.

The level stands at the front of a line and the number at its end, so both are told whatever
names stand between them.  The lines of a play are then enough to know how many actors are on
stage at any time.
-/

namespace Dramatis

open Text

variable {σ α : Type}

/-! ## Lines -/

namespace Notice

section Texts

variable (names : List String) (name speaker addressee : String) (count : Nat)

theorem line_entered : (entered names count).line =
    "DEBUG enter " ++ ", ".intercalate names ++ ": " ++ Decimal.text count ++ " on stage" := by
  have hfront : "DEBUG enter " = "DEBUG" ++ " " ++ "enter " := by decide
  calc (entered names count).line
      = "DEBUG" ++ " " ++ ("enter " ++ ", ".intercalate names ++ ": " ++ Decimal.text count ++
          " on stage") := rfl
    _ = _ := by simp only [hfront, String.append_assoc]

theorem line_leftTogether : (leftTogether names count).line =
    "DEBUG exeunt " ++ ", ".intercalate names ++ ": " ++ Decimal.text count ++ " on stage" := by
  have hfront : "DEBUG exeunt " = "DEBUG" ++ " " ++ "exeunt " := by decide
  calc (leftTogether names count).line
      = "DEBUG" ++ " " ++ ("exeunt " ++ ", ".intercalate names ++ ": " ++ Decimal.text count ++
          " on stage") := rfl
    _ = _ := by simp only [hfront, String.append_assoc]

theorem line_leftAlone : (leftAlone name count).line =
    "DEBUG exit " ++ name ++ ": " ++ Decimal.text count ++ " on stage" := by
  have hfront : "DEBUG exit " = "DEBUG" ++ " " ++ "exit " := by decide
  calc (leftAlone name count).line
      = "DEBUG" ++ " " ++ ("exit " ++ name ++ ": " ++ Decimal.text count ++ " on stage") := rfl
    _ = _ := by simp only [hfront, String.append_assoc]

theorem line_cleared : (cleared count).line =
    "DEBUG exeunt omnes: " ++ Decimal.text count ++ " left the stage" := by
  have hfront : "DEBUG exeunt omnes: " = "DEBUG" ++ " " ++ "exeunt omnes: " := by decide
  calc (cleared count).line
      = "DEBUG" ++ " " ++ ("exeunt omnes: " ++ Decimal.text count ++ " left the stage") := rfl
    _ = _ := by simp only [hfront, String.append_assoc]

theorem line_addressed : (addressed speaker addressee).line =
    "TRACE " ++ speaker ++ " is addressing " ++ addressee := by
  have hfront : "TRACE " = "TRACE" ++ " " := by decide
  calc (addressed speaker addressee).line
      = "TRACE" ++ " " ++ (speaker ++ " is addressing " ++ addressee) := rfl
    _ = _ := by simp only [hfront, String.append_assoc]

end Texts

/-- The words of a line: the stretches between its spaces. -/
def wordsOfLine (line : String) : List String := (line.toList.splitOn ' ').map String.ofList

/-- How many actors are on stage after a line of the log, if there were so many before it. -/
def countAfter (count : Nat) (line : String) : Nat :=
  match wordsOfLine line with
  | "TRACE" :: _ => count
  | words =>
    match words.reverse with
    | "stage" :: "on" :: number :: _ => (Decimal.read? number.toList).getD count
    | "stage" :: "the" :: "left" :: _ => 0
    | _ => count

/-- A line that falls into two at a space has the words of both. -/
theorem wordsOfLine_append (first rest : String) :
    wordsOfLine (first ++ " " ++ rest) = wordsOfLine first ++ wordsOfLine rest := by
  have hspace : " ".toList = [' '] := rfl
  rw [wordsOfLine, String.toList_append, String.toList_append, hspace, List.append_assoc,
    List.singleton_append, List.splitOn_append_cons_self, List.map_append, wordsOfLine, wordsOfLine]

theorem wordsOfLine_text (n : Nat) : wordsOfLine (Decimal.text n) = [Decimal.text n] := by
  have hspace : ' ' ∉ (Decimal.text n).toList := by
    rw [Decimal.text, String.toList_ofList]
    intro hmem
    have hdigit := Decimal.isDigit_of_mem_digits hmem
    contradiction
  rw [wordsOfLine, List.splitOn_eq_singleton hspace, List.map_singleton, String.ofList_toList]

/-- The number is the last word but two, whatever stands before it. -/
theorem countAfter_onStage {front event : String} (hfront : front = "DEBUG" ++ " " ++ event)
    (count present : Nat) (who : String) :
    countAfter count (front ++ who ++ ": " ++ Decimal.text present ++ " on stage") = present := by
  have hline : front ++ who ++ ": " ++ Decimal.text present ++ " on stage" =
      "DEBUG" ++ " " ++ (event ++ who ++ ":" ++ " " ++
        (Decimal.text present ++ " " ++ "on stage")) := by
    have hcolon : ": " = ":" ++ " " := by decide
    have hend : " on stage" = " " ++ "on stage" := by decide
    simp only [hfront, hcolon, hend, String.append_assoc]
  have hlevel : wordsOfLine "DEBUG" = ["DEBUG"] := by decide
  have hend : wordsOfLine "on stage" = ["on", "stage"] := by decide
  have hread : Decimal.read? (Decimal.text present).toList = some present := by
    rw [Decimal.text, String.toList_ofList, Decimal.read?_digits]
  rw [countAfter, hline, wordsOfLine_append, wordsOfLine_append, wordsOfLine_append,
    wordsOfLine_text, hlevel, hend]
  simp [hread]

/-- After everybody has left nobody is on stage, whatever number the line tells. -/
theorem countAfter_cleared (count actors : Nat) :
    countAfter count ("DEBUG exeunt omnes: " ++ Decimal.text actors ++ " left the stage") = 0 := by
  have hline : "DEBUG exeunt omnes: " ++ Decimal.text actors ++ " left the stage" =
      "DEBUG exeunt omnes:" ++ " " ++ (Decimal.text actors ++ " " ++ "left the stage") := by
    have hfront : "DEBUG exeunt omnes: " = "DEBUG exeunt omnes:" ++ " " := by decide
    have hend : " left the stage" = " " ++ "left the stage" := by decide
    simp only [hfront, hend, String.append_assoc]
  have hfront : wordsOfLine "DEBUG exeunt omnes:" = ["DEBUG", "exeunt", "omnes:"] := by decide
  have hend : wordsOfLine "left the stage" = ["left", "the", "stage"] := by decide
  rw [countAfter, hline, wordsOfLine_append, wordsOfLine_append, wordsOfLine_text, hfront, hend]
  simp

/-- Speech moves nobody, even if a name ends like a line of the other kinds. -/
theorem countAfter_addressed (count : Nat) (event : String) :
    countAfter count ("TRACE " ++ event) = count := by
  have hline : "TRACE " ++ event = "TRACE" ++ " " ++ event := by
    have hlevel : "TRACE " = "TRACE" ++ " " := by decide
    rw [hlevel]
  have hlevel : wordsOfLine "TRACE" = ["TRACE"] := by decide
  rw [countAfter, hline, wordsOfLine_append, hlevel]
  simp

end Notice

/-! ## The account of one step -/

/-- Whether a direction may leave a line. -/
def Direction.writes : Direction α → Bool
  | bringOn _ | sendOff _ | dismiss _ | clear | addressee _ | changeAddressee _ _ => true
  | _ => false

variable [Actor α]

namespace Step

/-- The lines that a step leaves. -/
def lines (step : Step α) : List String := step.outcome.notices.map Notice.line

/-- The lines that a step ought to leave.  Actors are those for whom the names stand when the
direction is given, and the count is that of the stage it leaves, or, where everybody goes, of
the stage it finds. -/
inductive Account (step : Step α) : List String → Prop
  | failed (fails : ¬ step.Succeeds) : Account step []
  | silent (given : step.direction.writes = false) : Account step []
  | entered {names : List String} {actors : List α} (given : step.direction = .bringOn names)
      (succeeds : step.Succeeds) (named : names.map step.stage.lookup = actors.map .ok) :
      Account step ["DEBUG enter " ++ ", ".intercalate (actors.map Actor.name) ++ ": " ++
        Decimal.text step.outcome.state.headcount ++ " on stage"]
  | leftTogether {names : List String} {actors : List α} (given : step.direction = .sendOff names)
      (succeeds : step.Succeeds) (named : names.map step.stage.lookup = actors.map .ok) :
      Account step ["DEBUG exeunt " ++ ", ".intercalate (actors.map Actor.name) ++ ": " ++
        Decimal.text step.outcome.state.headcount ++ " on stage"]
  | leftAlone {name : String} {actor : α} (given : step.direction = .dismiss name)
      (succeeds : step.Succeeds) (named : step.stage.lookup name = .ok actor) :
      Account step ["DEBUG exit " ++ Actor.name actor ++ ": " ++
        Decimal.text step.outcome.state.headcount ++ " on stage"]
  | cleared (given : step.direction = .clear) (somebody : step.stage.headcount ≠ 0) :
      Account step ["DEBUG exeunt omnes: " ++ Decimal.text step.stage.headcount ++
        " left the stage"]
  | clearedNobody (given : step.direction = .clear) (nobody : step.stage.headcount = 0) :
      Account step []
  | addressed {name : String} {speaker addressee : α} (given : step.direction = .addressee name)
      (named : step.stage.lookup name = .ok speaker)
      (answered : step.outcome.answer = .ok (.actor addressee)) :
      Account step ["TRACE " ++ Actor.name speaker ++ " is addressing " ++ Actor.name addressee]
  /-- The line shows the name that the addressee has before the change. -/
  | changed {name : String} {f : α → α} {speaker addressee : α}
      (given : step.direction = .changeAddressee name f)
      (named : step.stage.lookup name = .ok speaker)
      (answered : (mk step.stage (.addressee name)).outcome.answer = .ok (.actor addressee))
      (replied : step.outcome.answer = .ok (.actor (f addressee))) :
      Account step ["TRACE " ++ Actor.name speaker ++ " is addressing " ++ Actor.name addressee]

end Step

/-! ## Whom the names of a direction stand for -/

namespace Stage.Sound

variable {built : Cast α} {stage : Stage α} {name : String} {names : List String} {i : Nat}
  {is : List Nat}

/-- There is an actor at the position that a name stands for, shown under its name of now. -/
theorem exists_lookup (h : stage.Sound built) (hname : stage.cast.position? name = some i) :
    ∃ actor, stage.lookup name = .ok actor ∧ stage.cast.nameAt i = Actor.name actor := by
  have hi : i < stage.cast.actors.length := h.indexed.position?_lt hname
  have hactor : stage.cast.actors[i]? = some stage.cast.actors[i] := List.getElem?_eq_getElem hi
  refine ⟨_, Cast.lookup_of_position? hname hactor, ?_⟩
  rw [Cast.nameAt, hactor, Option.elim_some]

/-- There are actors at the positions that names stand for, shown under their names of now. -/
theorem exists_map_lookup (h : stage.Sound built)
    (hnames : names.map stage.cast.position? = is.map some) :
    ∃ actors : List α, names.map stage.lookup = actors.map .ok ∧
      is.map stage.cast.nameAt = actors.map Actor.name := by
  induction names generalizing is with
  | nil =>
      obtain rfl : is = [] := by simpa using hnames.symm
      exact ⟨[], rfl, rfl⟩
  | cons name names ih =>
      obtain ⟨i, js, rfl, hname, hrest⟩ := List.map_eq_cons_iff.1 hnames.symm
      obtain ⟨actor, hlookup, hnameAt⟩ := h.exists_lookup hname.symm
      obtain ⟨actors, hlookups, hnameAts⟩ := ih hrest.symm
      refine ⟨actor :: actors, ?_, ?_⟩
      · rw [List.map_cons, List.map_cons, hlookup, hlookups]
      · rw [List.map_cons, List.map_cons, hnameAt, hnameAts]

/-- Of two who face each other, both are there, shown under their names of now. -/
theorem exists_speakers (h : stage.Sound built) {pair : Nat × Nat}
    (hpair : stage.exchange name = .ok pair) :
    ∃ speaker addressee, stage.lookup name = .ok speaker ∧
      stage.cast.actorAt pair.2 = .ok addressee ∧
      stage.cast.nameAt pair.1 = Actor.name speaker ∧
      stage.cast.nameAt pair.2 = Actor.name addressee := by
  obtain ⟨hname, hpartner⟩ := exchange_eq_ok_iff_partner?.1 hpair
  obtain ⟨speaker, hlookup, hspeaker⟩ := h.exists_lookup hname
  have hlt : pair.2 < stage.cast.actors.length :=
    h.present_lt pair.2 (mem_present_of_partner? hpartner)
  have hactor : stage.cast.actors[pair.2]? = some stage.cast.actors[pair.2] :=
    List.getElem?_eq_getElem hlt
  refine ⟨speaker, _, hlookup, Cast.actorAt_eq_ok_iff.2 hactor, hspeaker, ?_⟩
  rw [Cast.nameAt, hactor, Option.elim_some]

end Stage.Sound

/-! ## Every step accounts for itself -/

omit [Actor α] in
/-- A change of an actor writes nothing. -/
theorem Cast.notices_change (name : String) (f : α → α) (cast : Cast α) :
    ((Cast.change name f).perform cast).notices = [] := by
  rw [perform_change]
  cases cast.position name with
  | error error => rfl
  | ok i =>
      simp only
      cases cast.actorAt i <;> rfl

/-- All directions but transitions and addresses are silent. -/
theorem Direction.notices_of_not_writes {direction : Direction α} (h : direction.writes = false)
    (stage : Stage α) : (direction.act.perform stage).notices = [] := by
  cases direction with
  | bringOn | sendOff | dismiss | clear | addressee | changeAddressee => contradiction
  | lookup name => rw [perform_lookup]
  | change name f => rw [perform_change, Cast.notices_change]
  | requirePresent name | requireAbsent name =>
      simp only [act, Act.perform_state_bind, Act.perform_bind_pure, Act.perform_ofExcept]
  | cast order =>
      cases order with
      | lookup name => rw [perform_cast_lookup, perform_lookup]
      | change name f => rw [perform_cast_change, perform_change, Cast.notices_change]
      | size | isEmpty | names | actors | contains => rfl
  | setFlag | flag | isPresent | headcount | presentNames | absentNames | presentActors
  | absentActors | pair | text | snapshot => rfl

namespace Step

variable {built : Cast α} {stage : Stage α}

/-- Whoever is moved is found by the name that the direction gives. -/
theorem exists_movers (h : stage.Sound built) {direction : Direction α} {on : Bool}
    {names : List String} (hshifts : direction.Shifts on names)
    (hsucceeds : Succeeds ⟨stage, direction⟩) :
    ∃ is, ∃ actors : List α, stage.movers on names = .ok is ∧
      names.map stage.lookup = actors.map .ok ∧
      is.map stage.cast.nameAt = actors.map Actor.name := by
  obtain ⟨is, his⟩ := hshifts.succeeds_iff.1 hsucceeds
  obtain ⟨actors, hlookups, hnames⟩ := h.exists_map_lookup (Stage.movers_eq_ok.1 his).1
  exact ⟨is, actors, his, hlookups, hnames⟩

/-- A group that has entered leaves one line, with the names of all its actors. -/
theorem account_bringOn (h : stage.Sound built) {names : List String}
    (hsucceeds : Succeeds ⟨stage, .bringOn names⟩) :
    Account ⟨stage, .bringOn names⟩ (lines ⟨stage, .bringOn names⟩) := by
  obtain ⟨is, actors, his, hlookups, hnames⟩ := exists_movers h (.bringOn names) hsucceeds
  have haccount := Account.entered rfl hsucceeds hlookups
  have hentering : stage.entering names = .ok is := his
  rw [← hnames, ← Notice.line_entered] at haccount
  simp only [lines, Stage.headcount, outcome, Direction.act, Act.perform_bind_pure,
    Stage.perform_bringOn, hentering] at haccount ⊢
  exact haccount

/-- A group that has left leaves one line, with the names of all its actors. -/
theorem account_sendOff (h : stage.Sound built) {names : List String}
    (hsucceeds : Succeeds ⟨stage, .sendOff names⟩) :
    Account ⟨stage, .sendOff names⟩ (lines ⟨stage, .sendOff names⟩) := by
  obtain ⟨is, actors, his, hlookups, hnames⟩ := exists_movers h (.sendOff names) hsucceeds
  have haccount := Account.leftTogether rfl hsucceeds hlookups
  have hleaving : stage.leaving names = .ok is := his
  rw [← hnames, ← Notice.line_leftTogether] at haccount
  simp only [lines, Stage.headcount, outcome, Direction.act, Act.perform_bind_pure,
    Stage.perform_sendOff, hleaving] at haccount ⊢
  exact haccount

/-- One who has left leaves one line, with the name. -/
theorem account_dismiss (h : stage.Sound built) {name : String}
    (hsucceeds : Succeeds ⟨stage, .dismiss name⟩) :
    Account ⟨stage, .dismiss name⟩ (lines ⟨stage, .dismiss name⟩) := by
  obtain ⟨is, his⟩ := (Direction.Shifts.dismiss name).succeeds_iff.1 hsucceeds
  rw [Stage.movers, Stage.leaving_singleton] at his
  cases hi : stage.presentPosition name with
  | error error => simp [hi, Except.map] at his
  | ok i =>
      obtain ⟨actor, hlookup, hname⟩ := h.exists_lookup (Stage.presentPosition_eq_ok.1 hi).1
      have haccount := Account.leftAlone rfl hsucceeds hlookup
      rw [← hname, ← Notice.line_leftAlone] at haccount
      simp only [lines, Stage.headcount, outcome, Direction.act, Act.perform_bind_pure,
        Stage.perform_dismiss, hi] at haccount ⊢
      exact haccount

/-- The exit of everybody leaves one line, or none if nobody was on stage. -/
theorem account_clear (stage : Stage α) : Account ⟨stage, .clear⟩ (lines ⟨stage, .clear⟩) := by
  by_cases hnobody : stage.headcount = 0
  · have hempty : stage.present.isEmpty = true := by
      rwa [Positions.isEmpty, List.isEmpty_iff_length_eq_zero]
    have haccount : Account ⟨stage, .clear⟩ _ := Account.clearedNobody rfl hnobody
    simpa only [lines, outcome, Direction.act, Act.perform_bind_pure, Stage.perform_clear, hempty,
      ↓reduceIte, List.map_nil] using haccount
  · have hsomebody : stage.present.isEmpty = false := by
      rwa [Positions.isEmpty, ← Bool.not_eq_true, List.isEmpty_iff_length_eq_zero]
    have haccount : Account ⟨stage, .clear⟩ _ := Account.cleared rfl hnobody
    rw [← Notice.line_cleared] at haccount
    simp only [lines, outcome, Direction.act, Act.perform_bind_pure, Stage.perform_clear,
      hsomebody] at haccount ⊢
    exact haccount

/-- An address leaves one line, with the speaker and the one spoken to. -/
theorem account_addressee (h : stage.Sound built) {name : String}
    (hsucceeds : Succeeds ⟨stage, .addressee name⟩) :
    Account ⟨stage, .addressee name⟩ (lines ⟨stage, .addressee name⟩) := by
  obtain ⟨reply, hreply⟩ := hsucceeds
  simp only [outcome, Direction.act, Act.perform_bind_pure, Stage.perform_addressee] at hreply
  cases hpair : stage.exchange name with
  | error error => simp [hpair, Except.map] at hreply
  | ok pair =>
      obtain ⟨speaker, addressee, hlookup, hactor, hspeaker, haddressee⟩ := h.exists_speakers hpair
      have houtcome : (mk stage (.addressee name)).outcome =
          ⟨.ok (.actor addressee), stage,
            [.addressed (Actor.name speaker) (Actor.name addressee)]⟩ := by
        simp only [outcome, Direction.act, Act.perform_bind_pure, Stage.perform_addressee, hpair,
          hactor, hspeaker, haddressee]
        rfl
      rw [lines, houtcome, List.map_singleton, Notice.line_addressed]
      exact .addressed rfl hlookup (by rw [houtcome])

/-- A change of the one spoken to leaves the line of the address, with the names from before the
change. -/
theorem account_changeAddressee (h : stage.Sound built) {name : String} {f : α → α}
    (hsucceeds : Succeeds ⟨stage, .changeAddressee name f⟩) :
    Account ⟨stage, .changeAddressee name f⟩ (lines ⟨stage, .changeAddressee name f⟩) := by
  obtain ⟨reply, hreply⟩ := hsucceeds
  simp only [outcome, Direction.act, Act.perform_bind_pure, Stage.perform_changeAddressee] at hreply
  cases hpair : stage.exchange name with
  | error error => simp [hpair, Except.map] at hreply
  | ok pair =>
      obtain ⟨speaker, addressee, hlookup, hactor, hspeaker, haddressee⟩ := h.exists_speakers hpair
      have houtcome : (mk stage (.changeAddressee name f)).outcome =
          ⟨.ok (.actor (f addressee)), { stage with cast := stage.cast.put pair.2 (f addressee) },
            [.addressed (Actor.name speaker) (Actor.name addressee)]⟩ := by
        simp only [outcome, Direction.act, Act.perform_bind_pure, Stage.perform_changeAddressee,
          hpair, hactor, hspeaker, haddressee]
        rfl
      have hanswer : (mk stage (.addressee name)).outcome.answer = .ok (.actor addressee) := by
        simp only [outcome, Direction.act, Act.perform_bind_pure, Stage.perform_addressee, hpair,
          hactor]
        rfl
      rw [lines, houtcome, List.map_singleton, Notice.line_addressed]
      exact .changed rfl hlookup hanswer (by rw [houtcome])

/-- A step leaves the lines that it ought to. -/
theorem account_lines {step : Step α} (h : step.stage.Sound built) : step.Account step.lines := by
  obtain ⟨stage, direction⟩ := step
  by_cases hsucceeds : Succeeds ⟨stage, direction⟩
  · by_cases hwrites : direction.writes = false
    · rw [lines, outcome, Direction.notices_of_not_writes hwrites]
      exact .silent hwrites
    · cases direction with
      | bringOn names => exact account_bringOn h hsucceeds
      | sendOff names => exact account_sendOff h hsucceeds
      | dismiss name => exact account_dismiss h hsucceeds
      | clear => exact account_clear stage
      | addressee name => exact account_addressee h hsucceeds
      | changeAddressee name f => exact account_changeAddressee h hsucceeds
      | _ => exact absurd rfl hwrites
  · rw [lines, (outcome_of_not_succeeds hsucceeds).2]
    exact .failed hsucceeds

/-! ## The count -/

/-- As many are on stage after a direction that moves nobody as before it. -/
theorem headcount_of_not_moves {step : Step α} (h : step.direction.moves = false) :
    step.outcome.state.headcount = step.stage.headcount :=
  congrArg Positions.size (Direction.present_eq h step.stage)

/-- Nobody is on stage after everybody has left. -/
theorem headcount_clear {step : Step α} (h : step.direction = .clear) :
    step.outcome.state.headcount = 0 := by
  rw [outcome, h, Direction.act, Act.perform_bind_pure, Stage.perform_clear]
  rfl

omit [Actor α] in
/-- Nobody is moved without a line. -/
theorem moves_of_not_writes {direction : Direction α} (h : direction.writes = false) :
    direction.moves = false := by
  cases direction <;> first | rfl | contradiction

/-- Whatever the names are, the lines of a step tell how many are on stage after it from how
many were before. -/
theorem Account.headcount_eq {step : Step α} {lines : List String} (h : step.Account lines) :
    step.outcome.state.headcount = lines.foldl Notice.countAfter step.stage.headcount := by
  cases h with
  | failed fails => rw [(outcome_of_not_succeeds fails).1, List.foldl_nil]
  | silent given => rw [headcount_of_not_moves (moves_of_not_writes given), List.foldl_nil]
  | entered =>
      have hfront : "DEBUG enter " = "DEBUG" ++ " " ++ "enter " := by decide
      rw [List.foldl_cons, List.foldl_nil, Notice.countAfter_onStage hfront]
  | leftTogether =>
      have hfront : "DEBUG exeunt " = "DEBUG" ++ " " ++ "exeunt " := by decide
      rw [List.foldl_cons, List.foldl_nil, Notice.countAfter_onStage hfront]
  | leftAlone =>
      have hfront : "DEBUG exit " = "DEBUG" ++ " " ++ "exit " := by decide
      rw [List.foldl_cons, List.foldl_nil, Notice.countAfter_onStage hfront]
  | cleared given =>
      rw [headcount_clear given, List.foldl_cons, List.foldl_nil, Notice.countAfter_cleared]
  | clearedNobody given nobody => rw [headcount_clear given, List.foldl_nil, nobody]
  | addressed given =>
      rw [headcount_of_not_moves (by rw [given]; rfl), List.foldl_cons, List.foldl_nil,
        String.append_assoc, String.append_assoc, Notice.countAfter_addressed]
  | changed given =>
      rw [headcount_of_not_moves (by rw [given]; rfl), List.foldl_cons, List.foldl_nil,
        String.append_assoc, String.append_assoc, Notice.countAfter_addressed]

end Step

namespace Stage

/-- The lines of all steps up to one tell how many are on stage after it.  The induction is on
the play, and the count before a step is that after the one before it. -/
theorem headcount_of_account {stage : Stage α} {play : List (Direction α)}
    (h : ∀ step ∈ stage.steps play, step.Account step.lines) {earlier later : List (Step α)}
    {step : Step α} (hsteps : stage.steps play = earlier ++ step :: later) :
    step.outcome.state.headcount =
      ((earlier ++ [step]).flatMap Step.lines).foldl Notice.countAfter stage.headcount := by
  induction play generalizing stage earlier with
  | nil => simp [steps] at hsteps
  | cons direction play ih =>
      rw [steps] at h hsteps
      obtain ⟨hfirst, hrest⟩ := List.forall_mem_cons.1 h
      cases List.cons_eq_append_iff.1 hsteps with
      | inl hhere =>
          obtain ⟨rfl, hhere⟩ := hhere
          obtain ⟨rfl, -⟩ := List.cons.inj hhere
          rw [List.nil_append, List.flatMap_singleton]
          exact hfirst.headcount_eq
      | inr hlater =>
          obtain ⟨others, rfl, hothers⟩ := hlater
          rw [List.cons_append, List.flatMap_cons, List.foldl_append, ← hfirst.headcount_eq]
          exact ih hrest hothers

/-- From the assembly of a cast on, whatever is done with it and on its stage, each step leaves
the lines that account for it and no others.  So at any time the lines left up to then, and
nothing else, tell how many actors are on stage. -/
theorem log_accounts_of_assemble {factory : Factory σ α} {personae : List Persona} {s : σ}
    {cast : Cast α} (h : ((Cast.assemble factory personae).perform s).answer = .ok cast)
    (play : List (Direction α)) :
    (∀ step ∈ (ofCast cast).steps play, step.Account step.lines) ∧
    ∀ earlier step later, (ofCast cast).steps play = earlier ++ step :: later →
      step.outcome.state.headcount =
        ((earlier ++ [step]).flatMap Step.lines).foldl Notice.countAfter 0 := by
  obtain ⟨hfiled, -⟩ := Cast.filed_of_assemble h
  have hsound := (kept_of_move Sound.of_move (sound_ofCast hfiled.indexed) play).2
  have haccount : ∀ step ∈ (ofCast cast).steps play, step.Account step.lines :=
    fun step hstep => Step.account_lines (hsound step hstep)
  exact ⟨haccount, fun earlier step later => headcount_of_account haccount⟩

/-- A player is named like the end of a line, and takes another name between two lines. -/
theorem log_accounts_of_assemble_named_like_a_line :
    ∃ (cast : Cast Player) (play : List (Direction Player)) (earlier : List (Step Player))
      (step : Step Player),
      ((Cast.assemble .raw [⟨"Romeo", none, none⟩, ⟨"Juliet: 7 on stage", none, none⟩]).perform
        0).answer = .ok cast ∧
      (ofCast cast).steps play = earlier ++ [step] ∧
      earlier.flatMap Step.lines = ["DEBUG enter Juliet: 7 on stage, Romeo: 2 on stage",
        "TRACE Romeo is addressing Juliet: 7 on stage"] ∧
      step.lines = ["DEBUG exit Juliet: 1 on stage"] ∧
      step.outcome.state.headcount =
        ((earlier ++ [step]).flatMap Step.lines).foldl Notice.countAfter 0 := by
  have hbuilt : ((Cast.assemble .raw
      [⟨"Romeo", none, none⟩, ⟨"Juliet: 7 on stage", none, none⟩]).perform 0).answer =
      .ok ⟨[⟨"Romeo", 1, []⟩, ⟨"Juliet: 7 on stage", 2, []⟩],
        [("Romeo", 0), ("Juliet: 7 On Stage", 1)]⟩ := rfl
  let play : List (Direction Player) := [.bringOn ["juliet: 7 on stage", "romeo"],
    .addressee "ROMEO", .change "Juliet: 7 on stage" fun player => { player with name := "Juliet" },
    .dismiss "Juliet: 7 on stage"]
  obtain ⟨-, hcount⟩ := log_accounts_of_assemble hbuilt play
  exact ⟨_, play, [_, _, _], _, hbuilt, rfl, by decide, by decide, hcount [_, _, _] _ [] rfl⟩

end Stage

end Dramatis
