import Dramatis.Proofs.Name.Normal
import Dramatis.Proofs.Stage.Counterpart

/-!
# Dramatis.Proofs.Stage.Dump

The text that shows a stage of characters can be read back.  It has a line for the boolean, a
heading for those on stage and one for those off, and a line set in by two spaces for each actor.
Headings are not set in, so no actor's line is taken for one, whatever the actor is called.  And no
name breaks a line: a character comes from a persona and in no other way, so its name is a normal
form, and the only blanks of that are spaces.

* `Snapshot.ofText?_eq`: the snapshot is read from the lines of the text.
* `Direction.forall_actors`: what one direction keeps true of all actors.
* `Stage.text_shows_snapshot`: two texts are the same exactly if the snapshots are.
-/

namespace Dramatis

/-! ## The lines of a text -/

namespace Snapshot

/-- The line that tells the boolean. -/
def flagLine (flag : Bool) : String := "global boolean = " ++ Stage.booleanText flag

/-- The line of an actor, set in by two spaces. -/
def nameLine (name : String) : String := "  " ++ name

/-- The lines that show a snapshot. -/
def lines (snapshot : Snapshot) : List String :=
  flagLine snapshot.flag :: "on stage:" :: (snapshot.present.map nameLine ++
    "off stage:" :: snapshot.absent.map nameLine)

/-- Whether a line is set in by two spaces. -/
def isSetIn (line : String) : Bool := "  ".toList.isPrefixOf line.toList

/-- A name from its line. -/
def ofNameLine (line : String) : String := String.ofList (line.toList.drop 2)

/-- The boolean from its line. -/
def ofFlagLine? (line : String) : Option Bool :=
  if line = flagLine true then some true
  else if line = flagLine false then some false
  else none

/-- A snapshot from the lines that show it.  The names of those on stage are on the lines set in
that come after the first heading, and the names of the others after the second. -/
def ofLines? : List String → Option Snapshot
  | first :: _ :: rest =>
    (ofFlagLine? first).map fun flag =>
      ⟨flag, (rest.takeWhile isSetIn).map ofNameLine,
        ((rest.dropWhile isSetIn).drop 1).map ofNameLine⟩
  | _ => none

/-- A snapshot from the text that shows it. -/
def ofText? (text : String) : Option Snapshot :=
  ofLines? ((text.toList.splitOn '\n').map String.ofList)

/-- The boolean is read back from its line. -/
theorem ofFlagLine?_flagLine (flag : Bool) : ofFlagLine? (flagLine flag) = some flag := by
  cases flag <;> decide

/-- The line of an actor is set in, whatever the name. -/
theorem isSetIn_nameLine (name : String) : isSetIn (nameLine name) = true := by
  simp [isSetIn, nameLine]

/-- A name is read back from its line. -/
theorem ofNameLine_nameLine (name : String) : ofNameLine (nameLine name) = name := by
  simp [ofNameLine, nameLine]

/-- The second heading ends the row of names on stage, since it is not set in. -/
theorem ofLines?_lines (snapshot : Snapshot) : ofLines? snapshot.lines = some snapshot := by
  have hread : ofNameLine ∘ nameLine = id := funext ofNameLine_nameLine
  have hnames (names : List String) : (names.map nameLine).map ofNameLine = names := by
    rw [List.map_map, hread, List.map_id]
  have hpresent : ∀ line ∈ snapshot.present.map nameLine, isSetIn line = true :=
    List.forall_mem_map.2 fun name _ => isSetIn_nameLine name
  have hheading : ¬ isSetIn "off stage:" = true := by decide
  rw [lines, ofLines?, ofFlagLine?_flagLine, List.takeWhile_append_of_pos hpresent,
    List.dropWhile_append_of_pos hpresent, List.takeWhile_cons_of_neg hheading,
    List.dropWhile_cons_of_neg hheading, List.append_nil, List.drop_one, List.tail_cons,
    hnames, hnames]
  rfl

/-- No name goes over the end of a line. -/
def IsInLines (snapshot : Snapshot) : Prop :=
  ∀ name ∈ snapshot.present ++ snapshot.absent, '\n' ∉ name.toList

/-- Names without line breaks make lines without line breaks. -/
theorem newline_not_mem_lines {snapshot : Snapshot} (h : snapshot.IsInLines) :
    ∀ line ∈ snapshot.lines, '\n' ∉ line.toList := by
  have hname : ∀ name ∈ snapshot.present ++ snapshot.absent, '\n' ∉ (nameLine name).toList := by
    intro name hname
    simpa [nameLine] using h name hname
  have hflag : '\n' ∉ (flagLine snapshot.flag).toList := by
    cases snapshot.flag <;> decide
  obtain ⟨hpresent, habsent⟩ := List.forall_mem_append.1 hname
  rw [lines, List.forall_mem_cons, List.forall_mem_cons, List.forall_mem_append,
    List.forall_mem_cons, List.forall_mem_map, List.forall_mem_map]
  exact ⟨hflag, by decide, hpresent, by decide, habsent⟩

/-- A text is read back from its lines, if no name goes over the end of one. -/
theorem ofText?_eq {snapshot : Snapshot} (h : snapshot.IsInLines) :
    ofText? ("\n".intercalate snapshot.lines) = some snapshot := by
  have hlines : ∀ line ∈ snapshot.lines.map String.toList, '\n' ∉ line :=
    List.forall_mem_map.2 (newline_not_mem_lines h)
  have hnewline : "\n".toList = ['\n'] := rfl
  have hsame : String.ofList ∘ String.toList = id := funext fun _ => String.ofList_toList
  rw [ofText?, String.toList_intercalate, hnewline, List.splitOn_intercalate '\n' hlines nofun,
    List.map_map, hsame, List.map_id, ofLines?_lines]

end Snapshot

/-! ## The text of a stage -/

/-- Lines joined by line breaks are the first line, and each other one with a line break in front.
-/
theorem intercalate_cons_eq_join (separator line : String) (lines : List String) :
    separator.intercalate (line :: lines) =
      line ++ String.join (lines.map (separator ++ ·)) := by
  induction lines generalizing line with
  | nil => simp
  | cons next lines ih =>
      rw [String.intercalate_cons_cons, ih, List.map_cons, String.join_cons, String.append_assoc,
        String.append_assoc]

namespace Stage

/-- The line break before an actor belongs to the line before. -/
theorem map_actorLine (actors : List Character) :
    actors.map actorLine =
      ((actors.map Actor.name).map Snapshot.nameLine).map ("\n" ++ ·) := by
  have hindent : "\n  " = "\n" ++ "  " := by decide
  rw [List.map_map, List.map_map]
  refine List.map_congr_left fun actor _ => ?_
  rw [Function.comp_apply, Function.comp_apply, Snapshot.nameLine, ← String.append_assoc,
    ← hindent, actorLine]
  rfl

/-- A stage of characters is shown by the lines of its snapshot. -/
theorem text_eq (stage : Stage Character) :
    stage.text = "\n".intercalate stage.snapshot.lines := by
  have hpresent : "\non stage:" = "\n" ++ "on stage:" := by decide
  have habsent : "\noff stage:" = "\n" ++ "off stage:" := by decide
  calc stage.text
      = Snapshot.flagLine stage.flag ++ "\non stage:" ++
          String.join (stage.presentActors.map actorLine) ++ "\noff stage:" ++
          String.join (stage.absentActors.map actorLine) := rfl
    _ = "\n".intercalate stage.snapshot.lines := by
      rw [Snapshot.lines, intercalate_cons_eq_join, List.map_cons, String.join_cons,
        List.map_append, String.join_append, List.map_cons, String.join_cons, map_actorLine,
        map_actorLine, hpresent, habsent]
      simp only [String.append_assoc, snapshot, presentNames, absentNames]

end Stage

/-! ## What directions keep true of actors -/

variable {α : Type} {P : α → Prop}

/-- If a direction changes an actor, the change keeps a property. -/
def Direction.Keeps (P : α → Prop) : Direction α → Prop
  | change _ f | changeAddressee _ f | cast (.change _ f) => ∀ actor, P actor → P (f actor)
  | _ => True

variable [Actor α] {stage : Stage α}

/-- What the changed actor has, all actors keep. -/
theorem Stage.ChangesOnly.forall_actors {f : α → α} {ask amend : Direction α}
    (h : stage.ChangesOnly f ask amend) (hf : ∀ actor, P actor → P (f actor))
    (hP : ∀ actor ∈ stage.cast.actors, P actor) :
    ∀ actor ∈ (amend.act.perform stage).state.cast.actors, P actor := by
  cases hask : (ask.act.perform stage).answer with
  | error error =>
      rw [h.state_of_error error ((h.error_iff error).2 hask)]
      exact hP
  | ok reply =>
      obtain ⟨i, actor, -, -, hactor, -, hactors, -⟩ := h.changed reply hask
      rw [hactors]
      intro other hother
      cases List.mem_or_eq_of_mem_set hother with
      | inl hold => exact hP other hold
      | inr hnew => exact hnew ▸ hf actor (hP actor (List.mem_of_getElem? hactor))

/-- What is true of all actors stays true of them, if the change that a direction makes, should it
make one, keeps it. -/
theorem Direction.forall_actors {direction : Direction α} (hkeeps : direction.Keeps P)
    (hP : ∀ actor ∈ stage.cast.actors, P actor) :
    ∀ actor ∈ (direction.act.perform stage).state.cast.actors, P actor := by
  cases direction with
  | change name f => exact ((Counterpart.lookup name).changesOnly stage).forall_actors hkeeps hP
  | changeAddressee name f =>
      exact ((Counterpart.addressee name).changesOnly stage).forall_actors hkeeps hP
  | cast order =>
      cases order with
      | change name f => exact ((Counterpart.cast name).changesOnly stage).forall_actors hkeeps hP
      | lookup name =>
          rw [perform_cast_lookup, perform_lookup]
          exact hP
      | size | isEmpty | names | actors | contains => exact hP
  | bringOn names =>
      simp only [act, Act.perform_bind_pure, Stage.perform_bringOn]
      cases stage.entering names <;> exact hP
  | sendOff names =>
      simp only [act, Act.perform_bind_pure, Stage.perform_sendOff]
      cases stage.leaving names <;> exact hP
  | dismiss name =>
      simp only [act, Act.perform_bind_pure, Stage.perform_dismiss]
      cases stage.presentPosition name <;> exact hP
  | clear =>
      simp only [act, Act.perform_bind_pure, Stage.perform_clear]
      exact hP
  | addressee name =>
      simp only [act, Act.perform_bind_pure, Stage.state_addressee]
      exact hP
  | requirePresent name | requireAbsent name | lookup name =>
      simp only [act, Act.perform_state_bind, Act.perform_bind_pure, Act.perform_ofExcept]
      exact hP
  | setFlag | flag | isPresent | headcount | presentNames | absentNames | presentActors
  | absentActors | pair | text | snapshot => exact hP

/-- What every direction of a play keeps, the play keeps. -/
theorem Stage.forall_actors_after {play : List (Direction α)}
    (hkeeps : ∀ direction ∈ play, direction.Keeps P) (hP : ∀ actor ∈ stage.cast.actors, P actor) :
    ∀ actor ∈ (stage.after play).cast.actors, P actor := by
  induction play generalizing stage with
  | nil => exact hP
  | cons direction play ih =>
      obtain ⟨hfirst, hlater⟩ := List.forall_mem_cons.1 hkeeps
      exact ih hlater (Direction.forall_actors hfirst hP)

/-! ## Declared characters -/

/-- A character that some persona declares. -/
def Character.IsDeclared (character : Character) : Prop :=
  ∃ persona, character = .ofPersona persona

/-- The name of a declared character is on one line. -/
theorem Character.IsDeclared.newline_not_mem {character : Character} (h : character.IsDeclared) :
    '\n' ∉ character.name.toList := by
  obtain ⟨persona, rfl⟩ := h
  intro hmem
  rw [ofPersona, Name.toList_normalize] at hmem
  have hspace : '\n' = ' ' := Name.eq_space_of_mem_normalizeChars hmem (by decide)
  contradiction

namespace Stage

/-- Characters with declared names are shown each on one line. -/
theorem isInLines_snapshot {stage : Stage Character}
    (h : ∀ actor ∈ stage.cast.actors, actor.IsDeclared) : stage.snapshot.IsInLines := by
  have hpresent : ∀ actor ∈ stage.presentActors, actor ∈ stage.cast.actors := fun actor hactor => by
    obtain ⟨i, -, hi⟩ := List.mem_filterMap.1 hactor
    exact List.mem_of_getElem? hi
  have habsent : ∀ actor ∈ stage.absentActors, actor ∈ stage.cast.actors := fun actor hactor => by
    obtain ⟨entry, hentry, rfl⟩ := List.mem_map.1 hactor
    exact List.fst_mem_of_mem_zipIdx (List.mem_filter.1 hentry).1
  refine List.forall_mem_append.2 ⟨List.forall_mem_map.2 fun actor hactor => ?_,
    List.forall_mem_map.2 fun actor hactor => ?_⟩
  · exact (h actor (hpresent actor hactor)).newline_not_mem
  · exact (h actor (habsent actor hactor)).newline_not_mem

/-- Every actor is declared in a cast of characters, and from then on. -/
theorem isDeclared_after {personae : List Persona} {cast : Cast Character}
    (h : ((Cast.ofPersonae personae).perform ()).answer = .ok cast)
    {play : List (Direction Character)}
    (hplay : ∀ direction ∈ play, direction.Keeps Character.IsDeclared) :
    ∀ actor ∈ ((ofCast cast).after play).cast.actors, actor.IsDeclared := by
  refine forall_actors_after hplay fun actor hactor => ?_
  rw [ofCast, (Cast.filed_of_ofPersonae h).2] at hactor
  obtain ⟨persona, -, rfl⟩ := List.mem_map.1 hactor
  exact ⟨persona, rfl⟩

/-- Two stages of characters, each made by a play from a cast of its own, are shown by the same
text exactly if their snapshots are the same: boolean, names on stage and names off stage can be
read back from the text.  Actors may have been replaced, by whatever characters are declared. -/
theorem text_shows_snapshot {personae personae' : List Persona} {cast cast' : Cast Character}
    (h : ((Cast.ofPersonae personae).perform ()).answer = .ok cast)
    (h' : ((Cast.ofPersonae personae').perform ()).answer = .ok cast')
    {play play' : List (Direction Character)}
    (hplay : ∀ direction ∈ play, direction.Keeps Character.IsDeclared)
    (hplay' : ∀ direction ∈ play', direction.Keeps Character.IsDeclared) :
    (((ofCast cast).after play).text = ((ofCast cast').after play').text ↔
      ((ofCast cast).after play).snapshot = ((ofCast cast').after play').snapshot) ∧
    Snapshot.ofText? ((ofCast cast).after play).text =
      some ((ofCast cast).after play).snapshot := by
  have hread : Snapshot.ofText? ((ofCast cast).after play).text =
      some ((ofCast cast).after play).snapshot := by
    rw [text_eq, Snapshot.ofText?_eq (isInLines_snapshot (isDeclared_after h hplay))]
  have hread' : Snapshot.ofText? ((ofCast cast').after play').text =
      some ((ofCast cast').after play').snapshot := by
    rw [text_eq, Snapshot.ofText?_eq (isInLines_snapshot (isDeclared_after h' hplay'))]
  refine ⟨⟨fun htext => ?_, fun hsnapshot => ?_⟩, hread⟩
  · rw [htext, hread', Option.some.injEq] at hread
    exact hread.symm
  · rw [text_eq, text_eq, hsnapshot]

/-- The name of the one on stage looks like a heading, and the one off stage has a name without
characters.  In the other cast this one had another name at first. -/
theorem text_shows_snapshot_heading :
    ∃ cast cast' : Cast Character,
      ((Cast.ofPersonae [⟨"off stage:", none, none⟩, ⟨"romeo", none, none⟩]).perform ()).answer =
        .ok cast ∧
      ((Cast.ofPersonae [⟨"Off  Stage:", none, none⟩, ⟨"juliet", none, none⟩]).perform
        ()).answer = .ok cast' ∧
      let stage := (ofCast cast).after
        [.bringOn ["OFF STAGE:"], .change "romeo" fun _ => .ofPersona ⟨"\n", none, none⟩]
      let other := (ofCast cast').after
        [.change "juliet" fun _ => .ofPersona ⟨"", none, none⟩, .bringOn ["off stage:"]]
      stage.snapshot = ⟨false, ["Off Stage:"], [""]⟩ ∧ stage.text = other.text ∧
        Snapshot.ofText? stage.text = some ⟨false, ["Off Stage:"], [""]⟩ := by
  have hbuilt : ((Cast.ofPersonae [⟨"off stage:", none, none⟩, ⟨"romeo", none, none⟩]).perform
      ()).answer = .ok ⟨[⟨"Off Stage:", none, none⟩, ⟨"Romeo", none, none⟩],
        [("Off Stage:", 0), ("Romeo", 1)]⟩ := rfl
  have hbuilt' : ((Cast.ofPersonae [⟨"Off  Stage:", none, none⟩, ⟨"juliet", none, none⟩]).perform
      ()).answer = .ok ⟨[⟨"Off Stage:", none, none⟩, ⟨"Juliet", none, none⟩],
        [("Off Stage:", 0), ("Juliet", 1)]⟩ := rfl
  have hplay : ∀ direction ∈ [Direction.bringOn ["OFF STAGE:"],
      .change "romeo" fun _ => Character.ofPersona ⟨"\n", none, none⟩],
      direction.Keeps Character.IsDeclared :=
    List.forall_mem_cons.2 ⟨trivial, List.forall_mem_singleton.2 fun _ _ => ⟨_, rfl⟩⟩
  have hplay' : ∀ direction ∈ [Direction.change "juliet" fun _ =>
      Character.ofPersona ⟨"", none, none⟩, .bringOn ["off stage:"]],
      direction.Keeps Character.IsDeclared :=
    List.forall_mem_cons.2 ⟨fun _ _ => ⟨_, rfl⟩, List.forall_mem_singleton.2 trivial⟩
  obtain ⟨htexts, hread⟩ := text_shows_snapshot hbuilt hbuilt' hplay hplay'
  exact ⟨_, _, hbuilt, hbuilt', rfl, htexts.2 rfl, hread⟩

end Stage

end Dramatis
