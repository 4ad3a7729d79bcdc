import Dramatis.Proofs.Stage.Reported
import Dramatis.Proofs.Stage.Shift

/-!
# Dramatis.Proofs.Stage.Replay

Setting a stage again from what it reports of itself.  A snapshot tells the boolean and the names
on stage and off, and no positions.  In a cast of characters in which nobody has been renamed this
is enough: the names on stage stand for those who bear them, so they are as many different actors
as there are on stage, and they can enter in one group.  They can leave in one group as well.

* `Stage.Partitioned.snapshot_congr`: what a snapshot is made of.
* `Stage.enter_all`, `Stage.leave_all`: a group that is the whole company.
* `Stage.replay_of_ofPersonae`: the stage that is set again.
-/

namespace Dramatis

/-- Placing all members of a set: the others are not touched, so from nobody on they make up the
set, and without them nobody is left of it. -/
theorem Positions.place_toList (ps : Positions) :
    Positions.empty.place true ps.toList = ps ∧ ps.place false ps.toList = .empty :=
  ⟨ext fun i => by simp [mem_place, ← mem_def], ext fun i => by simp [mem_place, ← mem_def]⟩

namespace Stage

/-! ## What a snapshot shows -/

section Snapshots

variable {α : Type} [Actor α] {stage other : Stage α}

/-- The name at a position is the one that the list of all names has there. -/
theorem nameAt_eq_names (cast : Cast α) (i : Nat) : cast.nameAt i = cast.names[i]?.getD "" := by
  rw [Cast.nameAt, Cast.names, List.getElem?_map]
  cases cast.actors[i]? <;> rfl

/-- A snapshot shows the names in the cast, who is on stage, and the boolean, and nothing else of
the actors. -/
theorem Partitioned.snapshot_congr (h : stage.Partitioned) (hother : other.Partitioned)
    (hnames : stage.cast.names = other.cast.names) (hpresent : stage.present = other.present)
    (hflag : stage.flag = other.flag) : stage.snapshot = other.snapshot := by
  have hnameAt : stage.cast.nameAt = other.cast.nameAt := by
    funext i
    rw [nameAt_eq_names, nameAt_eq_names, hnames]
  have hsize : stage.cast.size = other.cast.size := by
    simpa [Cast.names, Cast.size] using congrArg List.length hnames
  have habsent : stage.absentPositions = other.absentPositions := by
    rw [absentPositions, absentPositions, hsize, hpresent]
  rw [h.snapshot_eq, hother.snapshot_eq, hflag, hpresent, hnameAt, habsent]

end Snapshots

/-! ## Those on stage as a group -/

section Groups

variable {α : Type} [Actor α] {stage : Stage α} {ps : Positions} {on : Bool} {names : List String}

/-- A group whose names stand for a set of positions, each once, can move if these are all on the
other side. -/
theorem movers_eq_toList (hnames : names.map stage.cast.position? = ps.toList.map some)
    (hside : ∀ i ∈ ps, (i ∈ stage.present ↔ on = false)) :
    stage.movers on names = .ok ps.toList :=
  movers_eq_ok.2 ⟨hnames, ps.ascending.imp Nat.ne_of_lt, hside⟩

/-- Such a group, entering an empty stage, makes up the whole company. -/
theorem enter_all (hnames : names.map stage.cast.position? = ps.toList.map some)
    (hempty : stage.present = .empty) :
    Step.Succeeds ⟨stage, .bringOn names⟩ ∧
      stage.after [.bringOn names] = { stage with present := ps } := by
  have hmovers : stage.movers true names = .ok ps.toList := movers_eq_toList hnames fun i _ => by
    rw [hempty]
    exact iff_of_false Positions.not_mem_empty nofun
  refine ⟨(Direction.Shifts.bringOn names).succeeds_iff.2 ⟨_, hmovers⟩, ?_⟩
  rw [(Direction.Shifts.bringOn names).after_eq, hmovers, shifted, hempty, ps.place_toList.1]

/-- If the company leaves as a group, nobody is left, as if the stage had been cleared. -/
theorem leave_all (hnames : names.map stage.cast.position? = stage.present.toList.map some) :
    Step.Succeeds ⟨stage, .sendOff names⟩ ∧
      stage.after [.sendOff names] = stage.after [.clear] := by
  have hmovers : stage.movers false names = .ok stage.present.toList :=
    movers_eq_toList hnames fun i hi => iff_of_true hi rfl
  have hclear : stage.after [.clear] = { stage with present := .empty } := by
    rw [after_cons, Step.outcome, Direction.act, Act.perform_bind_pure, perform_clear]
    rfl
  refine ⟨(Direction.Shifts.sendOff names).succeeds_iff.2 ⟨_, hmovers⟩, ?_⟩
  rw [(Direction.Shifts.sendOff names).after_eq, hmovers, shifted, stage.present.place_toList.2,
    hclear]

end Groups

/-! ## The stage set again -/

variable {personae : List Persona} {cast : Cast Character} {play : List (Direction Character)}

/-- The names on stage stand for the positions on stage, in the same order. -/
theorem map_position?_presentNames (h : ((Cast.ofPersonae personae).perform ()).answer = .ok cast)
    (hkept : (ofCast cast).KeepsKeys play) :
    ((ofCast cast).after play).presentNames.map ((ofCast cast).after play).cast.position? =
      ((ofCast cast).after play).present.toList.map some := by
  obtain ⟨hfiled, -⟩ := Cast.filed_of_ofPersonae h
  have hsound := (sound_ofCast hfiled.indexed).after play
  rw [hsound.partitioned.presentNames_eq, List.map_map]
  refine List.map_congr_left fun i hi => ?_
  have hactor := List.getElem?_eq_getElem (hsound.present_lt i hi)
  rw [Function.comp_apply, Cast.nameAt, hactor]
  exact position?_name h hkept hactor

/-- A stage of characters can be set again from its snapshot, if nobody has been given another
name.  Those on stage can enter together a stage with the same cast that is as it was at first;
after that and with the boolean set, the same are on stage and the snapshot is the same.  And
those on stage can leave together, which does what clearing the stage does. -/
theorem replay_of_ofPersonae (h : ((Cast.ofPersonae personae).perform ()).answer = .ok cast)
    (hkept : (ofCast cast).KeepsNames play) :
    let stage := (ofCast cast).after play
    let again := (ofCast cast).after [.bringOn stage.snapshot.present, .setFlag stage.snapshot.flag]
    Step.Succeeds ⟨ofCast cast, .bringOn stage.snapshot.present⟩ ∧
      again.present = stage.present ∧ again.snapshot = stage.snapshot ∧
      Step.Succeeds ⟨stage, .sendOff stage.presentNames⟩ ∧
      stage.after [.sendOff stage.presentNames] = stage.after [.clear] := by
  intro stage again
  obtain ⟨hfiled, -⟩ := Cast.filed_of_ofPersonae h
  have hsound : (ofCast cast).Sound cast := sound_ofCast hfiled.indexed
  have hleave : stage.presentNames.map stage.cast.position? = stage.present.toList.map some :=
    map_position?_presentNames h hkept.keepsKeys
  -- Names stand for the same positions at the beginning, since the index is never touched.
  have henter : stage.presentNames.map (ofCast cast).cast.position? =
      stage.present.toList.map some := by
    rw [← hleave, Cast.position?_congr ((ofCast cast).index_eq_of_play play).1]
  obtain ⟨henters, hset⟩ := enter_all henter rfl
  have hagain : again = { ofCast cast with present := stage.present, flag := stage.flag } :=
    congrArg (fun set : Stage Character => { set with flag := stage.flag }) hset
  have hnames : again.cast.names = stage.cast.names := by
    rw [hagain]
    exact hkept.names_eq.symm
  have hpresent : again.present = stage.present := by rw [hagain]
  have hflag : again.flag = stage.flag := by rw [hagain]
  have hsnapshot : again.snapshot = stage.snapshot :=
    (hsound.after _).partitioned.snapshot_congr (hsound.after play).partitioned hnames hpresent
      hflag
  exact ⟨henters, hpresent, hsnapshot, leave_all hleave⟩

/-- The name of one actor is not its key, and the actor has been changed in place, though not
renamed.  Both actors on stage enter together, in the order of declaration. -/
theorem replay_of_ofPersonae_entered_apart :
    ∃ cast : Cast Character,
      ((Cast.ofPersonae [⟨"romeo", none, none⟩, ⟨"ßa", none, none⟩,
        ⟨"tybalt", none, none⟩]).perform ()).answer = .ok cast ∧
      let stage := (ofCast cast).after [.bringOn ["tybalt"], .bringOn ["ssa"], .setFlag true,
        .change "ssa" fun _ => .ofPersona ⟨"ßa", some "a Capulet", none⟩]
      stage.snapshot = ⟨true, ["SSa", "Tybalt"], ["Romeo"]⟩ ∧
        ((ofCast cast).after [.bringOn ["SSa", "Tybalt"], .setFlag true]).snapshot =
          stage.snapshot := by
  have hbuilt : ((Cast.ofPersonae [⟨"romeo", none, none⟩, ⟨"ßa", none, none⟩,
      ⟨"tybalt", none, none⟩]).perform ()).answer =
      .ok ⟨[⟨"Romeo", none, none⟩, ⟨"SSa", none, none⟩, ⟨"Tybalt", none, none⟩],
        [("Romeo", 0), ("Ssa", 1), ("Tybalt", 2)]⟩ := rfl
  have hkept : (ofCast ⟨[⟨"Romeo", none, none⟩, ⟨"SSa", none, none⟩, ⟨"Tybalt", none, none⟩],
      [("Romeo", 0), ("Ssa", 1), ("Tybalt", 2)]⟩ : Stage Character).KeepsNames
      [.bringOn ["tybalt"], .bringOn ["ssa"], .setFlag true,
        .change "ssa" fun _ => .ofPersona ⟨"ßa", some "a Capulet", none⟩] := by decide
  exact ⟨_, hbuilt, rfl, (replay_of_ofPersonae hbuilt hkept).2.2.1⟩

end Stage

end Dramatis
