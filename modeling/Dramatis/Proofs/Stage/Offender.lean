import Dramatis.Proofs.Stage.Counterpart
import Dramatis.Proofs.Stage.Keys
import Dramatis.Proofs.Stage.Pronoun
import Dramatis.Proofs.Stage.Shift

/-!
# Dramatis.Proofs.Stage.Offender

Whom a mistake is about.  A direction that fails, though all its names are known, fails for the
name of somebody in the cast: of a group, the first that is on the wrong side of the stage or
stands for somebody named before; otherwise the one name that the direction gives.

The mistake speaks of that actor by the normal form of the name it has now.  As long as everybody
keeps the name that they are filed under, this is the actor's key, and since a key is looked up
just as it stands, whoever the mistake names is found by it.
-/

namespace Dramatis

variable {σ α : Type}

namespace Stage

section Groups

variable {locate : String → Except Mistake Nat} {again : Nat → Mistake}

/-- A group is refused for the first of its names that is not found, or is found at a position
seen before. -/
theorem exists_of_groupPositions_eq_error {seen : List Nat} {names : List String}
    {error : Mistake} (h : groupPositions locate again seen names = .error error) :
    ∃ before name after is, names = before ++ name :: after ∧
      groupPositions locate again seen before = .ok is ∧
        (locate name = .error error ∨
          ∃ i, locate name = .ok i ∧ (i ∈ seen ∨ i ∈ is) ∧ error = again i) := by
  induction names generalizing seen with
  | nil => simp [groupPositions, pure, Except.pure] at h
  | cons name names ih =>
      obtain hname | ⟨i, hname, ⟨hi, hagain⟩ | ⟨hi, hrest⟩⟩ := groupPositions_cons_eq_error.1 h
      · exact ⟨[], name, names, [], rfl, rfl, .inl hname⟩
      · exact ⟨[], name, names, [], rfl, rfl, .inr ⟨i, hname, .inl hi, hagain.symm⟩⟩
      · obtain ⟨before, other, after, is, rfl, his, hwrong⟩ := ih hrest
        refine ⟨name :: before, other, after, i :: is, rfl, ?_, ?_⟩
        · rw [groupPositions_cons_ok hname hi, his]
          rfl
        · -- Whoever was seen after this name was added is this one or was seen before.
          refine hwrong.imp_right fun hagain => ?_
          obtain ⟨j, hother, hseen, hagain⟩ := hagain
          rw [List.mem_cons, or_assoc, or_left_comm, ← List.mem_cons] at hseen
          exact ⟨j, hother, hseen, hagain⟩

end Groups

variable [Actor α] {stage : Stage α} {name : String} {error : Mistake}

/-- What is wrong with somebody who is to move and is on the other side already. -/
def misplaced (stage : Stage α) (on : Bool) (i : Nat) : Mistake :=
  match on with
  | true => .alreadyPresent (stage.reportName i)
  | false => .notPresent (stage.reportName i)

/-- Somebody is not found on stage because the name is unknown, or because they are off. -/
theorem presentPosition_eq_error (h : stage.presentPosition name = .error error) :
    stage.cast.position? name = none ∧ error = .unknown (Name.normalize name) ∨
      ∃ i, stage.cast.position? name = some i ∧ i ∉ stage.present ∧
        error = stage.misplaced false i := by
  rw [presentPosition_eq] at h
  cases hname : stage.cast.position? name with
  | none => exact .inl ⟨rfl, by simpa [hname, eq_comm] using h⟩
  | some i =>
      simp only [hname] at h
      split at h
      · contradiction
      · next hcontains =>
        rw [Positions.contains_iff] at hcontains
        exact .inr ⟨i, rfl, hcontains, (Except.error.inj h).symm⟩

theorem absentPosition_eq_error (h : stage.absentPosition name = .error error) :
    stage.cast.position? name = none ∧ error = .unknown (Name.normalize name) ∨
      ∃ i, stage.cast.position? name = some i ∧ i ∈ stage.present ∧
        error = stage.misplaced true i := by
  rw [absentPosition_eq] at h
  cases hname : stage.cast.position? name with
  | none => exact .inl ⟨rfl, by simpa [hname, eq_comm] using h⟩
  | some i =>
      simp only [hname] at h
      split at h
      · next hcontains =>
        exact .inr ⟨i, rfl, Positions.contains_iff.1 hcontains, (Except.error.inj h).symm⟩
      · contradiction

/-- A group that cannot move is refused for the first of its names that is unknown, or stands
for somebody who is on the wrong side or has been named before. -/
theorem exists_of_movers_eq_error {on : Bool} {names : List String}
    (h : stage.movers on names = .error error) :
    ∃ before name after is, names = before ++ name :: after ∧ stage.movers on before = .ok is ∧
      (stage.cast.position? name = none ∧ error = .unknown (Name.normalize name) ∨
        ∃ i, stage.cast.position? name = some i ∧ ((i ∈ stage.present ↔ on = true) ∨ i ∈ is) ∧
          error = stage.misplaced on i) := by
  cases on with
  | true =>
      obtain ⟨before, name, after, is, hnames, his, hwrong⟩ := exists_of_groupPositions_eq_error h
      refine ⟨before, name, after, is, hnames, his, ?_⟩
      obtain hname | ⟨i, hname, hseen, hagain⟩ := hwrong
      · refine (absentPosition_eq_error hname).imp_right fun ⟨i, hi, hon, herror⟩ => ?_
        exact ⟨i, hi, .inl (iff_of_true hon rfl), herror⟩
      · have hi : i ∈ is := hseen.resolve_left List.not_mem_nil
        exact .inr ⟨i, (absentPosition_eq_ok.1 hname).1, .inr hi, hagain⟩
  | false =>
      obtain ⟨before, name, after, is, hnames, his, hwrong⟩ := exists_of_groupPositions_eq_error h
      refine ⟨before, name, after, is, hnames, his, ?_⟩
      obtain hname | ⟨i, hname, hseen, hagain⟩ := hwrong
      · refine (presentPosition_eq_error hname).imp_right fun ⟨i, hi, hoff, herror⟩ => ?_
        exact ⟨i, hi, .inl (iff_of_false hoff Bool.false_ne_true), herror⟩
      · have hi : i ∈ is := hseen.resolve_left List.not_mem_nil
        exact .inr ⟨i, (presentPosition_eq_ok.1 hname).1, .inr hi, hagain⟩

end Stage

/-! ## The name at fault -/

variable [Actor α]

/-- The name that a direction fails for, and the position for which it stands. -/
inductive Direction.FailsFor (stage : Stage α) : Direction α → String → Nat → Prop
  /-- The first of those to move who is on that side already, or has been named before. -/
  | mover {direction : Direction α} {on : Bool} {before after : List String} {name : String}
      {is : List Nat} {i : Nat} (h : direction.Shifts on (before ++ name :: after))
      (hbefore : stage.movers on before = .ok is) (hname : stage.cast.position? name = some i)
      (hwrong : (i ∈ stage.present ↔ on = true) ∨ i ∈ is) : FailsFor stage direction name i
  | requirePresent {name : String} {i : Nat} (hname : stage.cast.position? name = some i)
      (habsent : i ∉ stage.present) : FailsFor stage (.requirePresent name) name i
  | requireAbsent {name : String} {i : Nat} (hname : stage.cast.position? name = some i)
      (hpresent : i ∈ stage.present) : FailsFor stage (.requireAbsent name) name i
  /-- A speaker without an addressee. -/
  | addressee {name : String} {i : Nat} (hname : stage.cast.position? name = some i)
      (hnobody : stage.partner? i = none) : FailsFor stage (.addressee name) name i
  | changeAddressee {name : String} {f : α → α} {i : Nat}
      (hname : stage.cast.position? name = some i) (hnobody : stage.partner? i = none) :
      FailsFor stage (.changeAddressee name f) name i

/-- The mistake is about somebody whom the direction fails for, and speaks of them as the stage
does. -/
def Direction.Blames (stage : Stage α) (direction : Direction α) (error : Mistake) : Prop :=
  ∃ name i, direction.FailsFor stage name i ∧ error.actor = stage.reportName i

variable {stage : Stage α} {name : String} {error : Mistake}

omit [Actor α] in
/-- Whatever is made of an answer, the mistakes stay the same. -/
theorem map_eq_error_iff {β γ : Type} {f : β → γ} {answer : Except Mistake β} :
    answer.map f = .error error ↔ answer = .error error := by
  cases answer <;> simp [Except.map]

omit [Actor α] in
/-- Whoever is looked up is found, or the name is unknown. -/
theorem Cast.kind_of_lookup_eq_error {cast : Cast α} (h : cast.lookup name = .error error) :
    error.kind = .unknown := by
  rw [lookup, position] at h
  cases hname : cast.position? name with
  | none =>
      rw [hname] at h
      rw [← Except.error.inj h]
      rfl
  | some i =>
      simp only [hname, bind, Except.bind, actorAt] at h
      cases hactor : cast.actors[i]? with
      | none =>
          rw [hactor] at h
          rw [← Except.error.inj h]
          rfl
      | some actor => simp [hactor] at h

/-- A speaker who is known and has no addressee is the one whom the mistake is about. -/
theorem Stage.exchange_eq_error (h : stage.exchange name = .error error)
    (hknown : error.kind ≠ .unknown) :
    ∃ i, stage.cast.position? name = some i ∧ stage.partner? i = none ∧
      error.actor = stage.reportName i := by
  cases hname : stage.cast.position? name with
  | none =>
      rw [exchange_of_unknown hname] at h
      rw [← Except.error.inj h] at hknown
      exact absurd rfl hknown
  | some i =>
      rw [exchange_eq hname] at h
      cases hpartner : stage.partner? i with
      | some j => simp [hpartner] at h
      | none =>
          refine ⟨i, rfl, hpartner, ?_⟩
          simp only [hpartner] at h
          split at h
          · rw [← Except.error.inj h]
            rfl
          · split at h <;>
              · rw [← Except.error.inj h]
                rfl

namespace Direction

/-- A direction that moves a group blames the first who cannot move. -/
theorem Shifts.blames {direction : Direction α} {on : Bool} {names : List String}
    (h : direction.Shifts on names) (herror : (direction.act.perform stage).answer = .error error)
    (hknown : error.kind ≠ .unknown) : direction.Blames stage error := by
  have hmovers : stage.movers on names = .error error :=
    map_eq_error_iff.1 ((h.answer_eq stage).symm.trans herror)
  obtain ⟨before, name, after, is, rfl, his, hwrong⟩ := Stage.exists_of_movers_eq_error hmovers
  obtain ⟨-, rfl⟩ | ⟨i, hname, hi, rfl⟩ := hwrong
  · exact absurd rfl hknown
  · refine ⟨name, i, .mover h his hname hi, ?_⟩
    cases on <;> rfl

/-- The mistake of an address is that of the exchange, for there is an actor at every position
found. -/
theorem exchange_of_addressee (h : ((addressee name).act.perform stage).answer = .error error)
    (hknown : error.kind ≠ .unknown) : stage.exchange name = .error error := by
  simp only [act, Act.perform_bind_pure, map_eq_error_iff, Stage.answer_addressee] at h
  cases hexchange : stage.exchange name with
  | error first => simpa [hexchange, Except.bind] using h
  | ok pair =>
      simp only [hexchange, Except.bind, Cast.actorAt] at h
      split at h
      · contradiction
      · rw [← Except.error.inj h] at hknown
        exact absurd rfl hknown

/-- Unless it is about a name that nobody has, a mistake is about somebody in the cast whom the
direction fails for. -/
theorem blames_of_error {direction : Direction α}
    (h : (direction.act.perform stage).answer = .error error) (hknown : error.kind ≠ .unknown) :
    direction.Blames stage error := by
  cases direction with
  | bringOn names => exact (Shifts.bringOn names).blames h hknown
  | sendOff names => exact (Shifts.sendOff names).blames h hknown
  | dismiss name => exact (Shifts.dismiss name).blames h hknown
  | requirePresent name =>
      simp only [act, Act.perform_state_bind, Act.perform_bind_pure, Act.perform_ofExcept,
        Stage.requirePresent_eq, map_eq_error_iff] at h
      obtain ⟨-, rfl⟩ | ⟨i, hname, habsent, rfl⟩ := Stage.presentPosition_eq_error h
      · exact absurd rfl hknown
      · exact ⟨name, i, .requirePresent hname habsent, rfl⟩
  | requireAbsent name =>
      simp only [act, Act.perform_state_bind, Act.perform_bind_pure, Act.perform_ofExcept,
        Stage.requireAbsent_eq, map_eq_error_iff] at h
      obtain ⟨-, rfl⟩ | ⟨i, hname, hpresent, rfl⟩ := Stage.absentPosition_eq_error h
      · exact absurd rfl hknown
      · exact ⟨name, i, .requireAbsent hname hpresent, rfl⟩
  | addressee name =>
      obtain ⟨i, hname, hnobody, hactor⟩ :=
        Stage.exchange_eq_error (exchange_of_addressee h hknown) hknown
      exact ⟨name, i, .addressee hname hnobody, hactor⟩
  | changeAddressee name f =>
      have hask := ((Counterpart.addressee name).changesOnly stage).error_iff error |>.1 h
      obtain ⟨i, hname, hnobody, hactor⟩ :=
        Stage.exchange_eq_error (exchange_of_addressee hask hknown) hknown
      exact ⟨name, i, .changeAddressee hname hnobody, hactor⟩
  | lookup name =>
      rw [perform_lookup, map_eq_error_iff] at h
      exact absurd (Cast.kind_of_lookup_eq_error h) hknown
  | change name f =>
      have hask := ((Counterpart.lookup name).changesOnly stage).error_iff error |>.1 h
      rw [perform_lookup, map_eq_error_iff] at hask
      exact absurd (Cast.kind_of_lookup_eq_error hask) hknown
  | cast order =>
      cases order with
      | lookup name =>
          rw [perform_cast_lookup, perform_lookup, map_eq_error_iff] at h
          exact absurd (Cast.kind_of_lookup_eq_error h) hknown
      | change name f =>
          have hask := ((Counterpart.cast name).changesOnly stage).error_iff error |>.1 h
          rw [perform_cast_lookup, perform_lookup, map_eq_error_iff] at hask
          exact absurd (Cast.kind_of_lookup_eq_error hask) hknown
      | size | isEmpty | names | actors | contains => contradiction
  | clear =>
      simp only [act, Act.perform_bind_pure, Stage.perform_clear] at h
      contradiction
  | setFlag | flag | isPresent | headcount | presentNames | absentNames | presentActors
  | absentActors | pair | text | snapshot => contradiction

/-- The name that a direction fails for stands for the position. -/
theorem FailsFor.position? {direction : Direction α} {i : Nat}
    (h : direction.FailsFor stage name i) : stage.cast.position? name = some i := by
  cases h with
  | mover _ _ hname _ => exact hname
  | requirePresent hname _ | requireAbsent hname _ => exact hname
  | addressee hname _ | changeAddressee hname _ => exact hname

end Direction

/-- A mistake tells whom it is about by a name that finds them.  From the assembly of a cast on, as
long as no change gives an actor a name with another normal form, every direction that fails, and
not for an unknown name, fails for a name that stands for somebody; and the name that the mistake
tells is this actor's key, so that looking it up finds the same actor. -/
theorem Stage.offender_of_assemble {factory : Factory σ α} {personae : List Persona} {s : σ}
    {cast : Cast α} (h : ((Cast.assemble factory personae).perform s).answer = .ok cast)
    {play : List (Direction α)} (hkept : (ofCast cast).KeepsKeys play) {direction : Direction α}
    {error : Mistake}
    (herror : (direction.act.perform ((ofCast cast).after play)).answer = .error error)
    (hknown : error.kind ≠ .unknown) :
    ∃ name i actor, direction.FailsFor ((ofCast cast).after play) name i ∧
      ((ofCast cast).after play).cast.position? name = some i ∧
      cast.positionOfKey? error.actor = some i ∧
      ((ofCast cast).after play).cast.actors[i]? = some actor ∧
      ((ofCast cast).after play).lookup name = .ok actor ∧
      ((ofCast cast).after play).lookup error.actor = .ok actor := by
  obtain ⟨hbuilt, -⟩ := Cast.filed_of_assemble h
  have hfiled : ((ofCast cast).after play).cast.Filed := hkept.filed hbuilt
  obtain ⟨name, i, hfails, hreport⟩ := Direction.blames_of_error herror hknown
  have hname := hfails.position?
  have hi : i < ((ofCast cast).after play).cast.actors.length := hfiled.indexed.position?_lt hname
  have hactor := List.getElem?_eq_getElem hi
  have hkey := positionOfKey?_reportName hfiled hactor
  rw [← hreport] at hkey
  have hfound : ((ofCast cast).after play).cast.position? error.actor = some i := by
    rw [Cast.position?, hkey]
  refine ⟨name, i, _, hfails, hname, ?_, hactor, Cast.lookup_of_position? hname hactor,
    Cast.lookup_of_position? hfound hactor⟩
  rwa [Cast.positionOfKey?, ((ofCast cast).index_eq_of_play play).1] at hkey

/-- The second name of the group stands for the same player as the first, whose name is written in
lower case. -/
theorem Stage.offender_of_assemble_named_twice :
    ∃ cast : Cast Player,
      ((Cast.assemble .raw [⟨"ROMEO", none, none⟩, ⟨"juliet", none, none⟩]).perform 0).answer =
        .ok cast ∧
      let stage := (ofCast cast).after [.bringOn ["Romeo"], .change "romeo" (Player.assign 7)]
      ((Direction.bringOn [" juliet", "Juliet"]).act.perform stage).answer =
        .error (.alreadyPresent "Juliet") ∧
      stage.lookup "Juliet" = .ok ⟨"juliet", 2, []⟩ := by
  have hbuilt : ((Cast.assemble .raw
      [⟨"ROMEO", none, none⟩, ⟨"juliet", none, none⟩]).perform 0).answer =
      .ok ⟨[⟨"ROMEO", 1, []⟩, ⟨"juliet", 2, []⟩], [("Romeo", 0), ("Juliet", 1)]⟩ := rfl
  have hkept : (ofCast ⟨[⟨"ROMEO", 1, []⟩, ⟨"juliet", 2, []⟩], [("Romeo", 0), ("Juliet", 1)]⟩ :
      Stage Player).KeepsKeys [.bringOn ["Romeo"], .change "romeo" (Player.assign 7)] := by decide
  have hfails : ((Direction.bringOn [" juliet", "Juliet"]).act.perform
      ((ofCast ⟨[⟨"ROMEO", 1, []⟩, ⟨"juliet", 2, []⟩], [("Romeo", 0), ("Juliet", 1)]⟩ :
        Stage Player).after [.bringOn ["Romeo"], .change "romeo" (Player.assign 7)])).answer =
      .error (.alreadyPresent "Juliet") := rfl
  obtain ⟨name, i, actor, -, -, hkey, hactor, -, hlookup⟩ :=
    offender_of_assemble hbuilt hkept hfails (by decide)
  obtain rfl : 1 = i := Option.some.inj hkey
  obtain rfl : ⟨"juliet", 2, []⟩ = actor := Option.some.inj hactor
  exact ⟨_, hbuilt, hfails, hlookup⟩

end Dramatis
