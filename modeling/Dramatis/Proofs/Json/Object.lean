import Dramatis.Proofs.Json.Format

/-!
# Dramatis.Proofs.Json.Object

How records are read from objects.  An object may have any layout: its members in any order, any
white space, and any members of unknown keys among its own.  About the known keys reading is
strict: none may come twice, none that is required may be missing, and nothing may follow the
object.

Every key must spell a text, also an unknown one.  JSON has keys that spell none, those with half a
pair of surrogates in them, and an object with such a key is not read.
-/

namespace Dramatis

namespace Json

variable {α β γ δ : Type}

/-- A key comes twice, whatever its values. -/
def Twice (key : String) (spelled : List (List Char × Json)) : Prop :=
  ∃ first second, [first, second].Sublist spelled ∧
    Quoted.Spells first.1 key.toList ∧ Quoted.Spells second.1 key.toList

/-- No member has a key. -/
def Lacks (key : String) (spelled : List (List Char × Json)) : Prop :=
  ∀ member ∈ spelled, ¬ Quoted.Spells member.1 key.toList

section Keyed

variable {key : String} {spelled own : List (List Char × Json)} {members : List (String × Json)}

/-- Some of the members have some of the names. -/
theorem Keyed.exists_sublist (h : Keyed spelled members) (hsub : own.Sublist spelled) :
    ∃ named, named.Sublist members ∧ Keyed own named := by
  induction hsub generalizing members with
  | slnil => exact ⟨[], List.nil_sublist _, .nil⟩
  | cons member _ ih =>
      cases h with
      | cons _ htail =>
          obtain ⟨named, hnamed, hown⟩ := ih htail
          exact ⟨named, hnamed.cons _, hown⟩
  | cons_cons member _ ih =>
      cases h with
      | cons hhead htail =>
          obtain ⟨named, hnamed, hown⟩ := ih htail
          exact ⟨_ :: named, hnamed.cons_cons _, .cons hhead hown⟩

/-- A key that comes twice has two members, whatever the ways in which it is spelled. -/
theorem Twice.two_le_length_withKey (h : Twice key spelled) (hkeys : Keyed spelled members) :
    2 ≤ (withKey key members).length := by
  obtain ⟨first, second, hsub, hfirst, hsecond⟩ := h
  have hkeyed : Keyed [first, second] [(key, first.2), (key, second.2)] :=
    .cons ⟨hfirst, rfl⟩ (.cons ⟨hsecond, rfl⟩ .nil)
  obtain ⟨named, hnamed, hown⟩ := hkeys.exists_sublist hsub
  obtain rfl := hown.eq hkeyed
  simpa [withKey] using (hnamed.filter (·.1 == key)).length_le

/-- A key that no member spells has no members. -/
theorem Lacks.withKey_eq_nil (h : Lacks key spelled) (hkeys : Keyed spelled members) :
    withKey key members = [] := by
  refine List.filter_eq_nil_iff.2 fun member hmember heq => ?_
  obtain ⟨other, hother, hspells, -⟩ := hkeys.exists_spelled hmember
  exact h other hother (eq_of_beq heq ▸ hspells)

end Keyed

/-! ## Required and optional keys -/

namespace Slot

variable {slot : Slot β} {key : String} {b : β} {own before after : List (String × Json)}

/-- The key of a field that must not be missing. -/
def requiredKeys (slot : Slot β) : List String :=
  match slot.missing with
  | none => [slot.key]
  | some _ => []

/-- The key of a field that may be missing. -/
def optionalKeys (slot : Slot β) : List String :=
  match slot.missing with
  | none => []
  | some _ => [slot.key]

/-- The key of a field is required exactly if nothing stands for the field when it is missing. -/
theorem mem_requiredKeys : key ∈ slot.requiredKeys ↔ key = slot.key ∧ slot.missing = none := by
  cases hmissing : slot.missing <;> simp [requiredKeys, hmissing]

/-- The key of a field is optional exactly if something stands for the field when it is missing.
-/
theorem mem_optionalKeys : key ∈ slot.optionalKeys ↔ key = slot.key ∧ slot.missing ≠ none := by
  cases hmissing : slot.missing <;> simp [optionalKeys, hmissing]

/-- A field is told by one member at most. -/
theorem Told.length_le_one (h : slot.Told b own) : own.length ≤ 1 := by
  cases h <;> simp

/-- The member that tells a field has a value that means it. -/
theorem Told.means_of_mem (h : slot.Told b own) {member : String × Json} (hmem : member ∈ own) :
    slot.means member.2 b := by
  cases h with
  | given hmeans =>
      obtain rfl := List.mem_singleton.1 hmem
      exact hmeans
  | missing => contradiction

/-- A field that is required is told by some member. -/
theorem Told.ne_nil (h : slot.Told b own) (hmissing : slot.missing = none) : own ≠ [] := by
  cases h with
  | given => simp
  | missing hb => simp [hmissing] at hb

/-- A member that is `null` tells nothing of another field, and of its own no more than if it were
missing. -/
theorem told_insert_null_iff (hnone : withKey key (before ++ after) = [])
    (hslot : slot.key = key → slot.missing ≠ none) :
    slot.Told b (withKey slot.key (before ++ (key, .null) :: after)) ↔
      slot.Told b (withKey slot.key (before ++ after)) := by
  by_cases hkey : slot.key = key
  · subst hkey
    have hnull : withKey slot.key (before ++ (slot.key, .null) :: after) =
        [(slot.key, .null)] := by
      simp only [withKey, List.filter_append, List.append_eq_nil_iff] at hnone
      simp [withKey, hnone.1, hnone.2]
    rw [hnull, hnone]
    exact (told_nil_iff (hslot rfl)).symm
  · have hother : withKey slot.key (before ++ (key, .null) :: after) =
        withKey slot.key (before ++ after) := by
      simp [withKey, Ne.symm hkey]
    rw [hother]

end Slot

namespace Format

variable {format : Format α β γ} {key : String} {a : α} {b : β} {c : γ}
  {spelled : List (List Char × Json)} {members : List (String × Json)}

/-- The keys that must not be missing. -/
def requiredKeys (format : Format α β γ) : List String :=
  format.first.requiredKeys ++ (format.second.requiredKeys ++ format.third.requiredKeys)

/-- The keys that may be missing. -/
def optionalKeys (format : Format α β γ) : List String :=
  format.first.optionalKeys ++ (format.second.optionalKeys ++ format.third.optionalKeys)

/-- The required keys and the optional ones are keys of the format. -/
theorem mem_keys_of_mem (h : key ∈ format.requiredKeys ++ format.optionalKeys) :
    key ∈ format.keys := by
  simp only [requiredKeys, optionalKeys, List.mem_append, Slot.mem_requiredKeys,
    Slot.mem_optionalKeys] at h
  simp only [keys, List.mem_cons, List.not_mem_nil, or_false]
  tauto

/-- What an object is made of has no known key twice. -/
theorem IsMadeOf.length_withKey_le_one (h : format.IsMadeOf a b c spelled)
    (hkeys : Keyed spelled members) (hkey : key ∈ format.keys) :
    (withKey key members).length ≤ 1 := by
  obtain ⟨hfirst, hsecond, hthird⟩ := (isMadeOf_iff hkeys).1 h
  simp only [keys, List.mem_cons, List.not_mem_nil, or_false] at hkey
  obtain rfl | rfl | rfl := hkey
  · exact hfirst.length_le_one
  · exact hsecond.length_le_one
  · exact hthird.length_le_one

/-- What an object is made of has every required key. -/
theorem IsMadeOf.withKey_ne_nil (h : format.IsMadeOf a b c spelled)
    (hkeys : Keyed spelled members) (hkey : key ∈ format.requiredKeys) :
    withKey key members ≠ [] := by
  obtain ⟨hfirst, hsecond, hthird⟩ := (isMadeOf_iff hkeys).1 h
  simp only [requiredKeys, List.mem_append, Slot.mem_requiredKeys] at hkey
  obtain ⟨rfl, hmissing⟩ | ⟨rfl, hmissing⟩ | ⟨rfl, hmissing⟩ := hkey
  · exact hfirst.ne_nil hmissing
  · exact hsecond.ne_nil hmissing
  · exact hthird.ne_nil hmissing

/-- Different fields have different keys, so one that is required has no optional key. -/
theorem missing_ne_none_of_mem (hkey : key ∈ format.optionalKeys) :
    (format.first.key = key → format.first.missing ≠ none) ∧
    (format.second.key = key → format.second.missing ≠ none) ∧
    (format.third.key = key → format.third.missing ≠ none) := by
  obtain ⟨hfs, hft, hst⟩ := format.key_ne
  simp only [optionalKeys, List.mem_append, Slot.mem_optionalKeys] at hkey
  obtain ⟨rfl, hmissing⟩ | ⟨rfl, hmissing⟩ | ⟨rfl, hmissing⟩ := hkey
  · exact ⟨fun _ => hmissing, fun heq => absurd heq.symm hfs, fun heq => absurd heq.symm hft⟩
  · exact ⟨fun heq => absurd heq hfs, fun _ => hmissing, fun heq => absurd heq.symm hst⟩
  · exact ⟨fun heq => absurd heq hft, fun heq => absurd heq hst, fun _ => hmissing⟩

/-- What an object is made of is the same with an optional member that is `null` and without. -/
theorem isMadeOf_insert_null_iff {before after : List (List Char × Json)} {body : List Char}
    (hkey : key ∈ format.optionalKeys) (hbody : Quoted.Spells body key.toList)
    (hlacks : Lacks key (before ++ after)) (hnamed : AreNamed (before ++ after)) :
    format.IsMadeOf a b c (before ++ (body, .null) :: after) ↔
      format.IsMadeOf a b c (before ++ after) := by
  obtain ⟨members, hkeys⟩ := areNamed_iff.1 hnamed
  have hnone := hlacks.withKey_eq_nil hkeys
  obtain ⟨first, later, rfl, hfirst, hlater⟩ := hkeys.exists_append
  have hinsert : Keyed (before ++ (body, .null) :: after) (first ++ (key, .null) :: later) :=
    List.rel_append hfirst (.cons ⟨hbody, rfl⟩ hlater)
  obtain ⟨hone, htwo, hthree⟩ := missing_ne_none_of_mem hkey
  rw [isMadeOf_iff hinsert, isMadeOf_iff hkeys, Slot.told_insert_null_iff hnone hone,
    Slot.told_insert_null_iff hnone htwo, Slot.told_insert_null_iff hnone hthree]

end Format

/-! ## Reading objects -/

/-- How a kind of record is read from the texts of objects, with the keys that it requires and
those that it has besides. -/
structure ReadsObjects (read? : String → Option δ)
    (isMadeOf : δ → List (List Char × Json) → Prop) (required optional : List String) : Prop where
  /-- A record is read from every text of an object that is made of its members. -/
  of_isMadeOf {d : δ} {spelled : List (List Char × Json)} {text : String}
    (htext : Spells text (.object spelled)) (hmade : isMadeOf d spelled)
    (hnamed : AreNamed spelled) : read? text = some d
  /-- A key that spells no text is rejected. -/
  of_not_areNamed {spelled : List (List Char × Json)} {text : String}
    (htext : Spells text (.object spelled)) (hnamed : ¬ AreNamed spelled) : read? text = none
  /-- A known key that comes twice is rejected. -/
  of_twice {key : String} {spelled : List (List Char × Json)} {text : String}
    (htext : Spells text (.object spelled)) (hkey : key ∈ required ++ optional)
    (htwice : Twice key spelled) : read? text = none
  /-- An object without a required key is rejected. -/
  of_lacks {key : String} {spelled : List (List Char × Json)} {text : String}
    (htext : Spells text (.object spelled)) (hkey : key ∈ required) (hlacks : Lacks key spelled) :
    read? text = none
  /-- Anything but white space behind an object is rejected. -/
  of_append {spelled : List (List Char × Json)} {text rest : String}
    (htext : Spells text (.object spelled)) (hrest : ∃ c ∈ rest.toList, isSpace c = false) :
    read? (text ++ rest) = none
  /-- An optional key may as well be missing as have the value `null`. -/
  null_eq_missing {key : String} {body : List Char} {before after : List (List Char × Json)}
    {text other : String} (hkey : key ∈ optional) (hbody : Quoted.Spells body key.toList)
    (hlacks : Lacks key (before ++ after)) (htext : Spells text (.object (before ++ after)))
    (hother : Spells other (.object (before ++ (body, .null) :: after))) : read? other = read? text

namespace Format.IsReadBy

variable {format : Format α β γ} {make : α → β → γ → δ} {f : Field α} {g : Field β}
  {h : Field γ} {key : String} {spelled : List (List Char × Json)}

/-- An object with a key that spells no text is refused. -/
theorem record?_eq_none_of_not_areNamed (hnamed : ¬ AreNamed spelled) :
    record? make f g h (.object spelled) = none := by
  cases hkeys : keyed? spelled with
  | none => simp [record?, hkeys]
  | some members => exact absurd (areNamed_iff.2 ⟨members, keyed?_eq_some_iff.1 hkeys⟩) hnamed

/-- An object with a known key twice is refused. -/
theorem record?_eq_none_of_twice (hread : format.IsReadBy f g h) (hkey : key ∈ format.keys)
    (htwice : Twice key spelled) : record? make f g h (.object spelled) = none := by
  refine Option.eq_none_iff_forall_ne_some.2 fun d hd => ?_
  obtain ⟨a, b, c, ⟨hmade, hnamed⟩, -⟩ := hread.record?_object_eq_some_iff.1 hd
  obtain ⟨members, hkeys⟩ := areNamed_iff.1 hnamed
  have htwo := htwice.two_le_length_withKey hkeys
  have hone := hmade.length_withKey_le_one hkeys hkey
  omega

/-- An object without a required key is refused. -/
theorem record?_eq_none_of_lacks (hread : format.IsReadBy f g h)
    (hkey : key ∈ format.requiredKeys) (hlacks : Lacks key spelled) :
    record? make f g h (.object spelled) = none := by
  refine Option.eq_none_iff_forall_ne_some.2 fun d hd => ?_
  obtain ⟨a, b, c, ⟨hmade, hnamed⟩, -⟩ := hread.record?_object_eq_some_iff.1 hd
  obtain ⟨members, hkeys⟩ := areNamed_iff.1 hnamed
  exact hmade.withKey_ne_nil hkeys hkey (hlacks.withKey_eq_nil hkeys)

/-- An optional member that is `null` may as well be missing. -/
theorem record?_insert_null (hread : format.IsReadBy f g h)
    {before after : List (List Char × Json)} {body : List Char}
    (hkey : key ∈ format.optionalKeys) (hbody : Quoted.Spells body key.toList)
    (hlacks : Lacks key (before ++ after)) :
    record? make f g h (.object (before ++ (body, .null) :: after)) =
      record? make f g h (.object (before ++ after)) := by
  have hnamed : AreNamed (before ++ (body, .null) :: after) ↔ AreNamed (before ++ after) := by
    simp only [AreNamed, List.forall_mem_append, List.forall_mem_cons]
    exact and_congr_right fun _ => and_iff_right ⟨key, hbody⟩
  by_cases hall : AreNamed (before ++ after)
  · ext d
    have hobject (a : α) (b : β) (c : γ) :
        format.IsObject a b c (.object (before ++ (body, .null) :: after)) ↔
          format.IsObject a b c (.object (before ++ after)) := by
      have hmade : format.IsMadeOf a b c _ ↔ _ := isMadeOf_insert_null_iff hkey hbody hlacks hall
      constructor
      · rintro ⟨hobject, -⟩
        exact ⟨hmade.1 hobject, hall⟩
      · rintro ⟨hobject, -⟩
        exact ⟨hmade.2 hobject, hnamed.2 hall⟩
    rw [hread.record?_object_eq_some_iff, hread.record?_object_eq_some_iff]
    simp only [hobject]
  · rw [record?_eq_none_of_not_areNamed hall, record?_eq_none_of_not_areNamed (mt hnamed.1 hall)]

/-- A reader that reads records reads them from objects in any layout. -/
theorem readsObjects (hread : format.IsReadBy f g h) {ofJson? : Json → Option δ}
    (heq : ∀ json, ofJson? json = record? make f g h json)
    {isMadeOf : δ → List (List Char × Json) → Prop}
    (hmade : ∀ {d spelled}, isMadeOf d spelled →
      ∃ a b c, format.IsMadeOf a b c spelled ∧ make a b c = d) :
    ReadsObjects (fun text => do ofJson? (← parse? text)) isMadeOf format.requiredKeys
      format.optionalKeys := by
  have hparse {text : String} {json : Json} (htext : Spells text json) :
      (do ofJson? (← parse? text)) = record? make f g h json := by
    rw [parse?_eq_some_iff.2 htext, Option.bind_eq_bind, Option.bind_some, heq]
  constructor
  · intro d spelled text htext hd hnamed
    obtain ⟨a, b, c, hobject, rfl⟩ := hmade hd
    rw [hparse htext, hread.record?_object_eq_some_iff]
    exact ⟨a, b, c, ⟨hobject, hnamed⟩, rfl⟩
  · intro spelled text htext hnamed
    rw [hparse htext, record?_eq_none_of_not_areNamed hnamed]
  · intro key spelled text htext hkey htwice
    rw [hparse htext, hread.record?_eq_none_of_twice (mem_keys_of_mem hkey) htwice]
  · intro key spelled text htext hkey hlacks
    rw [hparse htext, hread.record?_eq_none_of_lacks hkey hlacks]
  · intro spelled text rest htext hrest
    rw [htext.parse?_append hrest, Option.bind_eq_bind, Option.bind_none]
  · intro key body before after text other hkey hbody hlacks htext hother
    rw [hparse htext, hparse hother, hread.record?_insert_null hkey hbody hlacks]

end Format.IsReadBy

end Json

open Json

namespace Location

theorem readsObjects : ReadsObjects read? IsMadeOf ["offset", "line", "column"] [] :=
  isReadBy_format.readsObjects ofJson?_eq fun hmade => ⟨_, _, _, hmade, rfl⟩

end Location

namespace Persona

theorem readsObjects : ReadsObjects read? IsMadeOf ["name"] ["description", "location"] :=
  isReadBy_format.readsObjects ofJson?_eq fun hmade => ⟨_, _, _, hmade, rfl⟩

/-- A persona is not read where its location is an object that is none. -/
theorem read?_eq_none_of_location {spelled nested : List (List Char × Json)} {body : List Char}
    {text : String} (htext : Spells text (.object spelled))
    (hmem : (body, .object nested) ∈ spelled) (hbody : Quoted.Spells body "location".toList)
    (hnested : Location.ofJson? (.object nested) = none) : read? text = none := by
  refine Option.eq_none_iff_forall_ne_some.2 fun persona hread => ?_
  obtain ⟨hmade, hnamed⟩ | harray := (read?_eq_some_iff htext).1 hread
  · obtain ⟨members, hkeys⟩ := areNamed_iff.1 hnamed
    obtain ⟨-, -, htold⟩ := (Format.isMadeOf_iff hkeys).1 hmade
    obtain ⟨named, hmember, hspells, hvalue⟩ := hkeys.exists_named hmem
    have hkey : "location" = named.1 := String.toList_inj.1 (hbody.eq hspells)
    have hmeans := htold.means_of_mem (List.mem_filter.2 ⟨hmember, beq_iff_eq.2 hkey.symm⟩)
    obtain ⟨location, -, hlocation⟩ := hmeans.exists_eq_some (by simp [← hvalue])
    rw [← hvalue, ← Location.decides_ofJson?, hnested] at hlocation
    contradiction
  · cases harray

end Persona

namespace Snapshot

theorem readsObjects :
    ReadsObjects read? IsMadeOf ["global_boolean", "on_stage", "off_stage"] [] :=
  isReadBy_format.readsObjects ofJson?_eq fun hmade => ⟨_, _, _, hmade, rfl⟩

end Snapshot

/-- Locations, personae and snapshots are read from objects in any layout, a persona with its
location in any layout too. -/
theorem objects_in_any_layout :
    ReadsObjects Location.read? Location.IsMadeOf ["offset", "line", "column"] [] ∧
    ReadsObjects Persona.read? Persona.IsMadeOf ["name"] ["description", "location"] ∧
    ReadsObjects Snapshot.read? Snapshot.IsMadeOf
      ["global_boolean", "on_stage", "off_stage"] [] ∧
    ∀ {spelled nested : List (List Char × Json)} {body : List Char} {text : String},
      Spells text (.object spelled) → (body, .object nested) ∈ spelled →
      Quoted.Spells body "location".toList →
      (¬ AreNamed nested ∨
        ∃ key ∈ ["offset", "line", "column"], Twice key nested ∨ Lacks key nested) →
      Persona.read? text = none := by
  refine ⟨Location.readsObjects, Persona.readsObjects, Snapshot.readsObjects, ?_⟩
  intro spelled nested body text htext hmem hbody hnested
  refine Persona.read?_eq_none_of_location htext hmem hbody ?_
  rw [Location.ofJson?_eq]
  obtain hnamed | ⟨key, hkey, htwice | hlacks⟩ := hnested
  · exact Format.IsReadBy.record?_eq_none_of_not_areNamed hnamed
  · exact Location.isReadBy_format.record?_eq_none_of_twice hkey htwice
  · exact Location.isReadBy_format.record?_eq_none_of_lacks hkey hlacks

/-- A location with its members in another order, one of them with an escape in its key, and an
unknown one between them; and a persona whose location has a member again. -/
theorem scattered_members :
    Location.read? "\x7b\"line\":1 ,\"x\":\"\\ud800\",\"c\\u006flumn\":2,\"offset\":0\x7d" =
      some ⟨0, 1, 2⟩ ∧
    Persona.read? ("\x7b\"name\":\"A\",\"location\":" ++
      "\x7b\"offset\":0,\"line\":1,\"offset\":0,\"column\":2\x7d\x7d") = none := by
  have hkeys : Keyed [("line".toList, .number ['1']), ("x".toList, .string "\\ud800".toList),
      ("c\\u006flumn".toList, .number ['2']), ("offset".toList, .number ['0'])]
      [("line", .number ['1']), ("x", .string "\\ud800".toList), ("column", .number ['2']),
        ("offset", .number ['0'])] := keyed?_eq_some_iff.1 rfl
  have hmade : Location.IsMadeOf ⟨0, 1, 2⟩ _ :=
    (Format.isMadeOf_iff hkeys).2 ⟨.given (.mk 0), .given (.mk 1), .given (.mk 2)⟩
  have hoffset : Quoted.Spells "offset".toList "offset".toList := Quoted.decode?_eq_some_iff.1 rfl
  have htwice (line column : List Char × Json) : Twice "offset"
      [("offset".toList, .number ['0']), line, ("offset".toList, .number ['0']), column] :=
    ⟨_, _, .cons_cons _ (.cons _ (.cons_cons _ (List.nil_sublist _))), hoffset, hoffset⟩
  constructor
  · exact objects_in_any_layout.1.of_isMadeOf (parse?_eq_some_iff.1 rfl) hmade
      (areNamed_iff.2 ⟨_, hkeys⟩)
  · exact objects_in_any_layout.2.2.2 (parse?_eq_some_iff.1 rfl)
      (List.mem_cons_of_mem _ List.mem_cons_self) (Quoted.decode?_eq_some_iff.1 rfl)
      (.inr ⟨"offset", List.mem_cons_self, .inl (htwice _ _)⟩)

/-- An unknown key with half a pair of surrogates in it: JSON allows the object, and it has the
members of a location, but it is not read. -/
theorem unread_unknown_key : ∃ spelled, Location.IsMadeOf ⟨7, 1, 0⟩ spelled ∧
    Spells "\x7b\"\\ud800\":1,\"offset\":7,\"line\":1,\"column\":0\x7d" (.object spelled) ∧
    Location.read? "\x7b\"\\ud800\":1,\"offset\":7,\"line\":1,\"column\":0\x7d" = none := by
  have hown : Keyed [("offset".toList, .number ['7']), ("line".toList, .number ['1']),
      ("column".toList, .number ['0'])]
      [("offset", .number ['7']), ("line", .number ['1']), ("column", .number ['0'])] :=
    keyed?_eq_some_iff.1 rfl
  have hunknown : ∀ key : String, ¬ Quoted.Spells "\\ud800".toList key.toList := by
    intro key hkey
    rw [← Quoted.decode?_eq_some_iff] at hkey
    contradiction
  have hmade : Location.IsMadeOf ⟨7, 1, 0⟩ (("\\ud800".toList, .number ['1']) :: _) :=
    .mk (.given (.mk 7)) (.given (.mk 1)) (.given (.mk 0)) hown
      (fun member hmember key _ => List.mem_singleton.1 hmember ▸ hunknown key)
      (List.perm_append_comm : ([_] ++ _).Perm _)
  exact ⟨_, hmade, parse?_eq_some_iff.1 rfl, rfl⟩

end Dramatis
