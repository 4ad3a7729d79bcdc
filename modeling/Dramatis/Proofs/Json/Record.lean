import Dramatis.Json.Record
import Dramatis.Proofs.Json.Quoted
import Dramatis.Proofs.Text.Decimal
import Mathlib.Data.List.Perm.Basic

/-!
# Dramatis.Proofs.Json.Record

What JSON values stand for, said without the readers, and that each reader takes exactly the
values that stand for something.

A record of three fields is an object or an array.  In an object the members of the fields stand
in any order, with members of other keys anywhere between them; a field that may be missing has
one member or none.  The reader sorts the members by key, so it sees neither their order nor the
others; what it asks of a field is asked of the members with its key alone.
-/

namespace Dramatis

namespace Json

variable {α β γ δ : Type}

/-- A reader takes exactly the values that stand for something, and takes them for that. -/
def Decides (read? : Json → Option β) (means : Json → β → Prop) : Prop :=
  ∀ json b, read? json = some b ↔ means json b

/-! ## Plain values -/

/-- A quoted text, spelled in any way. -/
inductive IsText : Json → String → Prop
  | mk {body : List Char} {s : String} (h : Quoted.Spells body s.toList) : IsText (.string body) s

/-- A truth value. -/
inductive IsTruth : Json → Bool → Prop
  | mk (value : Bool) : IsTruth (.bool value) value

/-- A number of sixty-four bits, which is spelled by its decimal digits. -/
inductive IsNumber : Json → UInt64 → Prop
  | mk (n : UInt64) : IsNumber (.number (Text.Decimal.digits n.toNat)) n

/-- An array of texts. -/
inductive IsTexts : Json → List String → Prop
  | mk {elements : List Json} {texts : List String} (h : List.Forall₂ IsText elements texts) :
      IsTexts (.array elements) texts

/-- Nothing, or a value that stands for something. -/
inductive IsNullable (means : Json → β → Prop) : Json → Option β → Prop
  | null : IsNullable means .null none
  | given {json : Json} {b : β} (h : means json b) : IsNullable means json (some b)

/-- What is there stands for something. -/
theorem IsNullable.exists_eq_some {means : Json → β → Prop} {json : Json} {value : Option β}
    (h : IsNullable means json value) (hjson : json ≠ .null) :
    ∃ b, value = some b ∧ means json b := by
  cases h with
  | null => contradiction
  | given hmeans => exact ⟨_, rfl, hmeans⟩

/-- Texts are read from quoted texts alone, in any spelling. -/
theorem decides_string : Decides string? IsText := by
  intro json s
  constructor
  · intro h
    cases json with
    | string body =>
        obtain ⟨cs, hcs, rfl⟩ := Option.map_eq_some_iff.1 h
        exact ⟨by rwa [String.toList_ofList, ← Quoted.decode?_eq_some_iff]⟩
    | _ => contradiction
  · rintro ⟨h⟩
    rw [string?, Quoted.decode?_eq_some_iff.2 h, Option.map_some, String.ofList_toList]

/-- Truth values are read from truth values alone. -/
theorem decides_bool : Decides bool? IsTruth := by
  intro json b
  constructor
  · intro h
    cases json with
    | bool value =>
        obtain rfl := Option.some.inj h
        exact ⟨value⟩
    | _ => contradiction
  · rintro ⟨value⟩
    rfl

/-- The bound is exact: a number that the reader takes is not changed by being kept in
sixty-four bits. -/
theorem decides_uint64 : Decides uint64? IsNumber := by
  intro json n
  constructor
  · intro h
    cases json with
    | number numeral =>
        obtain ⟨k, hk, hbound⟩ := Option.bind_eq_some_iff.1 h
        obtain ⟨hlt, hn⟩ := Option.ite_none_right_eq_some.1 hbound
        obtain rfl := Option.some.inj hn
        obtain rfl := Text.Decimal.read?_eq_some_iff.1 hk
        have hkept : (UInt64.ofNat k).toNat = k := UInt64.toNat_ofNat_of_lt hlt
        have hmeans := IsNumber.mk (UInt64.ofNat k)
        rwa [hkept] at hmeans
    | _ => contradiction
  · rintro ⟨n⟩
    rw [uint64?, Text.Decimal.read?_digits]
    simp [UInt64.toNat_lt_size]

/-- The elements of a list are decided one by one. -/
theorem mapM_eq_some_iff {f : α → Option β} {means : α → β → Prop}
    (h : ∀ a b, f a = some b ↔ means a b) {as : List α} {bs : List β} :
    as.mapM f = some bs ↔ List.Forall₂ means as bs := by
  induction as generalizing bs with
  | nil => simp [eq_comm]
  | cons a as ih =>
      simp only [List.mapM_cons, Option.bind_eq_bind, Option.bind_eq_some_iff, Option.pure_def,
        Option.some.injEq, List.forall₂_cons_left_iff, h, ih]
      constructor
      · rintro ⟨b, hb, bs, hbs, rfl⟩
        exact ⟨b, bs, hb, hbs, rfl⟩
      · rintro ⟨b, bs, hb, hbs, rfl⟩
        exact ⟨b, hb, bs, hbs, rfl⟩

/-- A list of texts is read from an array of texts alone. -/
theorem decides_strings : Decides strings? IsTexts := by
  intro json texts
  constructor
  · intro h
    cases json with
    | array elements => exact ⟨(mapM_eq_some_iff decides_string).1 h⟩
    | _ => contradiction
  · rintro ⟨h⟩
    exact (mapM_eq_some_iff decides_string).2 h

/-- A reader of values that are never `null` can tell these from `null`. -/
theorem Decides.nullable {read? : Json → Option β} {means : Json → β → Prop}
    (h : Decides read? means) (hnull : ∀ b, ¬ means .null b) :
    Decides (nullable? read?) (IsNullable means) := by
  intro json value
  constructor
  · intro hread
    cases json with
    | null =>
        obtain rfl := Option.some.inj hread
        exact .null
    | _ =>
        obtain ⟨b, hb, rfl⟩ := Option.map_eq_some_iff.1 hread
        exact .given ((h _ b).1 hb)
  · intro hmeans
    cases hmeans with
    | null => rfl
    | given hmeans =>
        rw [nullable?, (h _ _).2 hmeans, Option.map_some]
        rintro rfl
        exact hnull _ hmeans

/-! ## Members and their keys -/

/-- The members of an object under the texts that their keys spell. -/
def Keyed (spelled : List (List Char × Json)) (members : List (String × Json)) : Prop :=
  List.Forall₂ (fun member named => Quoted.Spells member.1 named.1.toList ∧ member.2 = named.2)
    spelled members

/-- The members of an object are found under the texts that their keys spell. -/
theorem keyed?_eq_some_iff {spelled : List (List Char × Json)} {members : List (String × Json)} :
    keyed? spelled = some members ↔ Keyed spelled members := by
  refine mapM_eq_some_iff fun member named => ?_
  obtain ⟨body, value⟩ := member
  obtain ⟨key, other⟩ := named
  simp only [Option.map_eq_some_iff, Prod.mk.injEq, Quoted.decode?_eq_some_iff]
  constructor
  · rintro ⟨cs, hcs, rfl, rfl⟩
    exact ⟨by rwa [String.toList_ofList], rfl⟩
  · rintro ⟨hkey, rfl⟩
    exact ⟨key.toList, hkey, String.ofList_toList, rfl⟩

section Keyed

variable {spelled own others : List (List Char × Json)} {members named : List (String × Json)}

/-- A key spells one text at most. -/
theorem Keyed.eq (h : Keyed spelled members) (hnamed : Keyed spelled named) : members = named :=
  Option.some.inj ((keyed?_eq_some_iff.2 h).symm.trans (keyed?_eq_some_iff.2 hnamed))

/-- Every key spells a text. -/
def AreNamed (spelled : List (List Char × Json)) : Prop :=
  ∀ member ∈ spelled, ∃ key : String, Quoted.Spells member.1 key.toList

/-- Members can be named exactly if every key spells a text. -/
theorem areNamed_iff : AreNamed spelled ↔ ∃ members, Keyed spelled members := by
  constructor
  · intro h
    induction spelled with
    | nil => exact ⟨[], .nil⟩
    | cons member spelled ih =>
        obtain ⟨⟨key, hkey⟩, hrest⟩ := List.forall_mem_cons.1 h
        obtain ⟨members, hmembers⟩ := ih hrest
        exact ⟨(key, member.2) :: members, .cons ⟨hkey, rfl⟩ hmembers⟩
  · rintro ⟨members, h⟩
    induction h with
    | nil => exact List.forall_mem_nil _
    | @cons member named _ _ hhead _ ih => exact List.forall_mem_cons.2 ⟨⟨named.1, hhead.1⟩, ih⟩

/-- A named member is one of those spelled. -/
theorem Keyed.exists_spelled (h : Keyed spelled members) {member : String × Json}
    (hmem : member ∈ members) :
    ∃ other ∈ spelled, Quoted.Spells other.1 member.1.toList ∧ other.2 = member.2 := by
  induction h with
  | nil => contradiction
  | cons hhead _ ih =>
      obtain rfl | hmem := List.mem_cons.1 hmem
      · exact ⟨_, List.mem_cons_self, hhead⟩
      · obtain ⟨other, hother, hspells⟩ := ih hmem
        exact ⟨other, List.mem_cons_of_mem _ hother, hspells⟩

/-- A member that is spelled is one of those named. -/
theorem Keyed.exists_named (h : Keyed spelled members) {member : List Char × Json}
    (hmem : member ∈ spelled) :
    ∃ named ∈ members, Quoted.Spells member.1 named.1.toList ∧ member.2 = named.2 := by
  induction h with
  | nil => contradiction
  | cons hhead _ ih =>
      obtain rfl | hmem := List.mem_cons.1 hmem
      · exact ⟨_, List.mem_cons_self, hhead⟩
      · obtain ⟨named, hnamed, hspells⟩ := ih hmem
        exact ⟨named, List.mem_cons_of_mem _ hnamed, hspells⟩

/-- Members spelled one after the other are named one after the other. -/
theorem Keyed.exists_append (h : Keyed (own ++ others) members) :
    ∃ first later, members = first ++ later ∧ Keyed own first ∧ Keyed others later := by
  rw [← keyed?_eq_some_iff, keyed?, List.mapM_append] at h
  simp only [Option.bind_eq_bind, Option.bind_eq_some_iff, Option.pure_def, Option.some.injEq] at h
  obtain ⟨first, hfirst, later, hlater, rfl⟩ := h
  exact ⟨first, later, rfl, keyed?_eq_some_iff.1 hfirst, keyed?_eq_some_iff.1 hlater⟩

/-- Members named one after the other are spelled one after the other. -/
theorem Keyed.exists_append_named (h : Keyed spelled (members ++ named)) :
    ∃ own others, spelled = own ++ others ∧ Keyed own members ∧ Keyed others named :=
  ⟨spelled.take members.length, spelled.drop members.length, (List.take_append_drop _ _).symm,
    List.forall₂_take_append spelled members named h,
    List.forall₂_drop_append spelled members named h⟩

/-- Members in another order have their keys in this order. -/
theorem Keyed.perm (h : Keyed spelled members) (hperm : spelled.Perm others) :
    ∃ named, Keyed others named ∧ members.Perm named := by
  obtain ⟨named, hnamed, hmembers⟩ := List.perm_comp_forall₂ hperm.symm h
  exact ⟨named, hnamed, hmembers.symm⟩

/-- Names in another order are those of members in this order. -/
theorem Keyed.perm_named (h : Keyed spelled members) (hperm : members.Perm named) :
    ∃ others, Keyed others named ∧ spelled.Perm others := by
  obtain ⟨others, hothers, hspelled⟩ := List.perm_comp_forall₂ hperm.symm (List.Forall₂.flip h)
  exact ⟨others, List.Forall₂.flip hothers, hspelled.symm⟩

end Keyed

/-- The members with a key. -/
def withKey (key : String) (members : List (String × Json)) : List (String × Json) :=
  members.filter (·.1 == key)

/-- Members can be sorted by different keys, those with none of these last. -/
theorem perm_withKey {keys : List String} (h : keys.Nodup) (members : List (String × Json)) :
    members.Perm (keys.flatMap (withKey · members) ++ members.filter (·.1 ∉ keys)) := by
  induction keys generalizing members with
  | nil => simp
  | cons key keys ih =>
      obtain ⟨hkey, hkeys⟩ := List.nodup_cons.1 h
      have hsplit := (List.filter_append_perm (fun member => member.1 == key) members).symm
      have hsorted := ih hkeys (members.filter fun member => !(member.1 == key))
      -- The members without the key have the same members with each other key.
      have hsame : keys.flatMap (withKey · (members.filter fun member => !(member.1 == key))) =
          keys.flatMap (withKey · members) := by
        refine List.flatMap_congr fun other hother => ?_
        rw [withKey, withKey, List.filter_filter]
        refine List.filter_congr fun member _ => ?_
        have hne : other ≠ key := fun heq => hkey (heq ▸ hother)
        by_cases heq : member.1 = other <;> simp [heq, hne]
      have hothers : members.filter (fun member => member.1 ∉ keys && !(member.1 == key)) =
          members.filter (·.1 ∉ key :: keys) := by
        refine List.filter_congr fun member _ => ?_
        by_cases heq : member.1 = key <;> simp [heq]
      rw [hsame, List.filter_filter, hothers] at hsorted
      rw [List.flatMap_cons, List.append_assoc]
      exact hsplit.trans (hsorted.append_left _)

/-! ## The fields of a record -/

/-- A field as a format has it: its key, what its values stand for, and what it is when it is
missing from an object, which is the same as `null`. -/
structure Slot (β : Type) where
  key : String
  means : Json → β → Prop
  missing : Option β
  means_null {b : β} (h : missing = some b) (c : β) : means .null c ↔ c = b

namespace Slot

/-- A field that must not be missing. -/
def required (key : String) (means : Json → β → Prop) : Slot β := ⟨key, means, none, nofun⟩

/-- A field that may be `null` or missing. -/
def optional (key : String) (means : Json → β → Prop) (hnull : ∀ b, ¬ means .null b) :
    Slot (Option β) where
  key := key
  means := IsNullable means
  missing := some none
  means_null h c := by
    obtain rfl := Option.some.inj h
    constructor
    · rintro (_ | hmeans)
      · rfl
      · exact absurd hmeans (hnull _)
    · rintro rfl
      exact .null

/-- The members that tell what a field is: one, or none for a field that may be missing. -/
inductive Told (slot : Slot β) : β → List (String × Json) → Prop
  | given {json : Json} {b : β} (h : slot.means json b) : Told slot b [(slot.key, json)]
  | missing {b : β} (h : slot.missing = some b) : Told slot b []

/-- A field that is read as its format has it. -/
structure IsReadBy (slot : Slot β) (field : Field β) : Prop where
  key_eq : field.key = slot.key
  decides : Decides field.read? slot.means
  missing_eq : field.missing = slot.missing

/-- A field that must not be missing is read as its values are. -/
theorem isReadBy_required {key : String} {means : Json → β → Prop} {read? : Json → Option β}
    (h : Decides read? means) : (required key means).IsReadBy (.required key read?) :=
  ⟨rfl, h, rfl⟩

/-- A field that may be missing is read as its values are, or not at all. -/
theorem isReadBy_optional {key : String} {means : Json → β → Prop} {read? : Json → Option β}
    (h : Decides read? means) (hnull : ∀ b, ¬ means .null b) :
    (optional key means hnull).IsReadBy (.optional key read?) :=
  ⟨rfl, h.nullable hnull, rfl⟩

variable {slot : Slot β} {field : Field β} {b : β} {own members : List (String × Json)}

/-- All that tells a field has its key. -/
theorem Told.withKey_eq (h : slot.Told b own) : withKey slot.key own = own := by
  cases h with
  | given => simp [withKey]
  | missing => rfl

/-- Nothing that tells a field has another key. -/
theorem Told.withKey_of_ne (h : slot.Told b own) {key : String} (hkey : slot.key ≠ key) :
    withKey key own = [] := by
  cases h with
  | given => simp [withKey, hkey]
  | missing => rfl

/-- There are too few members that tell a field to put them in another order. -/
theorem Told.eq_of_perm (h : slot.Told b own) (hperm : members.Perm own) : members = own := by
  cases h with
  | given => exact List.perm_singleton.1 hperm
  | missing => exact List.perm_nil.1 hperm

/-- A field whose value is left as it is. -/
def left (slot : Slot β) : Slot Json := .required slot.key Eq

/-- A field that is left as it is tells a value, and that tells the field. -/
theorem Told.of_left {json : Json} (h : slot.left.Told json own) :
    slot.Told b own ↔ slot.means json b := by
  cases h with
  | given hjson =>
      subst hjson
      constructor
      · intro htold
        cases htold with
        | given hmeans => exact hmeans
      · exact .given
  | missing hnone => contradiction

/-- A missing member tells the same as one that is `null`. -/
theorem told_nil_iff (h : slot.missing ≠ none) :
    slot.Told b [] ↔ slot.Told b [(slot.key, .null)] := by
  obtain ⟨c, hc⟩ := Option.ne_none_iff_exists'.1 h
  constructor
  · intro htold
    cases htold with
    | missing hb => exact .given ((slot.means_null hb b).2 rfl)
  · intro htold
    cases htold with
    | given hmeans => exact .missing (((slot.means_null hc b).1 hmeans) ▸ hc)

/-- What is found of a field is what the members with its key tell. -/
theorem IsReadBy.find?_eq_some_iff (h : slot.IsReadBy field) :
    field.find? members = some b ↔ slot.Told b (withKey slot.key members) := by
  have hkeys : ∀ member ∈ withKey slot.key members, member.1 = slot.key := by
    simp [withKey]
  have hown : members.filter (·.1 == field.key) = withKey slot.key members := by
    rw [h.key_eq, withKey]
  rw [Field.find?, hown]
  generalize withKey slot.key members = own at hkeys
  cases own with
  | nil =>
      rw [h.missing_eq]
      exact ⟨.missing, fun htold => by cases htold; assumption⟩
  | cons member others =>
      obtain ⟨key, json⟩ := member
      obtain rfl := hkeys _ List.mem_cons_self
      cases others with
      | nil => exact (h.decides json b).trans ⟨.given, fun htold => by cases htold; assumption⟩
      | cons => exact ⟨fun hnone => by contradiction, fun htold => by cases htold⟩

end Slot

/-! ## Records of three fields -/

/-- A format of records: three fields with different keys. -/
structure Format (α β γ : Type) where
  first : Slot α
  second : Slot β
  third : Slot γ
  keys_nodup : [first.key, second.key, third.key].Nodup := by decide

namespace Format

/-- The keys of the fields in the order of declaration. -/
def keys (format : Format α β γ) : List String :=
  [format.first.key, format.second.key, format.third.key]

/-- The members that tell the fields of a record, in any order, with any members of unknown keys
anywhere between them. -/
inductive IsMadeOf (format : Format α β γ) (a : α) (b : β) (c : γ) :
    List (List Char × Json) → Prop
  | mk {x y z : List (String × Json)} {own others spelled : List (List Char × Json)}
      (hfirst : format.first.Told a x) (hsecond : format.second.Told b y)
      (hthird : format.third.Told c z) (hown : Keyed own (x ++ (y ++ z)))
      (hothers : ∀ member ∈ others, ∀ key ∈ format.keys, ¬ Quoted.Spells member.1 key.toList)
      (hperm : spelled.Perm (own ++ others)) : IsMadeOf format a b c spelled

/-- An object that is a record.  All its keys must spell texts, the unknown ones included. -/
inductive IsObject (format : Format α β γ) (a : α) (b : β) (c : γ) : Json → Prop
  | mk {spelled : List (List Char × Json)} (hmade : format.IsMadeOf a b c spelled)
      (hnamed : AreNamed spelled) : IsObject format a b c (.object spelled)

/-- An array that is a record: the values of its fields in the order of declaration. -/
inductive IsArray (format : Format α β γ) (a : α) (b : β) (c : γ) : Json → Prop
  | mk {x y z : Json} (hfirst : format.first.means x a) (hsecond : format.second.means y b)
      (hthird : format.third.means z c) : IsArray format a b c (.array [x, y, z])

/-- A value that is a record in either form. -/
def IsRecord (format : Format α β γ) (a : α) (b : β) (c : γ) (json : Json) : Prop :=
  format.IsObject a b c json ∨ format.IsArray a b c json

/-- Reads a record of three fields and makes what it stands for of them. -/
def record? (make : α → β → γ → δ) (f : Field α) (g : Field β) (h : Field γ) : Json → Option δ
  | .object spelled => do
    let members ← keyed? spelled
    return make (← f.find? members) (← g.find? members) (← h.find? members)
  | .array [x, y, z] => return make (← f.read? x) (← g.read? y) (← h.read? z)
  | _ => none

/-- Fields that are read as the format has them. -/
structure IsReadBy (format : Format α β γ) (f : Field α) (g : Field β) (h : Field γ) : Prop where
  first : format.first.IsReadBy f
  second : format.second.IsReadBy g
  third : format.third.IsReadBy h

variable {format : Format α β γ} {make : α → β → γ → δ} {f : Field α} {g : Field β}
  {h : Field γ} {a : α} {b : β} {c : γ} {d : δ}

/-- The three keys of a format are different. -/
theorem key_ne (format : Format α β γ) : format.first.key ≠ format.second.key ∧
    format.first.key ≠ format.third.key ∧ format.second.key ≠ format.third.key := by
  simpa [and_assoc] using format.keys_nodup

/-- The members that tell the fields are found by their keys. -/
theorem isMadeOf_iff {spelled : List (List Char × Json)} {members : List (String × Json)}
    (hkeys : Keyed spelled members) : format.IsMadeOf a b c spelled ↔
      format.first.Told a (withKey format.first.key members) ∧
      format.second.Told b (withKey format.second.key members) ∧
      format.third.Told c (withKey format.third.key members) := by
  constructor
  · intro hmade
    cases hmade with
    | @mk x y z own others _ hfirst hsecond hthird hown hothers hperm =>
      obtain ⟨hfs, hft, hst⟩ := format.key_ne
      obtain ⟨named, hnamed, hmembers⟩ := hkeys.perm hperm
      obtain ⟨told, rest, rfl, htold, hrest⟩ := hnamed.exists_append
      obtain rfl := htold.eq hown
      have hnone (key : String) (hkey : key ∈ format.keys) : withKey key rest = [] := by
        refine List.filter_eq_nil_iff.2 fun member hmember heq => ?_
        obtain ⟨other, hother, hspells, -⟩ := hrest.exists_spelled hmember
        exact hothers other hother key hkey (eq_of_beq heq ▸ hspells)
      -- The members with a key are among those of its field, which are one or none.
      have hsorted (key : String) : (withKey key members).Perm
          (withKey key x ++ (withKey key y ++ (withKey key z ++ withKey key rest))) := by
        simpa [withKey] using hmembers.filter (·.1 == key)
      have hone : withKey format.first.key members = x := hfirst.eq_of_perm <| by
        simpa [hfirst.withKey_eq, hsecond.withKey_of_ne hfs.symm, hthird.withKey_of_ne hft.symm,
          hnone format.first.key (by simp [keys])] using hsorted format.first.key
      have htwo : withKey format.second.key members = y := hsecond.eq_of_perm <| by
        simpa [hfirst.withKey_of_ne hfs, hsecond.withKey_eq, hthird.withKey_of_ne hst.symm,
          hnone format.second.key (by simp [keys])] using hsorted format.second.key
      have hthree : withKey format.third.key members = z := hthird.eq_of_perm <| by
        simpa [hfirst.withKey_of_ne hft, hsecond.withKey_of_ne hst, hthird.withKey_eq,
          hnone format.third.key (by simp [keys])] using hsorted format.third.key
      rw [hone, htwo, hthree]
      exact ⟨hfirst, hsecond, hthird⟩
  · rintro ⟨hfirst, hsecond, hthird⟩
    have hsorted : members.Perm (format.keys.flatMap (withKey · members) ++
        members.filter (·.1 ∉ format.keys)) := perm_withKey format.keys_nodup members
    have hthree : format.keys.flatMap (withKey · members) = withKey format.first.key members ++
        (withKey format.second.key members ++ withKey format.third.key members) := by simp [keys]
    rw [hthree] at hsorted
    obtain ⟨sorted, hnamed, hperm⟩ := hkeys.perm_named hsorted
    obtain ⟨own, others, rfl, hown, hothers⟩ := hnamed.exists_append_named
    refine .mk hfirst hsecond hthird hown (fun member hmember key hkey hspells => ?_) hperm
    obtain ⟨named, hmem, hother, -⟩ := hothers.exists_named hmember
    obtain rfl : key = named.1 := String.toList_inj.1 (hspells.eq hother)
    simp [hkey] at hmem

/-- The two conditions on an object: its members tell the fields, and its keys spell texts. -/
theorem isObject_iff {spelled : List (List Char × Json)} :
    format.IsObject a b c (.object spelled) ↔ format.IsMadeOf a b c spelled ∧ AreNamed spelled := by
  constructor
  · rintro ⟨hmade, hnamed⟩
    exact ⟨hmade, hnamed⟩
  · rintro ⟨hmade, hnamed⟩
    exact ⟨hmade, hnamed⟩

/-- An array of three tells the fields in their order. -/
theorem isArray_iff {x y z : Json} : format.IsArray a b c (.array [x, y, z]) ↔
    format.first.means x a ∧ format.second.means y b ∧ format.third.means z c := by
  constructor
  · rintro ⟨hfirst, hsecond, hthird⟩
    exact ⟨hfirst, hsecond, hthird⟩
  · rintro ⟨hfirst, hsecond, hthird⟩
    exact ⟨hfirst, hsecond, hthird⟩

/-- A record is read from the objects that are one, and from no others. -/
theorem IsReadBy.record?_object_eq_some_iff (hread : format.IsReadBy f g h)
    {spelled : List (List Char × Json)} : record? make f g h (.object spelled) = some d ↔
      ∃ a b c, format.IsObject a b c (.object spelled) ∧ make a b c = d := by
  simp only [record?, Option.bind_eq_bind, Option.bind_eq_some_iff, Option.pure_def,
    Option.some.injEq, hread.first.find?_eq_some_iff, hread.second.find?_eq_some_iff,
    hread.third.find?_eq_some_iff, keyed?_eq_some_iff]
  constructor
  · rintro ⟨members, hkeys, a, hfirst, b, hsecond, c, hthird, rfl⟩
    have hmade := (isMadeOf_iff hkeys).2 ⟨hfirst, hsecond, hthird⟩
    exact ⟨a, b, c, .mk hmade (areNamed_iff.2 ⟨members, hkeys⟩), rfl⟩
  · rintro ⟨a, b, c, ⟨hmade, hnamed⟩, rfl⟩
    obtain ⟨members, hkeys⟩ := areNamed_iff.1 hnamed
    obtain ⟨hfirst, hsecond, hthird⟩ := (isMadeOf_iff hkeys).1 hmade
    exact ⟨members, hkeys, a, hfirst, b, hsecond, c, hthird, rfl⟩

/-- A record is read from the arrays that are one, and from no others. -/
theorem IsReadBy.record?_array_eq_some_iff (hread : format.IsReadBy f g h) {elements : List Json} :
    record? make f g h (.array elements) = some d ↔
      ∃ a b c, format.IsArray a b c (.array elements) ∧ make a b c = d := by
  constructor
  · intro hmade
    match elements with
    | [x, y, z] =>
        simp only [record?, Option.bind_eq_bind, Option.bind_eq_some_iff, Option.pure_def,
          Option.some.injEq, hread.first.decides _ _, hread.second.decides _ _,
          hread.third.decides _ _] at hmade
        obtain ⟨a, hfirst, b, hsecond, c, hthird, rfl⟩ := hmade
        exact ⟨a, b, c, .mk hfirst hsecond hthird, rfl⟩
    | [] | [_] | [_, _] | _ :: _ :: _ :: _ :: _ => contradiction
  · rintro ⟨a, b, c, ⟨hfirst, hsecond, hthird⟩, rfl⟩
    rw [record?, (hread.first.decides _ _).2 hfirst, (hread.second.decides _ _).2 hsecond,
      (hread.third.decides _ _).2 hthird]
    rfl

/-- No record is `null`. -/
theorem IsRecord.ne_null {json : Json} (h : format.IsRecord a b c json) : json ≠ .null := by
  obtain ⟨-, -⟩ | ⟨-, -, -⟩ := h <;> nofun

/-- Of objects, those in the form of objects are records. -/
theorem isRecord_object_iff {spelled : List (List Char × Json)} :
    format.IsRecord a b c (.object spelled) ↔ format.IsObject a b c (.object spelled) :=
  or_iff_left nofun

/-- Of arrays, those in the form of arrays are records. -/
theorem isRecord_array_iff {elements : List Json} :
    format.IsRecord a b c (.array elements) ↔ format.IsArray a b c (.array elements) :=
  or_iff_right nofun

/-- A record is read from the values that are one, in either form, and from no others. -/
theorem IsReadBy.record?_eq_some_iff (hread : format.IsReadBy f g h) {json : Json} :
    record? make f g h json = some d ↔
      ∃ a b c, format.IsRecord a b c json ∧ make a b c = d := by
  cases json with
  | object spelled => simp only [hread.record?_object_eq_some_iff, isRecord_object_iff]
  | array elements => simp only [hread.record?_array_eq_some_iff, isRecord_array_iff]
  | _ =>
      refine ⟨nofun, ?_⟩
      rintro ⟨a, b, c, hobject | harray, -⟩
      · cases hobject
      · cases harray

/-- A reader that reads records takes the values that are one. -/
theorem IsReadBy.decides (hread : format.IsReadBy f g h) {ofJson? : Json → Option δ}
    (heq : ∀ json, ofJson? json = record? make f g h json) {means : Json → δ → Prop}
    (hmeans : ∀ json a b c, means json (make a b c) ↔ format.IsRecord a b c json)
    (hmade : ∀ d, ∃ a b c, make a b c = d) : Decides ofJson? means := by
  intro json d
  rw [heq, hread.record?_eq_some_iff]
  constructor
  · rintro ⟨a, b, c, hrecord, rfl⟩
    exact (hmeans json a b c).2 hrecord
  · intro hrecord
    obtain ⟨a, b, c, rfl⟩ := hmade d
    exact ⟨a, b, c, (hmeans json a b c).1 hrecord, rfl⟩

/-! ## Records by the values of their fields -/

/-- The format with the values of all fields left as they are. -/
def left (format : Format α β γ) : Format Json Json Json where
  first := .left format.first
  second := .left format.second
  third := .left format.third
  keys_nodup := format.keys_nodup

/-- The format with the value of the third field left as it is. -/
def thirdLeft (format : Format α β γ) : Format α β Json where
  first := format.first
  second := format.second
  third := .left format.third
  keys_nodup := format.keys_nodup

/-- A record is what the values of its fields stand for. -/
theorem isRecord_iff_of_left {x y z json : Json} (h : format.left.IsRecord x y z json) :
    format.IsRecord a b c json ↔
      format.first.means x a ∧ format.second.means y b ∧ format.third.means z c := by
  obtain ⟨hmade, hnamed⟩ | ⟨rfl, rfl, rfl⟩ := h
  · obtain ⟨members, hkeys⟩ := areNamed_iff.1 hnamed
    obtain ⟨hfirst, hsecond, hthird⟩ := (isMadeOf_iff hkeys).1 hmade
    rw [isRecord_object_iff, isObject_iff, and_iff_left hnamed, isMadeOf_iff hkeys]
    exact and_congr hfirst.of_left (and_congr hsecond.of_left hthird.of_left)
  · rw [isRecord_array_iff, isArray_iff]

/-- The third field of a record is what its value stands for. -/
theorem isRecord_iff_of_thirdLeft {a' : α} {b' : β} {z json : Json}
    (h : format.thirdLeft.IsRecord a' b' z json) : format.IsRecord a b c json ↔
      format.thirdLeft.IsRecord a b z json ∧ format.third.means z c := by
  obtain ⟨hmade, hnamed⟩ | ⟨-, -, rfl⟩ := h
  · obtain ⟨members, hkeys⟩ := areNamed_iff.1 hnamed
    obtain ⟨-, -, hleft⟩ := (isMadeOf_iff hkeys).1 hmade
    have hthird : format.third.Told c (withKey format.third.key members) ↔
      format.third.means z c := hleft.of_left
    rw [isRecord_object_iff, isRecord_object_iff, isObject_iff, isObject_iff, and_iff_left hnamed,
      and_iff_left hnamed, isMadeOf_iff hkeys, isMadeOf_iff hkeys, hthird]
    exact ⟨fun ⟨hfirst, hsecond, hmeans⟩ => ⟨⟨hfirst, hsecond, hleft⟩, hmeans⟩,
      fun ⟨⟨hfirst, hsecond, _⟩, hmeans⟩ => ⟨hfirst, hsecond, hmeans⟩⟩
  · rw [isRecord_array_iff, isRecord_array_iff, isArray_iff, isArray_iff]
    exact ⟨fun ⟨hfirst, hsecond, hmeans⟩ => ⟨⟨hfirst, hsecond, rfl⟩, hmeans⟩,
      fun ⟨⟨hfirst, hsecond, _⟩, hmeans⟩ => ⟨hfirst, hsecond, hmeans⟩⟩

end Format

end Json

end Dramatis
