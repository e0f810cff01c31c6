import HandStudy.Proofs.Decode
import HandStudy.Proofs.Json.Canonical
import Mathlib.Data.List.Nodup
import Mathlib.Data.List.Pairwise

/-!
# What may be given for what is written

A value that is written as JSON may be given back in more ways than one. An object may have keys
that nobody knows, its keys may stand in any order, and a key may be left out if it was written with
its default (`Latitude.Fields`). Records take all that for the same: the object is decoded to the
record that was written (`Decode.Record.decodeFields_of_parts`). Each of its fields copies one part
of that record into the result; the copies can be made in any order, and those that are left out
would have changed nothing.
-/

namespace HandStudy

/-- What may be given in place of what is written. -/
abbrev Latitude := Json → Json → Prop

namespace Latitude

/-- Nothing else. -/
def same : Latitude := fun v w => w = v

/-- Anything of this canonical form. -/
def alike : Latitude := fun v w => w.isWhole ∧ w.canonical = v

/-- Null for null, and otherwise what the other latitude says. -/
def orNull (L : Latitude) : Latitude := fun v w => v = .null ∧ w = .null ∨ v ≠ .null ∧ L v w

/-- As many items, and each as the other latitude says. -/
def items (L : Latitude) : Latitude := fun v w =>
  ∃ vs ws, v = .arr vs ∧ w = .arr ws ∧ List.Forall₂ L vs ws

/-- A key of an object: what may be given for its value, and the value, if there is one, with which
    it may be left out. -/
structure Key where
  name : String
  inner : Latitude
  default : Option Json

/-- A key that has to be given. -/
def Key.needed (name : String) (L : Latitude) : Key := ⟨name, L, none⟩

/-- A key that may be left out with its default. -/
def Key.defaulted (name : String) (L : Latitude) (default : Json) : Key := ⟨name, L, some default⟩

/-- A key whose value may be null, and that may be left out then. -/
def Key.optional (name : String) (L : Latitude) : Key := .defaulted name (.orNull L) .null

/-- What is written under a known key is given under it, once, or left out if it is the default.
    Other keys are given as one likes. -/
structure Fields (keys : List Key) (written given : List (String × Json)) : Prop where
  once : ((given.map Prod.fst).filter fun name => name ∈ keys.map Key.name).Nodup
  each : ∀ k ∈ keys, ∀ v, (k.name, v) ∈ written →
    (∃ w, (k.name, w) ∈ given ∧ k.inner v w) ∨
      k.name ∉ given.map Prod.fst ∧ k.default = some v

section Fields

variable {keys : List Key} {written given : List (String × Json)}

/-- Of known keys none is given twice, and so of any of them. -/
theorem Fields.once_of_subset (h : Fields keys written given) (names : List String)
    (hnames : ∀ name ∈ names, name ∈ keys.map Key.name) :
    ((given.map Prod.fst).filter fun name => name ∈ names).Nodup := by
  refine h.once.sublist (List.monotone_filter_right _ fun name hname => ?_)
  exact decide_eq_true (hnames name (of_decide_eq_true hname))

/-- Whatever is given under a known key is what there is latitude for. -/
theorem Fields.inner_of_mem (h : Fields keys written given) {k : Key} (hk : k ∈ keys) {v w : Json}
    (hv : (k.name, v) ∈ written) (hw : (k.name, w) ∈ given) : k.inner v w := by
  rcases h.each k hk v hv with ⟨w', hw', hinner⟩ | ⟨hnone, -⟩
  · have honce := h.once
    rw [List.filter_map] at honce
    have hmem {u : Json} (hu : (k.name, u) ∈ given) :
        (k.name, u) ∈ given.filter ((fun name => name ∈ keys.map Key.name) ∘ Prod.fst) :=
      List.mem_filter.2 ⟨hu, decide_eq_true (List.mem_map_of_mem hk)⟩
    obtain rfl : w = w' :=
      congrArg Prod.snd (List.inj_on_of_nodup_map honce (hmem hw) (hmem hw') rfl)
    exact hinner
  · exact absurd (List.mem_map_of_mem hw) hnone

end Fields

/-- An object with these keys. -/
def object (keys : List Key) : Latitude := fun v w =>
  ∃ written given, v = .obj written ∧ w = .obj given ∧ Fields keys written given

/-- What the other latitude says, if all of it has a value. -/
def whole (L : Latitude) : Latitude := fun v w => w.isWhole ∧ L v w

end Latitude

namespace Decode

open Latitude (Key Fields)

variable {α β : Type} {g : Json → Json}

/-- What is written as this value is read as `a`, whether it is rearranged or given in any other way
    that there is latitude for. -/
structure ReadsBack (g : Json → Json) (L : Latitude) (read : Decoder α) (v : Json) (a : α) :
    Prop where
  self : L v (g v)
  read : ∀ {w}, L v w → read w = .ok a

/-! ## Records -/

/-- A part of a record that is written: its key and value, and how it is copied into another
    record. -/
structure Part (α : Type) where
  key : Key
  value : Json
  copy : α → α

/-- The member reads the part back from what may be given for it. If it is left out, the blank
    record has it already. -/
structure Restores (g : Json → Json) (blank : α) (m : Member α) (p : Part α) : Prop where
  name : p.key.name = m.name
  self : p.key.inner p.value (g p.value)
  given : ∀ {w}, p.key.inner p.value w → ∀ a, m.put w a = .ok (p.copy a)
  blank : p.key.default = some p.value → m.required = false ∧ p.copy blank = blank

/-- The copies can be made in any order and again, and all of them make the record. -/
structure Copies (copies : List (α → α)) (a : α) : Prop where
  commute : copies.Pairwise fun c d => ∀ b, c (d b) = d (c b)
  again : ∀ c ∈ copies, ∀ b, c (c b) = c b
  all : ∀ b, copies.foldl (fun b c => c b) b = a

theorem Copies.commute_of_mem {copies : List (α → α)} {a : α} (h : Copies copies a) {c d : α → α}
    (hc : c ∈ copies) (hd : d ∈ copies) : ∀ b, c (d b) = d (c b) := by
  have : Std.Symm fun c d : α → α => ∀ b, c (d b) = d (c b) := ⟨fun _ _ h b => (h b).symm⟩
  exact h.commute.forall_of_forall (fun c _ b => rfl) hc hd

/-- What no copy changes is the record. -/
theorem Copies.eq_of_forall {copies : List (α → α)} {a b : α} (h : Copies copies a)
    (hb : ∀ c ∈ copies, c b = b) : b = a := by
  rw [← h.all b]
  clear h
  induction copies with
  | nil => rfl
  | cons c copies ih =>
    obtain ⟨hc, hcopies⟩ := List.forall_mem_cons.1 hb
    rw [List.foldl_cons, hc]
    exact ih hcopies

/-- The keys are the names of the members. -/
theorem names_eq {blank : α} {members : List (Member α)} {parts : List (Part α)}
    (hparts : List.Forall₂ (Restores g blank) members parts) :
    members.map Member.name = parts.map fun p => p.key.name := by
  induction hparts with
  | nil => rfl
  | cons h _ ih => rw [List.map_cons, List.map_cons, ih, h.name]

/-- The part of a member is the one of its name. -/
theorem restores_of_name {blank : α} {members : List (Member α)} {parts : List (Part α)}
    (hparts : List.Forall₂ (Restores g blank) members parts)
    (hnames : (parts.map fun p => p.key.name).Nodup) {m : Member α} (hm : m ∈ members)
    {p : Part α} (hp : p ∈ parts) (hname : p.key.name = m.name) : Restores g blank m p := by
  have hread : ∃ q ∈ parts, Restores g blank m q := by
    clear hp hnames
    induction hparts with
    | nil => cases hm
    | cons h _ ih =>
      rcases List.mem_cons.1 hm with rfl | hm
      · exact ⟨_, List.mem_cons_self, h⟩
      · obtain ⟨q, hq, h⟩ := ih hm
        exact ⟨q, List.mem_cons_of_mem _ hq, h⟩
  obtain ⟨q, hq, h⟩ := hread
  obtain rfl : p = q := List.inj_on_of_nodup_map hnames hp hq (hname.trans h.name.symm)
  exact h

namespace Record

variable {r : Record α} {parts : List (Part α)} {a : α} {given : List (String × Json)}

theorem exists_part (hmembers : r.members.map Member.name = parts.map fun p => p.key.name)
    {m : Member α} (hm : m ∈ r.members) : ∃ p ∈ parts, p.key.name = m.name := by
  have hname := List.mem_map_of_mem (f := Member.name) hm
  rw [hmembers] at hname
  exact List.mem_map.1 hname

theorem exists_member (hmembers : r.members.map Member.name = parts.map fun p => p.key.name)
    {p : Part α} (hp : p ∈ parts) : ∃ m ∈ r.members, m.name = p.key.name := by
  have hname := List.mem_map_of_mem (f := fun p : Part α => p.key.name) hp
  rw [← hmembers] at hname
  exact List.mem_map.1 hname

/-- Nothing is missing if all that has to be given was seen. -/
theorem firstMissing?_eq_none_iff {seen : List String} :
    r.firstMissing? seen = none ↔ ∀ m ∈ r.members, m.required → m.name ∈ seen := by
  simp [firstMissing?]

/-- A member is seen whose key is given. -/
theorem mem_seen_of_readFields {b c : α} {seen seen' : List String}
    (h : r.readFields given b seen = .ok (c, seen')) {m : Member α} (hm : m ∈ r.members)
    (hgiven : m.name ∈ seen ∨ m.name ∈ given.map Prod.fst) : m.name ∈ seen' := by
  induction given generalizing seen b with
  | nil =>
    obtain ⟨-, rfl⟩ := Prod.mk.inj (Except.ok.inj h)
    exact hgiven.resolve_right List.not_mem_nil
  | cons f given ih =>
    obtain ⟨key, w⟩ := f
    rw [List.map_cons, List.mem_cons] at hgiven
    rw [readFields] at h
    cases hn : r.members.find? (·.name = key) with
    | none =>
      rw [hn] at h
      have hne : m.name ≠ key := fun e => List.find?_eq_none.1 hn m hm (decide_eq_true e)
      exact ih h (hgiven.imp_right fun hg => hg.resolve_left hne)
    | some n =>
      simp only [hn] at h
      split at h
      · cases h
      · obtain ⟨b', -, h⟩ := bind_eq_ok_iff.1 h
        refine ih h ?_
        rcases hgiven with hs | rfl | hg
        · exact .inl (List.mem_cons_of_mem _ hs)
        · exact .inl List.mem_cons_self
        · exact .inr hg

/-- A part that the record has, or that is copied into it, is there afterwards. -/
theorem copy_copy (hcopies : Copies (parts.map Part.copy) a)
    (hnames : (parts.map fun p => p.key.name).Nodup) {p q : Part α} (hp : p ∈ parts)
    (hq : q ∈ parts) {b : α} (h : q.copy b = b ∨ q.key.name = p.key.name) :
    q.copy (p.copy b) = p.copy b := by
  rcases h with hb | hname
  · rw [hcopies.commute_of_mem (List.mem_map_of_mem hq) (List.mem_map_of_mem hp), hb]
  · obtain rfl : q = p := List.inj_on_of_nodup_map hnames hq hp hname
    exact hcopies.again _ (List.mem_map_of_mem hq) b

/-- Reading the fields makes the copies of the parts that are given. A part that the record has
    before is kept, and one that is given is there afterwards. -/
theorem exists_readFields (hcopies : Copies (parts.map Part.copy) a)
    (hnames : (parts.map fun p => p.key.name).Nodup)
    (hmembers : r.members.map Member.name = parts.map fun p => p.key.name)
    (hread : ∀ f ∈ given, ∀ p ∈ parts, p.key.name = f.1 → ∀ m ∈ r.members, m.name = f.1 →
      ∀ b, m.put f.2 b = .ok (p.copy b))
    (honce : ((given.map Prod.fst).filter fun name => name ∈ parts.map fun p => p.key.name).Nodup)
    (seen : List String)
    (hseen : ∀ p ∈ parts, p.key.name ∈ given.map Prod.fst → p.key.name ∉ seen) (b : α) :
    ∃ c seen', r.readFields given b seen = .ok (c, seen') ∧
      ∀ p ∈ parts, p.copy b = b ∨ p.key.name ∈ given.map Prod.fst → p.copy c = c := by
  induction given generalizing seen b with
  | nil => exact ⟨b, seen, rfl, fun p _ h => h.resolve_right List.not_mem_nil⟩
  | cons f given ih =>
    obtain ⟨key, w⟩ := f
    obtain ⟨hf, hrest⟩ := List.forall_mem_cons.1 hread
    have honce' := honce.sublist ((List.sublist_cons_self key _).filter _)
    rw [readFields]
    cases hm : r.members.find? (·.name = key) with
    | none =>
      have hunknown : ∀ p ∈ parts, p.key.name ≠ key := by
        intro p hp hkey
        obtain ⟨m, hmem, hname⟩ := exists_member hmembers hp
        exact List.find?_eq_none.1 hm m hmem (decide_eq_true (hname.trans hkey))
      obtain ⟨c, seen', hc, hcopied⟩ := ih hrest honce' seen
        (fun p hp hg => hseen p hp (List.mem_cons_of_mem _ hg)) b
      refine ⟨c, seen', hc, fun p hp h => hcopied p hp ?_⟩
      exact h.imp_right fun hg => (List.mem_cons.1 hg).resolve_left (hunknown p hp)
    | some m =>
      obtain rfl : m.name = key := by simpa using List.find?_some hm
      have hmem := List.mem_of_find?_eq_some hm
      obtain ⟨p, hp, hkey⟩ := exists_part hmembers hmem
      have hlast : m.name ∉ given.map Prod.fst := by
        intro hg
        rw [List.map_cons, List.filter_cons_of_pos (by simpa using ⟨p, hp, hkey⟩)] at honce
        refine (List.nodup_cons.1 honce).1 (List.mem_filter.2 ⟨hg, ?_⟩)
        simpa using ⟨p, hp, hkey⟩
      have hnew : m.name ∉ seen := hkey ▸ hseen p hp (hkey ▸ List.mem_cons_self)
      have hseen' : ∀ q ∈ parts, q.key.name ∈ given.map Prod.fst →
          q.key.name ∉ m.name :: seen := by
        intro q hq hg
        rw [List.mem_cons, not_or]
        exact ⟨fun hname => hlast (hname ▸ hg), hseen q hq (List.mem_cons_of_mem _ hg)⟩
      simp only [List.contains_iff_mem, if_neg hnew, hf p hp hkey m hmem rfl b]
      obtain ⟨c, seen', hc, hcopied⟩ := ih hrest honce' (m.name :: seen) hseen' (p.copy b)
      refine ⟨c, seen', hc, fun q hq h => hcopied q hq ?_⟩
      rw [List.map_cons, List.mem_cons, ← or_assoc, ← hkey] at h
      exact h.imp_left (copy_copy hcopies hnames hp hq)

/-- An object is decoded to the record that was written, whatever is given in its place. -/
theorem decodeFields_of_parts (hparts : List.Forall₂ (Restores g r.blank) r.members parts)
    (hcopies : Copies (parts.map Part.copy) a) (hnames : (r.members.map Member.name).Nodup)
    {keys : List Key} {written : List (String × Json)} (hkeys : ∀ p ∈ parts, p.key ∈ keys)
    (hwritten : ∀ p ∈ parts, (p.key.name, p.value) ∈ written)
    (h : Fields keys written given) : r.decodeFields given = .ok a := by
  have hmembers := names_eq hparts
  rw [hmembers] at hnames
  have hread : ∀ f ∈ given, ∀ p ∈ parts, p.key.name = f.1 → ∀ m ∈ r.members, m.name = f.1 →
      ∀ b, m.put f.2 b = .ok (p.copy b) := by
    rintro ⟨key, w⟩ hf p hp rfl m hm hname
    have hmp := restores_of_name hparts hnames hm hp hname.symm
    exact hmp.given (h.inner_of_mem (hkeys p hp) (hwritten p hp) hf)
  have honce := h.once_of_subset (parts.map fun p => p.key.name)
    (List.forall_mem_map.2 fun p hp => List.mem_map_of_mem (hkeys p hp))
  obtain ⟨c, seen, hc, hcopied⟩ := exists_readFields hcopies hnames hmembers hread honce []
    (fun p _ _ => List.not_mem_nil) r.blank
  -- What is left out need not be given, and the blank record has it.
  have hgiven : ∀ m ∈ r.members, ∀ p ∈ parts, p.key.name = m.name →
      p.key.name ∈ given.map Prod.fst ∨ m.required = false ∧ p.copy r.blank = r.blank := by
    intro m hm p hp hname
    rcases h.each p.key (hkeys p hp) p.value (hwritten p hp) with ⟨w, hw, -⟩ | ⟨-, hdefault⟩
    · exact .inl (List.mem_map_of_mem hw)
    · exact .inr ((restores_of_name hparts hnames hm hp hname).blank hdefault)
  have hmissing : r.firstMissing? seen = none := by
    refine firstMissing?_eq_none_iff.2 fun m hm hrequired => ?_
    obtain ⟨p, hp, hname⟩ := exists_part hmembers hm
    rcases hgiven m hm p hp hname with hg | ⟨hnot, -⟩
    · exact mem_seen_of_readFields hc hm (.inr (hname ▸ hg))
    · rw [hnot] at hrequired
      cases hrequired
  have hall : ∀ p ∈ parts, p.copy c = c := by
    intro p hp
    obtain ⟨m, hm, hname⟩ := exists_member hmembers hp
    exact hcopied p hp ((hgiven m hm p hp hname.symm).symm.imp_left And.right)
  have hca : c = a := hcopies.eq_of_forall (List.forall_mem_map.2 hall)
  rw [decodeFields, hc]
  simp only [bind, Except.bind, hmissing, hca]
  rfl

end Record

namespace Restores

variable {name : String} {read : Decoder β} {put : β → α → α} {blank : α} {L : Latitude}
  {v d : Json} {x : β}

/-- A member that has to be given cannot be left out. -/
theorem needed (h : ReadsBack g L read v x) :
    Restores g blank (Decode.needed name read put) ⟨.needed name L, v, put x⟩ where
  name := rfl
  self := h.self
  given hw a := congrArg (Except.map (put · a)) (h.read hw)
  blank := nofun

/-- A member with a default can be left out if it is written as that. -/
theorem defaulted (h : ReadsBack g L read v x) (hblank : d = v → put x blank = blank) :
    Restores g blank (Decode.defaulted name read put) ⟨.defaulted name L d, v, put x⟩ where
  name := rfl
  self := h.self
  given hw a := congrArg (Except.map (put · a)) (h.read hw)
  blank hd := ⟨rfl, hblank (Option.some.inj hd)⟩

end Restores

/-- An object may be given as it is written, and rearranged. -/
theorem object_self (hg : Json.Rearranges g) (fields : List (Key × Json))
    (hself : ∀ f ∈ fields, f.1.inner f.2 (g f.2)) (hnames : (fields.map (·.1.name)).Nodup) :
    Latitude.object (fields.map Prod.fst) (.obj (fields.map fun f => (f.1.name, f.2)))
      (g (.obj (fields.map fun f => (f.1.name, f.2)))) := by
  obtain ⟨given, hgiven, honce, hmem⟩ := hg.obj (fields.map fun f => (f.1.name, f.2))
    (by rwa [List.map_map])
  refine ⟨_, given, rfl, hgiven, honce.filter _, fun k hk v hv => ?_⟩
  obtain ⟨f, hf, rfl⟩ := List.mem_map.1 hk
  obtain ⟨e, he, heq⟩ := List.mem_map.1 hv
  obtain ⟨hname, rfl⟩ := Prod.mk.inj heq
  obtain rfl : e = f := List.inj_on_of_nodup_map hnames he hf hname
  exact .inl ⟨g e.2, (hmem _).2 ⟨e.2, hv, rfl⟩, hself e he⟩

/-- The key and the value of a part. -/
def Part.field (p : Part α) : Key × Json := (p.key, p.value)

theorem self_of_mem {blank : α} {members : List (Member α)} {parts : List (Part α)}
    (hparts : List.Forall₂ (Restores g blank) members parts) {p : Part α} (hp : p ∈ parts) :
    p.key.inner p.value (g p.value) := by
  induction hparts with
  | nil => cases hp
  | cons h _ ih =>
    rcases List.mem_cons.1 hp with rfl | hp
    · exact h.self
    · exact ih hp

/-- A record is read back from the object of its parts. -/
theorem readsBack_object (hg : Json.Rearranges g) {r : Record α} {parts : List (Part α)} {a : α}
    (hparts : List.Forall₂ (Restores g r.blank) r.members parts)
    (hcopies : Copies (parts.map Part.copy) a) (hnames : (r.members.map Member.name).Nodup) :
    ReadsBack g (.object ((parts.map Part.field).map Prod.fst)) r.decode
      (.obj ((parts.map Part.field).map fun f => (f.1.name, f.2))) a := by
  constructor
  · refine object_self hg _ (List.forall_mem_map.2 fun p hp => self_of_mem hparts hp) ?_
    rw [names_eq hparts] at hnames
    rwa [List.map_map]
  · rintro w ⟨written, given, hwritten, rfl, hfields⟩
    obtain rfl := Json.obj.inj hwritten
    refine Record.decodeFields_of_parts hparts hcopies hnames (fun p hp => ?_) (fun p hp => ?_)
      hfields
    · exact List.mem_map_of_mem (f := Prod.fst) (List.mem_map_of_mem (f := Part.field) hp)
    · exact List.mem_map_of_mem (f := fun f : Key × Json => (f.1.name, f.2))
        (List.mem_map_of_mem (f := Part.field) hp)

/-! ## Values without keys -/

section Values

variable (hg : Json.Rearranges g)

include hg

theorem readsBack_text (s : String) : ReadsBack g .same text (.str s) s where
  self := hg.str s
  read h := h ▸ rfl

theorem readsBack_boolean (b : Bool) : ReadsBack g .same boolean (.bool b) b where
  self := hg.bool b
  read h := h ▸ rfl

theorem readsBack_int64 (n : Int64) : ReadsBack g .same int64 (.int n.toInt) n where
  self := hg.int _
  read h := by
    subst h
    rw [int64, integer, if_pos ⟨n.minValue_le_toInt, n.toInt_le⟩]
    exact congrArg Except.ok (Int64.ofInt_toInt n)

theorem readsBack_word32 (n : UInt32) : ReadsBack g .same word32 (.int n.toNat) n where
  self := hg.int _
  read h := by
    subst h
    have hsize := n.toNat_lt_size
    rw [word32, integer, if_pos ⟨by omega, by omega⟩]
    exact congrArg Except.ok UInt32.ofNat_toNat

/-- A float that is finite is written as itself. -/
theorem readsBack_float {x : Float} (hx : x.isFinite) : ReadsBack g .same float (.ofFloat x) x := by
  rw [Json.ofFloat, if_pos hx]
  exact ⟨hg.float x, fun h => h ▸ rfl⟩

theorem readsBack_choice {name : α → String} (hname : Function.Injective name) {all : List α}
    {a : α} (ha : a ∈ all) :
    ReadsBack g .same (choice (all.map fun a => (name a, a))) (.str (name a)) a where
  self := hg.str _
  read h := by
    subst h
    exact (choice_str_eq_ok_iff hname).2 ⟨ha, rfl⟩

/-- What is read from null is not written as it. -/
theorem ReadsBack.ne_null {L : Latitude} {read : Decoder α} {v : Json} {a : α}
    (h : ReadsBack g L read v a) (hnull : ∀ a, read .null ≠ .ok a) : v ≠ .null := by
  rintro rfl
  have hself := h.self
  rw [hg.null] at hself
  exact hnull a (h.read hself)

/-- Nothing is written as null, and anything else as what it is. -/
theorem readsBack_orNull {L : Latitude} {read : Decoder α} {write : α → Json} {o : Option α}
    (hnull : ∀ a, read .null ≠ .ok a) (h : ∀ a, o = some a → ReadsBack g L read (write a) a) :
    ReadsBack g (.orNull L) (nullable read) (.ofOption write o) o := by
  cases o with
  | none =>
    refine ⟨.inl ⟨rfl, hg.null⟩, fun hw => ?_⟩
    rcases hw with ⟨-, rfl⟩ | ⟨hne, -⟩
    · rfl
    · exact absurd rfl hne
  | some a =>
    have ha := h a rfl
    have hwrite := ha.ne_null hg hnull
    refine ⟨.inr ⟨hwrite, ha.self⟩, fun {w} hw => ?_⟩
    rcases hw with ⟨hv, -⟩ | ⟨-, hw⟩
    · exact absurd hv hwrite
    · have hread := ha.read hw
      cases w with
      | null => exact absurd hread (hnull a)
      | bool | int | float | str | arr | obj | void => exact congrArg (Except.map some) hread

/-- A member that may be missing can be left out if it is. -/
theorem Restores.optional {name : String} {read : Decoder β} {put : Option β → α → α} {blank : α}
    {L : Latitude} {write : β → Json} {o : Option β} (hnull : ∀ b, read .null ≠ .ok b)
    (h : ∀ b, o = some b → ReadsBack g L read (write b) b) (hblank : put none blank = blank) :
    Restores g blank (Decode.defaulted name (nullable read) put)
      ⟨.optional name L, .ofOption write o, put o⟩ := by
  refine .defaulted (readsBack_orNull hg hnull h) fun hv => ?_
  cases o with
  | none => exact hblank
  | some b => exact absurd hv.symm ((h b rfl).ne_null hg hnull)

theorem readsBack_anything {v : Json} (hv : v.IsCanonical) : ReadsBack g .alike anything v v where
  self := by
    rw [hg.canonical v hv.canonical]
    exact ⟨hv.whole, hv.canonical⟩
  read h := by
    rw [anything, if_pos h.1, h.2]

/-- A member that is a text or missing can be left out if it is missing. -/
theorem Restores.optionalText {name : String} {put : Option String → α → α} {blank : α}
    (o : Option String) (hblank : put none blank = blank) :
    Restores g blank (Decode.defaulted name (nullable text) put)
      ⟨.optional name .same, .ofOption .str o, put o⟩ :=
  .optional hg nofun (fun s _ => readsBack_text hg s) hblank

/-- A list is read item by item. -/
theorem readsBack_items {L : Latitude} {read : Decoder α} {write : α → Json} {l : List α}
    (h : ∀ a ∈ l, ReadsBack g L read (write a) a) :
    ReadsBack g (.items L) (list read) (.ofList write l) l := by
  constructor
  · refine ⟨_, _, rfl, hg.arr _, ?_⟩
    rw [List.forall₂_map_right_iff, List.forall₂_same, List.forall_mem_map]
    exact fun a ha => (h a ha).self
  · rintro w ⟨vs, ws, hvs, rfl, hws⟩
    obtain rfl := Json.arr.inj hvs
    rw [list, mapM_eq_ok_iff]
    clear hvs
    induction l generalizing ws with
    | nil =>
      cases hws
      exact .nil
    | cons a l ih =>
      obtain ⟨ha, hl⟩ := List.forall_mem_cons.1 h
      obtain ⟨w, rest, hw, hrest, rfl⟩ := List.forall₂_cons_left_iff.1 hws
      exact .cons (ha.read hw) (ih hl rest hrest)

/-- A member that is a list can be left out if it is empty. -/
theorem Restores.listed {name : String} {read : Decoder β} {put : List β → α → α} {blank : α}
    {L : Latitude} {write : β → Json} {l : List β} (h : ∀ b ∈ l, ReadsBack g L read (write b) b)
    (hblank : put [] blank = blank) :
    Restores g blank (Decode.defaulted name (list read) put)
      ⟨.defaulted name (.items L) (.arr []), .ofList write l, put l⟩ := by
  refine .defaulted (readsBack_items hg h) fun hl => ?_
  rw [List.map_eq_nil_iff.1 (Json.arr.inj hl).symm, hblank]

end Values

end Decode

end HandStudy
