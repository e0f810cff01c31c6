import HandStudy.Document
import HandStudy.Ordered
import Mathlib.Data.List.Dedup
import Mathlib.Data.List.Sort
import Mathlib.Data.String.Basic

/-!
# Laws of ordered lists

Over a strict total order the list of a set is strictly increasing
(`pairwise_ofList`), so that two sets with the same members are the same list
(`eq_of_pairwise`).
Grouping loses nothing: under a key stand all members with that key, in their order
(`lookup_groupBy`). A stable sort by a mark puts what is not marked in front of what is, and leaves
both in their order (`mergeSort_mark`).
-/

namespace HandStudy

instance int64_isStrictTotalOrder : IsStrictTotalOrder Int64 (· < ·) where
  irrefl _ := Int64.lt_irrefl
  trans _ _ _ := Int64.lt_trans

/-- Ordered by one thing and then by another, with nothing left over, is ordered. -/
theorem isStrictTotalOrder_lex {α β γ : Type} {r : β → β → Prop} {s : γ → γ → Prop}
    [IsStrictTotalOrder β r] [IsStrictTotalOrder γ s] {f : α → β} {g : α → γ}
    (hfg : ∀ a b, f a = f b → g a = g b → a = b) :
    IsStrictTotalOrder α fun a b => r (f a) (f b) ∨ f a = f b ∧ s (g a) (g b) where
  irrefl a h := h.elim (irrefl_of r _) fun h => irrefl_of s _ h.2
  trans a b c := by
    rintro (hab | ⟨hab, hab'⟩) (hbc | ⟨hbc, hbc'⟩)
    · exact .inl (trans_of r hab hbc)
    · exact .inl (hbc ▸ hab)
    · exact .inl (hab ▸ hbc)
    · exact .inr ⟨hab.trans hbc, trans_of s hab' hbc'⟩
  trichotomous a b hab hba := by
    have hf : f a = f b := by
      rcases trichotomous_of r (f a) (f b) with h | h | h
      · exact absurd (.inl h) hab
      · exact h
      · exact absurd (.inl h) hba
    have hg : g a = g b := by
      rcases trichotomous_of s (g a) (g b) with h | h | h
      · exact absurd (.inr ⟨hf, h⟩) hab
      · exact h
      · exact absurd (.inr ⟨hf.symm, h⟩) hba
    exact hfg a b hf hg

instance document_isStrictTotalOrder : IsStrictTotalOrder Document (· < ·) := by
  let before (p q : String × String) : Prop := p.1 < q.1 ∨ p.1 = q.1 ∧ p.2 < q.2
  have htexts : IsStrictTotalOrder (String × String) before :=
    isStrictTotalOrder_lex fun _ _ => Prod.ext
  have hparts (d e : Document) (hid : d.id = e.id)
      (htexts : (d.title, d.path) = (e.title, e.path)) : d = e := by
    obtain ⟨id, title, path⟩ := d
    obtain rfl : id = e.id := hid
    obtain ⟨rfl, rfl⟩ := Prod.mk.inj htexts
    rfl
  exact isStrictTotalOrder_lex (s := before) hparts

namespace Ordered

variable {α : Type} [LT α] [DecidableLT α] [DecidableEq α]

section StrictTotalOrder

variable [IsStrictTotalOrder α (· < ·)]

/-- Adding a member keeps the order. -/
theorem pairwise_insert {a : α} {l : List α} (h : l.Pairwise (· < ·)) :
    (insert a l).Pairwise (· < ·) := by
  induction l with
  | nil => simp [insert]
  | cons b l ih =>
    have hb := List.pairwise_cons.1 h
    unfold insert
    split
    · rename_i hab
      refine List.pairwise_cons.2 ⟨fun c hc => ?_, h⟩
      rcases List.mem_cons.1 hc with rfl | hc
      · exact hab
      · exact trans_of (· < ·) hab (hb.1 c hc)
    · split
      · exact h
      · rename_i hab hne
        have hba : b < a := (trichotomous_of (· < ·) b a).resolve_right fun e =>
          e.elim (fun e => hne e.symm) hab
        refine List.pairwise_cons.2 ⟨fun c hc => ?_, ih hb.2⟩
        rcases mem_insert.1 hc with rfl | hc
        · exact hba
        · exact hb.1 c hc

/-- Two sets together are in order if the second is. -/
theorem pairwise_union {l m : List α} (h : m.Pairwise (· < ·)) :
    (union l m).Pairwise (· < ·) := by
  induction l with
  | nil => exact h
  | cons a l ih => exact pairwise_insert ih

/-- A set is in order. -/
theorem pairwise_ofList (l : List α) : (ofList l).Pairwise (· < ·) :=
  pairwise_union List.Pairwise.nil

theorem nodup_ofList (l : List α) : (ofList l).Nodup :=
  (pairwise_ofList l).imp ne_of_irrefl

/-- A set has each member of the list it is made of once. -/
theorem perm_dedup_ofList (l : List α) : (ofList l).Perm l.dedup :=
  (List.perm_ext_iff_of_nodup (nodup_ofList l) l.nodup_dedup).2 fun a => by
    rw [mem_ofList, List.mem_dedup]

theorem eq_or_lt_of_getLast?_ofList {l : List α} {a b : α} (ha : (ofList l).getLast? = some a)
    (hb : b ∈ l) : b = a ∨ b < a := by
  obtain ⟨others, hl⟩ := List.getLast?_eq_some_iff.1 ha
  have hsorted := pairwise_ofList l
  rw [hl, List.pairwise_append] at hsorted
  rw [← mem_ofList, hl, List.mem_append, List.mem_singleton] at hb
  rcases hb with hb | hb
  · exact .inr (hsorted.2.2 b hb a (List.mem_singleton_self a))
  · exact .inl hb

/-- The last member of a set is the greatest. -/
theorem getLast?_ofList_eq_some_iff {l : List α} {a : α} :
    (ofList l).getLast? = some a ↔ a ∈ l ∧ ∀ b ∈ l, ¬ a < b := by
  constructor
  · intro ha
    refine ⟨mem_ofList.1 (List.mem_of_getLast? ha), fun b hb hab => ?_⟩
    rcases eq_or_lt_of_getLast?_ofList ha hb with rfl | hba
    · exact irrefl_of (· < ·) b hab
    · exact irrefl_of (· < ·) a (trans_of (· < ·) hab hba)
  · rintro ⟨hmem, hgreatest⟩
    cases hlast : (ofList l).getLast? with
    | none =>
      have hnil := mem_ofList.2 hmem
      rw [List.getLast?_eq_none_iff.1 hlast] at hnil
      cases hnil
    | some b =>
      rcases eq_or_lt_of_getLast?_ofList hlast hmem with rfl | hab
      · rfl
      · exact absurd hab (hgreatest b (mem_ofList.1 (List.mem_of_getLast? hlast)))

/-- As many members of a list are left in its set without those that lack a property as there are
    in the list, exactly if they all are different and have it. -/
theorem length_filter_ofList_eq_iff {p : α → Bool} {l : List α} :
    ((ofList l).filter p).length = l.length ↔ (∀ a ∈ l, p a = true) ∧ l.Nodup := by
  have hset : (ofList l).length = l.dedup.length := (perm_dedup_ofList l).length_eq
  constructor
  · intro h
    have hfilter : ((ofList l).filter p).length ≤ (ofList l).length := List.length_filter_le _ _
    have hdedup : l.dedup.length ≤ l.length := (List.dedup_sublist l).length_le
    -- Neither the filter nor the set leaves anything out.
    have hall : (ofList l).filter p = ofList l := List.filter_sublist.eq_of_length (by omega)
    refine ⟨fun a ha => List.filter_eq_self.1 hall a (mem_ofList.2 ha), List.dedup_eq_self.1 ?_⟩
    exact (List.dedup_sublist l).eq_of_length (by omega)
  · rintro ⟨hall, hnodup⟩
    rw [List.filter_eq_self.2 fun a ha => hall a (mem_ofList.1 ha), hset, hnodup.dedup]

omit [DecidableLT α] [DecidableEq α] in
/-- Sets with the same members are the same list. -/
theorem eq_of_pairwise {l m : List α} (hl : l.Pairwise (· < ·)) (hm : m.Pairwise (· < ·))
    (h : ∀ a, a ∈ l ↔ a ∈ m) : l = m := by
  have hantisymm : Std.Antisymm fun a b : α => a < b :=
    ⟨fun a b hab hba => absurd (trans_of (· < ·) hab hba) (irrefl_of (· < ·) _)⟩
  exact hl.eq_of_mem_iff hm h

/-- A set is determined by its members. -/
theorem ofList_congr {l m : List α} (h : ∀ a, a ∈ l ↔ a ∈ m) : ofList l = ofList m :=
  eq_of_pairwise (pairwise_ofList l) (pairwise_ofList m) fun a => by
    rw [mem_ofList, mem_ofList, h]

/-- The set of a set is this set. -/
theorem ofList_ofList (l : List α) : ofList (ofList l) = ofList l :=
  ofList_congr fun _ => mem_ofList

/-- The set of two lists, one after the other, has the members of both sets. -/
theorem ofList_append (l m : List α) : ofList (l ++ m) = union (ofList l) (ofList m) :=
  eq_of_pairwise (pairwise_ofList _) (pairwise_union (pairwise_ofList m)) fun a => by
    rw [mem_ofList, mem_union, mem_ofList, mem_ofList, List.mem_append]

end StrictTotalOrder

/-- Under a key stand all with this key, in their order. A key that does not occur has
    no group. -/
theorem lookup_groupBy {β : Type} (key : β → α) (l : List β) (k : α) :
    (groupBy key l).lookup k = if k ∈ l.map key then some (l.filter (key · = k)) else none := by
  -- The keys may be any, for the induction: the groups hold members of the whole list.
  have hlookup (ks : List α) :
      (ks.map fun k => (k, l.filter (key · = k))).lookup k =
        if k ∈ ks then some (l.filter (key · = k)) else none := by
    induction ks with
    | nil => simp
    | cons a ks ih =>
      by_cases hka : k = a
      · simp [hka]
      · rw [List.map_cons, List.lookup_cons, beq_false_of_ne hka, ih]
        simp [hka]
  rw [groupBy, hlookup]
  simp only [mem_ofList]

end Ordered

/-! ## Sorting by a mark -/

section MergeSort

variable {α : Type}

/-- Sorting leaves those in their order that the order does not tell apart. -/
theorem filter_mergeSort {le : α → α → Bool} (htrans : ∀ a b c, le a b → le b c → le a c)
    (htotal : ∀ a b, le a b || le b a) {p : α → Bool} (hp : ∀ a b, p a → p b → le a b)
    (l : List α) : (l.mergeSort le).filter p = l.filter p := by
  have hsorted : (l.filter p).Pairwise fun a b => le a b := by
    refine List.pairwise_of_forall_mem_list fun a ha b hb => ?_
    exact hp a b (List.mem_filter.1 ha).2 (List.mem_filter.1 hb).2
  have hsublist : (l.filter p).Sublist ((l.mergeSort le).filter p) := by
    have h := (List.sublist_mergeSort htrans htotal hsorted List.filter_sublist).filter p
    simpa only [List.filter_filter, Bool.and_self] using h
  have hperm := (List.mergeSort_perm l le).filter p
  exact (hsublist.eq_of_length hperm.length_eq.symm).symm

/-- What is sorted by a mark has the unmarked ones in front. -/
theorem eq_filter_append_of_pairwise {key : α → Bool} {l : List α}
    (h : l.Pairwise fun a b => key a ≤ key b) : l = l.filter (!key ·) ++ l.filter key := by
  induction l with
  | nil => rfl
  | cons a l ih =>
    obtain ⟨ha, hl⟩ := List.pairwise_cons.1 h
    cases hkey : key a with
    | false => simpa [hkey] using ih hl
    | true =>
      -- After a marked one there are only marked ones.
      have hall : ∀ b ∈ l, key b = true := fun b hb => ha b hb hkey
      simpa [hkey, List.filter_eq_self.2 hall] using hall

theorem mergeSort_mark (key : α → Bool) (l : List α) :
    l.mergeSort (fun a b => key a ≤ key b) = l.filter (!key ·) ++ l.filter key := by
  have htrans (a b c : α) (hab : decide (key a ≤ key b)) (hbc : decide (key b ≤ key c)) :
      decide (key a ≤ key c) :=
    decide_eq_true (Bool.le_trans (of_decide_eq_true hab) (of_decide_eq_true hbc))
  have htotal (a b : α) : decide (key a ≤ key b) || decide (key b ≤ key a) := by
    simpa using Bool.le_total (key a) (key b)
  have hsorted : (l.mergeSort fun a b => key a ≤ key b).Pairwise fun a b => key a ≤ key b := by
    simpa using List.pairwise_mergeSort htrans htotal l
  rw [eq_filter_append_of_pairwise hsorted, filter_mergeSort htrans htotal,
    filter_mergeSort htrans htotal]
  · intro a b ha hb
    rw [ha, hb]
    rfl
  · intro a b ha hb
    rw [Bool.not_eq_true'] at ha
    rw [ha]
    exact decide_eq_true (Bool.false_le _)

end MergeSort

end HandStudy
