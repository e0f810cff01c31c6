import HandStudy.Keyed
import HandStudy.Proofs.Ordered

/-!
# Laws of keyed lists

Writing rows one after the other lays them over the table (`LaidOver`): the table stays
in order, under a key stands the last row that was written, and where none was written
the old one. A table in order is determined by what stands under its keys (`Sorted.ext`).
-/

namespace HandStudy.Keyed

variable {α β κ : Type} [DecidableEq κ] {key : α → κ}

/-! ## Rows by key -/

/-- The last row with the given key. -/
def last? (key : α → κ) (l : List α) (k : κ) : Option α :=
  get? key l.reverse k

theorem mem_of_get?_eq_some {l : List α} {k : κ} {a : α} (h : get? key l k = some a) :
    a ∈ l ∧ key a = k :=
  ⟨List.mem_of_find?_eq_some h, by simpa using List.find?_some h⟩

theorem has_iff {l : List α} {k : κ} : has key l k ↔ ∃ a ∈ l, key a = k := by
  simp [has]

/-- A key that occurs is found. -/
theorem exists_get?_eq_some {l : List α} {k : κ} (h : ∃ a ∈ l, key a = k) :
    ∃ a, get? key l k = some a := by
  obtain ⟨a, ha, hk⟩ := h
  refine Option.isSome_iff_exists.1 (List.find?_isSome.2 ⟨a, ha, ?_⟩)
  rw [hk, decide_eq_true_eq]

/-- Looking up keys that occur leaves none of them out. -/
theorem map_filterMap_get? {β : Type} {f : β → κ} {l : List α} {m : List β}
    (h : ∀ b ∈ m, ∃ a ∈ l, key a = f b) :
    (m.filterMap fun b => get? key l (f b)).map key = m.map f := by
  induction m with
  | nil => rfl
  | cons b m ih =>
    obtain ⟨hb, hm⟩ := List.forall_mem_cons.1 h
    obtain ⟨a, ha⟩ := exists_get?_eq_some hb
    rw [List.filterMap_cons, ha, List.map_cons, List.map_cons, (mem_of_get?_eq_some ha).2, ih hm]

/-- Where no key repeats, a row is found under its key. -/
theorem get?_eq_some_iff_of_nodup {l : List α} (hl : (l.map key).Nodup) {k : κ} {a : α} :
    get? key l k = some a ↔ a ∈ l ∧ key a = k := by
  refine ⟨fun h => mem_of_get?_eq_some h, ?_⟩
  rintro ⟨ha, rfl⟩
  obtain ⟨b, hb⟩ : ∃ b, get? key l (key a) = some b := exists_get?_eq_some ⟨a, ha, rfl⟩
  obtain ⟨hmem, hkey⟩ := mem_of_get?_eq_some hb
  rw [hb, List.inj_on_of_nodup_map hl hmem ha hkey]

/-- Where no key repeats, the order of the rows does not matter. -/
theorem get?_congr_of_perm {l m : List α} (h : l.Perm m) (hm : (m.map key).Nodup) (k : κ) :
    get? key l k = get? key m k := by
  have hl : (l.map key).Nodup := (h.map key).nodup_iff.2 hm
  refine Option.ext fun a => ?_
  rw [get?_eq_some_iff_of_nodup hl, get?_eq_some_iff_of_nodup hm, h.mem_iff]

theorem get?_map {key' : β → κ} {f : α → β} (hf : ∀ a, key' (f a) = key a) (l : List α) (k : κ) :
    get? key' (l.map f) k = (get? key l k).map f := by
  rw [get?, get?, List.find?_map]
  simp only [Function.comp_def, hf]

theorem last?_cons {a : α} {l : List α} {k : κ} :
    last? key (a :: l) k = (last? key l k).or (if key a = k then some a else none) := by
  rw [last?, get?, List.reverse_cons, List.find?_append]
  by_cases ha : key a = k <;> simp [last?, get?, ha]

theorem last?_eq_none_iff {l : List α} {k : κ} : last? key l k = none ↔ ∀ a ∈ l, key a ≠ k := by
  simp [last?, get?]

/-! ## Tables in order -/

variable [LT κ]

/-- The rows are in increasing order of their keys, so that there is one for each. -/
def Sorted (key : α → κ) (l : List α) : Prop :=
  l.Pairwise fun a b => key a < key b

/-- Rows laid over a table. -/
structure LaidOver (key : α → κ) (old new merged : List α) : Prop where
  sorted : Sorted key merged
  /-- Under a key stands the last new row, or else the old one. -/
  row : ∀ k, get? key merged k = (last? key new k).or (get? key old k)
  /-- A row whose key is not among the new ones is still there. -/
  unchanged : ∀ a ∈ old, (∀ b ∈ new, key b ≠ key a) → a ∈ merged
  /-- No row is taken away. -/
  kept : ∀ a ∈ old, ∃ b ∈ merged, key b = key a

omit [DecidableEq κ] in
theorem Sorted.map {key' : β → κ} {f : α → β} (hf : ∀ a, key' (f a) = key a) {l : List α}
    (hl : Sorted key l) : Sorted key' (l.map f) := by
  rw [Sorted, List.pairwise_map]
  simp only [hf]
  exact hl

/-- Rows may be changed on both sides, if their keys are not. -/
theorem LaidOver.map {key' : β → κ} {f : α → β} (hf : ∀ a, key' (f a) = key a)
    {old new merged : List α} (h : LaidOver key old new merged) :
    LaidOver key' (old.map f) (new.map f) (merged.map f) where
  sorted := h.sorted.map hf
  row k := by
    rw [get?_map hf, get?_map hf, last?, ← List.map_reverse, get?_map hf, h.row, ← last?]
    cases last? key new k <;> rfl
  unchanged := by
    simp only [List.forall_mem_map, hf]
    exact fun a ha hnew => List.mem_map_of_mem (h.unchanged a ha hnew)
  kept := by
    simp only [List.forall_mem_map, hf]
    intro a ha
    obtain ⟨b, hb, hab⟩ := h.kept a ha
    exact ⟨f b, List.mem_map_of_mem hb, (hf b).trans hab⟩

section StrictTotalOrder

variable [IsStrictTotalOrder κ (· < ·)]

/-- In a table in order a row is what stands under its key. -/
theorem Sorted.get?_eq_some_iff {l : List α} (hl : Sorted key l) {a : α} :
    get? key l (key a) = some a ↔ a ∈ l := by
  refine ⟨fun h => (mem_of_get?_eq_some h).1, fun ha => ?_⟩
  induction l with
  | nil => cases ha
  | cons b l ih =>
    have hb := List.pairwise_cons.1 hl
    rcases List.mem_cons.1 ha with rfl | ha
    · simp [get?]
    · have hne : key b ≠ key a := fun e => irrefl_of (· < ·) (key a) (e ▸ hb.1 a ha)
      rw [get?, List.find?_cons, decide_eq_false hne]
      exact ih hb.2 ha

/-- There is one row for each key. -/
theorem Sorted.eq_of_key_eq {l : List α} (hl : Sorted key l) {a b : α} (ha : a ∈ l) (hb : b ∈ l)
    (hab : key a = key b) : a = b := by
  rw [← hl.get?_eq_some_iff] at ha hb
  rw [hab] at ha
  exact Option.some.inj (ha.symm.trans hb)

omit [DecidableEq κ] in
/-- Of two rows the one with the smaller key comes first. -/
theorem Sorted.pair_sublist {l : List α} (hl : Sorted key l) {a b : α} (ha : a ∈ l) (hb : b ∈ l)
    (hab : key a < key b) : [a, b].Sublist l := by
  induction l with
  | nil => cases ha
  | cons c l ih =>
    have hc := List.pairwise_cons.1 hl
    rcases List.mem_cons.1 hb with rfl | hbl
    · rcases List.mem_cons.1 ha with rfl | hal
      · exact absurd hab (irrefl_of (· < ·) _)
      · exact absurd (trans_of (· < ·) hab (hc.1 a hal)) (irrefl_of (· < ·) _)
    · rcases List.mem_cons.1 ha with rfl | hal
      · exact (List.singleton_sublist.2 hbl).cons_cons a
      · exact (ih hc.2 hal hbl).cons c

/-- A table in order is determined by what stands under the keys. -/
theorem Sorted.ext {l m : List α} (hl : Sorted key l) (hm : Sorted key m)
    (h : ∀ k, get? key l k = get? key m k) : l = m := by
  have hmem (a : α) : a ∈ l ↔ a ∈ m := by
    rw [← hl.get?_eq_some_iff, h, hm.get?_eq_some_iff]
  have hantisymm : Std.Antisymm fun a b : α => key a < key b :=
    ⟨fun a b hab hba => absurd (trans_of (· < ·) hab hba) (irrefl_of (· < ·) _)⟩
  have hirrefl : Std.Irrefl fun a b : α => key a < key b := ⟨fun _ => irrefl_of (· < ·) _⟩
  exact hl.eq_of_mem_iff hm hmem

/-- Rows laid over nothing, no two of them under one key, are all there. -/
theorem LaidOver.perm_of_nodup {new merged : List α} (h : LaidOver key [] new merged)
    (hnew : (new.map key).Nodup) : merged.Perm new := by
  have hreverse : (new.reverse.map key).Nodup := by
    rw [List.map_reverse]
    exact List.nodup_reverse.2 hnew
  have hmerged : merged.Nodup := by
    refine List.Pairwise.imp (fun {a b} hab e => ?_) h.sorted
    exact irrefl_of (· < ·) (key a) (e ▸ hab)
  refine (List.perm_ext_iff_of_nodup hmerged hnew.of_map).2 fun a => ?_
  have hrow : get? key merged (key a) = get? key new.reverse (key a) := by
    rw [h.row, last?]
    exact Option.or_none
  rw [← h.sorted.get?_eq_some_iff, hrow, get?_eq_some_iff_of_nodup hreverse, List.mem_reverse]
  exact and_iff_left rfl

end StrictTotalOrder

/-! ## Writing -/

variable [DecidableLT κ]

/-- The rows with others written to them one after the other. -/
def putAll (key : α → κ) (new old : List α) : List α :=
  new.foldl (fun l a => put key a l) old

theorem get?_put {a : α} {l : List α} {k : κ} :
    get? key (put key a l) k = if key a = k then some a else get? key l k := by
  induction l with
  | nil => by_cases ha : key a = k <;> simp [put, get?, ha]
  | cons b l ih =>
    rw [get?] at ih ⊢
    rw [put]
    -- The row that is asked for is the one that is written, or another.
    by_cases ha : key a = k
    · split
      · simp [ha]
      · split
        · simp [ha]
        · rename_i hne
          have hb : key b ≠ k := fun e => hne (ha.trans e.symm)
          simp [hb, ih, ha]
    · split
      · simp [get?, ha]
      · split
        · rename_i hab
          have hb : key b ≠ k := fun e => ha (hab.trans e)
          simp [get?, ha, hb]
        · by_cases hb : key b = k
          · simp [get?, hb]
          · simp [get?, ih, ha, hb]

theorem get?_putAll {new old : List α} {k : κ} :
    get? key (putAll key new old) k = (last? key new k).or (get? key old k) := by
  induction new generalizing old with
  | nil => rfl
  | cons a new ih =>
    rw [show putAll key (a :: new) old = putAll key new (put key a old) from rfl, ih, get?_put,
      last?_cons, Option.or_assoc]
    by_cases ha : key a = k <;> simp [ha]

variable [IsStrictTotalOrder κ (· < ·)]

theorem Sorted.put {l : List α} (hl : Sorted key l) (a : α) : Sorted key (put key a l) := by
  induction l with
  | nil => exact List.pairwise_singleton ..
  | cons b l ih =>
    have hb := List.pairwise_cons.1 hl
    rw [Keyed.put]
    split
    · rename_i hab
      refine List.pairwise_cons.2 ⟨fun c hc => ?_, hl⟩
      rcases List.mem_cons.1 hc with rfl | hc
      · exact hab
      · exact trans_of (· < ·) hab (hb.1 c hc)
    · split
      · rename_i hab
        exact List.pairwise_cons.2 ⟨fun c hc => hab ▸ hb.1 c hc, hb.2⟩
      · rename_i hab hne
        have hba : key b < key a := (trichotomous_of (· < ·) (key b) (key a)).resolve_right fun e =>
          e.elim (fun e => hne e.symm) hab
        refine List.pairwise_cons.2 ⟨fun c hc => ?_, ih hb.2⟩
        by_cases hca : key c = key a
        · exact hca ▸ hba
        · exact hb.1 c ((mem_put_of_ne hca).1 hc)

/-- After a write the rows are the one written and those with other keys. -/
theorem Sorted.mem_put {l : List α} (hl : Sorted key l) {a b : α} :
    b ∈ Keyed.put key a l ↔ b = a ∨ key b ≠ key a ∧ b ∈ l := by
  by_cases hb : key b = key a
  · constructor
    · exact fun hmem => .inl ((hl.put a).eq_of_key_eq hmem mem_put_self hb)
    · rintro (rfl | ⟨hne, -⟩)
      · exact mem_put_self
      · exact absurd hb hne
  · have hba : b ≠ a := fun e => hb (e ▸ rfl)
    rw [mem_put_of_ne hb]
    simp [hb, hba]

theorem Sorted.putAll {old : List α} (hold : Sorted key old) (new : List α) :
    Sorted key (putAll key new old) := by
  induction new generalizing old with
  | nil => exact hold
  | cons a new ih => exact ih (hold.put a)

/-- Rows that have been written are written again without effect. -/
theorem Sorted.putAll_putAll {old : List α} (hold : Sorted key old) (new : List α) :
    Keyed.putAll key new (Keyed.putAll key new old) = Keyed.putAll key new old := by
  refine ((hold.putAll new).putAll new).ext (hold.putAll new) fun k => ?_
  rw [get?_putAll, get?_putAll, ← Option.or_assoc, Option.or_self]

/-- Where the rows are keys, those that are written and those that were there come to be
    there. -/
theorem mem_putAll_self {old new : List κ} (hold : Sorted (fun k => k) old) {k : κ} :
    k ∈ putAll (fun k => k) new old ↔ k ∈ new ∨ k ∈ old := by
  -- Under a key there is nothing but the key itself.
  have hself (l : List κ) : last? (fun k => k) l k = if k ∈ l then some k else none := by
    induction l with
    | nil => rfl
    | cons a l ih =>
      rw [last?_cons, ih]
      rcases eq_or_ne a k with rfl | ha
      · by_cases hk : a ∈ l <;> simp [hk]
      · simp [ha, ha.symm]
  have hold' : get? (fun k => k) old k = some k ↔ k ∈ old := hold.get?_eq_some_iff
  have hnew : get? (fun k => k) (Keyed.putAll (fun k => k) new old) k = some k ↔
      k ∈ Keyed.putAll (fun k => k) new old := (hold.putAll new).get?_eq_some_iff
  rw [← hnew, get?_putAll, hself, ← hold']
  by_cases hk : k ∈ new <;> simp [hk]

/-- Rows that are written one after the other come to lie over the table. -/
theorem laidOver_putAll {old : List α} (hold : Sorted key old) (new : List α) :
    LaidOver key old new (putAll key new old) where
  sorted := hold.putAll new
  row _ := get?_putAll
  unchanged a ha hnew := by
    rw [← (hold.putAll new).get?_eq_some_iff, get?_putAll, last?_eq_none_iff.2 hnew]
    exact hold.get?_eq_some_iff.2 ha
  kept a ha := by
    have hrow : (get? key (Keyed.putAll key new old) (key a)).isSome := by
      rw [get?_putAll, hold.get?_eq_some_iff.2 ha]
      simp
    obtain ⟨b, hb⟩ := Option.isSome_iff_exists.1 hrow
    exact ⟨b, mem_of_get?_eq_some hb⟩

end HandStudy.Keyed
