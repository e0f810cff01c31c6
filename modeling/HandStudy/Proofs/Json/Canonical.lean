import HandStudy.Json.Basic
import Mathlib.Data.List.Nodup
import Mathlib.Data.String.Basic

/-!
# Canonical forms

The canonical form of a canonical form is itself (`Json.canonical_canonical`), as the keys of its
objects are in order already.

The canonical form of an object without repeated keys has the same keys, with the canonical forms
of their values (`Json.perm_canonicalFields`). So values that are brought into canonical form are
rearranged only, as they are by doing nothing (`Json.Rearranges`).
-/

namespace HandStudy

namespace Json

/-- A field with a new key is one more. -/
theorem perm_insertField {key : String} {v : Json} {fields : List (String × Json)}
    (h : key ∉ fields.map Prod.fst) : (insertField key v fields).Perm ((key, v) :: fields) := by
  induction fields with
  | nil => exact .refl _
  | cons f fields ih =>
    obtain ⟨hne, hrest⟩ := not_or.1 (mt List.mem_cons.2 h)
    rw [insertField]
    split
    · exact .refl _
    · exact ((ih hrest).cons f).trans (.swap _ _ _)

/-- If no key is repeated, the canonical form of an object has the same keys, with the canonical
    forms of their values. -/
theorem perm_canonicalFields {fields : List (String × Json)} (h : (fields.map Prod.fst).Nodup) :
    (canonicalFields fields).Perm (fields.map fun f => (f.1, f.2.canonical)) := by
  induction fields with
  | nil => exact .refl _
  | cons f fields ih =>
    obtain ⟨hf, hfields⟩ := List.nodup_cons.1 h
    have hkeys : ((canonicalFields fields).map Prod.fst).Perm (fields.map Prod.fst) := by
      simpa [Function.comp_def] using (ih hfields).map Prod.fst
    rw [canonicalFields]
    exact (perm_insertField (mt hkeys.mem_iff.1 hf)).trans ((ih hfields).cons _)

theorem canonicalItems_eq_map (items : List Json) : canonicalItems items = items.map canonical := by
  induction items with
  | nil => rfl
  | cons v items ih => rw [canonicalItems, ih, List.map_cons]

theorem fieldsWhole_insertField {key : String} {v : Json} {fields : List (String × Json)}
    (hv : v.isWhole) (hfields : fieldsWhole fields) : fieldsWhole (insertField key v fields) := by
  induction fields with
  | nil => rw [insertField, fieldsWhole, hv, hfields, Bool.and_self]
  | cons f fields ih =>
    obtain ⟨hf, hrest⟩ := Bool.and_eq_true_iff.1 hfields
    rw [insertField]
    split
    · rw [fieldsWhole, hv, hfields, Bool.and_self]
    split
    · exact hfields
    · rw [fieldsWhole, hf, ih hrest, Bool.and_self]

mutual

/-- The canonical form has a value if all of the value has. -/
theorem isWhole_canonical : ∀ {v : Json}, v.isWhole → v.canonical.isWhole
  | .null, h | .bool _, h | .int _, h | .float _, h | .str _, h => h
  | .arr _, h => itemsWhole_canonicalItems h
  | .obj _, h => fieldsWhole_canonicalFields h
  | .void, h => h

theorem itemsWhole_canonicalItems : ∀ {items : List Json}, itemsWhole items →
    itemsWhole (canonicalItems items)
  | [], h => h
  | v :: items, h => by
    obtain ⟨hv, hitems⟩ := Bool.and_eq_true_iff.1 h
    rw [canonicalItems, itemsWhole, isWhole_canonical hv, itemsWhole_canonicalItems hitems,
      Bool.and_self]

theorem fieldsWhole_canonicalFields : ∀ {fields : List (String × Json)}, fieldsWhole fields →
    fieldsWhole (canonicalFields fields)
  | [], h => h
  | (_, v) :: fields, h => by
    obtain ⟨hv, hfields⟩ := Bool.and_eq_true_iff.1 h
    rw [canonicalFields]
    exact fieldsWhole_insertField (isWhole_canonical hv) (fieldsWhole_canonicalFields hfields)

end

/-- All of the value has a value, and its objects have their keys in increasing order, each once. -/
structure IsCanonical (v : Json) : Prop where
  whole : v.isWhole
  canonical : v.canonical = v

theorem eq_or_mem_of_mem_insertField {key : String} {v : Json} {fields : List (String × Json)}
    {f : String × Json} (h : f ∈ insertField key v fields) : f = (key, v) ∨ f ∈ fields := by
  induction fields with
  | nil => exact .inl (List.mem_singleton.1 h)
  | cons e fields ih =>
    rw [insertField] at h
    split at h
    · exact List.mem_cons.1 h
    split at h
    · exact .inr h
    · rcases List.mem_cons.1 h with rfl | h
      · exact .inr List.mem_cons_self
      · exact (ih h).imp_right (List.mem_cons_of_mem _)

/-- The keys are in increasing order, each once. -/
def Increasing (fields : List (String × Json)) : Prop :=
  fields.Pairwise fun e f => e.1 < f.1

theorem increasing_insertField {key : String} {v : Json} {fields : List (String × Json)}
    (h : Increasing fields) : Increasing (insertField key v fields) := by
  induction fields with
  | nil => exact List.pairwise_singleton _ _
  | cons e fields ih =>
    obtain ⟨he, hrest⟩ := List.pairwise_cons.1 h
    rw [insertField]
    split
    · rename_i hlt
      refine List.pairwise_cons.2 ⟨fun f hf => ?_, h⟩
      rcases List.mem_cons.1 hf with rfl | hf
      · exact hlt
      · exact lt_trans hlt (he f hf)
    · rename_i hlt
      split
      · exact h
      · rename_i hne
        refine List.pairwise_cons.2 ⟨fun f hf => ?_, ih hrest⟩
        rcases eq_or_mem_of_mem_insertField hf with rfl | hf
        · exact lt_of_le_of_ne (not_lt.1 hlt) (Ne.symm hne)
        · exact he f hf

theorem increasing_canonicalFields (fields : List (String × Json)) :
    Increasing (canonicalFields fields) := by
  induction fields with
  | nil => exact .nil
  | cons f fields ih => exact increasing_insertField ih

/-- An object whose keys are in order already, and whose values are canonical, is left. -/
theorem canonicalFields_eq_self {fields : List (String × Json)} (h : Increasing fields)
    (hvalues : ∀ f ∈ fields, f.2.canonical = f.2) : canonicalFields fields = fields := by
  induction fields with
  | nil => rfl
  | cons f fields ih =>
    obtain ⟨hf, hrest⟩ := List.pairwise_cons.1 h
    obtain ⟨hv, hvalues⟩ := List.forall_mem_cons.1 hvalues
    rw [canonicalFields, ih hrest hvalues, hv]
    cases fields with
    | nil => rfl
    | cons e fields => rw [insertField, if_pos (hf e List.mem_cons_self)]

mutual

/-- A canonical form is canonical. -/
theorem canonical_canonical : ∀ v : Json, v.canonical.canonical = v.canonical
  | .null | .bool _ | .int _ | .float _ | .str _ | .void => rfl
  | .arr items => congrArg Json.arr (canonicalItems_canonicalItems items)
  | .obj fields => congrArg Json.obj
    (canonicalFields_eq_self (increasing_canonicalFields fields) (canonical_of_mem fields))

theorem canonicalItems_canonicalItems : ∀ items : List Json,
    canonicalItems (canonicalItems items) = canonicalItems items
  | [] => rfl
  | v :: items => by
    rw [canonicalItems, canonicalItems, canonical_canonical v, canonicalItems_canonicalItems items]

theorem canonical_of_mem : ∀ fields : List (String × Json),
    ∀ f ∈ canonicalFields fields, f.2.canonical = f.2
  | [], _, hf => nomatch hf
  | (_, v) :: fields, f, hf => by
    rcases eq_or_mem_of_mem_insertField hf with rfl | hf
    · exact canonical_canonical v
    · exact canonical_of_mem fields f hf

end

/-- The canonical form of a value that is whole is canonical. -/
theorem IsCanonical.of_isWhole {v : Json} (h : v.isWhole) : v.canonical.IsCanonical :=
  ⟨isWhole_canonical h, canonical_canonical v⟩

/-- The function keeps values, but may put the keys of objects into another order. -/
structure Rearranges (g : Json → Json) : Prop where
  null : g .null = .null
  bool : ∀ b, g (.bool b) = .bool b
  int : ∀ n, g (.int n) = .int n
  float : ∀ x, g (.float x) = .float x
  str : ∀ s, g (.str s) = .str s
  arr : ∀ items, g (.arr items) = .arr (items.map g)
  obj : ∀ written, (written.map Prod.fst).Nodup → ∃ given, g (.obj written) = .obj given ∧
    (given.map Prod.fst).Nodup ∧ ∀ f, f ∈ given ↔ ∃ v, (f.1, v) ∈ written ∧ f.2 = g v
  isWhole : ∀ v, v.isWhole → (g v).isWhole
  canonical : ∀ v, v.canonical = v → g v = v

theorem rearranges_id : Rearranges id where
  null := rfl
  bool _ := rfl
  int _ := rfl
  float _ := rfl
  str _ := rfl
  arr items := congrArg Json.arr (List.map_id items).symm
  obj written h := ⟨written, rfl, h, fun f => by simp⟩
  isWhole _ h := h
  canonical _ _ := rfl

theorem rearranges_canonical : Rearranges canonical where
  null := rfl
  bool _ := rfl
  int _ := rfl
  float _ := rfl
  str _ := rfl
  arr items := congrArg Json.arr (canonicalItems_eq_map items)
  obj written h := by
    have hperm := perm_canonicalFields h
    refine ⟨canonicalFields written, rfl, ?_, fun f => ?_⟩
    · rw [(hperm.map Prod.fst).nodup_iff, List.map_map]
      exact h
    · rw [hperm.mem_iff, List.mem_map]
      constructor
      · rintro ⟨e, he, rfl⟩
        exact ⟨e.2, he, rfl⟩
      · rintro ⟨v, hv, hf⟩
        exact ⟨(f.1, v), hv, Prod.ext rfl hf.symm⟩
  isWhole _ h := isWhole_canonical h
  canonical _ h := h

end Json

end HandStudy
