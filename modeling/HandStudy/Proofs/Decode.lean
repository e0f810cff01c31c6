import HandStudy.Json.Decode
import Mathlib.Data.List.Forall2

/-!
# Laws of decoding

A choice among values with names of their own picks the one that is named
(`choice_str_eq_ok_iff`), and a list is decoded item by item (`mapM_eq_ok_iff`), up to the first
that fails (`mapM_eq_error_iff`).

A field that is not given leaves its part of the record as it is in the blank one
(`Record.decode_obj_keeps`): that is what a default is. What every member keeps holds of the
record that is decoded (`Record.decode_induction`).
-/

namespace HandStudy

/-- The error, if there is one. -/
def errorOf? {α ε : Type} : Except ε α → Option ε
  | .ok _ => none
  | .error e => some e

theorem errorOf?_eq_none_iff {α ε : Type} {x : Except ε α} :
    errorOf? x = none ↔ ∃ a, x = .ok a := by
  cases x <;> simp [errorOf?]

theorem errorOf?_eq_some_iff {α ε : Type} {x : Except ε α} {e : ε} :
    errorOf? x = some e ↔ x = .error e := by
  cases x <;> simp [errorOf?]

/-- One step after another has the error of the first, or else of the second. -/
theorem errorOf?_bind {α β ε : Type} {x : Except ε α} {f : α → Except ε β} {y : Option ε}
    (h : ∀ a, errorOf? (f a) = y) : errorOf? (x >>= f) = (errorOf? x).or y := by
  cases x with
  | ok a => exact h a
  | error e => rfl

/-- Several steps have the first error among theirs. -/
theorem errorOf?_mapM {α β ε : Type} (f : α → Except ε β) (l : List α) :
    errorOf? (l.mapM f) = l.findSome? fun a => errorOf? (f a) := by
  induction l with
  | nil => rfl
  | cons a l ih =>
    rw [List.mapM_cons, List.findSome?_cons, errorOf?_bind (y := errorOf? (l.mapM f)), ih]
    · cases errorOf? (f a) <;> rfl
    · intro b
      rw [errorOf?_bind (y := none) fun bs => rfl, Option.or_none]

end HandStudy

namespace HandStudy.Decode

/-- A name picks the value that has it. -/
theorem choice_str_eq_ok_iff {α : Type} {name : α → String} (hname : Function.Injective name)
    {all : List α} {s : String} {a : α} :
    choice (all.map fun a => (name a, a)) (.str s) = .ok a ↔ a ∈ all ∧ name a = s := by
  have hlookup : (all.map fun a => (name a, a)).lookup s = some a ↔ a ∈ all ∧ name a = s := by
    induction all with
    | nil => simp
    | cons b all ih =>
      rw [List.map_cons, List.lookup_cons, List.mem_cons]
      -- The first entry of a name is the only one, as names differ.
      by_cases hb : s = name b
      · have hab : name a = s → a = b := fun ha => hname (ha.trans hb)
        simp only [hb, beq_self_eq_true, Option.some.injEq]
        refine ⟨fun h => ⟨.inl h.symm, h ▸ rfl⟩, fun h => (hab (h.2.trans hb.symm)).symm⟩
      · have hne : name a = s → a ≠ b := fun ha e => hb (e ▸ ha.symm)
        rw [beq_false_of_ne hb, ih]
        exact ⟨fun h => ⟨.inr h.1, h.2⟩, fun h => ⟨h.1.resolve_left (hne h.2), h.2⟩⟩
  rw [← hlookup]
  simp only [choice]
  cases (all.map fun a => (name a, a)).lookup s <;> simp

/-- Two steps succeed if the second succeeds with what the first gives. -/
theorem bind_eq_ok_iff {α β ε : Type} {x : Except ε α} {f : α → Except ε β} {b : β} :
    x >>= f = .ok b ↔ ∃ a, x = .ok a ∧ f a = .ok b := by
  cases x <;> simp [bind, Except.bind]

/-- A list is decoded if each item is. -/
theorem mapM_eq_ok_iff {α β ε : Type} {f : α → Except ε β} {l : List α} {m : List β} :
    l.mapM f = .ok m ↔ List.Forall₂ (fun a b => f a = .ok b) l m := by
  induction l generalizing m with
  | nil => simp [pure, Except.pure, eq_comm]
  | cons a l ih =>
    rw [List.mapM_cons, List.forall₂_cons_left_iff]
    cases hb : f a with
    | error e => simp [bind, Except.bind]
    | ok b =>
      cases hl : l.mapM f with
      | error e => simp [bind, Except.bind, ← ih, hl]
      | ok bs => simp [bind, Except.bind, pure, Except.pure, ← ih, hl, eq_comm]

/-- The error of a list is that of the first item that has one. -/
theorem mapM_eq_error_iff {α β ε : Type} {f : α → Except ε β} {l : List α} {e : ε} :
    l.mapM f = .error e ↔ ∃ before a after, l = before ++ a :: after ∧
      (∀ b ∈ before, ∃ c, f b = .ok c) ∧ f a = .error e := by
  rw [← errorOf?_eq_some_iff, errorOf?_mapM, List.findSome?_eq_some_iff]
  simp only [errorOf?_eq_some_iff, errorOf?_eq_none_iff, and_comm]

/-- What a list is decoded to comes of its items. -/
theorem exists_of_mem_mapM {α β ε : Type} {f : α → Except ε β} {l : List α} {m : List β}
    (h : l.mapM f = .ok m) {b : β} (hb : b ∈ m) : ∃ a ∈ l, f a = .ok b := by
  have hall := mapM_eq_ok_iff.1 h
  clear h
  induction hall with
  | nil => cases hb
  | cons hab _ ih =>
    rcases List.mem_cons.1 hb with rfl | hb
    · exact ⟨_, List.mem_cons_self, hab⟩
    · obtain ⟨a, ha, hfa⟩ := ih hb
      exact ⟨a, List.mem_cons_of_mem _ ha, hfa⟩

/-- Reading the member from a value with a property keeps a property of the record. -/
def Member.Keeps {α : Type} (P : α → Prop) (Q : Json → Prop) (m : Member α) : Prop :=
  ∀ v a b, Q v → P a → m.put v a = .ok b → P b

/-- A member keeps what putting what it reads keeps. -/
theorem Member.keeps_of_put {α β : Type} {P : α → Prop} {Q : Json → Prop} {m : Member α}
    {read : Decoder β} {put : β → α → α} (hm : ∀ v a, m.put v a = (read v).map (put · a))
    (h : ∀ v c a, Q v → read v = .ok c → P a → P (put c a)) : m.Keeps P Q := by
  intro v a b hv ha hb
  rw [hm] at hb
  cases hc : read v with
  | error e =>
    rw [hc] at hb
    cases hb
  | ok c =>
    rw [hc] at hb
    exact Except.ok.inj hb ▸ h v c a hv hc ha

namespace Record

variable {α : Type} {r : Record α} {P : α → Prop}

theorem readFields_induction {Q : String → Json → Prop}
    (hput : ∀ m ∈ r.members, m.Keeps P (Q m.name)) {fields : List (String × Json)}
    (hfields : ∀ f ∈ fields, Q f.1 f.2) {a b : α} (ha : P a) {seen seen' : List String}
    (hb : r.readFields fields a seen = .ok (b, seen')) : P b := by
  induction fields generalizing a seen with
  | nil =>
    obtain ⟨rfl, -⟩ := Prod.mk.inj (Except.ok.inj hb)
    exact ha
  | cons f fields ih =>
    obtain ⟨key, v⟩ := f
    obtain ⟨hv, hrest⟩ := List.forall_mem_cons.1 hfields
    rw [readFields] at hb
    cases hm : r.members.find? (·.name = key) with
    | none =>
      rw [hm] at hb
      exact ih hrest ha hb
    | some m =>
      obtain rfl : m.name = key := by simpa using List.find?_some hm
      simp only [hm] at hb
      split at hb
      -- A field that is given twice is an error.
      · cases hb
      · obtain ⟨c, hc, hb⟩ := bind_eq_ok_iff.1 hb
        exact ih hrest (hput m (List.mem_of_find?_eq_some hm) v a c hv ha hc) hb

theorem readItems_induction {Q : Json → Prop} {members : List (Member α)}
    (hput : ∀ m ∈ members, m.Keeps P Q) {items : List Json} (hitems : ∀ i ∈ items, Q i)
    {place : Nat} {a b : α} (ha : P a) (hb : r.readItems members items place a = .ok b) : P b := by
  induction members generalizing items place a with
  | nil =>
    cases items with
    | nil => exact Except.ok.inj hb ▸ ha
    | cons i items => cases hb
  | cons m members ih =>
    obtain ⟨hm, hmembers⟩ := List.forall_mem_cons.1 hput
    cases items with
    | nil =>
      rw [readItems] at hb
      split at hb
      · cases hb
      · exact ih hmembers hitems ha hb
    | cons i items =>
      obtain ⟨hi, hrest⟩ := List.forall_mem_cons.1 hitems
      obtain ⟨c, hc, hb⟩ := bind_eq_ok_iff.1 hb
      exact ih hmembers hrest (hm i a c hi ha hc) hb

/-- What holds of the blank record, and what the members keep that are named by a field, holds
    of a record given as an object. -/
theorem decode_obj_induction {Q : String → Json → Prop}
    (hput : ∀ m ∈ r.members, m.Keeps P (Q m.name)) (hblank : P r.blank)
    {fields : List (String × Json)} (hfields : ∀ f ∈ fields, Q f.1 f.2) {a : α}
    (ha : r.decode (.obj fields) = .ok a) : P a := by
  obtain ⟨⟨b, seen⟩, hb, ha⟩ := bind_eq_ok_iff.1 ha
  have hkept := readFields_induction hput hfields hblank hb
  simp only at ha
  split at ha
  · cases ha
  · exact Except.ok.inj ha ▸ hkept

/-- What holds of the blank record, and what all members keep, holds of the record in either
    form. -/
theorem decode_induction {Q : Json → Prop} (hput : ∀ m ∈ r.members, m.Keeps P Q)
    (hblank : P r.blank) {v : Json} (hitems : ∀ items, v = .arr items → ∀ i ∈ items, Q i)
    (hfields : ∀ fields, v = .obj fields → ∀ f ∈ fields, Q f.2) {a : α}
    (ha : r.decode v = .ok a) : P a := by
  cases v with
  | obj fields => exact decode_obj_induction (Q := fun _ => Q) hput hblank (hfields fields rfl) ha
  | arr items => exact readItems_induction hput (hitems items rfl) hblank ha
  | null | bool | int | float | str | void => cases ha

/-- Without the named field a record given as an object has the part of the blank one
    that only this field puts. -/
theorem decode_obj_keeps {β : Type} (part : α → β) {name : String}
    (hput : ∀ m ∈ r.members, m.name ≠ name → ∀ v a b, m.put v a = .ok b → part b = part a)
    {fields : List (String × Json)} (hf : ∀ v, (name, v) ∉ fields) {b : α}
    (hb : r.decode (.obj fields) = .ok b) : part b = part r.blank := by
  refine decode_obj_induction (P := fun a => part a = part r.blank)
    (Q := fun key _ => key ≠ name) (fun m hm v a b hne ha hb => ?_) rfl (fun f hf' hname => ?_) hb
  · exact (hput m hm hne v a b hb).trans ha
  · exact hf f.2 (hname ▸ hf')

end Record

end HandStudy.Decode
