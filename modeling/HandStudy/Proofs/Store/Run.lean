import HandStudy.Proofs.Profile
import HandStudy.Proofs.Store.Import

/-!
# Runs of a store

A store is initialised and imports snapshots, in any order (`Store.run`). Each step
initialises it first, and initialisation is conservative (`Store.init_extends`): all rows
stay, and profiles may be added at the end. After the first step the store has all tables
and default profiles (`Store.Initialised`), and initialisation does nothing more
(`Store.Initialised.init_eq`).

What every initialisation and every admitted entry preserves holds after any run
(`Store.run_induction`).
-/

namespace HandStudy

/-- What is done to a store. -/
inductive StoreStep where
  | init
  | importSnapshot (x : Snapshot)

namespace Store

/-- The store after a step. -/
def step (s : Store) : StoreStep → Store
  | .init => s.init
  | .importSnapshot x => (s.importSnapshot x).2

/-- The store after several steps. -/
def run (s : Store) (steps : List StoreStep) : Store :=
  steps.foldl step s

/-- The store has all tables and all default profiles. -/
structure Initialised (s : Store) : Prop where
  tables : s.tables = Table.all
  profiles : ∀ p ∈ Profile.defaults, (s.contents.profile? p.name).isSome

end Store

/-! ## Profiles by name -/

namespace StoredProfile

@[simp] theorem isNamed_ofProfile (id : Nat) (p : Profile) (n : String) :
    (ofProfile id p).isNamed n = p.isStoredAs n := rfl

/-- A stored profile, with the format of another profile if that has its name. -/
def reformat (p : Profile) (q : StoredProfile) : StoredProfile :=
  if q.isNamed p.name then q.withFormat p else q

@[simp] theorem reformat_id (p : Profile) (q : StoredProfile) : (q.reformat p).id = q.id := by
  rw [reformat]
  split <;> rfl

@[simp] theorem reformat_name (p : Profile) (q : StoredProfile) :
    (q.reformat p).name = q.name := by
  rw [reformat]
  split <;> rfl

@[simp] theorem isNamed_reformat (p : Profile) (q : StoredProfile) (n : String) :
    (q.reformat p).isNamed n = q.isNamed n := by
  rw [isNamed, isNamed, reformat_name]

end StoredProfile

namespace Contents

variable {c c' c'' : Contents} {p : Profile} {n : String} {q : StoredProfile}

theorem isNamed_of_profile? (h : c.profile? n = some q) : q.isNamed n := by
  have hq := List.find?_some h
  exact hq

theorem mem_of_profile? (h : c.profile? n = some q) : q ∈ c.profiles :=
  List.mem_of_find?_eq_some h

/-- Under a name that is in use an added profile is not found. -/
theorem profile?_addProfile :
    (c.addProfile p).profile? n = (c.profile? n).or
      (if p.isStoredAs n then some (.ofProfile c.nextProfileId p) else none) := by
  rw [profile?, addProfile, List.find?_append, profile?]
  by_cases hp : p.isStoredAs n <;> simp [hp]

theorem putProfile_eq :
    c.putProfile p = if (c.profile? p.name).isSome then
      { c with profiles := c.profiles.map (.reformat p) } else c.addProfile p := rfl

/-- A profile that is written changes the format of the one with its name, or else is
    added. -/
theorem profile?_putProfile :
    (c.putProfile p).profile? n =
      if (c.profile? p.name).isSome then (c.profile? n).map (.reformat p)
      else (c.addProfile p).profile? n := by
  rw [putProfile_eq]
  split
  · rw [profile?, List.find?_map, profile?]
    simp only [Function.comp_def, StoredProfile.isNamed_reformat]
  · rfl

/-! ## Initialisation is conservative -/

/-- All rows are still there in their places, and at most profiles are added at the
    end. -/
def Extends (c' c : Contents) : Prop :=
  ∃ added, c' = { c with profiles := c.profiles ++ added }

theorem Extends.refl (c : Contents) : c.Extends c :=
  ⟨[], by simp⟩

theorem Extends.trans (h : c''.Extends c') (h' : c'.Extends c) : c''.Extends c := by
  obtain ⟨added, rfl⟩ := h
  obtain ⟨added', rfl⟩ := h'
  exact ⟨added' ++ added, by simp⟩

/-- Added profiles hide none, however one is looked for. -/
theorem Extends.find? {f : StoredProfile → Bool} (h : c'.Extends c)
    (hq : c.profiles.find? f = some q) : c'.profiles.find? f = some q := by
  obtain ⟨added, rfl⟩ := h
  rw [List.find?_append, hq, Option.some_or]

theorem Extends.profile? (h : c'.Extends c) (hq : c.profile? n = some q) :
    c'.profile? n = some q :=
  h.find? hq

theorem extends_ensureProfile : (c.ensureProfile p).Extends c := by
  rw [ensureProfile]
  split
  · exact .refl c
  · exact ⟨_, rfl⟩

/-- What every profile that is asked for preserves, all do. -/
theorem ensureAll_induction {P : Contents → Prop} (hensure : ∀ c p, P c → P (c.ensureProfile p))
    (h : P c) (profiles : List Profile) : P (profiles.foldl ensureProfile c) := by
  induction profiles generalizing c with
  | nil => exact h
  | cons p profiles ih => exact ih (hensure c p h)

theorem extends_ensureAll {profiles : List Profile} :
    (profiles.foldl ensureProfile c).Extends c :=
  ensureAll_induction (P := fun c' => c'.Extends c)
    (fun _ _ h => extends_ensureProfile.trans h) (.refl c) profiles

/-- A profile that is asked for is there afterwards. -/
theorem isSome_profile?_ensureProfile : ((c.ensureProfile p).profile? p.name).isSome := by
  rw [ensureProfile]
  split
  · assumption
  · rw [profile?_addProfile, Profile.isStoredAs_self]
    simp

theorem isSome_profile?_ensureAll {profiles : List Profile} (hp : p ∈ profiles) :
    ((profiles.foldl ensureProfile c).profile? p.name).isSome := by
  induction profiles generalizing c with
  | nil => cases hp
  | cons p' profiles ih =>
    rcases List.mem_cons.1 hp with rfl | hp
    · have hp : ((c.ensureProfile p).profile? p.name).isSome := isSome_profile?_ensureProfile
      obtain ⟨q, hq⟩ := Option.isSome_iff_exists.1 hp
      -- Profiles that are asked for after it do not hide it.
      exact Option.isSome_iff_exists.2 ⟨q, (extends_ensureAll (c := c.ensureProfile p)).profile? hq⟩
    · exact ih hp

theorem ensureAll_eq_self {profiles : List Profile}
    (h : ∀ p ∈ profiles, (c.profile? p.name).isSome) : profiles.foldl ensureProfile c = c := by
  induction profiles with
  | nil => rfl
  | cons p profiles ih =>
    obtain ⟨hp, hprofiles⟩ := List.forall_mem_cons.1 h
    rw [List.foldl_cons, ensureProfile, if_pos hp, ih hprofiles]

end Contents

namespace Store

variable {s : Store}

theorem init_contents (s : Store) :
    s.init.contents = Profile.defaults.foldl Contents.ensureProfile s.contents := by
  rw [init]

theorem init_extends (s : Store) : s.init.contents.Extends s.contents := by
  rw [init_contents]
  exact Contents.extends_ensureAll

theorem initialised_init (s : Store) : s.init.Initialised where
  tables := rfl
  profiles p hp := by
    rw [init_contents]
    exact Contents.isSome_profile?_ensureAll hp

/-- An initialised store has nothing missing. -/
theorem Initialised.init_eq (h : s.Initialised) : s.init = s := by
  rw [init, ← h.tables, Contents.ensureAll_eq_self h.profiles]

/-! ## Steps and runs -/

/-- A step initialises the store. An import may then lay its entries over it, if all of
    them are admitted. -/
theorem step_cases (s : Store) (a : StoreStep) :
    s.step a = s.init ∨ ∃ x, a = .importSnapshot x ∧ s.init.contents.AdmitsAll x.entries ∧
      s.step a = { s.init with contents := s.init.contents.layAll x.entries } := by
  cases a with
  | init => exact .inl rfl
  | importSnapshot x =>
    rw [step]
    cases h : s.importSnapshot x with
    | mk result s' =>
      cases result with
      | ok summary =>
        obtain ⟨hadmits, -, rfl⟩ := importSnapshot_eq_ok_iff.1 h
        exact .inr ⟨x, rfl, hadmits, rfl⟩
      | error e =>
        refine .inl ?_
        rw [← importSnapshot_error (congrArg Prod.fst h), h]

end Store

namespace Contents

/-- Entries that are laid over a profile may change it and do not take it away. -/
theorem isSome_profile?_lay {c : Contents} {n : String} (e : Entry)
    (h : (c.profile? n).isSome) : ((c.lay e).profile? n).isSome := by
  cases e with
  | profile p =>
    rw [lay, profile?_putProfile]
    split
    · simpa using h
    · rw [profile?_addProfile]
      simp [h]
  | spotProfile l =>
    rw [lay, linkProfile]
    split <;> exact h
  | _ => exact h

/-- What every admitted entry preserves, all do. -/
theorem layAll_induction {P : Contents → Prop} {c : Contents} {entries : List Entry}
    (hlay : ∀ c e, P c → c.Admits e → P (c.lay e)) (hadmits : c.AdmitsAll entries) (h : P c) :
    P (c.layAll entries) := by
  induction entries generalizing c with
  | nil => exact h
  | cons e entries ih => exact ih hadmits.2 (hlay c e h hadmits.1)

end Contents

namespace Store

variable {s : Store}

/-- What every initialisation and every admitted entry preserves holds after any run. -/
theorem run_induction {P : Contents → Prop}
    (hensure : ∀ c p, P c → P (c.ensureProfile p))
    (hlay : ∀ c e, P c → c.Admits e → P (c.lay e)) (h : P s.contents) (steps : List StoreStep) :
    P (s.run steps).contents := by
  have hinit {s : Store} (h : P s.contents) : P s.init.contents := by
    rw [init_contents]
    exact Contents.ensureAll_induction hensure h Profile.defaults
  induction steps generalizing s with
  | nil => exact h
  | cons a steps ih =>
    refine ih (s := s.step a) ?_
    rcases s.step_cases a with hstep | ⟨x, -, hadmits, hstep⟩
    · exact hstep ▸ hinit h
    · exact hstep ▸ Contents.layAll_induction hlay hadmits (hinit h)

theorem initialised_step (s : Store) (a : StoreStep) : (s.step a).Initialised := by
  rcases s.step_cases a with hstep | ⟨x, -, hadmits, hstep⟩
  · exact hstep ▸ s.initialised_init
  · rw [hstep]
    refine ⟨rfl, fun p hp => ?_⟩
    exact Contents.layAll_induction (P := fun c => (c.profile? p.name).isSome)
      (fun c e h _ => Contents.isSome_profile?_lay e h) hadmits (s.initialised_init.profiles p hp)

/-- After the first step a store stays initialised. -/
theorem initialised_run (s : Store) (a : StoreStep) (steps : List StoreStep) :
    (s.run (a :: steps)).Initialised := by
  induction steps generalizing s a with
  | nil => exact s.initialised_step a
  | cons b steps ih => exact ih (s.step a) b

end Store

end HandStudy
