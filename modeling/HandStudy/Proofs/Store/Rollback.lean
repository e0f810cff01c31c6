import HandStudy.Proofs.Store.Load
import HandStudy.Proofs.Store.Sound
import HandStudy.Proofs.Text.Keys
import HandStudy.Store.Session

/-!
# Imports that fail

An import that fails does what initialisation does and no more, wherever in the snapshot
the failing entry stands: neither the store nor what a session answers later on tells the
two apart. Nor does initialisation do harm. It leaves an initialised store alone, and
all rows of any other.

So a profile changes only by an import that names it (`Store.Spares`): a default profile
whose format was changed keeps it through all initialisations and failed imports
(`Store.SparesAll.find?_run`).
-/

namespace HandStudy

/-! ## Profiles that are left alone -/

namespace Contents

variable {c : Contents} {n : String} {q : StoredProfile} {f : String → Bool}

/-- An entry leaves alone a profile that it does not name, however profiles are looked for. -/
theorem find?_lay {e : Entry} (hf : ∀ m, f m → Text.sameKey m n)
    (he : ∀ p, e = .profile p → ¬ p.isStoredAs n) (hq : c.profiles.find? (f ·.name) = some q) :
    (c.lay e).profiles.find? (f ·.name) = some q := by
  cases e with
  | profile p =>
    have hother : ¬ q.isNamed p.name := by
      intro hnamed
      have hqf : f q.name := List.find?_some (p := fun r : StoredProfile => f r.name) hq
      have hqn : Text.sameKey q.name n := hf _ hqf
      refine he p rfl ?_
      rw [Profile.isStoredAs, ← Text.sameKey_congr hnamed]
      exact hqn
    rw [lay, putProfile_eq]
    split
    · rw [List.find?_map]
      simp only [Function.comp_def, StoredProfile.reformat_name]
      rw [hq, Option.map_some, StoredProfile.reformat, if_neg hother]
    · rw [addProfile, List.find?_append, hq, Option.some_or]
  | spotProfile l =>
    rw [lay, linkProfile]
    split <;> exact hq
  | _ => exact hq

theorem find?_layAll {entries : List Entry} (hf : ∀ m, f m → Text.sameKey m n)
    (he : ∀ p, .profile p ∈ entries → ¬ p.isStoredAs n)
    (hq : c.profiles.find? (f ·.name) = some q) :
    (c.layAll entries).profiles.find? (f ·.name) = some q := by
  induction entries generalizing c with
  | nil => exact hq
  | cons e entries ih =>
    have hfirst : (c.lay e).profiles.find? (f ·.name) = some q :=
      find?_lay hf (fun p hp => he p (hp ▸ List.mem_cons_self)) hq
    exact ih (fun p hp => he p (List.mem_cons_of_mem _ hp)) hfirst

end Contents

theorem Snapshot.profile_mem_entries {x : Snapshot} {p : Profile} :
    .profile p ∈ x.entries ↔ p ∈ x.profiles := by
  simp [entries]

namespace Store

variable {s : Store} {n : String} {f : String → Bool}

/-- Does a step have no say about the profile of a name? It is an initialisation,
    or an import that fails or does not name the profile. -/
def Spares (s : Store) (n : String) : StoreStep → Prop
  | .init => True
  | .importSnapshot x =>
    (∃ e, (s.importSnapshot x).1 = .error e) ∨ ∀ p ∈ x.profiles, ¬ p.isStoredAs n

/-- Does none of several steps have a say about the profile of a name? -/
def SparesAll (s : Store) (n : String) : List StoreStep → Prop
  | [] => True
  | a :: steps => s.Spares n a ∧ (s.step a).SparesAll n steps

theorem Spares.find?_step {q : StoredProfile} {a : StoreStep} (h : s.Spares n a)
    (hf : ∀ m, f m → Text.sameKey m n) (hq : s.contents.profiles.find? (f ·.name) = some q) :
    (s.step a).contents.profiles.find? (f ·.name) = some q := by
  have hinit : s.init.contents.profiles.find? (f ·.name) = some q := s.init_extends.find? hq
  rcases s.step_cases a with hstep | ⟨x, rfl, hadmits, hstep⟩
  · exact hstep ▸ hinit
  -- The import succeeds, so it spares the profile by not naming it.
  · have hnot (e : StoreError) : (s.importSnapshot x).1 ≠ .error e := by
      rw [importSnapshot_eq_ok_iff.2 ⟨hadmits, rfl, rfl⟩]
      exact nofun
    have hx : ∀ p ∈ x.profiles, ¬ p.isStoredAs n := h.resolve_left fun ⟨e, he⟩ => hnot e he
    rw [hstep]
    exact Contents.find?_layAll hf (fun p hp => hx p (Snapshot.profile_mem_entries.1 hp)) hinit

/-- A profile that no step has a say about stays as it is. -/
theorem SparesAll.find?_run {q : StoredProfile} {steps : List StoreStep} (h : s.SparesAll n steps)
    (hf : ∀ m, f m → Text.sameKey m n) (hq : s.contents.profiles.find? (f ·.name) = some q) :
    (s.run steps).contents.profiles.find? (f ·.name) = some q := by
  induction steps generalizing s with
  | nil => exact hq
  | cons a steps ih => exact ih h.2 (h.1.find?_step hf hq)

/-- What could be loaded can be loaded after any run. -/
theorem exists_loadSpots_run (h : ∃ l, s.loadSpots = .ok l) (steps : List StoreStep) :
    ∃ l, (s.run steps).loadSpots = .ok l := by
  obtain ⟨htables, hunderstood⟩ := exists_loadSpots_iff.1 h
  refine exists_loadSpots_iff.2 ⟨?_, ?_⟩
  -- After no step the tables are the old ones, after the first one all are there.
  · cases steps with
    | nil => exact htables
    | cons a steps =>
      rw [(s.initialised_run a steps).tables]
      decide
  · exact run_induction (P := Contents.Understood) (fun _ p h => h.ensureProfile p)
      (fun _ e h _ => h.lay e) hunderstood steps

end Store

/-! ## Failing as if nothing was tried -/

namespace Workspace.Opened

variable {o : Opened} {x : Snapshot} {e : StoreError}

/-- An open store that can be initialised is one. -/
theorem store_of_init (h : o.init.1 = .ok ()) :
    ∃ s, o.store = some s ∧ o.init = (.ok (), { o with store := some s.init }) := by
  rw [init, require] at h ⊢
  cases hs : o.store with
  | none => simp [hs] at h
  | some s => exact ⟨s, rfl, rfl⟩

/-- An import that fails leaves what initialisation leaves. -/
theorem importSnapshot_error (hinit : o.init.1 = .ok ())
    (himport : (o.importSnapshot x).1 = .error e) : (o.importSnapshot x).2 = o.init.2 := by
  obtain ⟨s, hs, hinit⟩ := store_of_init hinit
  simp only [importSnapshot, require, hs] at himport ⊢
  rw [hinit, Store.importSnapshot_error himport]

/-- The store that is open, if there is one, is initialised. -/
def Initialised (o : Opened) : Prop :=
  ∀ s ∈ o.store, s.Initialised

/-- Nothing is left to initialise in an initialised store. -/
theorem Initialised.init_eq (h : o.Initialised) : o.init.2 = o := by
  cases hs : o.store with
  | none => simp only [init, require, hs]
  | some s =>
    simp only [init, require, hs, (h s hs).init_eq]
    rw [← hs]

/-- An import that fails leaves an initialised store alone. -/
theorem Initialised.importSnapshot_error (h : o.Initialised)
    (himport : (o.importSnapshot x).1 = .error e) : (o.importSnapshot x).2 = o := by
  cases hs : o.store with
  | none => simp only [importSnapshot, require, hs]
  | some s =>
    have hinit : o.init.1 = .ok () := by simp only [init, require, hs]
    exact (Opened.importSnapshot_error hinit himport).trans h.init_eq

theorem initialised_init (o : Opened) : o.init.2.Initialised := by
  rw [init, require]
  intro s hs
  cases ho : o.store with
  | none => simp [ho] at hs
  | some s =>
    simp only [ho, Option.mem_some_iff] at hs
    exact hs ▸ s.initialised_init

theorem initialised_importSnapshot (o : Opened) (x : Snapshot) :
    (o.importSnapshot x).2.Initialised := by
  rw [importSnapshot, require]
  intro s hs
  cases ho : o.store with
  | none => simp [ho] at hs
  | some s =>
    simp only [ho, Option.mem_some_iff] at hs
    exact hs ▸ s.initialised_step (.importSnapshot x)

end Workspace.Opened

theorem Workspace.keep_keep (w : Workspace) (o : Workspace.Opened) :
    (w.keep o).keep o = w.keep o := by
  obtain ⟨path, store⟩ := o
  cases path with
  | none => rfl
  | some p =>
    cases store with
    | none => rfl
    | some s => simp [keep, write]

/-- A step on the store in use, as a step of a session. -/
def StoreStep.inSession : StoreStep → SessionStep
  | .init => .init
  | .importSnapshot x => .importSnapshot x

namespace Session

variable [Dialect] {session : Session} {x : Snapshot} {e : StoreError}

/-- Whatever comes of an import, the store is kept as the import leaves it. -/
theorem step_importSnapshot (session : Session) (x : Snapshot) :
    (session.step (.importSnapshot x)).2 = session.keep (session.opened.importSnapshot x).2 := by
  rw [step]
  rcases session.opened.importSnapshot x with ⟨_ | _, o⟩ <;> rfl

/-- Whatever comes of an initialisation, the store is kept as it leaves it. -/
theorem step_init (session : Session) :
    (session.step .init).2 = session.keep session.opened.init.2 := by
  rw [step]
  rcases session.opened.init with ⟨_ | _, o⟩ <;> rfl

/-- After an initialisation or an import the store is initialised, and kept. -/
theorem exists_keep_of_step (session : Session) (a : StoreStep) :
    ∃ o : Workspace.Opened, (session.step a.inSession).2 = session.keep o ∧ o.Initialised := by
  cases a with
  | init => exact ⟨_, session.step_init, session.opened.initialised_init⟩
  | importSnapshot x =>
    exact ⟨_, session.step_importSnapshot x, session.opened.initialised_importSnapshot x⟩

/-- A session goes on after an import that fails as it does after initialisation. -/
theorem step_importSnapshot_error (hinit : session.opened.init.1 = .ok ())
    (himport : (session.opened.importSnapshot x).1 = .error e) :
    (session.step (.importSnapshot x)).2 = (session.step .init).2 := by
  rw [step_importSnapshot, step_init, Workspace.Opened.importSnapshot_error hinit himport]

end Session

/-- An import that fails is no more than an initialisation, and initialisation is
    conservative. -/
theorem Store.failed_import_is_init [Dialect] :
    -- What is left is what initialisation leaves, which is nothing new in an initialised store.
    (∀ (o : Workspace.Opened) (x : Snapshot) (e : StoreError),
      o.init.1 = .ok () → (o.importSnapshot x).1 = .error e →
        (o.importSnapshot x).2 = o.init.2 ∧ (o.Initialised → (o.importSnapshot x).2 = o)) ∧
    -- Later answers are those after an initialisation,
    (∀ (session : Session) (x : Snapshot) (e : StoreError) (steps : List SessionStep),
      session.opened.init.1 = .ok () → (session.opened.importSnapshot x).1 = .error e →
        (session.run (.importSnapshot x :: steps)).tail = (session.run (.init :: steps)).tail) ∧
    -- and where the store is initialised already, those without the import.
    (∀ (session : Session) (a : StoreStep) (x : Snapshot) (e : StoreError)
      (steps : List SessionStep),
      ((session.step a.inSession).2.opened.importSnapshot x).1 = .error e →
        ((session.step a.inSession).2.run (.importSnapshot x :: steps)).tail =
          (session.step a.inSession).2.run steps) ∧
    -- Initialisation is done once, and leaves every row as it is.
    (∀ (s : Store) (a : StoreStep), (s.step a).Initialised ∧ (s.step a).init = s.step a ∧
      s.init.contents.Extends s.contents) ∧
    -- A profile stays as it is while no successful import names it, also when it is loaded.
    (∀ (s : Store) (n : String) (q : StoredProfile) (steps : List StoreStep),
      s.contents.profile? n = some q → s.SparesAll n steps →
        (s.run steps).contents.profile? n = some q ∧
        ∀ l p, s.loadSpots = .ok l → l.profile? n = some p →
          ∃ l', (s.run steps).loadSpots = .ok l' ∧ l'.profile? n = some p) := by
  refine ⟨?_, ?_, ?_, ?_, ?_⟩
  · intro o x e hinit himport
    exact ⟨Workspace.Opened.importSnapshot_error hinit himport,
      fun h => h.importSnapshot_error himport⟩
  · intro session x e steps hinit himport
    simp only [Session.run, List.tail_cons]
    rw [Session.step_importSnapshot_error hinit himport]
  · intro session a x e steps himport
    obtain ⟨o, hstep, ho⟩ := session.exists_keep_of_step a
    rw [hstep] at himport ⊢
    have hleft : ((session.keep o).opened.importSnapshot x).2 = o :=
      ho.importSnapshot_error himport
    simp only [Session.run, List.tail_cons]
    rw [Session.step_importSnapshot, hleft, Session.keep, Session.keep, Workspace.keep_keep]
  · intro s a
    have ha := s.initialised_step a
    exact ⟨ha, ha.init_eq, s.init_extends⟩
  · intro s n q steps hq hspares
    refine ⟨hspares.find?_run (f := (Text.sameKey · n)) (fun _ => id) hq, fun l p hl hp => ?_⟩
    obtain ⟨l', hl'⟩ := exists_loadSpots_run ⟨l, hl⟩ steps
    obtain ⟨r, hr, hp⟩ := (profile?_eq_some_iff hl).1 hp
    have hrun := hspares.find?_run (f := (Text.sameLetters · n))
      (fun _ => Text.sameKey_of_sameLetters) hr
    exact ⟨l', hl', (profile?_eq_some_iff hl').2 ⟨r, hrun, hp⟩⟩

/-- A snapshot that fails late: its second tag takes the name of the first. -/
def Snapshot.clashing : Snapshot where
  documents := [⟨1, "Continuation bets", "cbets.md"⟩]
  tags := [{ id := 1, name := "c-bet" }, { id := 2, name := "c-bet" }]

/-- A snapshot that makes a default profile one of tournaments. -/
def Snapshot.customising : Snapshot where
  profiles := [⟨"ZOOM 6-MAX", .tournament, .zoom, .six⟩]

theorem Store.failed_import_is_init_clashing :
    (Workspace.Opened.fresh.importSnapshot .clashing).2 = Workspace.Opened.fresh.init.2 ∧
      (({} : Session).run [.importSnapshot .clashing, .ask (.spots .whole)]).tail =
        (({} : Session).run [.init, .ask (.spots .whole)]).tail ∧
      ((({} : Session).step (.importSnapshot .customising)).2.run
          [.importSnapshot .clashing, .ask (.spots .whole)]).tail =
        (({} : Session).step (.importSnapshot .customising)).2.run [.ask (.spots .whole)] ∧
      ((Store.run {} [.importSnapshot .customising]).run
          [.init, .importSnapshot .clashing]).contents.profile? "Zoom 6-max" =
        some (.ofProfile 1 ⟨"Zoom 6-max", .tournament, .zoom, .six⟩) := by
  have hspares : (Store.run {} [.importSnapshot .customising]).SparesAll "Zoom 6-max"
      [.init, .importSnapshot .clashing] :=
    ⟨trivial, .inl ⟨.failed (.insertTag 2) (.nameTaken .tags), by decide +kernel⟩, trivial⟩
  refine ⟨?_, ?_, ?_, ?_⟩
  · exact (failed_import_is_init.1 .fresh .clashing (.failed (.insertTag 2) (.nameTaken .tags))
      rfl (by decide +kernel)).1
  · exact failed_import_is_init.2.1 {} .clashing (.failed (.insertTag 2) (.nameTaken .tags))
      [.ask (.spots .whole)] rfl (by decide +kernel)
  · exact failed_import_is_init.2.2.1 {} (.importSnapshot .customising) .clashing
      (.failed (.insertTag 2) (.nameTaken .tags)) [.ask (.spots .whole)] (by decide +kernel)
  · exact (failed_import_is_init.2.2.2.2 _ _ _ _ (by decide +kernel) hspares).1

end HandStudy
