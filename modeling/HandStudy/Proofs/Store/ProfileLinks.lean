import HandStudy.Proofs.Store.Coherent

/-!
# Spots of profiles

A snapshot links spots to profiles by name. A link is kept with the id of the profile that the
name leads to when it is written, and is read back with the name that the profile is stored
under. The spellings do not matter, nor does what becomes of the profile: a spot is linked to the
profile of a name (`Contents.Linked`) exactly if it was before or the entry that is written
links them (`Contents.Sound.linked_lay`), and so, after a run, exactly if an import of the run
linked them (`Store.linked_run_iff`).

That is what the library of spots that is loaded then says (`Store.mem_spotsFor_iff`,
`Store.spotsFor_of_run`), under every name that is the same to the store as others exactly if it
is so by its letters (`Text.ByLetters`).
-/

namespace HandStudy

/-- The link is between the spot and a profile of the name. -/
def SpotProfile.Joins (l : SpotProfile) (spot : Int64) (n : String) : Prop :=
  l.spot = spot ∧ Text.sameKey l.profile n

namespace Contents

variable {c : Contents} {p : Profile} {spot : Int64} {n : String} {x : Snapshot}

/-- The spot is linked to the profile that is found under the name. -/
def Linked (c : Contents) (spot : Int64) (n : String) : Prop :=
  ∃ q, c.profile? n = some q ∧ ⟨spot, q.id⟩ ∈ c.spotProfiles

/-- A profile that is added has no spots. -/
theorem Sound.linked_addProfile (h : c.Sound) :
    (c.addProfile p).Linked spot n ↔ c.Linked spot n := by
  rw [Linked, Linked, profile?_addProfile]
  cases hq : c.profile? n with
  | some q => exact Iff.rfl
  | none =>
    simp only [Option.none_or, reduceCtorEq, false_and, exists_false, iff_false]
    rintro ⟨q, hq, hk⟩
    obtain ⟨-, hq⟩ := Option.ite_none_right_eq_some.1 hq
    obtain rfl := Option.some.inj hq
    -- Its id is a new one, which no link has.
    obtain ⟨r, hr, hid⟩ := h.linked _ hk
    exact Nat.lt_irrefl _ (hid ▸ id_lt_nextProfileId h.profiles hr)

theorem Sound.linked_ensureProfile (h : c.Sound) (p : Profile) :
    (c.ensureProfile p).Linked spot n ↔ c.Linked spot n := by
  rw [Contents.ensureProfile]
  split
  · exact Iff.rfl
  · exact h.linked_addProfile

/-- A profile that gets another format keeps its spots. -/
theorem Sound.linked_putProfile (h : c.Sound) :
    (c.putProfile p).Linked spot n ↔ c.Linked spot n := by
  have hfind := profile?_putProfile (c := c) (p := p) (n := n)
  rw [putProfile_eq] at hfind ⊢
  split
  · rename_i hp
    rw [if_pos hp, if_pos hp] at hfind
    rw [Linked, hfind, Linked]
    cases c.profile? n <;> simp
  · exact h.linked_addProfile

/-- A link that is written is one under every spelling of the name. -/
theorem Sound.linked_linkProfile (h : c.Sound) {l : SpotProfile}
    (hl : (c.profile? l.profile).isSome) :
    (c.linkProfile l).Linked spot n ↔ c.Linked spot n ∨ l.Joins spot n := by
  obtain ⟨q, hq⟩ := Option.isSome_iff_exists.1 hl
  have hput {k : LinkKey Nat} : k ∈ Keyed.put (fun k => k) ⟨l.spot, q.id⟩ c.spotProfiles ↔
      k = ⟨l.spot, q.id⟩ ∨ k ∈ c.spotProfiles := by
    rw [h.spotProfiles.mem_put]
    tauto
  -- The name of the link and the other name lead to one profile if they are the same.
  have hletters : Text.sameKey q.name n = Text.sameKey l.profile n :=
    Text.sameKey_congr (isNamed_of_profile? hq) n
  have hname : c.profile? n = some q ↔ Text.sameKey l.profile n := by
    rw [← hletters]
    exact ⟨isNamed_of_profile?, h.profile?_eq_some (mem_of_profile? hq)⟩
  have hlink : (c.linkProfile l).Linked spot n ↔ ∃ r, c.profile? n = some r ∧
      ((⟨spot, r.id⟩ : LinkKey Nat) = ⟨l.spot, q.id⟩ ∨ ⟨spot, r.id⟩ ∈ c.spotProfiles) := by
    rw [Contents.linkProfile, hq]
    simp only [← hput]
    exact Iff.rfl
  rw [hlink, Linked, SpotProfile.Joins, ← hname]
  constructor
  · rintro ⟨r, hr, hk | hk⟩
    · obtain ⟨hspot, hid⟩ := LinkKey.mk.inj hk
      obtain rfl : r = q := h.profiles.eq_of_key_eq (mem_of_profile? hr) (mem_of_profile? hq) hid
      exact .inr ⟨hspot.symm, hr⟩
    · exact .inl ⟨r, hr, hk⟩
  · rintro (⟨r, hr, hk⟩ | ⟨rfl, hq⟩)
    · exact ⟨r, hr, .inr hk⟩
    · exact ⟨q, hq, .inl rfl⟩

/-- Of the entries that are written only a link has a part in which spots a profile has. -/
theorem Sound.linked_lay (h : c.Sound) {e : Entry} (hadmits : c.Admits e) :
    (c.lay e).Linked spot n ↔ c.Linked spot n ∨ ∃ l, e = .spotProfile l ∧ l.Joins spot n := by
  cases e with
  | profile p =>
    rw [Contents.lay, h.linked_putProfile]
    simp
  | spotProfile l =>
    rw [Contents.lay, h.linked_linkProfile hadmits.1]
    simp
  | _ =>
    simp only [reduceCtorEq, false_and, exists_false, or_false]
    exact Iff.rfl

theorem Sound.linked_layAll (h : c.Sound) {entries : List Entry} (hadmits : c.AdmitsAll entries) :
    (c.layAll entries).Linked spot n ↔
      c.Linked spot n ∨ ∃ l, .spotProfile l ∈ entries ∧ l.Joins spot n := by
  induction entries generalizing c with
  | nil => simp [Contents.layAll]
  | cons e entries ih =>
    have hrest := ih (h.lay e) hadmits.2
    rw [h.linked_lay hadmits.1, or_assoc] at hrest
    refine hrest.trans (or_congr_right ?_)
    simp only [List.mem_cons, or_and_right, exists_or, eq_comm (a := e)]

end Contents

theorem Snapshot.spotProfile_mem_entries {x : Snapshot} {l : SpotProfile} :
    .spotProfile l ∈ x.entries ↔ l ∈ x.spotProfiles := by
  simp [entries]

namespace Store

variable {s : Store} {spot : Int64} {n : String}

/-! ## Runs -/

/-- The step is an import that succeeds and links the spot to a profile of the name. -/
def Links (s : Store) (spot : Int64) (n : String) : StoreStep → Prop
  | .init => False
  | .importSnapshot x =>
    (∃ summary, (s.importSnapshot x).1 = .ok summary) ∧ ∃ l ∈ x.spotProfiles, l.Joins spot n

/-- A step of the run has a property, on the store on which it is taken. -/
def Sometime (s : Store) (steps : List StoreStep) (p : Store → StoreStep → Prop) : Prop :=
  ∃ before a after, steps = before ++ a :: after ∧ p (s.run before) a

theorem sometime_cons {a : StoreStep} {steps : List StoreStep} {p : Store → StoreStep → Prop} :
    s.Sometime (a :: steps) p ↔ p s a ∨ (s.step a).Sometime steps p := by
  constructor
  · rintro ⟨before, b, after, hsteps, hb⟩
    cases before with
    | nil =>
      obtain ⟨rfl, -⟩ := List.cons.inj hsteps
      exact .inl hb
    | cons c before =>
      obtain ⟨rfl, hrest⟩ := List.cons.inj hsteps
      exact .inr ⟨before, b, after, hrest, hb⟩
  · rintro (ha | ⟨before, b, after, rfl, hb⟩)
    · exact ⟨[], a, steps, rfl, ha⟩
    · exact ⟨a :: before, b, after, rfl, hb⟩

theorem linked_init (h : s.contents.Sound) :
    s.init.contents.Linked spot n ↔ s.contents.Linked spot n := by
  have hensure := Contents.ensureAll_induction
    (P := fun c => c.Sound ∧ (c.Linked spot n ↔ s.contents.Linked spot n))
    (fun _ p hc => ⟨hc.1.ensureProfile p, (hc.1.linked_ensureProfile p).trans hc.2⟩)
    ⟨h, Iff.rfl⟩ Profile.defaults
  rw [init_contents]
  exact hensure.2

/-- A step links what was linked before, and what it imports. -/
theorem linked_step_iff (h : s.contents.Sound) (a : StoreStep) :
    (s.step a).contents.Linked spot n ↔ s.contents.Linked spot n ∨ s.Links spot n a := by
  cases a with
  | init =>
    rw [Links, or_false]
    exact linked_init h
  | importSnapshot x =>
    have hready : s.init.contents.Sound := h.run [.init]
    rw [step, Links]
    cases himport : (s.importSnapshot x).1 with
    | error e => simp [importSnapshot_error himport, linked_init h]
    | ok summary =>
      obtain ⟨hadmits, -, hafter⟩ := importSnapshot_eq_ok_iff.1 (Prod.ext himport rfl :
        s.importSnapshot x = (.ok summary, (s.importSnapshot x).2))
      rw [← hafter]
      simp [hready.linked_layAll hadmits, linked_init h, Snapshot.spotProfile_mem_entries]

/-- A spot is linked to the profile of a name if it was linked before the run or is so by a
    step of it. -/
theorem linked_run_iff (h : s.contents.Sound) (steps : List StoreStep) :
    (s.run steps).contents.Linked spot n ↔
      s.contents.Linked spot n ∨ s.Sometime steps fun s a => s.Links spot n a := by
  induction steps generalizing s with
  | nil => simp [Sometime, run]
  | cons a steps ih =>
    rw [sometime_cons, ← or_assoc, ← linked_step_iff h a]
    exact ih (h.run [a])

/-! ## What is loaded -/

/-- The spots of a profile, in the library that is loaded, are those that are linked to it. -/
theorem mem_spotsFor_iff (h : s.contents.Sound) (hn : Text.ByLetters n)
    {profiles : List Profile} {t : Spot} :
    t ∈ (s.spotLibrary profiles).spotsFor n ↔
      t ∈ s.contents.spots ∧ s.contents.Linked t.id n := by
  rw [SpotLibrary.spotsFor, List.mem_filter, List.any_eq_true]
  refine and_congr_right fun _ => ?_
  simp only [Bool.and_eq_true, decide_eq_true_eq]
  constructor
  · rintro ⟨l, hl, hspot, hname⟩
    obtain ⟨q, hq, hk, hqname⟩ := (mem_profileLinks h).1 hl
    have hnamed : q.isNamed n := by
      rw [StoredProfile.isNamed, hqname, hn]
      exact hname
    exact ⟨q, h.profile?_eq_some hq hnamed, hspot ▸ hk⟩
  · rintro ⟨q, hq, hk⟩
    have hname : Text.sameKey q.name n := Contents.isNamed_of_profile? hq
    rw [hn] at hname
    exact ⟨⟨t.id, q.name⟩, (mem_profileLinks h).2 ⟨q, Contents.mem_of_profile? hq, hk, rfl⟩, rfl,
      hname⟩

/-- A spot that is linked to the profile of a name is one of its spots, and the profile is
    found. -/
theorem exists_mem_spotsFor (h : s.contents.Sound) (hcoherent : s.contents.Coherent)
    (hn : Text.ByLetters n) {l : SpotLibrary} (hl : s.loadSpots = .ok l)
    (hlinked : s.contents.Linked spot n) :
    (∃ p, l.profile? n = some p ∧ p.isNamed n) ∧ ∃ t ∈ l.spotsFor n, t.id = spot := by
  obtain ⟨q, hq, hkey⟩ := hlinked
  constructor
  · obtain ⟨p, hp⟩ := h.understood q (Contents.mem_of_profile? hq)
    have hnamed : (fun r : StoredProfile => r.isNamed n) = (Text.sameLetters ·.name n) :=
      funext fun r => hn r.name
    rw [Contents.profile?, hnamed] at hq
    have hfound : l.profile? n = some p := (profile?_eq_some_iff hl).2 ⟨q, hq, hp⟩
    exact ⟨p, hfound, SpotLibrary.isNamed_of_profile? hfound⟩
  · obtain ⟨t, ht, hid⟩ := Keyed.has_iff.1 (hcoherent.spotProfiles _ hkey)
    obtain ⟨-, profiles, -, rfl⟩ := loadSpots_eq_ok_iff.1 hl
    refine ⟨t, (mem_spotsFor_iff h hn).2 ⟨ht, q, hq, ?_⟩, hid⟩
    rw [hid]
    exact hkey

/-- After any run on a new store, a spot that an import of the run linked to a profile is one of
    the spots of the profile, under every spelling of its name that the store compares by its
    letters: whatever came after that import, the profile is found, and a hand is looked up among
    its spots. And a profile has no spots but those that an import of the run linked to it. -/
theorem spotsFor_of_run (a : StoreStep) (steps : List StoreStep) :
    ∃ l, (run {} (a :: steps)).loadSpots = .ok l ∧
      (∀ before x after summary, a :: steps = before ++ .importSnapshot x :: after →
        ((run {} before).importSnapshot x).1 = .ok summary →
        ∀ k ∈ x.spotProfiles, ∀ n, Text.ByLetters n → Text.sameLetters k.profile n →
          (∃ p, l.profile? n = some p ∧ p.isNamed n) ∧
          (∃ t ∈ l.spotsFor n, t.id = k.spot) ∧
          ∀ h, (l.resolveIn n h).value =
              SpotLibrary.answerFor ((l.spotsFor n).filter (l.Fits h ·)) ∧
            ∀ m, (l.resolveIn n h).value ≠ .error (.unknownProfile m)) ∧
      ∀ n, Text.ByLetters n → ∀ t ∈ l.spotsFor n, ∃ before x after summary,
        a :: steps = before ++ .importSnapshot x :: after ∧
        ((run {} before).importSnapshot x).1 = .ok summary ∧
        ∃ k ∈ x.spotProfiles, k.spot = t.id ∧ Text.sameLetters k.profile n := by
  have hsound := sound_run (a :: steps)
  have hnone (spot : Int64) (n : String) : ¬ (run {} []).contents.Linked spot n := by
    rintro ⟨q, hq, -⟩
    cases hq
  have hlinked {spot : Int64} {n : String} : (run {} (a :: steps)).contents.Linked spot n ↔
      (run {} []).contents.Linked spot n ∨
        Sometime {} (a :: steps) fun s a => s.Links spot n a :=
    linked_run_iff (sound_run []) (a :: steps)
  obtain ⟨profiles, -, hload⟩ := (initialised_run {} a steps).exists_loadSpots hsound
  refine ⟨_, hload, ?_, ?_⟩
  · intro before x after summary hsteps himport k hk n hn hname
    rw [← hn] at hname
    have hthere : (run {} (a :: steps)).contents.Linked k.spot n :=
      hlinked.2 (.inr ⟨before, _, after, hsteps, ⟨summary, himport⟩, k, hk, rfl, hname⟩)
    obtain ⟨hprofile, hspot⟩ :=
      exists_mem_spotsFor hsound (Contents.coherent_run _) hn hload hthere
    refine ⟨hprofile, hspot, fun h => ?_⟩
    obtain ⟨p, hp, -⟩ := hprofile
    have hvalue := SpotLibrary.resolveIn_value hp h
    refine ⟨hvalue, fun m => ?_⟩
    rw [hvalue]
    exact SpotLibrary.answerFor_ne_unknownProfile
  · intro n hn t ht
    obtain ⟨-, hthere⟩ := (mem_spotsFor_iff hsound hn).1 ht
    obtain ⟨before, b, after, hsteps, hlinks⟩ := (hlinked.1 hthere).resolve_left (hnone t.id n)
    cases b with
    | init => exact hlinks.elim
    | importSnapshot x =>
      obtain ⟨⟨summary, himport⟩, k, hk, hspot, hname⟩ := hlinks
      rw [hn] at hname
      exact ⟨before, x, after, summary, hsteps, himport, k, hk, hspot, hname⟩

end Store

/-- A snapshot that links a spot to a default profile, in another spelling. -/
def Snapshot.zoomSpot : Snapshot where
  spots := [{ id := 7, name := "Squeeze" }, { id := 8, name := "Limped" }]
  spotProfiles := [⟨7, "zoom 6-MAX"⟩]

/-- A snapshot that changes the profile, but cannot be imported: there is no such spot. -/
def Snapshot.strayLink : Snapshot where
  profiles := [⟨"Zoom 6-max", .tournament, .zoom, .two⟩]
  spotProfiles := [⟨9, "Zoom 6-max"⟩]

/-- A snapshot that changes the profile, in a third spelling. -/
def Snapshot.respelled : Snapshot where
  profiles := [⟨"ZOOM 6-Max", .cash, .regular, .nine⟩]

/-- The spot stays with the profile after an import that failed and one that changed the
    profile. -/
theorem Store.spotsFor_of_run_respelled :
    ((run {} [.init]).importSnapshot .zoomSpot).1 = .ok ⟨0, 0, 0, 2, 0, 0⟩ ∧
      ((run {} [.init, .importSnapshot .zoomSpot]).importSnapshot .strayLink).1.isOk = false ∧
      ∃ l, (run {} [.init, .importSnapshot .zoomSpot, .importSnapshot .strayLink,
          .importSnapshot .respelled, .init]).loadSpots = .ok l ∧
        (∃ t ∈ l.spotsFor "zOOM 6-mAX", t.id = 7) ∧
        ∀ h m, (l.resolveIn "zOOM 6-mAX" h).value ≠ .error (.unknownProfile m) := by
  have himport : ((run {} [.init]).importSnapshot .zoomSpot).1 = .ok ⟨0, 0, 0, 2, 0, 0⟩ := by
    decide +kernel
  obtain ⟨l, hl, hlinked, -⟩ := spotsFor_of_run .init [.importSnapshot .zoomSpot,
    .importSnapshot .strayLink, .importSnapshot .respelled, .init]
  obtain ⟨-, hspot, hvalue⟩ := hlinked [.init] .zoomSpot _ ⟨0, 0, 0, 2, 0, 0⟩ rfl himport
    ⟨7, "zoom 6-MAX"⟩ List.mem_cons_self "zOOM 6-mAX" (Text.byLetters_of_no_zero (by decide))
    (by decide)
  exact ⟨himport, by decide +kernel, l, hl, hspot, fun h => (hvalue h).2⟩

end HandStudy
