import HandStudy.Profile

/-!
# Profiles laid over others

Profiles are laid over others by name (`Profile.laidOver`): those that are there stay in
their places with their spelling, new ones follow in the order in which they first occur,
and every one has the format that was given last. Names are compared as a store does it
(`Profile.isStoredAs`). Writing them one after the other comes to the same
(`Profile.foldl_put`).
-/

namespace HandStudy.Profile

variable {p q r : Profile} {old new : List Profile}

/-- Is this the profile that a store has under the given name? -/
def isStoredAs (p : Profile) (name : String) : Bool :=
  Text.sameKey p.name name

@[simp] theorem isStoredAs_self (p : Profile) : p.isStoredAs p.name = true :=
  Text.sameKey_self p.name

/-- Profiles that are the same to a store have the same names there. -/
theorem isStoredAs_congr (h : p.isStoredAs q.name) (n : String) : p.isStoredAs n = q.isStoredAs n :=
  Text.sameKey_congr h n

theorem isStoredAs_comm (p q : Profile) : p.isStoredAs q.name = q.isStoredAs p.name :=
  Text.sameKey_comm p.name q.name

/-- Is there a profile of this name? -/
def isAmong (l : List Profile) (n : String) : Bool :=
  l.any (·.isStoredAs n)

/-- The first ones of their names among the new profiles, other than those of names that
    are in use. -/
def firsts (old : List Profile) : List Profile → List Profile
  | [] => []
  | p :: new => if isAmong old p.name then firsts old new else p :: firsts (old ++ [p]) new

/-- A profile with the format that was last given to its name, if there is one. -/
def updated (new : List Profile) (p : Profile) : Profile :=
  match new.reverse.find? (·.isStoredAs p.name) with
  | none => p
  | some q => { p with format := q.format }

/-- New profiles laid over old ones. -/
def laidOver (old new : List Profile) : List Profile :=
  (old ++ firsts old new).map (updated new)

/-- The profiles with one more, or with its format under its name. -/
def put (old : List Profile) (p : Profile) : List Profile :=
  if isAmong old p.name then
    old.map fun q => if q.isStoredAs p.name then { q with format := p.format } else q
  else old ++ [p]

/-- The last profile of a name has the last word. -/
theorem updated_cons :
    updated (p :: new) q =
      updated new (if q.isStoredAs p.name then { q with format := p.format } else q) := by
  rw [updated, List.reverse_cons, List.find?_append, isStoredAs_comm q p]
  cases hp : p.isStoredAs q.name <;>
    cases hnew : new.reverse.find? (·.isStoredAs q.name) <;> simp [updated, hp, hnew]

@[simp] theorem isStoredAs_updated (p : Profile) (n : String) :
    (updated new p).isStoredAs n = p.isStoredAs n := by
  rw [updated]
  cases new.reverse.find? (·.isStoredAs p.name) <;> rfl

@[simp] theorem updated_name (p : Profile) : (updated new p).name = p.name := by
  rw [updated]
  cases new.reverse.find? (·.isStoredAs p.name) <;> rfl

/-- Only the names of the old profiles matter for what is new. -/
theorem firsts_congr {old' : List Profile} (h : old.map name = old'.map name) :
    firsts old new = firsts old' new := by
  induction new generalizing old old' with
  | nil => rfl
  | cons p new ih =>
    have hamong : isAmong old p.name = isAmong old' p.name := by
      have hany (l : List Profile) :
          isAmong l p.name = (l.map name).any (Text.sameKey · p.name) := by
        rw [List.any_map]
        rfl
      rw [hany, hany, h]
    have happend : (old ++ [p]).map name = (old' ++ [p]).map name := by
      rw [List.map_append, List.map_append, h]
    rw [firsts, firsts, hamong, ih h, ih happend]

theorem mem_of_mem_firsts (hp : p ∈ firsts old new) : p ∈ new := by
  induction new generalizing old with
  | nil => cases hp
  | cons r new ih =>
    rw [firsts] at hp
    split at hp
    · exact List.mem_cons_of_mem r (ih hp)
    · rcases List.mem_cons.1 hp with rfl | hp
      · exact List.mem_cons_self
      · exact List.mem_cons_of_mem r (ih hp)

/-- Every name is that of an old profile or of a new one. -/
theorem name_mem_of_mem_laidOver (hp : p ∈ laidOver old new) :
    p.name ∈ old.map name ++ new.map name := by
  obtain ⟨q, hq, rfl⟩ := List.mem_map.1 hp
  rw [updated_name]
  rcases List.mem_append.1 hq with hq | hq
  · exact List.mem_append_left _ (List.mem_map_of_mem hq)
  · exact List.mem_append_right _ (List.mem_map_of_mem (mem_of_mem_firsts hq))

/-- New profiles are not named like old ones. -/
theorem not_isStoredAs_of_mem_firsts (hp : p ∈ firsts old new) (hq : q ∈ old) :
    ¬ p.isStoredAs q.name := by
  induction new generalizing old with
  | nil => cases hp
  | cons r new ih =>
    rw [firsts] at hp
    split at hp
    · exact ih hp hq
    · rename_i hr
      rcases List.mem_cons.1 hp with rfl | hp
      · intro hnamed
        exact hr (List.any_eq_true.2 ⟨q, hq, (isStoredAs_comm q p).trans hnamed⟩)
      · exact ih hp (List.mem_append_left _ hq)

/-- Every new profile is found under its name. -/
theorem exists_isStoredAs_of_mem (old : List Profile) (hp : p ∈ new) :
    ∃ q ∈ laidOver old new, q.isStoredAs p.name := by
  have hfirst : ∃ q ∈ old ++ firsts old new, q.isStoredAs p.name := by
    induction new generalizing old with
    | nil => cases hp
    | cons r new ih =>
      rw [firsts]
      split
      · rename_i hr
        rcases List.mem_cons.1 hp with rfl | hp
        · obtain ⟨q, hq, hnamed⟩ := List.any_eq_true.1 hr
          exact ⟨q, List.mem_append_left _ hq, hnamed⟩
        · exact ih old hp
      · rcases List.mem_cons.1 hp with rfl | hp
        · exact ⟨p, List.mem_append_right _ List.mem_cons_self, p.isStoredAs_self⟩
        · obtain ⟨q, hq, hnamed⟩ := ih (old ++ [r]) hp
          exact ⟨q, by simpa using hq, hnamed⟩
  obtain ⟨q, hq, hnamed⟩ := hfirst
  exact ⟨updated new q, List.mem_map_of_mem hq, by rw [isStoredAs_updated, hnamed]⟩

/-- Laying profiles over others is writing the first of them and laying the rest over
    that. -/
theorem laidOver_cons : laidOver old (p :: new) = laidOver (put old p) new := by
  have hfirsts {old : List Profile} (h : ∀ q ∈ firsts old new, ¬ q.isStoredAs p.name) :
      (firsts old new).map (updated (p :: new)) = (firsts old new).map (updated new) := by
    refine List.map_congr_left fun q hq => ?_
    rw [updated_cons, if_neg (h q hq)]
  rw [laidOver, laidOver, firsts, put]
  split
  -- The name is in use: the profile that has it gets the format, and none is added.
  · rename_i hp
    obtain ⟨r, hr, hnamed⟩ := List.any_eq_true.1 hp
    -- A format does not count for what is new, only names do.
    have hnames : (old.map fun q => if q.isStoredAs p.name then { q with format := p.format }
        else q).map name = old.map name := by
      rw [List.map_map]
      refine List.map_congr_left fun q _ => ?_
      by_cases hq : q.isStoredAs p.name <;> simp [hq]
    rw [firsts_congr hnames, List.map_append, List.map_append, List.map_map]
    congr 1
    · exact List.map_congr_left fun q _ => updated_cons
    · refine hfirsts fun q hq hqp => not_isStoredAs_of_mem_firsts hq hr ?_
      rw [isStoredAs_congr hqp, isStoredAs_comm, hnamed]
  -- The name is new: the profile goes to the end, and its format may still change.
  · rename_i hp
    have hold : ∀ q ∈ old, ¬ q.isStoredAs p.name := fun q hq hnamed =>
      hp (List.any_eq_true.2 ⟨q, hq, hnamed⟩)
    have hself : updated (p :: new) p = updated new p := by
      rw [updated_cons, if_pos p.isStoredAs_self]
    rw [List.map_append, List.map_append, List.map_append, List.map_cons, hself,
      hfirsts fun q hq => not_isStoredAs_of_mem_firsts hq (by simp)]
    have hkept : old.map (updated (p :: new)) = old.map (updated new) :=
      List.map_congr_left fun q hq => by rw [updated_cons, if_neg (hold q hq)]
    rw [hkept]
    simp

/-- Profiles of names that are all in use have nothing new among them. -/
theorem firsts_eq_nil (h : ∀ p ∈ new, isAmong old p.name) : firsts old new = [] := by
  induction new with
  | nil => rfl
  | cons p new ih =>
    obtain ⟨hp, hnew⟩ := List.forall_mem_cons.1 h
    rw [firsts, if_pos hp, ih hnew]

theorem updated_updated (p : Profile) : updated new (updated new p) = updated new p := by
  rw [updated.eq_def new (updated new p), updated.eq_def new p]
  cases hnew : new.reverse.find? (·.isStoredAs p.name) with
  | none => simp only [hnew]
  | some q => simp only [hnew]

/-- Profiles that have been laid over others are laid over them again without effect. -/
theorem laidOver_laidOver : laidOver (laidOver old new) new = laidOver old new := by
  have hamong : ∀ p ∈ new, isAmong (laidOver old new) p.name := fun p hp =>
    List.any_eq_true.2 (exists_isStoredAs_of_mem old hp)
  rw [laidOver.eq_def (laidOver old new), firsts_eq_nil hamong, List.append_nil, laidOver,
    List.map_map]
  exact List.map_congr_left fun p _ => updated_updated p

/-- Writing profiles one after the other lays them over those that are there. -/
theorem foldl_put : new.foldl put old = laidOver old new := by
  induction new generalizing old with
  | nil =>
    have hid : updated [] = id := rfl
    rw [laidOver, hid, firsts, List.append_nil, List.map_id, List.foldl_nil]
  | cons p new ih => rw [List.foldl_cons, ih, laidOver_cons]

end HandStudy.Profile
