import HandStudy.Proofs.Keyed
import HandStudy.Proofs.Store.Run
import Mathlib.Data.List.Pairwise

/-!
# Sound contents

The contents of a store that was only initialised and imported into are sound
(`Store.sound_run`): every table is in the order of its keys, with one row for each;
stored profiles have names of their own and are understood; and every link to a profile
leads to one.
-/

namespace HandStudy

namespace LinkKey

variable {τ : Type} [LT τ]

theorem lt_iff {a b : LinkKey τ} :
    a < b ↔ a.source < b.source ∨ a.source = b.source ∧ a.target < b.target := Iff.rfl

instance [IsStrictTotalOrder τ (· < ·)] : IsStrictTotalOrder (LinkKey τ) (· < ·) :=
  isStrictTotalOrder_lex fun a b hsource htarget => by
    obtain ⟨s, t⟩ := a
    obtain rfl := hsource
    obtain rfl := htarget
    rfl

end LinkKey

namespace Contents

variable {c : Contents}

/-- Is every stored profile understood? -/
def Understood (c : Contents) : Prop :=
  ∀ q ∈ c.profiles, ∃ p, q = .ofProfile q.id p

theorem Understood.addProfile (h : c.Understood) (p : Profile) : (c.addProfile p).Understood := by
  intro q hq
  rcases List.mem_append.1 hq with hq | hq
  · exact h q hq
  · obtain rfl := List.mem_singleton.1 hq
    exact ⟨p, rfl⟩

theorem Understood.ensureProfile (h : c.Understood) (p : Profile) :
    (c.ensureProfile p).Understood := by
  rw [Contents.ensureProfile]
  split
  · exact h
  · exact h.addProfile p

/-- What is written is understood. -/
theorem Understood.lay (h : c.Understood) (e : Entry) : (c.lay e).Understood := by
  cases e with
  | profile p =>
    rw [Contents.lay, putProfile_eq]
    split
    · intro q hq
      obtain ⟨r, hr, rfl⟩ := List.mem_map.1 hq
      rw [StoredProfile.reformat]
      split
      · exact ⟨⟨r.name, p.format⟩, rfl⟩
      · exact h r hr
    · exact h.addProfile p
  | spotProfile l =>
    rw [Contents.lay, linkProfile]
    split <;> exact h
  | _ => exact h

/-- All tables are in order, and profiles are in a state to be linked to and loaded. -/
structure Sound (c : Contents) : Prop where
  documents : Keyed.Sorted Document.id c.documents
  tags : Keyed.Sorted Tag.id c.tags
  tagDocuments : Keyed.Sorted TagDocument.key c.tagDocuments
  tagRules : Keyed.Sorted TagRule.id c.tagRules
  spots : Keyed.Sorted Spot.id c.spots
  spotRules : Keyed.Sorted StoredCondition.id c.spotRules
  spotDocuments : Keyed.Sorted SpotDocument.key c.spotDocuments
  profiles : Keyed.Sorted StoredProfile.id c.profiles
  spotProfiles : Keyed.Sorted (fun k => k) c.spotProfiles
  /-- Profiles have names of their own. -/
  distinct : c.profiles.Pairwise fun q r => ¬ q.isNamed r.name
  understood : c.Understood
  /-- Links lead to profiles. -/
  linked : ∀ k ∈ c.spotProfiles, ∃ q ∈ c.profiles, q.id = k.target

/-- A profile that answers to a name is the one that is found under it. -/
theorem Sound.profile?_eq_some (h : c.Sound) {q : StoredProfile} (hq : q ∈ c.profiles) {n : String}
    (hn : q.isNamed n) : c.profile? n = some q := by
  cases hr : c.profile? n with
  | none =>
    rw [profile?, List.find?_eq_none] at hr
    exact absurd hn (hr q hq)
  | some r =>
    -- Both answer to the name, and two rows never do.
    have hsymm : Std.Symm fun q r : StoredProfile => ¬ q.isNamed r.name := by
      refine ⟨fun q r hqr hrq => hqr ?_⟩
      rw [StoredProfile.isNamed, Text.sameKey_comm]
      exact hrq
    have hrq : r.isNamed q.name := by
      rw [StoredProfile.isNamed, Text.sameKey_congr (isNamed_of_profile? hr),
        Text.sameKey_comm]
      exact hn
    by_contra hne
    exact h.distinct.forall (mem_of_profile? hr) hq (fun e => hne (e ▸ rfl)) hrq

/-- The next id is beyond those in use. -/
theorem id_lt_nextProfileId (h : Keyed.Sorted StoredProfile.id c.profiles) {q : StoredProfile}
    (hq : q ∈ c.profiles) : q.id < c.nextProfileId := by
  rw [nextProfileId]
  cases hlast : c.profiles.getLast? with
  | none =>
    rw [List.getLast?_eq_none_iff.1 hlast] at hq
    cases hq
  | some r =>
    obtain ⟨rows, hrows⟩ := List.getLast?_eq_some_iff.1 hlast
    rw [hrows] at hq
    rw [Keyed.Sorted, hrows, List.pairwise_append] at h
    rcases List.mem_append.1 hq with hq | hq
    · exact Nat.lt_succ_of_lt (h.2.2 q hq r (List.mem_singleton_self r))
    · rw [List.mem_singleton.1 hq]
      exact Nat.lt_succ_self r.id

theorem Sound.addProfile {p : Profile} (h : c.Sound) (hp : ¬ (c.profile? p.name).isSome) :
    (c.addProfile p).Sound := by
  have hnew : ∀ q ∈ c.profiles, ¬ q.isNamed p.name := by
    simpa [profile?] using hp
  refine { h with
    profiles := ?_, distinct := ?_, understood := h.understood.addProfile p, linked := ?_ }
  · refine List.pairwise_append.2 ⟨h.profiles, List.pairwise_singleton .., fun q hq r hr => ?_⟩
    rw [List.mem_singleton.1 hr]
    exact id_lt_nextProfileId h.profiles hq
  · refine List.pairwise_append.2 ⟨h.distinct, List.pairwise_singleton .., fun q hq r hr => ?_⟩
    rw [List.mem_singleton.1 hr]
    exact hnew q hq
  · intro k hk
    obtain ⟨q, hq, hqk⟩ := h.linked k hk
    exact ⟨q, List.mem_append_left _ hq, hqk⟩

theorem Sound.ensureProfile (h : c.Sound) (p : Profile) : (c.ensureProfile p).Sound := by
  rw [Contents.ensureProfile]
  split
  · exact h
  · rename_i hp
    exact h.addProfile hp

theorem Sound.putProfile (h : c.Sound) (p : Profile) : (c.putProfile p).Sound := by
  have hunderstood : (c.putProfile p).Understood := h.understood.lay (.profile p)
  rw [putProfile_eq] at hunderstood ⊢
  split
  · rename_i hp
    rw [if_pos hp] at hunderstood
    -- Ids and names stay, and with them all that is asked of the rows.
    refine { h with profiles := ?_, distinct := ?_, understood := hunderstood, linked := ?_ }
    · exact h.profiles.map (StoredProfile.reformat_id p)
    · refine List.pairwise_map.2 ?_
      simpa using h.distinct
    · intro k hk
      obtain ⟨q, hq, hqk⟩ := h.linked k hk
      exact ⟨_, List.mem_map_of_mem hq, (q.reformat_id p).trans hqk⟩
  · rename_i hp
    exact h.addProfile hp

theorem Sound.linkProfile (h : c.Sound) (l : SpotProfile) : (c.linkProfile l).Sound := by
  rw [Contents.linkProfile]
  split
  · exact h
  · rename_i q hq
    refine { h with spotProfiles := h.spotProfiles.put _, linked := fun k hk => ?_ }
    by_cases hkq : k = ⟨l.spot, q.id⟩
    · exact ⟨q, mem_of_profile? hq, by rw [hkq]⟩
    · exact h.linked k ((Keyed.mem_put_of_ne hkq).1 hk)

/-- Whatever is written keeps contents sound. -/
theorem Sound.lay (h : c.Sound) (e : Entry) : (c.lay e).Sound := by
  cases e with
  | document d => exact { h with documents := h.documents.put d }
  | tag t => exact { h with tags := h.tags.put t }
  | tagDocument l => exact { h with tagDocuments := h.tagDocuments.put l }
  | tagRule r => exact { h with tagRules := h.tagRules.put r.stored }
  | spot s => exact { h with spots := h.spots.put s }
  | spotRule r => exact { h with spotRules := h.spotRules.put (.ofRule r) }
  | spotDocument l => exact { h with spotDocuments := h.spotDocuments.put l }
  | profile p => exact h.putProfile p
  | spotProfile l => exact h.linkProfile l

end Contents

/-- Contents stay sound through any run. -/
theorem Contents.Sound.run {s : Store} (h : s.contents.Sound) (steps : List StoreStep) :
    (s.run steps).contents.Sound :=
  Store.run_induction (fun _ p h => h.ensureProfile p) (fun _ e h _ => h.lay e) h steps

/-- After any run on a new store its contents are sound. -/
theorem Store.sound_run (steps : List StoreStep) : (Store.run {} steps).contents.Sound := by
  refine Contents.Sound.run ?_ steps
  constructor <;> first | exact List.Pairwise.nil | exact nofun

end HandStudy
