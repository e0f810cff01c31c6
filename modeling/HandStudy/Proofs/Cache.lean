import HandStudy.Cache
import Mathlib.Data.List.Basic
import Mathlib.Data.List.Induction

/-!
# What a cache answers

The invalidations divide a run of steps into epochs. Of the loads of one library through
the cache in an epoch, those at which the origin is down fail, up to the first at which it is
up (`CacheStep.FirstLoaded`): until then each asks the origin (`CacheStep.NotLoaded`), and from
then on the contents of the origin at that moment are what is answered, whatever becomes of the
origin (`CachedSource.kept_after`). The two libraries have nothing to do with each other: a run
without the requests for one of them is the same run as far as the other is concerned
(`CachedSource.agreeOn_after`).
-/

namespace HandStudy

/-! ## One library at a time -/

/-- The type of a library. -/
def LibraryKind.Library : LibraryKind → Type
  | .tags => TagLibrary
  | .spots => SpotLibrary

/-- One of the libraries of a snapshot. -/
def Snapshot.library (x : Snapshot) : (k : LibraryKind) → k.Library
  | .tags => x.tagLibrary
  | .spots => x.spotLibrary

/-- Any library is that of a snapshot. -/
theorem Snapshot.exists_library_eq {k : LibraryKind} (l : k.Library) :
    ∃ x : Snapshot, x.library k = l := by
  cases k with
  | tags =>
    let l : TagLibrary := l
    exact ⟨{ documents := l.documents, tags := l.tags, tagRules := l.rules,
             tagDocuments := l.links }, rfl⟩
  | spots =>
    let l : SpotLibrary := l
    exact ⟨{ documents := l.documents, spots := l.spots, spotRules := l.rules,
             spotDocuments := l.links, profiles := l.profiles,
             spotProfiles := l.profileLinks }, rfl⟩

/-- What a cache keeps of one library. -/
def Cache.kept (c : Cache) : (k : LibraryKind) → Option k.Library
  | .tags => c.tags
  | .spots => c.spots

/-- What a fetch of one library from the origin gives, if it gives anything. -/
def Origin.library? (o : Origin) (k : LibraryKind) : Option k.Library :=
  if o.failure k = none then some (o.contents.library k) else none

/-- The number of fetches of one library. -/
def CachedSource.fetches (c : CachedSource) : LibraryKind → Nat
  | .tags => c.tagFetches
  | .spots => c.spotFetches

namespace CacheStep

/-- Does the step concern this library? All do but the requests for the other one. -/
def concerns (k : LibraryKind) : CacheStep → Bool
  | .ask _ r => r.kind = k
  | _ => true

/-- Does the step load this library through the cache? -/
def loads (k : LibraryKind) : CacheStep → Bool
  | .ask false r => r.kind = k
  | _ => false

theorem exists_request_of_loads {k : LibraryKind} {s : CacheStep} (h : s.loads k) :
    ∃ r, s = .ask false r ∧ r.kind = k := by
  cases s with
  | ask direct r =>
    cases direct with
    | true => exact absurd h Bool.false_ne_true
    | false => exact ⟨r, rfl, of_decide_eq_true h⟩
  | edit | setFailure | invalidate => exact absurd h Bool.false_ne_true

theorem not_loads_invalidate (k : LibraryKind) : ¬ invalidate.loads k :=
  Bool.false_ne_true

end CacheStep

/-- A source that answers up to one of its libraries answers what the origin does. -/
theorem Origin.source_answer_of_up [Dialect] {o : Origin} {r : Request} (h : o.failure r.kind = none) :
    o.source.answer r = o.contents.source.answer r := by
  cases r with
  | tags r =>
    have htags : o.failure .tags = none := h
    simp only [Source.answer, source, htags, Snapshot.source]
  | spots r =>
    have hspots : o.failure .spots = none := h
    simp only [Source.answer, source, hspots, Snapshot.source]

namespace CachedSource

variable [Dialect] {c c' : CachedSource} {k : LibraryKind} {r : Request} {s : CacheStep}

/-! ## Requests through the cache -/

/-- What is kept is answered, and nothing changes. -/
theorem ask_of_kept {x : Snapshot} (h : c.cache.kept r.kind = some (x.library r.kind)) :
    c.ask false r = (x.source.answer r, c) := by
  cases r with
  | tags r =>
    have htags : c.cache.tags = some x.tagLibrary := h
    simp only [ask, loadTags, htags, Source.answer, Snapshot.source, Bool.false_eq_true, if_false]
  | spots r =>
    have hspots : c.cache.spots = some x.spotLibrary := h
    simp only [ask, loadSpots, hspots, Source.answer, Snapshot.source, Bool.false_eq_true,
      if_false]

/-- Where nothing is kept the origin is asked, and what it gives is kept. -/
theorem ask_of_not_kept (h : c.cache.kept r.kind = none) :
    (c.ask false r).1 = c.origin.source.answer r ∧
      (c.ask false r).2.fetches r.kind = c.fetches r.kind + 1 ∧
      (c.ask false r).2.cache.kept r.kind = c.origin.library? r.kind ∧
      (c.origin.failure r.kind ≠ none → (c.ask false r).2.cache = c.cache) := by
  cases r with
  | tags r =>
    have htags : c.cache.tags = none := h
    cases hf : c.origin.failure .tags with
    | none =>
      simp only [ask, loadTags, fetchTags, htags, Source.answer, Origin.source, Request.kind, hf,
        Origin.library?, Bool.false_eq_true, if_false]
      exact ⟨trivial, rfl, rfl, fun hup => absurd rfl hup⟩
    | some reason =>
      simp only [ask, loadTags, fetchTags, htags, Source.answer, Origin.source, Request.kind, hf,
        Origin.library?, Bool.false_eq_true, if_false]
      exact ⟨trivial, rfl, htags, fun _ => trivial⟩
  | spots r =>
    have hspots : c.cache.spots = none := h
    cases hf : c.origin.failure .spots with
    | none =>
      simp only [ask, loadSpots, fetchSpots, hspots, Source.answer, Origin.source, Request.kind, hf,
        Origin.library?, Bool.false_eq_true, if_false]
      exact ⟨trivial, rfl, rfl, fun hup => absurd rfl hup⟩
    | some reason =>
      simp only [ask, loadSpots, fetchSpots, hspots, Source.answer, Origin.source, Request.kind, hf,
        Origin.library?, Bool.false_eq_true, if_false]
      exact ⟨trivial, rfl, hspots, fun _ => trivial⟩

/-- Whatever is kept is answered, and nothing changes. -/
theorem ask_eq_self_of_kept {l : r.kind.Library} (h : c.cache.kept r.kind = some l) :
    (c.ask false r).2 = c := by
  obtain ⟨x, rfl⟩ := Snapshot.exists_library_eq l
  rw [ask_of_kept h]

/-- A load through the cache keeps what was kept, or else what the origin gives. -/
theorem kept_ask : (c.ask false r).2.cache.kept r.kind =
    (c.cache.kept r.kind).or (c.origin.library? r.kind) := by
  cases h : c.cache.kept r.kind with
  | none => rw [(ask_of_not_kept h).2.2.1, Option.none_or]
  | some l => rw [ask_eq_self_of_kept h, h, Option.some_or]

/-! ## Each library by itself -/

/-- Two cached sources are the same as far as one library is concerned. -/
structure AgreeOn (k : LibraryKind) (c c' : CachedSource) : Prop where
  origin : c.origin = c'.origin
  kept : c.cache.kept k = c'.cache.kept k
  fetches : c.fetches k = c'.fetches k

omit [Dialect] in
theorem AgreeOn.refl (k : LibraryKind) (c : CachedSource) : AgreeOn k c c :=
  ⟨rfl, rfl, rfl⟩

omit [Dialect] in
theorem AgreeOn.trans {c'' : CachedSource} (h : AgreeOn k c c') (h' : AgreeOn k c' c'') :
    AgreeOn k c c'' :=
  ⟨h.origin.trans h'.origin, h.kept.trans h'.kept, h.fetches.trans h'.fetches⟩

/-- A request for one library leaves the other one alone. -/
theorem agreeOn_ask (direct : Bool) (hr : r.kind ≠ k) : AgreeOn k (c.ask direct r).2 c := by
  cases r with
  | tags r =>
    obtain rfl : k = .spots := by
      cases k
      · exact absurd rfl hr
      · rfl
    cases direct with
    | true => exact ⟨rfl, rfl, rfl⟩
    | false =>
      simp only [ask, loadTags, fetchTags, Bool.false_eq_true, if_false]
      cases c.cache.tags with
      | some l => exact .refl _ c
      | none => cases c.origin.source.tags <;> exact ⟨rfl, rfl, rfl⟩
  | spots r =>
    obtain rfl : k = .tags := by
      cases k
      · rfl
      · exact absurd rfl hr
    cases direct with
    | true => exact ⟨rfl, rfl, rfl⟩
    | false =>
      simp only [ask, loadSpots, fetchSpots, Bool.false_eq_true, if_false]
      cases c.cache.spots with
      | some l => exact .refl _ c
      | none => cases c.origin.source.spots <;> exact ⟨rfl, rfl, rfl⟩

/-- What agrees on a library answers requests for it alike, and agrees on it afterwards. -/
theorem AgreeOn.ask (h : AgreeOn r.kind c c') (direct : Bool) :
    (c.ask direct r).1 = (c'.ask direct r).1 ∧
      AgreeOn r.kind (c.ask direct r).2 (c'.ask direct r).2 := by
  obtain ⟨origin, ⟨tags, spots⟩, tagFetches, spotFetches⟩ := c
  obtain ⟨origin', ⟨tags', spots'⟩, tagFetches', spotFetches'⟩ := c'
  obtain ⟨horigin, hkept, hfetches⟩ := h
  obtain rfl : origin = origin' := horigin
  cases r with
  | tags r =>
    obtain rfl : tags = tags' := hkept
    obtain rfl : tagFetches = tagFetches' := hfetches
    cases direct with
    | true => exact ⟨rfl, rfl, rfl, rfl⟩
    | false =>
      simp only [CachedSource.ask, loadTags, fetchTags, Bool.false_eq_true, if_false]
      cases tags with
      | some l => exact ⟨rfl, rfl, rfl, rfl⟩
      | none => cases origin.source.tags <;> exact ⟨rfl, rfl, rfl, rfl⟩
  | spots r =>
    obtain rfl : spots = spots' := hkept
    obtain rfl : spotFetches = spotFetches' := hfetches
    cases direct with
    | true => exact ⟨rfl, rfl, rfl, rfl⟩
    | false =>
      simp only [CachedSource.ask, loadSpots, fetchSpots, Bool.false_eq_true, if_false]
      cases spots with
      | some l => exact ⟨rfl, rfl, rfl, rfl⟩
      | none => cases origin.source.spots <;> exact ⟨rfl, rfl, rfl, rfl⟩

/-- The cached source after several steps. -/
def after (c : CachedSource) (steps : List CacheStep) : CachedSource :=
  steps.foldl (fun c s => (c.step s).2) c

theorem after_concat (c : CachedSource) (steps : List CacheStep) (s : CacheStep) :
    c.after (steps ++ [s]) = ((c.after steps).step s).2 := by
  rw [after, after, List.foldl_append, List.foldl_cons, List.foldl_nil]

theorem agreeOn_step (hs : ¬ s.concerns k) : AgreeOn k (c.step s).2 c := by
  cases s with
  | ask direct r =>
    have hr : r.kind ≠ k := by simpa [CacheStep.concerns] using hs
    exact agreeOn_ask direct hr
  | edit | setFailure | invalidate => exact absurd rfl hs

theorem AgreeOn.step (h : AgreeOn k c c') (hs : s.concerns k) :
    AgreeOn k (c.step s).2 (c'.step s).2 := by
  cases s with
  | edit contents =>
    exact ⟨congrArg (fun o : Origin => { o with contents := contents }) h.origin, h.kept, h.fetches⟩
  | setFailure reason kinds =>
    refine ⟨?_, h.kept, h.fetches⟩
    simp only [CachedSource.step, h.origin]
  | invalidate => exact ⟨h.origin, by cases k <;> rfl, h.fetches⟩
  | ask direct r =>
    obtain rfl : r.kind = k := by simpa [CacheStep.concerns] using hs
    exact (h.ask direct).2

/-- As far as one library is concerned the requests for the other might not have been. -/
theorem agreeOn_after (k : LibraryKind) (c : CachedSource) (steps : List CacheStep) :
    AgreeOn k (c.after steps) (c.after (steps.filter (·.concerns k))) := by
  -- The runs with and without these requests go through different states that agree.
  have hrun {c c' : CachedSource} (h : AgreeOn k c c') :
      AgreeOn k (c.after steps) (c'.after (steps.filter (·.concerns k))) := by
    induction steps generalizing c c' with
    | nil => exact h
    | cons s steps ih =>
      by_cases hs : s.concerns k
      · rw [List.filter_cons_of_pos hs]
        exact ih (h.step hs)
      · rw [List.filter_cons_of_neg hs]
        exact ih ((agreeOn_step hs).trans h)
  exact hrun (.refl k c)

/-- Only requests for a library fetch it. -/
theorem fetches_step_of_not_asked (hs : ∀ direct r, s = .ask direct r → r.kind ≠ k) :
    (c.step s).2.fetches k = c.fetches k := by
  cases s with
  | ask direct r => exact (agreeOn_ask direct (hs direct r rfl)).fetches
  | edit | setFailure | invalidate => cases k <;> rfl

end CachedSource

/-! ## Epochs -/

namespace Origin

/-- The origin after a step: only changes of the origin itself count. -/
def step (o : Origin) : CacheStep → Origin
  | .edit contents => { o with contents }
  | .setFailure reason kinds =>
    { o with failure := fun k => if k ∈ kinds then reason else o.failure k }
  | .invalidate | .ask .. => o

/-- The origin after several steps. -/
def after (o : Origin) (steps : List CacheStep) : Origin :=
  steps.foldl step o

end Origin

theorem CachedSource.origin_step [Dialect] (c : CachedSource) (s : CacheStep) :
    (c.step s).2.origin = c.origin.step s := by
  cases s with
  | ask direct r =>
    cases hr : r.kind with
    | tags => exact (agreeOn_ask (k := .spots) direct (by simp [hr])).origin
    | spots => exact (agreeOn_ask (k := .tags) direct (by simp [hr])).origin
  | edit | setFailure | invalidate => rfl

theorem CachedSource.origin_after [Dialect] (c : CachedSource) (steps : List CacheStep) :
    (c.after steps).origin = c.origin.after steps := by
  induction steps generalizing c with
  | nil => rfl
  | cons s steps ih =>
    have hsteps : ((c.step s).2.after steps).origin = (c.step s).2.origin.after steps := ih _
    rw [c.origin_step s] at hsteps
    exact hsteps

namespace CacheStep

variable {o : Origin} {k : LibraryKind} {past : List CacheStep} {s : CacheStep} {x : Snapshot}

/-- Every load of the library since the last invalidation has found the origin down. -/
def NotLoaded (o : Origin) (k : LibraryKind) (past : List CacheStep) : Prop :=
  ∀ earlier s later, past = earlier ++ s :: later → s.loads k → .invalidate ∉ later →
    (o.after earlier).failure k ≠ none

/-- The first load of the library since the last invalidation that has found the origin up
    has found these contents there. -/
def FirstLoaded (o : Origin) (k : LibraryKind) (past : List CacheStep) (x : Snapshot) : Prop :=
  ∃ earlier s later, past = earlier ++ s :: later ∧ s.loads k ∧ .invalidate ∉ later ∧
    NotLoaded o k earlier ∧ (o.after earlier).failure k = none ∧ (o.after earlier).contents = x

/-- A place in a run with one more step is the last one or one before. -/
theorem concat_eq_append_cons_iff {earlier later : List CacheStep} {load : CacheStep} :
    past ++ [s] = earlier ++ load :: later ↔
      (past = earlier ∧ s = load ∧ later = []) ∨
        ∃ between, past = earlier ++ load :: between ∧ later = between ++ [s] := by
  rcases List.eq_nil_or_concat' later with rfl | ⟨between, last, rfl⟩
  · simp [List.append_singleton_inj]
  · rw [← List.cons_append, ← List.append_assoc, List.append_singleton_inj]
    constructor
    · rintro ⟨hpast, rfl⟩
      exact .inr ⟨between, hpast, rfl⟩
    · rintro (⟨-, -, hnil⟩ | ⟨between', hpast, hlater⟩)
      · simp at hnil
      · obtain ⟨rfl, rfl⟩ := List.append_singleton_inj.1 hlater
        exact ⟨hpast, rfl⟩

theorem notLoaded_nil (o : Origin) (k : LibraryKind) : NotLoaded o k [] := by
  intro earlier s later hpast
  simp at hpast

theorem notLoaded_concat :
    NotLoaded o k (past ++ [s]) ↔
      s = .invalidate ∨ NotLoaded o k past ∧ (s.loads k → (o.after past).failure k ≠ none) := by
  constructor
  · intro h
    by_cases hs : s = .invalidate
    · exact .inl hs
    · refine .inr ⟨fun earlier load later hpast hload hlater => ?_, fun hload => ?_⟩
      · refine h earlier load (later ++ [s]) ?_ hload ?_
        · rw [hpast, List.append_assoc, List.cons_append]
        · simpa [hlater] using Ne.symm hs
      · exact h past s [] rfl hload List.not_mem_nil
  · rintro h earlier load later hpast hload hlater
    rcases concat_eq_append_cons_iff.1 hpast with ⟨rfl, rfl, rfl⟩ | ⟨between, hbefore, rfl⟩
    · rcases h with rfl | ⟨-, h⟩
      · exact absurd hload (not_loads_invalidate k)
      · exact h hload
    · rcases h with rfl | ⟨h, -⟩
      · exact absurd (List.mem_append_right _ (List.mem_singleton_self _)) hlater
      · exact h earlier load between hbefore hload fun hmem => hlater (List.mem_append_left _ hmem)

theorem firstLoaded_concat :
    FirstLoaded o k (past ++ [s]) x ↔
      s ≠ .invalidate ∧ (FirstLoaded o k past x ∨
        s.loads k ∧ NotLoaded o k past ∧ (o.after past).failure k = none ∧
          (o.after past).contents = x) := by
  constructor
  · rintro ⟨earlier, load, later, hpast, hload, hlater, hfirst⟩
    rcases concat_eq_append_cons_iff.1 hpast with ⟨rfl, rfl, rfl⟩ | ⟨between, hbefore, rfl⟩
    · refine ⟨?_, .inr ⟨hload, hfirst⟩⟩
      rintro rfl
      exact not_loads_invalidate k hload
    · refine ⟨?_, .inl ⟨earlier, load, between, hbefore, hload, ?_, hfirst⟩⟩
      · rintro rfl
        exact hlater (List.mem_append_right _ (List.mem_singleton_self _))
      · exact fun hmem => hlater (List.mem_append_left _ hmem)
  · rintro ⟨hs, ⟨earlier, load, later, hpast, hload, hlater, hfirst⟩ | ⟨hload, hfirst⟩⟩
    · refine ⟨earlier, load, later ++ [s], ?_, hload, ?_, hfirst⟩
      · rw [hpast, List.append_assoc, List.cons_append]
      · simpa [hlater] using Ne.symm hs
    · exact ⟨past, s, [], rfl, hload, List.not_mem_nil, hfirst⟩

/-- A load that has succeeded is one that has found the origin up. -/
theorem FirstLoaded.not_notLoaded (h : FirstLoaded o k past x) : ¬ NotLoaded o k past := by
  obtain ⟨earlier, load, later, hpast, hload, hlater, -, hup, -⟩ := h
  exact fun hnot => hnot earlier load later hpast hload hlater hup

/-- A load has succeeded since the last invalidation, or none has. -/
theorem notLoaded_or_exists_firstLoaded (o : Origin) (k : LibraryKind) (past : List CacheStep) :
    NotLoaded o k past ∨ ∃ x, FirstLoaded o k past x := by
  induction past using List.reverseRecOn with
  | nil => exact .inl (notLoaded_nil o k)
  | append_singleton past s ih =>
    by_cases hs : s = .invalidate
    · exact .inl (notLoaded_concat.2 (.inl hs))
    · rcases ih with hnot | ⟨x, hx⟩
      · by_cases hload : s.loads k ∧ (o.after past).failure k = none
        · exact .inr ⟨_, firstLoaded_concat.2 ⟨hs, .inr ⟨hload.1, hnot, hload.2, rfl⟩⟩⟩
        · exact .inl (notLoaded_concat.2 (.inr ⟨hnot, fun hl hup => hload ⟨hl, hup⟩⟩))
      · exact .inr ⟨x, firstLoaded_concat.2 ⟨hs, .inl hx⟩⟩

end CacheStep

namespace CachedSource

open CacheStep

variable {o : Origin} {k : LibraryKind} {past : List CacheStep} {s : CacheStep} {x : Snapshot}

/-- An empty cache before an origin. -/
def empty (o : Origin) : CachedSource where
  origin := o

section

variable [Dialect]

theorem kept_step_of_not_loads {c : CachedSource} (hs : s ≠ .invalidate) (hload : ¬ s.loads k) :
    (c.step s).2.cache.kept k = c.cache.kept k := by
  cases s with
  | ask direct r =>
    by_cases hr : r.kind = k
    · cases direct with
      | true => cases r <;> rfl
      | false => exact absurd (decide_eq_true hr) hload
    · exact (agreeOn_ask direct hr).kept
  | edit | setFailure => rfl
  | invalidate => exact absurd rfl hs

/-- What is kept of a library is what the first load found that has succeeded since the last
    invalidation. -/
theorem kept_after (o : Origin) (k : LibraryKind) (past : List CacheStep) :
    (NotLoaded o k past → ((empty o).after past).cache.kept k = none) ∧
      ∀ x, FirstLoaded o k past x → ((empty o).after past).cache.kept k = some (x.library k) := by
  induction past using List.reverseRecOn with
  | nil =>
    refine ⟨fun _ => by cases k <;> rfl, fun x hx => ?_⟩
    exact absurd (notLoaded_nil o k) hx.not_notLoaded
  | append_singleton past s ih =>
    obtain ⟨hnone, hsome⟩ := ih
    have horigin : ((empty o).after past).origin = o.after past := (empty o).origin_after past
    rw [after_concat]
    by_cases hs : s = .invalidate
    · subst hs
      refine ⟨fun _ => by cases k <;> rfl, fun x hx => ?_⟩
      exact absurd rfl (firstLoaded_concat.1 hx).1
    by_cases hload : s.loads k
    -- A load keeps what is kept; where nothing is, what it finds if the origin is up.
    · obtain ⟨r, rfl, rfl⟩ := exists_request_of_loads hload
      have hkept : (((empty o).after past).step (.ask false r)).2.cache.kept r.kind =
          (((empty o).after past).cache.kept r.kind).or ((o.after past).library? r.kind) := by
        rw [← horigin]
        exact kept_ask
      rw [hkept]
      constructor
      · intro hnot
        obtain ⟨hnot, hdown⟩ := (notLoaded_concat.1 hnot).resolve_left hs
        rw [hnone hnot, Option.none_or, Origin.library?, if_neg (hdown hload)]
      · intro x hx
        rcases (firstLoaded_concat.1 hx).2 with hx | ⟨-, hnot, hup, hcontents⟩
        · rw [hsome x hx, Option.some_or]
        · rw [hnone hnot, Option.none_or, Origin.library?, if_pos hup, hcontents]
    · rw [kept_step_of_not_loads hs hload]
      constructor
      · intro hnot
        exact hnone ((notLoaded_concat.1 hnot).resolve_left hs).1
      · intro x hx
        exact hsome x ((firstLoaded_concat.1 hx).2.resolve_right fun h => hload h.1)

omit [Dialect] in
/-- In an epoch in which the contents of the origin stay the same, the first load that succeeds
    finds these contents. -/
theorem contents_of_firstLoaded {earlier epoch : List CacheStep} {y : Snapshot}
    (hfirst : FirstLoaded o k (earlier ++ epoch) y)
    (hstart : earlier = [] ∨ ∃ before, earlier = before ++ [.invalidate])
    (hsame : ∀ p, p <+: epoch → (o.after (earlier ++ p)).contents = x) : y = x := by
  obtain ⟨before, load, later, hsplit, hload, hlater, -, -, rfl⟩ := hfirst
  -- The load is in the epoch, as the invalidation that opens the epoch is not after it.
  have hbefore : ∃ p, before = earlier ++ p ∧ epoch = p ++ load :: later := by
    rcases List.append_eq_append_iff.1 hsplit with hp | ⟨q, hearlier, hq⟩
    · exact hp
    · rcases List.eq_nil_or_concat' q with rfl | ⟨q, last, rfl⟩
      · exact ⟨[], by simpa using hearlier.symm, hq.symm⟩
      · rcases hstart with rfl | ⟨start, rfl⟩
        · simp at hearlier
        · rw [← List.append_assoc, List.append_singleton_inj] at hearlier
          obtain ⟨-, rfl⟩ := hearlier
          rw [List.append_assoc] at hq
          cases q with
          | nil =>
            obtain ⟨rfl, -⟩ := List.cons.inj hq
            exact absurd hload (not_loads_invalidate k)
          | cons first q =>
            obtain ⟨-, rfl⟩ := List.cons.inj hq
            exact absurd (List.mem_append_right _ List.mem_cons_self) hlater
  obtain ⟨p, rfl, rfl⟩ := hbefore
  exact hsame p (List.prefix_append _ _)

/-- The number of loads of a library through the cache that ask the origin with success. -/
def successes (k : LibraryKind) (c : CachedSource) : List CacheStep → Nat
  | [] => 0
  | s :: steps =>
    (if s.loads k ∧ (c.step s).2.fetches k ≠ c.fetches k ∧ c.origin.failure k = none then 1
      else 0) + (c.step s).2.successes k steps

/-- Until it is invalidated the cache keeps what it has, and does not ask for it again. -/
theorem step_of_kept {c : CachedSource} {l : k.Library} (h : c.cache.kept k = some l)
    (hs : s ≠ .invalidate) :
    (c.step s).2.cache.kept k = some l ∧ (s.loads k → (c.step s).2.fetches k = c.fetches k) := by
  by_cases hload : s.loads k
  · obtain ⟨r, rfl, rfl⟩ := exists_request_of_loads hload
    have hself : (c.step (.ask false r)).2 = c := ask_eq_self_of_kept h
    rw [hself]
    exact ⟨h, fun _ => rfl⟩
  · exact ⟨(kept_step_of_not_loads hs hload).trans h, fun h => absurd h hload⟩

theorem successes_of_kept {c : CachedSource} {l : k.Library} (h : c.cache.kept k = some l)
    {epoch : List CacheStep} (hepoch : .invalidate ∉ epoch) : c.successes k epoch = 0 := by
  induction epoch generalizing c with
  | nil => rfl
  | cons s epoch ih =>
    obtain ⟨hs, hepoch⟩ := not_or.1 (mt List.mem_cons.2 hepoch)
    obtain ⟨hkept, hfetches⟩ := step_of_kept h (Ne.symm hs)
    rw [successes, ih hkept hepoch, if_neg fun hsuccess => hsuccess.2.1 (hfetches hsuccess.1)]

/-- In an epoch a library is fetched at most once with success. -/
theorem successes_le_one (k : LibraryKind) (c : CachedSource) {epoch : List CacheStep}
    (hepoch : .invalidate ∉ epoch) : c.successes k epoch ≤ 1 := by
  induction epoch generalizing c with
  | nil => exact Nat.zero_le 1
  | cons s epoch ih =>
    have hrest : .invalidate ∉ epoch := fun h => hepoch (List.mem_cons_of_mem _ h)
    rw [successes]
    split
    · rename_i hsuccess
      obtain ⟨hload, hfetched, hup⟩ := hsuccess
      obtain ⟨r, rfl, rfl⟩ := exists_request_of_loads hload
      -- What the origin gives is kept, so it is not asked again.
      have hnone : c.cache.kept r.kind = none := by
        cases h : c.cache.kept r.kind with
        | none => rfl
        | some l => exact absurd (congrArg (·.fetches r.kind) (ask_eq_self_of_kept h)) hfetched
      have hkept : (c.step (.ask false r)).2.cache.kept r.kind =
          some (c.origin.contents.library r.kind) := by
        rw [step]
        rw [(ask_of_not_kept hnone).2.2.1, Origin.library?, if_pos hup]
      exact Nat.le_of_eq (congrArg (1 + ·) (successes_of_kept hkept hrest))
    · rw [Nat.zero_add]
      exact ih _ hrest

/-- A cache answers from one snapshot of its origin in each epoch. A load is answered with the
    contents that the first load of this library found that has succeeded since the last
    invalidation; where there is none yet it asks the origin, and if that fails so does the
    load, and nothing is kept. The origin is asked at no other time, so with success at most
    once in an epoch, and the two libraries go their own ways. While the contents of the origin
    stay the same, they are what is answered. -/
theorem answers_of_epoch (o : Origin) (past : List CacheStep) :
    (∀ k, NotLoaded o k past ↔ ¬ ∃ x, FirstLoaded o k past x) ∧
    (∀ r x, FirstLoaded o r.kind past x →
      ((empty o).after past).ask false r = (x.source.answer r, (empty o).after past)) ∧
    (∀ r, NotLoaded o r.kind past →
      (((empty o).after past).ask false r).1 = (o.after past).source.answer r ∧
      (((empty o).after past).ask false r).2.fetches r.kind =
        ((empty o).after past).fetches r.kind + 1 ∧
      ((o.after past).failure r.kind ≠ none →
        (((empty o).after past).ask false r).2.cache = ((empty o).after past).cache ∧
          NotLoaded o r.kind (past ++ [.ask false r]))) ∧
    (∀ k s, (∀ direct r, s = .ask direct r → r.kind ≠ k) →
      (((empty o).after past).step s).2.fetches k = ((empty o).after past).fetches k) ∧
    (∀ k earlier epoch, past = earlier ++ epoch → .invalidate ∉ epoch →
      ((empty o).after earlier).successes k epoch ≤ 1) ∧
    (∀ r, AgreeOn r.kind ((empty o).after past)
        ((empty o).after (past.filter (·.concerns r.kind))) ∧
      (((empty o).after past).ask false r).1 =
        (((empty o).after (past.filter (·.concerns r.kind))).ask false r).1) ∧
    (∀ r x earlier epoch, past = earlier ++ epoch →
      (earlier = [] ∨ ∃ before, earlier = before ++ [.invalidate]) →
      (∀ p, p <+: epoch → (o.after (earlier ++ p)).contents = x) →
      (((empty o).after past).ask false r).1 = x.source.answer r ∨
        NotLoaded o r.kind past ∧ (o.after past).failure r.kind ≠ none ∧
          (((empty o).after past).ask false r).1 = (o.after past).source.answer r) := by
  have horigin : ((empty o).after past).origin = o.after past := (empty o).origin_after past
  have hfirst {r : Request} {x : Snapshot} (h : FirstLoaded o r.kind past x) :
      ((empty o).after past).ask false r = (x.source.answer r, (empty o).after past) :=
    ask_of_kept ((kept_after o r.kind past).2 x h)
  have hnot {r : Request} (h : NotLoaded o r.kind past) :=
    ask_of_not_kept ((kept_after o r.kind past).1 h)
  rw [horigin] at hnot
  refine ⟨fun k => ⟨fun h ⟨x, hx⟩ => hx.not_notLoaded h,
    (notLoaded_or_exists_firstLoaded o k past).resolve_right⟩, fun r x => hfirst, ?_,
    fun k s => fetches_step_of_not_asked, fun k earlier epoch _ => successes_le_one k _, ?_, ?_⟩
  · intro r h
    obtain ⟨hanswer, hfetches, -, hcache⟩ := hnot h
    refine ⟨hanswer, hfetches, fun hdown => ⟨hcache hdown, ?_⟩⟩
    exact notLoaded_concat.2 (.inr ⟨h, fun _ => hdown⟩)
  · intro r
    have hagree := agreeOn_after r.kind (empty o) past
    exact ⟨hagree, (hagree.ask false).1⟩
  · rintro r x earlier epoch rfl hstart hsame
    rcases notLoaded_or_exists_firstLoaded o r.kind (earlier ++ epoch) with h | ⟨y, hy⟩
    · obtain ⟨hanswer, -⟩ := hnot h
      by_cases hup : (o.after (earlier ++ epoch)).failure r.kind = none
      · left
        rw [hanswer, Origin.source_answer_of_up hup, hsame epoch List.prefix_rfl]
      · exact .inr ⟨h, hup, hanswer⟩
    · left
      rw [hfirst hy, contents_of_firstLoaded hy hstart hsame]

end

/-- The origin is down for tags at the first load of them and up at the second. Afterwards its
    contents change: the tags that are answered are the old ones, without asking, and the spots,
    which nobody has loaded yet, are the new ones. -/
theorem answers_of_epoch_failing :
    let old : Snapshot := { tags := [{ id := 1, name := "Dry" }] }
    let new : Snapshot := { spots := [{ id := 1, name := "Squeeze" }] }
    let past : List CacheStep :=
      [.setFailure (some "down") [.tags], .ask false (.tags .whole), .setFailure none,
        .ask false (.tags .whole), .edit new]
    let c := (empty { contents := old }).after past
    c.ask false (.tags .whole) = (old.source.answer (.tags .whole), c) ∧
      (c.ask false (.spots .whole)).1 = new.source.answer (.spots .whole) ∧
      (c.ask false (.spots .whole)).2.spotFetches = 1 := by
  intro old new past c
  obtain ⟨-, hfirst, hnot, -⟩ := answers_of_epoch { contents := old } past
  have htags : FirstLoaded { contents := old } .tags past old := by
    refine ⟨past.take 3, .ask false (.tags .whole), [.edit new], rfl, rfl, by simp, ?_, rfl, rfl⟩
    have hpast : past.take 3 = [] ++ [.setFailure (some "down") [.tags]] ++
        [.ask false (.tags .whole)] ++ [.setFailure none] := rfl
    rw [hpast]
    have hstart := notLoaded_nil { contents := old } .tags
    -- The origin goes down, a load fails, and the origin comes up again.
    refine notLoaded_concat.2 (.inr ⟨?_, fun h => absurd h Bool.false_ne_true⟩)
    refine notLoaded_concat.2 (.inr ⟨?_, fun _ => Option.some_ne_none "down"⟩)
    exact notLoaded_concat.2 (.inr ⟨hstart, fun h => absurd h Bool.false_ne_true⟩)
  have hspots : NotLoaded { contents := old } .spots past := by
    intro earlier s later hpast hload
    have hnone : ∀ s ∈ past, ¬ s.loads .spots := by simp [past, loads, Request.kind]
    exact absurd hload (hnone s (hpast ▸ List.mem_append_right _ List.mem_cons_self))
  obtain ⟨hanswer, hfetches, -⟩ := hnot (.spots .whole) hspots
  exact ⟨hfirst (.tags .whole) old htags, hanswer, hfetches⟩

end CachedSource

end HandStudy
