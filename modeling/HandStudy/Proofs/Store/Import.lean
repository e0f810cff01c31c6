import HandStudy.Store.Import

/-!
# What an import does

An entry is written if the contents admit it (`Contents.Admits`), and then in one way
(`Contents.lay`): `Contents.write_eq_ok_iff`. A transaction writes all its entries or
leaves off at one that is not admitted; what it started with it keeps
(`Transaction.writeAll_before`). An import is one or the other as a whole:

* all entries are admitted, and the store has them laid over it, one after the other
  (`Store.importSnapshot_eq_ok_iff`);
* one is not, and the store is as initialisation left it (`Store.importSnapshot_error`).
-/

namespace HandStudy

namespace Contents

/-- Does the entry break no rule? Names are not taken by others, and what is referred to
    is there. -/
def Admits (c : Contents) : Entry → Prop
  | .document _ | .profile _ => True
  | .tag t => ∀ u ∈ c.tags, u.name = t.name → u.id = t.id
  | .tagDocument l => c.hasDocument l.document ∧ c.hasTag l.tag
  | .tagRule r => c.hasTag r.tag
  | .spot s => ∀ u ∈ c.spots, u.name = s.name → u.id = s.id
  | .spotRule r => c.hasSpot r.spot
  | .spotDocument l => c.hasSpot l.spot ∧ c.hasDocument l.document
  | .spotProfile l => (c.profile? l.profile).isSome ∧ c.hasSpot l.spot

/-- Links a spot to a profile, if there is one of that name. -/
def linkProfile (c : Contents) (l : SpotProfile) : Contents :=
  match c.profile? l.profile with
  | none => c
  | some p => { c with spotProfiles := Keyed.put (fun k => k) ⟨l.spot, p.id⟩ c.spotProfiles }

/-- The contents with an entry laid over them, whether or not they admit it. -/
def lay (c : Contents) : Entry → Contents
  | .document d => { c with documents := Keyed.put Document.id d c.documents }
  | .tag t => { c with tags := Keyed.put Tag.id t c.tags }
  | .tagDocument l => { c with tagDocuments := Keyed.put TagDocument.key l c.tagDocuments }
  | .tagRule r => { c with tagRules := Keyed.put TagRule.id r.stored c.tagRules }
  | .spot s => { c with spots := Keyed.put Spot.id s c.spots }
  | .spotRule r => { c with spotRules := Keyed.put StoredCondition.id (.ofRule r) c.spotRules }
  | .spotDocument l => { c with spotDocuments := Keyed.put SpotDocument.key l c.spotDocuments }
  | .profile p => c.putProfile p
  | .spotProfile l => c.linkProfile l

/-- Is each entry admitted when those before it are laid over the contents? -/
def AdmitsAll (c : Contents) : List Entry → Prop
  | [] => True
  | e :: entries => c.Admits e ∧ (c.lay e).AdmitsAll entries

/-- The contents with entries laid over them one after the other. -/
def layAll (c : Contents) (entries : List Entry) : Contents :=
  entries.foldl lay c

variable {c c' : Contents} {e : Entry}

/-- A name is free if only the row itself has it. -/
theorem nameTaken_iff {α : Type} {key : α → Int64} {name : α → String} {rows : List α} {a : α} :
    (rows.any fun b => name b = name a && key b ≠ key a) = false ↔
      ∀ b ∈ rows, name b = name a → key b = key a := by
  simp

/-- An entry is written exactly if it is admitted, and comes to lie over the contents. -/
theorem write_eq_ok_iff : c.write e = .ok c' ↔ c.Admits e ∧ c.lay e = c' := by
  cases e with
  | document d => simp [write, putDocument, Admits, lay]
  | tag t =>
    rw [write, putTag, Admits, ← nameTaken_iff, lay]
    split
    · simp only [*, reduceCtorEq, false_and]
    · simp_all only [Bool.not_eq_true, Except.ok.injEq, true_and]
  | tagDocument l =>
    rw [write, putTagDocument, Admits]
    split <;> simp_all [lay]
  | tagRule r =>
    rw [write, putTagRule, Admits]
    split <;> simp_all [lay]
  | spot s =>
    rw [write, putSpot, Admits, ← nameTaken_iff, lay]
    split
    · simp only [*, reduceCtorEq, false_and]
    · simp_all only [Bool.not_eq_true, Except.ok.injEq, true_and]
  | spotRule r =>
    rw [write, putSpotRule, Admits]
    split <;> simp_all [lay]
  | spotDocument l =>
    rw [write, putSpotDocument, Admits]
    split <;> simp_all [lay]
  | profile p => simp [write, Admits, lay]
  | spotProfile l =>
    rw [write, putSpotProfile, Admits, lay, linkProfile]
    cases hp : c.profile? l.profile with
    | none => simp
    | some p => by_cases hs : c.hasSpot l.spot <;> simp [hs]

end Contents

namespace Transaction

variable {t : Transaction} {e : Entry} {entries : List Entry}

/-- Whatever a transaction writes, it knows what it started with. -/
theorem writeAll_before : (t.writeAll entries).2.before = t.before := by
  induction entries generalizing t with
  | nil => rfl
  | cons e entries ih =>
    rw [writeAll, write]
    cases t.current.write e with
    | ok c => exact ih
    | error _ => rfl

/-- A transaction runs through exactly if every entry is admitted in its turn, and then
    all of them are laid over what was there. -/
theorem writeAll_eq_ok_iff {t' : Transaction} :
    t.writeAll entries = (.ok (), t') ↔
      t.current.AdmitsAll entries ∧ t' = { t with current := t.current.layAll entries } := by
  -- Each entry is written to what those before it have left.
  induction entries generalizing t with
  | nil => simp [writeAll, Contents.AdmitsAll, Contents.layAll, eq_comm]
  | cons e entries ih =>
    rw [writeAll, write, Contents.AdmitsAll]
    cases hw : t.current.write e with
    | ok c =>
      obtain ⟨hadmits, rfl⟩ := Contents.write_eq_ok_iff.1 hw
      simp only [ih, hadmits, true_and]
      rfl
    | error error =>
      have hadmits : ¬ t.current.Admits e := fun h =>
        nomatch hw.symm.trans (Contents.write_eq_ok_iff.2 ⟨h, rfl⟩)
      simp [hadmits]

end Transaction

namespace Store

variable {s s' : Store} {x : Snapshot}

/-- An import succeeds exactly if every entry is admitted in its turn, and then all of
    them are laid over the initialised store. -/
theorem importSnapshot_eq_ok_iff {summary : ImportSummary} :
    s.importSnapshot x = (.ok summary, s') ↔
      s.init.contents.AdmitsAll x.entries ∧ x.summary = summary ∧
        { s.init with contents := s.init.contents.layAll x.entries } = s' := by
  rw [importSnapshot]
  generalize s.init = ready
  cases hw : (Transaction.start ready.contents).writeAll x.entries with
  | mk result t =>
    cases result with
    | ok =>
      obtain ⟨hadmits, rfl⟩ := Transaction.writeAll_eq_ok_iff.1 hw
      have hadmits : ready.contents.AdmitsAll x.entries := hadmits
      simp [hadmits, Transaction.commit, Transaction.start]
    | error e =>
      have hadmits : ¬ ready.contents.AdmitsAll x.entries := fun h =>
        nomatch hw.symm.trans (Transaction.writeAll_eq_ok_iff.2 ⟨h, rfl⟩)
      simp [hadmits]

/-- An import that fails leaves the store as initialisation leaves it. -/
theorem importSnapshot_error {e : StoreError} (h : (s.importSnapshot x).1 = .error e) :
    (s.importSnapshot x).2 = s.init := by
  rw [importSnapshot] at h ⊢
  -- It does not matter what initialisation does: the transaction starts with its result.
  generalize s.init = ready at h ⊢
  have hbefore : ((Transaction.start ready.contents).writeAll x.entries).2.before =
      ready.contents := Transaction.writeAll_before
  generalize (Transaction.start ready.contents).writeAll x.entries = run at h hbefore ⊢
  obtain ⟨result, t⟩ := run
  cases result with
  | ok => exact nomatch h
  | error _ => exact congrArg (Store.mk ready.tables) hbefore

end Store

end HandStudy
