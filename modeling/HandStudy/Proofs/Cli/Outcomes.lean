import HandStudy.Proofs.Classification
import HandStudy.Proofs.Cli.Transcript
import HandStudy.Proofs.Store.Merge

/-!
# Results and failures

A run either has results or fails: a command that fails has written none of its results, and says
why among the notices (`Cli.run_results_or_failure`). Resolving is the exception, as it reports one
hand after another. A run that classifies hands can also break off, as a rule of the library does
(`Cli.Breaks`); it has no results then, and another code. What a command does to the files comes
after all that it has to check first, so an import without a snapshot to import leaves them as they
are.
-/

namespace HandStudy

/-- The file holds a snapshot: it can be read as a text, the text as JSON, and that decodes. -/
def Workspace.HoldsSnapshot (w : Workspace) (file : String) (x : Snapshot) : Prop :=
  ∃ text v, w.text? file = some text ∧ Json.read text = some v ∧ Snapshot.decode v = .ok x

namespace Cli

/-! ## Transcripts -/

/-- Nothing is among the results unless the command does all that it has to. -/
def Transcript.Exclusive (t : Transcript) : Prop :=
  t.ending ≠ .done → t.results = []

theorem Transcript.exclusive_fail (e : CliError) : (Transcript.fail e).Exclusive :=
  fun _ => rfl

theorem Transcript.exclusive_of_ending_eq_done {t : Transcript} (h : t.ending = .done) :
    t.Exclusive :=
  fun hending => absurd h hending

/-- Notices in front do not matter. -/
theorem Transcript.Exclusive.after {t : Transcript} (h : t.Exclusive) {ws : List Write}
    (hws : ws.filterMap Write.result? = []) : (Transcript.after ws t).Exclusive := by
  intro hending
  rw [results_after, hws, h hending, List.append_nil]

/-- Lines that are no hands are noted, not reported. -/
theorem results_loadHands (w : Workspace) (input : String) :
    (loadHands w input).1.filterMap Write.result? = [] := by
  rw [loadHands]
  cases w.text? input with
  | none => rfl
  | some text => simp [List.filterMap_map, Function.comp_def, Write.result?]

/-- The command does all that it has to, or it fails and has written nothing. -/
def Transcript.Whole (t : Transcript) : Prop :=
  t.ending = .done ∨ ∃ e, t = .fail e

theorem Transcript.whole_fail (e : CliError) : (Transcript.fail e).Whole :=
  .inr ⟨e, rfl⟩

theorem Transcript.Whole.exclusive {t : Transcript} (h : t.Whole) : t.Exclusive := by
  obtain h | ⟨e, rfl⟩ := h
  · exact exclusive_of_ending_eq_done h
  · exact exclusive_fail e

theorem Transcript.Whole.ending_ne_aborted {t : Transcript} (h : t.Whole) :
    t.ending ≠ .aborted := by
  obtain h | ⟨e, rfl⟩ := h
  · rw [h]
    exact nofun
  · exact nofun

variable (env : Environment) (w : Workspace)

theorem whole_texture (board : String) : (textureTranscript board).Whole := by
  rw [textureTranscript]
  split
  · exact .inl rfl
  · exact Transcript.whole_fail _

theorem whole_survivors (sequence : String) (seats : Option Nat) (player : Option String) :
    (survivorsTranscript env w sequence seats player).Whole := by
  rw [survivorsTranscript]
  split
  · exact Transcript.whole_fail _
  · split
    · exact .inl rfl
    · exact Transcript.whole_fail _

theorem whole_settings : (settingsTranscript env w).Whole := by
  rw [settingsTranscript]
  split
  · exact .inl rfl
  · exact Transcript.whole_fail _

theorem whole_init (library : Option String) : (initTranscript env w library).1.Whole := by
  rw [initTranscript]
  split
  · exact Transcript.whole_fail _
  split
  · exact Transcript.whole_fail _
  split
  · exact Transcript.whole_fail _
  split
  · exact Transcript.whole_fail _
  · exact .inl rfl

theorem whole_import (input : String) (library : Option String) :
    (importTranscript env w input library).1.Whole := by
  rw [importTranscript]
  split
  · exact Transcript.whole_fail _
  split
  · exact Transcript.whole_fail _
  split
  · split
    · exact Transcript.whole_fail _
    split
    · exact .inl rfl
    · exact Transcript.whole_fail _
  · exact Transcript.whole_fail _

/-- Without a snapshot an import fails, and leaves the files as they are. -/
theorem importTranscript_of_no_snapshot {input : String} (library : Option String)
    (h : ∀ x, ¬w.HoldsSnapshot input x) :
    (∃ e, (importTranscript env w input library).1.ending = .failed e) ∧
      (importTranscript env w input library).2 = w := by
  rw [importTranscript]
  split
  · exact ⟨⟨_, rfl⟩, rfl⟩
  split
  · exact ⟨⟨_, rfl⟩, rfl⟩
  split
  · rename_i text htext _ x hx
    obtain ⟨v, hv, hx⟩ := Option.map_eq_some_iff.1 hx
    exact absurd ⟨text, v, htext, hv, hx⟩ (h x)
  · exact ⟨⟨_, rfl⟩, rfl⟩

/-- Resolving does not break off. -/
theorem ending_resolveHands (l : Except LibraryError SpotLibrary) (profile : Option String)
    (ambiguous : Nat) (hands : List LoadedHand) :
    (resolveHands l profile ambiguous hands).ending ≠ .aborted := by
  induction hands generalizing ambiguous with
  | nil =>
    rw [resolveHands]
    split <;> exact nofun
  | cons h hands ih =>
    rw [resolveHands.eq_def]
    simp only
    split
    · exact nofun
    split
    · exact ih ambiguous
    · exact ih (ambiguous + 1)
    · exact nofun

theorem ending_resolve (input : String) (library profile : Option String) :
    (resolveTranscript env w input library profile).1.ending ≠ .aborted := by
  rw [resolveTranscript]
  split
  · exact nofun
  split
  · exact nofun
  split
  · exact nofun
  · exact ending_resolveHands _ profile 0 _

/-! ## Reports -/

/-- A text with something in front of it is not empty. -/
theorem append_ne_empty {s t : String} (h : s ≠ "") : s ++ t ≠ "" := by
  intro hst
  exact h (String.append_eq_empty_iff.1 hst).1

theorem Notice.text_ne_empty (n : Notice) : n.text ≠ "" := by
  cases n with
  | usage => exact append_ne_empty (by decide)
  | skippedLine number => exact append_ne_empty (append_ne_empty (by decide))
  | ambiguousHand label e =>
    exact append_ne_empty (append_ne_empty (append_ne_empty (append_ne_empty (by decide))))
  | failure e => exact append_ne_empty (append_ne_empty (by decide))

/-- Notices are seen. -/
theorem Report.noticeText_ne_empty {r : Report} (h : r.notices ≠ []) : r.noticeText ≠ "" := by
  obtain ⟨n, notices, hn⟩ := List.exists_cons_of_ne_nil h
  rw [Report.noticeText, hn, List.map_cons, String.join_cons]
  exact append_ne_empty n.text_ne_empty

/-- Whatever is written, and wherever a closed stream ends it, the code is one of two unless the
    command breaks off. -/
theorem code_report (closed : Closed) (t : Transcript) :
    (t.report closed).code = 0 ∨ (t.report closed).code = 2 ∨
      (t.report closed).code = 101 ∧ t.ending = .aborted := by
  obtain ⟨ws, ending⟩ := t
  rw [Transcript.report]
  induction ws with
  | nil => cases ending with
    | done => exact .inl rfl
    | failed e => exact .inr (.inl rfl)
    | aborted => exact .inr (.inr ⟨rfl, rfl⟩)
  | cons w ws ih =>
    rw [reportOf]
    split
    · exact .inr (.inl rfl)
    · cases w <;> exact ih

/-- The code of a report that is seen whole tells how the command ends. -/
theorem Transcript.code_report_open (t : Transcript) : (t.report {}).code = match t.ending with
    | .done => 0
    | .failed _ => 2
    | .aborted => 101 := by
  rw [report_open, code]
  cases t.ending <;> rfl

/-- A report of a failure has a notice. -/
theorem Transcript.noticeText_report {t : Transcript} (h : (t.report {}).code = 2) :
    t.ending ≠ .done ∧ (t.report {}).noticeText ≠ "" := by
  rw [code_report_open] at h
  rw [report_open]
  obtain ⟨ws, ending⟩ := t
  cases ending with
  | done | aborted => simp at h
  | failed e => exact ⟨nofun, Report.noticeText_ne_empty (by simp [failure])⟩

section

variable [Dialect]

/-- The hands are reported after everything that can fail. -/
theorem exclusive_classify (input : String) (library : Option String) :
    (classifyTranscript env w input library).1.Exclusive := by
  have hnotices := results_loadHands w input
  rw [classifyTranscript]
  split
  · exact Transcript.exclusive_fail _
  split
  · rename_i hhands
    rw [hhands] at hnotices
    exact (Transcript.exclusive_fail _).after hnotices
  · rename_i hhands
    rw [hhands] at hnotices
    split
    · exact (Transcript.exclusive_fail _).after hnotices
    split
    · exact (Transcript.exclusive_fail _).after hnotices
    split
    -- Lines that are skipped are all that is written if a rule breaks off.
    · exact fun _ => hnotices
    · exact Transcript.exclusive_of_ending_eq_done rfl

/-- Every command but one has its results only if it does not fail. -/
theorem exclusive_transcript {c : Command}
    (hc : ∀ input library profile, c ≠ .resolve input library profile) :
    (c.transcript env w).1.Exclusive := by
  cases c with
  | texture board => exact (whole_texture board).exclusive
  | survivors sequence seats player => exact (whole_survivors env w sequence seats player).exclusive
  | classify input library => exact exclusive_classify env w input library
  | resolve input library profile => exact absurd rfl (hc input library profile)
  | init library => exact (whole_init env w library).exclusive
  | importFile input library => exact (whole_import env w input library).exclusive
  | settings => exact (whole_settings env w).exclusive

/-- A run breaks off if it classifies hands, everything that it needs can be had, and a rule of the
    library breaks off. -/
def Breaks (env : Environment) (arguments : List String) (w : Workspace) : Prop :=
  ∃ input library path hands o w' l,
    Invocation.ofArguments arguments = .run (.classify input library) ∧
    libraryPath env w library = .ok path ∧ (loadHands w input).2 = .ok hands ∧
    w.openExisting path = .ok (o, w') ∧ o.loadTags = .ok l ∧ l.Aborts

/-- Classifying breaks off for no reason but a rule. -/
theorem ending_classify_iff (input : String) (library : Option String) :
    (classifyTranscript env w input library).1.ending = .aborted ↔ ∃ path hands o w' l,
      libraryPath env w library = .ok path ∧ (loadHands w input).2 = .ok hands ∧
      w.openExisting path = .ok (o, w') ∧ o.loadTags = .ok l ∧ l.Aborts := by
  rw [classifyTranscript]
  cases hpath : libraryPath env w library with
  | error e => simp [Transcript.fail]
  | ok path =>
    cases hloaded : loadHands w input with
    | mk notices loaded =>
      cases loaded with
      | error e => simp [Transcript.fail]
      | ok hands =>
        cases hopen : w.openExisting path with
        | error e => simp [Transcript.fail, hopen]
        | ok opened =>
          obtain ⟨o, w'⟩ := opened
          cases htags : o.loadTags with
          | error e => simp [Transcript.fail, hopen, htags]
          | ok l =>
            have haborts : ((l.classifyAll (hands.map LoadedHand.hand)).result? = none) ↔
                l.Aborts := Logged.result?_eq_none_iff.trans TagLibrary.aborted_classifyAll_iff
            simp only [hopen, htags]
            cases hresult : (l.classifyAll (hands.map LoadedHand.hand)).result? with
            | none =>
              exact iff_of_true rfl ⟨path, hands, o, w', l, rfl, rfl, hopen, htags,
                haborts.1 hresult⟩
            | some results =>
              refine iff_of_false (by simp) ?_
              rintro ⟨_, _, _, _, _, hpath', -, hopen', htags', hbreaks⟩
              cases hpath'
              cases hopen.symm.trans hopen'
              cases htags.symm.trans htags'
              exact nomatch hresult.symm.trans (haborts.2 hbreaks)

theorem not_breaks {arguments : List String} {c : Command}
    (h : Invocation.ofArguments arguments = .run c)
    (hc : ∀ input library, c ≠ .classify input library) : ¬ Breaks env arguments w := by
  rintro ⟨input, library, -, -, -, -, -, h', -⟩
  exact hc input library (Invocation.run.inj (h.symm.trans h'))

/-- No other command breaks off. -/
theorem ending_transcript_iff {arguments : List String} {c : Command}
    (h : Invocation.ofArguments arguments = .run c) :
    (c.transcript env w).1.ending = .aborted ↔ Breaks env arguments w := by
  cases c with
  | classify input library =>
    refine (ending_classify_iff env w input library).trans ⟨?_, ?_⟩
    · rintro ⟨path, hands, o, w', l, hbreaks⟩
      exact ⟨input, library, path, hands, o, w', l, h, hbreaks⟩
    · rintro ⟨input', library', path, hands, o, w', l, h', hbreaks⟩
      obtain ⟨rfl, rfl⟩ := Command.classify.inj (Invocation.run.inj (h.symm.trans h'))
      exact ⟨path, hands, o, w', l, hbreaks⟩
  | texture board =>
    exact iff_of_false (whole_texture board).ending_ne_aborted (not_breaks env w h nofun)
  | survivors sequence seats player =>
    exact iff_of_false (whole_survivors env w sequence seats player).ending_ne_aborted
      (not_breaks env w h nofun)
  | resolve input library profile =>
    exact iff_of_false (ending_resolve env w input library profile) (not_breaks env w h nofun)
  | init library =>
    exact iff_of_false (whole_init env w library).ending_ne_aborted (not_breaks env w h nofun)
  | importFile input library =>
    exact iff_of_false (whole_import env w input library).ending_ne_aborted
      (not_breaks env w h nofun)
  | settings =>
    exact iff_of_false (whole_settings env w).ending_ne_aborted (not_breaks env w h nofun)

theorem code_run (closed : Closed) (env : Environment) (arguments : List String) (w : Workspace) :
    (run closed env arguments w).1.code = 0 ∨ (run closed env arguments w).1.code = 2 ∨
      (run closed env arguments w).1.code = 101 ∧ Breaks env arguments w := by
  rw [run]
  cases h : Invocation.ofArguments arguments with
  | help | version =>
    simp only [lonely]
    split
    · exact .inr (.inl rfl)
    · exact .inl rfl
  | mistake => exact .inr (.inl rfl)
  | run c =>
    rw [← ending_transcript_iff env w h]
    exact code_report closed _

/-- A command that does not do all that it has to leaves no result to be seen. -/
theorem resultText_run_of_ending_ne_done {arguments : List String} {c : Command}
    (h : Invocation.ofArguments arguments = .run c)
    (hresolve : ∀ input library profile, c ≠ .resolve input library profile)
    (hending : (c.transcript env w).1.ending ≠ .done) :
    (run {} env arguments w).1.resultText = "" := by
  rw [run_open h, Transcript.report_open, Report.resultText,
    exclusive_transcript env w hresolve hending]
  rfl

/-- A run that breaks off exits with a code of its own, without results. -/
theorem run_of_breaks {arguments : List String} (h : Breaks env arguments w) :
    (run {} env arguments w).1.code = 101 ∧ (run {} env arguments w).1.resultText = "" := by
  have hbreaks := h
  obtain ⟨input, library, -, -, -, -, -, harguments, -⟩ := hbreaks
  have hending := (ending_transcript_iff env w harguments).2 h
  constructor
  · rw [run_open harguments, Transcript.code_report_open, hending]
  · exact resultText_run_of_ending_ne_done env w harguments nofun (by rw [hending]; exact nofun)

/-- A run either has results or fails. It exits with 0 or 2, even if a stream is closed, unless it
    breaks off; then, if the streams are open, it exits with 101, and no result has been written.
    With both streams open, a run that exits with 2 has written a notice; and it has written no
    result, be the command line malformed or any command but resolving have failed. An import from a
    file that holds no snapshot exits with 2, and all files are afterwards what they were. -/
theorem run_results_or_failure (env : Environment) (arguments : List String) (w : Workspace) :
    (∀ closed, (run closed env arguments w).1.code = 0 ∨
      (run closed env arguments w).1.code = 2 ∨
      (run closed env arguments w).1.code = 101 ∧ Breaks env arguments w) ∧
    (Breaks env arguments w → (run {} env arguments w).1.code = 101 ∧
      (run {} env arguments w).1.resultText = "") ∧
    ((run {} env arguments w).1.code = 2 → (run {} env arguments w).1.noticeText ≠ "" ∧
      ((∀ input library profile,
          Invocation.ofArguments arguments ≠ .run (.resolve input library profile)) →
        (run {} env arguments w).1.resultText = "")) ∧
    (∀ input library, Invocation.ofArguments arguments = .run (.importFile input library) →
      (∀ x, ¬w.HoldsSnapshot input x) →
        (run {} env arguments w).1.code = 2 ∧ (run {} env arguments w).2 = w) := by
  refine ⟨fun closed => code_run closed env arguments w, run_of_breaks env w, fun hcode => ?_,
    fun input library harguments hnone => ?_⟩
  · cases harguments : Invocation.ofArguments arguments with
    | help | version =>
      rw [run, harguments] at hcode
      cases hcode
    | mistake =>
      rw [run, harguments]
      exact ⟨Report.noticeText_ne_empty (List.cons_ne_nil _ _), fun _ => rfl⟩
    | run c =>
      have hopen : (run {} env arguments w).1 = _ := run_open harguments
      rw [hopen] at hcode
      obtain ⟨hending, hnotice⟩ := Transcript.noticeText_report hcode
      refine ⟨hopen ▸ hnotice, fun hresolve => ?_⟩
      exact resultText_run_of_ending_ne_done env w harguments
        (fun input library profile hc => hresolve input library profile (hc ▸ rfl)) hending
  · obtain ⟨⟨e, he⟩, hfiles⟩ := importTranscript_of_no_snapshot env w library hnone
    refine ⟨?_, by rw [run, harguments]; exact hfiles⟩
    rw [run_open harguments, Transcript.code_report_open, Command.transcript, he]

end

/-- A library and a file that ends too early. -/
def tornWorkspace : Workspace where
  files := [(["torn.json"], .text "\x7b\"tags\":["), (["library.db"], .store (.init {}))]

/-- The import of the torn file is refused, and the library is what it was. -/
theorem run_results_or_failure_torn :
    let report := (run {} {} ["import", "--input=torn.json", "--library=library.db"]
      tornWorkspace).1
    report.code = 2 ∧ report.resultText = "" ∧ report.noticeText ≠ "" ∧
      (run {} {} ["import", "--input=torn.json", "--library=library.db"] tornWorkspace).2 =
        tornWorkspace := by
  have harguments : Invocation.ofArguments ["import", "--input=torn.json", "--library=library.db"] =
      .run (.importFile "torn.json" (some "library.db")) := by decide +kernel
  have htext : tornWorkspace.text? "torn.json" = some "\x7b\"tags\":[" := by decide +kernel
  have hread : (Json.read "\x7b\"tags\":[").isNone := by decide +kernel
  have hnone : ∀ x, ¬tornWorkspace.HoldsSnapshot "torn.json" x := by
    rintro x ⟨text, v, hinput, hv, -⟩
    obtain rfl := Option.some.inj (htext.symm.trans hinput)
    rw [hv] at hread
    cases hread
  obtain ⟨-, -, hfails, himport⟩ := run_results_or_failure {}
    ["import", "--input=torn.json", "--library=library.db"] tornWorkspace
  obtain ⟨hcode, hfiles⟩ := himport "torn.json" (some "library.db") harguments hnone
  obtain ⟨hnotice, hresults⟩ := hfails hcode
  refine ⟨hcode, hresults fun input library profile h => ?_, hnotice, hfiles⟩
  rw [harguments] at h
  cases h

/-- The store of a library with a rule that breaks off. -/
def bracedStore : Store :=
  .run {} [.importSnapshot { tags := [⟨1, "c-bet", none⟩], tagRules := [.braced 300] }]

/-- A file with one hand, and such a library. -/
def bracedWorkspace : Workspace where
  files := [(["hands.jsonl"], .text "\x7b\x7d"), (["library.db"], .store bracedStore)]

theorem bracedWorkspace_openExisting :
    bracedWorkspace.openExisting "library.db" =
      .ok (⟨some ["library.db"], some bracedStore⟩, bracedWorkspace) := rfl

theorem loadTags_bracedStore : bracedStore.loadTags = .ok bracedStore.tagLibrary :=
  (Store.initialised_run {} _ []).loadTags

theorem aborts_bracedStore : bracedStore.tagLibrary.Aborts := by
  have hrules : bracedStore.tagLibrary.rules = [.braced 300] := rfl
  exact ⟨.braced 300, hrules ▸ List.mem_cons_self, TagRule.aborts_braced (by decide)⟩

/-- Classifying with this library exits with neither 0 nor 2. -/
theorem run_bracedWorkspace_code :
    (run {} {} ["classify", "--input=hands.jsonl", "--library=library.db"]
      bracedWorkspace).1.code = 101 := by
  have harguments : Invocation.ofArguments
        ["classify", "--input=hands.jsonl", "--library=library.db"] =
      .run (.classify "hands.jsonl" (some "library.db")) := by decide +kernel
  have hloaded : (loadHands bracedWorkspace "hands.jsonl").2.isOk := by decide +kernel
  cases hhands : (loadHands bracedWorkspace "hands.jsonl").2 with
  | error e =>
    rw [hhands] at hloaded
    cases hloaded
  | ok hands =>
    exact (run_of_breaks {} _ ⟨_, _, _, _, _, _, _, harguments, rfl, hhands,
      bracedWorkspace_openExisting, loadTags_bracedStore, aborts_bracedStore⟩).1

end Cli

end HandStudy
