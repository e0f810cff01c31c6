import HandStudy.Proofs.Cli.HandFile
import HandStudy.Proofs.Cli.Outcomes
import HandStudy.Proofs.Cli.Reports

/-!
# Classifying a file of hands

Every line of the file that is not blank is accounted for once: a hand is reported on one line of
its own, classified as if it were alone, and what is no hand is noted
(`Cli.run_classify_accounts`). But no hand is reported if a rule of the library breaks off.
-/

namespace HandStudy.Cli

variable {env : Environment} {w w' : Workspace} {input path content : String}
  {library : Option String} {o : Workspace.Opened} {l : TagLibrary}

section

variable [Dialect]

/-- What is written if there is a hand, or nothing to skip: a notice for each line that is skipped,
    and then a line for each hand, unless a rule breaks off. -/
theorem classifyTranscript_of_hands {text : String} (hpath : libraryPath env w library = .ok path)
    (hinput : w.text? input = some text) (hopen : w.openExisting path = .ok (o, w'))
    (hload : o.loadTags = .ok l) (hhands : ¬ (handsOf text = [] ∧ skippedOf text ≠ [])) :
    (classifyTranscript env w input library).1 =
      .after ((skippedOf text).map fun n => .notice (.skippedLine n))
        (if l.Aborts then ⟨[], .aborted⟩ else ⟨(handsOf text).map fun h =>
          .result (.line (classifiedObject h.label (l.classify h.hand).value)), .done⟩) := by
  have hlines : List.zipWith classifiedJson (handsOf text)
        (((handsOf text).map LoadedHand.hand).map fun h => (l.classify h).value) =
      (handsOf text).map fun h => classifiedObject h.label (l.classify h.hand).value := by
    rw [List.map_map, List.zipWith_map_right, List.zipWith_self]
    simp only [classifiedJson_eq, Function.comp_apply]
  rw [classifyTranscript, hpath]
  simp only [loadHands_eq hinput, if_neg hhands, hopen, hload, TagLibrary.result?_classifyAll]
  by_cases haborts : l.Aborts
  · simp [haborts, Transcript.after]
  · simp only [if_neg haborts]
    rw [hlines, List.map_map]
    rfl

/-- Of lines that are skipped only, a failure is all that is reported after the notices. -/
theorem classifyTranscript_of_no_hands {text : String}
    (hpath : libraryPath env w library = .ok path) (hinput : w.text? input = some text)
    (hhands : handsOf text = [] ∧ skippedOf text ≠ []) :
    (classifyTranscript env w input library).1 =
      .after ((skippedOf text).map fun n => .notice (.skippedLine n)) (.fail .noHands) := by
  rw [classifyTranscript, hpath]
  simp only [loadHands_eq hinput, if_pos hhands]

/-- What is seen of the command. It fails if there are lines to be skipped only, and otherwise it
    breaks off if a rule does. -/
theorem run_classify {text : String} {arguments : List String}
    (harguments : Invocation.ofArguments arguments = .run (.classify input library))
    (hpath : libraryPath env w library = .ok path) (hinput : w.text? input = some text)
    (hopen : w.openExisting path = .ok (o, w')) (hload : o.loadTags = .ok l) :
    (run {} env arguments w).1 =
      if skippedOf text ≠ [] ∧ handsOf text = [] then
        ⟨2, [], (skippedOf text).map .skippedLine ++ [.failure .noHands]⟩
      else if l.Aborts then ⟨101, [], (skippedOf text).map .skippedLine⟩
      else ⟨0, (handsOf text).map fun h =>
          .line (classifiedObject h.label (l.classify h.hand).value),
        (skippedOf text).map .skippedLine⟩ := by
  rw [run_open harguments, Command.transcript, Transcript.report_open]
  by_cases hhands : handsOf text = [] ∧ skippedOf text ≠ []
  · rw [classifyTranscript_of_no_hands hpath hinput hhands, if_pos hhands.symm]
    simp [Transcript.code, Transcript.fail, Transcript.failure, failureCode, Function.comp_def,
      Write.result?, Write.notice?]
  · rw [classifyTranscript_of_hands hpath hinput hopen hload hhands, if_neg (mt And.symm hhands)]
    by_cases haborts : l.Aborts
    · simp [haborts, Transcript.code, Transcript.failure, abortCode, Function.comp_def,
        Write.result?, Write.notice?]
    · simp [haborts, Transcript.code, Transcript.failure, Function.comp_def, Write.result?,
        Write.notice?]

/-- Every line of the file is accounted for. Any line that is neither blank nor a hand is noted as
    skipped, and a hand is reported, unless a rule of the library breaks off, on a line of its own,
    under its own label or else the number of its line, with what it is classified as if it were
    alone. So there is one report or one notice for a line that is not blank, in the order of the
    lines, and nothing for a blank one. The code is 2, and nothing is reported, exactly if there is a
    line to skip and no hand. Otherwise it is 0 if no rule breaks off; if one does, it is 101 and
    nothing is reported either. -/
theorem run_classify_accounts (arguments : List String)
    (harguments : Invocation.ofArguments arguments = .run (.classify input library))
    (hpath : libraryPath env w library = .ok path) (hinput : w.Holds input content)
    (hopen : w.openExisting path = .ok (o, w')) (hload : o.loadTags = .ok l) :
    ∃ hands skipped, Accounts (Workspace.withoutMark content) hands skipped ∧
      (∀ p ∈ Text.lines (Workspace.withoutMark content),
        (hands.map LoadedHand.line ++ skipped).count p.2 = if Text.Blank p.1 then 0 else 1) ∧
      let objects := hands.map fun h => classifiedObject
        (h.hand.label.getD s!"line {h.line}") (l.classify h.hand).value
      let failing := (∃ p ∈ Text.lines (Workspace.withoutMark content), Spoilt p.1) ∧
        ∀ p ∈ Text.lines (Workspace.withoutMark content), handOn? p.1 = none
      let report := (run {} env arguments w).1
      (failing → report.notices = skipped.map .skippedLine ++ [.failure .noHands]) ∧
      (¬ failing → report.notices = skipped.map .skippedLine) ∧
      (report.code = 2 ∧ report.resultText = "" ↔ failing) ∧
      ((∀ r ∈ l.rules, ¬ r.Aborts) →
        report.results = objects.map .line ∧ Json.OnLines report.resultText objects ∧
        (∀ h t, t ∈ (l.classify h).value.tags ↔ ∃ r ∈ l.rules, r.tag = t ∧ r.Matches h) ∧
        (report.code = 0 ↔ ¬ failing)) ∧
      ((∃ r ∈ l.rules, r.Aborts) →
        report.results = [] ∧ (report.code = 101 ↔ ¬ failing)) := by
  have haccounts := accounts (Workspace.withoutMark content)
  refine ⟨_, _, haccounts, haccounts.once, ?_⟩
  rw [← haccounts.hands_eq_nil_iff, ← haccounts.skipped_ne_nil_iff]
  have hrun := run_classify harguments hpath hinput.text? hopen hload
  generalize Workspace.withoutMark content = text at hrun ⊢
  intro objects failing report
  have hlasts : ∀ v ∈ objects, v.LastsWithin Json.Builder.maxDepth :=
    List.forall_mem_map.2 fun h _ => (lastsWithin_classifiedObject _ _).mono (by decide)
  have hempty (h : report.results = []) : report.resultText = "" := by
    rw [Report.resultText, h]
    rfl
  have htags (h : Hand) (t : Int64) := l.mem_tags_classify (h := h) (t := t)
  by_cases hfailing : failing
  · rw [if_pos hfailing] at hrun
    have hcode : report.code = 2 := congrArg Report.code hrun
    have hresults : report.results = [] := congrArg Report.results hrun
    have hnotices : report.notices = (skippedOf text).map .skippedLine ++ [.failure .noHands] :=
      congrArg Report.notices hrun
    have hnone : objects = [] := List.map_eq_nil_iff.2 hfailing.2
    have hother {n : Nat} (hn : 2 ≠ n) : report.code = n ↔ ¬ failing :=
      iff_of_false (hcode ▸ hn) (not_not_intro hfailing)
    have hobjects : report.results = objects.map .line := by rw [hresults, hnone]; rfl
    refine ⟨fun _ => hnotices, fun h => absurd hfailing h,
      iff_of_true ⟨hcode, hempty hresults⟩ hfailing, fun _ => ?_,
      fun _ => ⟨hresults, hother (by decide)⟩⟩
    exact ⟨hobjects, Report.onLines hobjects hlasts, htags, hother (by decide)⟩
  · rw [if_neg hfailing] at hrun
    have hnotices : report.notices = (skippedOf text).map .skippedLine := by
      rw [show report.notices = _ from congrArg Report.notices hrun]
      split <;> rfl
    have hcode : report.code = if l.Aborts then 101 else 0 := by
      rw [show report.code = _ from congrArg Report.code hrun]
      split <;> rfl
    refine ⟨fun h => absurd h hfailing, fun _ => hnotices,
      iff_of_false (fun h => ?_) hfailing, fun hsound => ?_, fun haborts => ?_⟩
    · rw [hcode] at h
      split at h <;> exact absurd h.1 (by decide)
    · have hnot : ¬ l.Aborts := by
        rintro ⟨r, hr, habort⟩
        exact hsound r hr habort
      rw [if_neg hnot] at hrun hcode
      have hobjects : report.results = objects.map .line := by
        rw [List.map_map]
        exact congrArg Report.results hrun
      exact ⟨hobjects, Report.onLines hobjects hlasts, htags, iff_of_true hcode hfailing⟩
    · have haborts : l.Aborts := haborts
      rw [if_pos haborts] at hrun hcode
      exact ⟨congrArg Report.results hrun, iff_of_true hcode hfailing⟩

end

/-- The store of a library with one tag. -/
def oneTag : Store :=
  .run {} [.importSnapshot { tags := [⟨1, "c-bet", none⟩] }]

/-- The fourth of five lines is skipped, and the last one is reported by its number. -/
theorem run_classify_accounts_mixed :
    let report := (run {} {} ["classify", "--input=hands.jsonl", "--library=library.db"]
      (mixedWorkspace oneTag)).1
    report.code = 0 ∧ .skippedLine 4 ∈ report.notices ∧ .failure .noHands ∉ report.notices ∧
      ∃ c, .line (classifiedObject "line 5" c) ∈ report.results := by
  have harguments : Invocation.ofArguments
        ["classify", "--input=hands.jsonl", "--library=library.db"] =
      .run (.classify "hands.jsonl" (some "library.db")) := by decide +kernel
  have hinit : oneTag.Initialised := Store.initialised_run {} _ []
  have hpath : libraryPath {} (mixedWorkspace oneTag) (some "library.db") = .ok "library.db" := rfl
  obtain ⟨hands, skipped, haccounts, -, hreport⟩ := run_classify_accounts
    ["classify", "--input=hands.jsonl", "--library=library.db"] harguments hpath
    (mixedWorkspace_holds oneTag) (mixedWorkspace_openExisting oneTag) hinit.loadTags
  obtain ⟨-, hnotices, -, hsound, -⟩ := hreport
  have hnone : oneTag.tagLibrary.rules = [] := rfl
  obtain ⟨hresults, -, -, hcode⟩ := hsound (by rw [hnone]; exact List.forall_mem_nil _)
  obtain ⟨bad, hbad, hfour, hspoilt⟩ : ∃ p ∈ Text.lines (Workspace.withoutMark mixedLines),
      p.2 = 4 ∧ Spoilt p.1 := by decide +kernel
  obtain ⟨h, hmem, hlabel⟩ := haccounts.exists_hand (n := 5) (f := Hand.label) (a := none)
    (by decide +kernel)
  have hsucceeds : ¬ ((∃ p ∈ Text.lines (Workspace.withoutMark mixedLines), Spoilt p.1) ∧
      ∀ p ∈ Text.lines (Workspace.withoutMark mixedLines), handOn? p.1 = none) := fun hfailing =>
    List.ne_nil_of_mem hmem (haccounts.hands_eq_nil_iff.2 hfailing.2)
  refine ⟨hcode.2 hsucceeds, ?_, ?_, (oneTag.tagLibrary.classify h).value, ?_⟩
  · rw [hnotices hsucceeds]
    exact List.mem_map_of_mem ((haccounts.skipped_iff 4).2 ⟨bad.1, hfour ▸ hbad, hspoilt⟩)
  · rw [hnotices hsucceeds]
    simp
  · rw [hresults, List.map_map]
    have hnumber : h.label.getD s!"line {5}" = "line 5" := by
      rw [hlabel]
      decide +kernel
    refine List.mem_map.2 ⟨_, hmem, ?_⟩
    rw [Function.comp_apply, hnumber]

/-- With a rule that breaks off, the hand in the file is neither reported nor skipped. -/
theorem run_classify_bracedWorkspace :
    bracedWorkspace.Holds "hands.jsonl" "\x7b\x7d" ∧
      (∃ p ∈ Text.lines "\x7b\x7d", (handOn? p.1).isSome) ∧
      bracedStore.loadTags = .ok bracedStore.tagLibrary ∧
      let report := (run {} {} ["classify", "--input=hands.jsonl", "--library=library.db"]
        bracedWorkspace).1
      report.code = 101 ∧ report.results = [] ∧ report.notices = [] := by
  have harguments : Invocation.ofArguments
        ["classify", "--input=hands.jsonl", "--library=library.db"] =
      .run (.classify "hands.jsonl" (some "library.db")) := by decide +kernel
  have hholds : bracedWorkspace.Holds "hands.jsonl" "\x7b\x7d" :=
    Workspace.holds_of_plainText? (by decide +kernel) (by decide +kernel)
  have hpath : libraryPath {} bracedWorkspace (some "library.db") = .ok "library.db" := rfl
  have hrun := run_classify harguments hpath hholds.text? bracedWorkspace_openExisting
    loadTags_bracedStore
  have hskipped : skippedOf (Workspace.withoutMark "\x7b\x7d") = [] := by decide +kernel
  rw [hskipped, if_neg fun h => h.1 rfl, if_pos aborts_bracedStore] at hrun
  refine ⟨hholds, by decide +kernel, loadTags_bracedStore, ?_⟩
  rw [hrun]
  exact ⟨rfl, rfl, rfl⟩

end HandStudy.Cli
