import HandStudy.Proofs.Cli.HandFile
import HandStudy.Proofs.Cli.Reports
import HandStudy.Proofs.Resolution
import HandStudy.Proofs.Store.Merge

/-!
# Looking up the spots of a file of hands

Every hand of the file is answered once, and as if it were alone: it is reported with the spot that
it is in, if any, or else noted with the names of all the spots that it is in. The hands that follow
are answered in the same way (`Cli.resolveHands_eq`), and the command fails in the end if a hand was
in several spots (`Cli.run_resolve_accounts`).
-/

namespace HandStudy.Cli

variable (l : SpotLibrary) (spots : List Spot)

/-- The hand fits several of the spots. -/
def Ambiguous (h : LoadedHand) : Prop :=
  2 ≤ (spots.filter (l.Fits h.hand ·)).length

instance (h : LoadedHand) : Decidable (Ambiguous l spots h) :=
  inferInstanceAs (Decidable (2 ≤ _))

/-- What is reported of a hand that is in one of the spots, or in none. -/
def answerObject (h : LoadedHand) : Json :=
  resolvedObject h.label ((spots.filter (l.Fits h.hand ·)).head?.map l.withDocuments)

/-- What is noted of a hand that is in several of the spots. -/
def answerNotice (h : LoadedHand) : Notice :=
  .ambiguousHand h.label (.ambiguous ((spots.filter (l.Fits h.hand ·)).map Spot.name))

/-- The answer about a hand. -/
def answer (h : LoadedHand) : Write :=
  if Ambiguous l spots h then .notice (answerNotice l spots h)
  else .result (.line (answerObject l spots h))

variable {l spots} {profile : Option String}

/-- The hands are answered one after the other, and those that are in several spots are counted,
    with those before them. -/
theorem resolveHands_eq (hspots : l.candidates profile = .ok spots) (n : Nat)
    (hands : List LoadedHand) :
    resolveHands (.ok l) profile n hands =
      ⟨hands.map (answer l spots),
        if n + hands.countP (Ambiguous l spots ·) = 0 then .done
        else .failed (.ambiguousHands (n + hands.countP (Ambiguous l spots ·)))⟩ := by
  induction hands generalizing n with
  | nil =>
    rw [resolveHands, List.countP_nil, Nat.add_zero]
    split <;> rfl
  | cons h hands ih =>
    have hvalue := l.find_of_candidates hspots h.hand
    by_cases hh : Ambiguous l spots h
    · replace hvalue := hvalue.trans (if_pos hh)
      have hcount : (h :: hands).countP (Ambiguous l spots ·) =
          hands.countP (Ambiguous l spots ·) + 1 := List.countP_cons_of_pos (decide_eq_true hh)
      simp only [resolveHands, hvalue, ih, hcount, List.map_cons, answer, if_pos hh]
      rw [Nat.add_assoc, Nat.add_comm 1]
      rfl
    · replace hvalue := hvalue.trans (if_neg hh)
      have hcount : (h :: hands).countP (Ambiguous l spots ·) =
          hands.countP (Ambiguous l spots ·) := List.countP_cons_of_neg (by simpa using hh)
      simp only [resolveHands, hvalue, ih, hcount, List.map_cons, answer, if_neg hh,
        resolvedJson_eq]
      rfl

/-- The reports among the answers are about the hands that are not in several spots. -/
theorem results_answers (hands : List LoadedHand) :
    (hands.map (answer l spots)).filterMap Write.result? =
      (hands.filter (¬ Ambiguous l spots ·)).map fun h => .line (answerObject l spots h) := by
  induction hands with
  | nil => rfl
  | cons h hands ih =>
    rw [List.map_cons, answer]
    by_cases hh : Ambiguous l spots h
    · rw [if_pos hh, List.filter_cons_of_neg (by simpa using hh)]
      exact ih
    · rw [if_neg hh, List.filter_cons_of_pos (by simpa using hh)]
      exact congrArg _ ih

/-- The notices among them are about those that are. -/
theorem notices_answers (hands : List LoadedHand) :
    (hands.map (answer l spots)).filterMap Write.notice? =
      (hands.filter (Ambiguous l spots ·)).map (answerNotice l spots) := by
  induction hands with
  | nil => rfl
  | cons h hands ih =>
    rw [List.map_cons, answer]
    by_cases hh : Ambiguous l spots h
    · rw [if_pos hh, List.filter_cons_of_pos (by simpa using hh)]
      exact congrArg _ ih
    · rw [if_neg hh, List.filter_cons_of_neg (by simpa using hh)]
      exact ih

variable {env : Environment} {w w' : Workspace} {input path content text : String}
  {library : Option String} {o : Workspace.Opened} {arguments : List String}

/-- What is seen of the command, if the file has hands or nothing to skip. -/
theorem run_resolve [Dialect] (harguments : Invocation.ofArguments arguments =
      .run (.resolve input library profile))
    (hpath : libraryPath env w library = .ok path) (hinput : w.text? input = some text)
    (hopen : w.openExisting path = .ok (o, w')) (hload : o.loadSpots = .ok l)
    (hspots : l.candidates profile = .ok spots)
    (hhands : ¬ (handsOf text = [] ∧ skippedOf text ≠ [])) :
    (run {} env arguments w).1 =
      ⟨if (handsOf text).filter (Ambiguous l spots ·) = [] then 0 else 2,
        ((handsOf text).filter (¬ Ambiguous l spots ·)).map fun h =>
          .line (answerObject l spots h),
        (skippedOf text).map .skippedLine ++
          ((handsOf text).filter (Ambiguous l spots ·)).map (answerNotice l spots) ++
          if (handsOf text).filter (Ambiguous l spots ·) = [] then []
          else
            [.failure (.ambiguousHands ((handsOf text).filter (Ambiguous l spots ·)).length)]⟩ := by
  have htranscript : (resolveTranscript env w input library profile).1 =
      .after ((skippedOf text).map fun n => .notice (.skippedLine n))
        (resolveHands (.ok l) profile 0 (handsOf text)) := by
    rw [resolveTranscript, hpath]
    simp only [loadHands_eq hinput, if_neg hhands, hopen, hload]
    rfl
  rw [run_open harguments, Command.transcript, Transcript.report_open, htranscript,
    resolveHands_eq hspots, List.countP_eq_length_filter, Nat.zero_add]
  simp only [List.length_eq_zero_iff, Transcript.code, Transcript.ending_after,
    Transcript.failure_after, Transcript.results_after, Transcript.notices_after,
    Transcript.results_mk, Transcript.notices_mk, results_answers, notices_answers]
  by_cases hnone : (handsOf text).filter (Ambiguous l spots ·) = []
  · simp [hnone, Transcript.failure, Function.comp_def, Write.result?, Write.notice?]
  · simp [hnone, Transcript.failure, failureCode, Function.comp_def, Write.result?, Write.notice?]

/-- Every hand of the file is answered once, whatever the other hands are. One that is in no more
    than one of the spots in question is reported on a line of its own, with that spot, if any, and
    its documents; one that is in several is noted with all their names. Both are in the order of
    the lines, under the hand's own label or else the number of its line, and both say what comes of
    the hand if it is looked up alone. The code is 0 exactly if no hand is in several spots, and
    else it is 2. -/
theorem run_resolve_accounts [Dialect] (arguments : List String)
    (harguments : Invocation.ofArguments arguments = .run (.resolve input library profile))
    (hpath : libraryPath env w library = .ok path) (hinput : w.Holds input content)
    (hopen : w.openExisting path = .ok (o, w')) (hload : o.loadSpots = .ok l)
    (hprofile : ∀ n, profile = some n → (l.profile? n).isSome)
    (hrecords : (∃ p ∈ Text.lines (Workspace.withoutMark content), (handOn? p.1).isSome) ∨
      ∀ p ∈ Text.lines (Workspace.withoutMark content), Text.Blank p.1) :
    ∃ hands skipped spots, Accounts (Workspace.withoutMark content) hands skipped ∧
      l.candidates profile = .ok spots ∧
      (∀ h ∈ hands, (l.find profile h.hand).value =
        if Ambiguous l spots h then
          .error (.ambiguous ((spots.filter (l.Fits h.hand ·)).map Spot.name))
        else .ok ((spots.filter (l.Fits h.hand ·)).head?.map l.withDocuments)) ∧
      let label (h : LoadedHand) := h.hand.label.getD s!"line {h.line}"
      let ambiguous := hands.filter (Ambiguous l spots ·)
      let objects := (hands.filter (¬ Ambiguous l spots ·)).map fun h =>
        resolvedObject (label h) ((spots.filter (l.Fits h.hand ·)).head?.map l.withDocuments)
      let report := (run {} env arguments w).1
      report.results = objects.map .line ∧ Json.OnLines report.resultText objects ∧
      report.notices = skipped.map .skippedLine ++
        (ambiguous.map fun h => .ambiguousHand (label h)
          (.ambiguous ((spots.filter (l.Fits h.hand ·)).map Spot.name))) ++
        (if ambiguous = [] then [] else [.failure (.ambiguousHands ambiguous.length)]) ∧
      (report.code = 0 ↔ ambiguous = []) ∧ (ambiguous ≠ [] → report.code = 2) := by
  obtain ⟨spots, hspots⟩ := SpotLibrary.exists_candidates hprofile
  have haccounts := accounts (Workspace.withoutMark content)
  have hhands : ¬ (handsOf (Workspace.withoutMark content) = [] ∧
      skippedOf (Workspace.withoutMark content) ≠ []) := by
    rw [haccounts.hands_eq_nil_iff, haccounts.skipped_ne_nil_iff]
    rintro ⟨hnone, p, hp, hspoilt⟩
    rcases hrecords with ⟨q, hq, hhand⟩ | hblank
    · exact absurd (hnone q hq) (Option.isSome_iff_ne_none.1 hhand)
    · exact hspoilt.1 (hblank p hp)
  have hvalue (h : LoadedHand) := SpotLibrary.find_of_candidates hspots h.hand
  refine ⟨_, _, spots, haccounts, hspots, fun h _ => hvalue h, ?_⟩
  rw [run_resolve harguments hpath hinput.text? hopen hload hspots hhands]
  intro label ambiguous objects report
  have hlasts : ∀ v ∈ objects, v.LastsWithin Json.Builder.maxDepth :=
    List.forall_mem_map.2 fun h _ => (lastsWithin_resolvedObject _ _).mono (by decide)
  have hresults : report.results = objects.map .line := by
    rw [List.map_map]
    rfl
  have hcode : report.code = if ambiguous = [] then 0 else 2 := rfl
  refine ⟨hresults, Report.onLines hresults hlasts, rfl, ?_, ?_⟩
  · rw [hcode, ite_eq_left_iff]
    simp
  · exact fun hsome => hcode.trans (if_neg hsome)

/-- The store of a library in which two spots of a profile fit the same hands. -/
def tornStore : Store :=
  .run {} [.importSnapshot
    { spots := [⟨1, "BTN vs BB", none⟩, ⟨2, "CO vs BB", none⟩],
      spotRules := [SpotLibrary.openedRule 1 1, SpotLibrary.openedRule 2 2],
      spotProfiles := [⟨1, "zoom 6-MAX"⟩, ⟨2, "Zoom 6-max"⟩] }]

/-- The library that is loaded from it. -/
def tornLibrary : SpotLibrary :=
  tornStore.spotLibrary Profile.defaults

/-- The first hand is in both spots, and the last one is answered all the same. -/
theorem run_resolve_accounts_torn :
    let report := (run {} {} ["resolve", "--input=hands.jsonl", "--library=library.db",
      "--profile=ZOOM 6-max"] (mixedWorkspace tornStore)).1
    report.code = 2 ∧
      .ambiguousHand "first" (.ambiguous ["BTN vs BB", "CO vs BB"]) ∈ report.notices ∧
      .line (resolvedObject "line 5" none) ∈ report.results := by
  have harguments : Invocation.ofArguments ["resolve", "--input=hands.jsonl",
        "--library=library.db", "--profile=ZOOM 6-max"] =
      .run (.resolve "hands.jsonl" (some "library.db") (some "ZOOM 6-max")) := by decide +kernel
  have hpath : libraryPath {} (mixedWorkspace tornStore) (some "library.db") =
      .ok "library.db" := rfl
  have hload : tornStore.loadSpots = .ok tornLibrary := rfl
  have hprofile : ∀ n, some "ZOOM 6-max" = some n → (tornLibrary.profile? n).isSome := by
    rintro n ⟨⟩
    decide +kernel
  obtain ⟨hands, skipped, spots, haccounts, hspots, -, hreport⟩ := run_resolve_accounts
    ["resolve", "--input=hands.jsonl", "--library=library.db", "--profile=ZOOM 6-max"] harguments
    hpath (mixedWorkspace_holds tornStore) (mixedWorkspace_openExisting tornStore) hload hprofile
    (.inl (by decide +kernel))
  obtain ⟨hresults, -, hnotices, -, hcode⟩ := hreport
  obtain rfl : tornLibrary.spots = spots := Except.ok.inj hspots
  -- The labels of the hands on two lines, and the names of the spots that they are in.
  obtain ⟨first, hfirst, hnames⟩ := haccounts.exists_hand (n := 1)
    (f := fun h => (h.label, (tornLibrary.fitting h).map Spot.name))
    (a := (some "first", ["BTN vs BB", "CO vs BB"])) (by decide +kernel)
  obtain ⟨hfirstLabel, hboth⟩ := Prod.mk.inj hnames
  obtain ⟨last, hlast, hnames⟩ := haccounts.exists_hand (n := 5)
    (f := fun h => (h.label, (tornLibrary.fitting h).map Spot.name)) (a := (none, []))
    (by decide +kernel)
  obtain ⟨hlastLabel, hnone⟩ := Prod.mk.inj hnames
  clear hload hprofile
  generalize tornLibrary = l at *
  have htorn : Ambiguous l l.spots ⟨1, first⟩ := by
    have hlength := congrArg List.length hboth
    rw [List.length_map] at hlength
    exact hlength.ge
  have hfree : l.fitting last = [] := List.map_eq_nil_iff.1 hnone
  have hsettled : ¬ Ambiguous l l.spots ⟨5, last⟩ := fun hlast =>
    absurd (List.length_eq_zero_iff.2 hfree) (Nat.ne_of_gt (Nat.lt_of_lt_of_le Nat.two_pos hlast))
  have hnoted : ⟨1, first⟩ ∈ hands.filter (Ambiguous l l.spots ·) :=
    List.mem_filter.2 ⟨hfirst, decide_eq_true htorn⟩
  refine ⟨hcode (List.ne_nil_of_mem hnoted), ?_, ?_⟩
  · have hlabel : first.label.getD s!"line {1}" = "first" := by
      rw [hfirstLabel]
      rfl
    rw [hnotices]
    refine List.mem_append_left _ (List.mem_append_right _ (List.mem_map.2 ⟨_, hnoted, ?_⟩))
    exact congrArg₂ Notice.ambiguousHand hlabel (congrArg SpotError.ambiguous hboth)
  · have hreported : ⟨5, last⟩ ∈ hands.filter (¬ Ambiguous l l.spots ·) :=
      List.mem_filter.2 ⟨hlast, decide_eq_true hsettled⟩
    have hlabel : last.label.getD s!"line {5}" = "line 5" := by
      rw [hlastLabel]
      decide +kernel
    have hspot : (l.fitting last).head?.map l.withDocuments = none := by
      rw [hfree]
      rfl
    rw [hresults]
    refine List.mem_map.2 ⟨_, List.mem_map.2 ⟨_, hreported, rfl⟩, ?_⟩
    exact congrArg Output.line (congrArg₂ resolvedObject hlabel hspot)

end HandStudy.Cli
