import HandStudy.Proofs.Cli.HandFile
import HandStudy.Proofs.Cli.Transcript
import HandStudy.Proofs.Narrowing
import HandStudy.Proofs.Store.Load

/-!
# What is refused without a library

Resolving the hands of a file needs a library that can be loaded and that knows the profile, if one
is given. It is the first hand that needs them: a file with a hand is refused, but for a file without
any the library is not loaded and the profile is not looked up, so that it is resolved all the same
(`Cli.run_resolve_unusable`). Only that there is no library at its path is noticed in any case.
Classifying loads its library at once, and is refused whatever the hands are
(`Cli.run_classify_unloadable`).
-/

namespace HandStudy.Cli

/-- Why the spots of a profile are not to be had from a store: the library cannot be loaded, or it
    has no profile of this name in any spelling. -/
inductive Unusable (o : Workspace.Opened) (profile : Option String) : CliError → Prop
  | library {e : StoreError} : o.loadSpots = .error e →
      Unusable o profile (.library e.libraryError)
  | profile {l : SpotLibrary} {n : String} : o.loadSpots = .ok l → profile = some n →
      (∀ p ∈ l.profiles, ¬ Text.sameLetters p.name n) →
      Unusable o profile (.spot (.unknownProfile n))

variable {env : Environment} {w w' : Workspace} {input path content text : String}
  {library profile : Option String} {arguments : List String} {o : Workspace.Opened}

/-- A file without lines to skip is loaded. -/
theorem loadHands_of_no_spoilt (hinput : w.text? input = some text)
    (hlines : ∀ p ∈ Text.lines text, ¬ Spoilt p.1) :
    loadHands w input = ([], .ok (handsOf text)) := by
  have hskipped : skippedOf text = [] := by
    by_contra hne
    obtain ⟨p, hp, hspoilt⟩ := (accounts text).skipped_ne_nil_iff.1 hne
    exact hlines p hp hspoilt
  rw [loadHands_eq hinput, hskipped, if_neg fun h => h.2 rfl, List.map_nil]

/-- The first hand is refused. -/
theorem resolveHands_of_unusable {e : CliError} (he : Unusable o profile e)
    (hands : List LoadedHand) :
    resolveHands (o.loadSpots.mapError StoreError.libraryError) profile 0 hands =
      if hands = [] then {} else .fail e := by
  cases hands with
  | nil => rfl
  | cons h hands =>
    rw [if_neg (List.cons_ne_nil h hands)]
    cases he with
    | library hload =>
      rw [hload]
      rfl
    | @profile l n hload hprofile hunknown =>
      have hfind : (l.find (some n) h.hand).value = .error (.unknownProfile n) := by
        rw [SpotLibrary.find, Logged.value_bind,
          SpotLibrary.resolveIn_of_unknown (SpotLibrary.profile?_eq_none_iff.2 hunknown)]
        rfl
      rw [hload, hprofile, Except.mapError, resolveHands, hfind]

/-- A failure is all that is seen of a command that does nothing else. -/
theorem report_fail (e : CliError) : (Transcript.fail e).report {} = ⟨2, [], [.failure e]⟩ := rfl

/-- What is seen of resolving if the spots are not to be had. -/
theorem run_resolve_of_unusable [Dialect]
    (harguments : Invocation.ofArguments arguments = .run (.resolve input library profile))
    (hpath : libraryPath env w library = .ok path) (hinput : w.text? input = some text)
    (hlines : ∀ p ∈ Text.lines text, ¬ Spoilt p.1) (hopen : w.openExisting path = .ok (o, w'))
    {e : CliError} (he : Unusable o profile e) :
    (run {} env arguments w).1 =
      if handsOf text = [] then ⟨0, [], []⟩ else ⟨2, [], [.failure e]⟩ := by
  rw [run_open harguments, Command.transcript, resolveTranscript, hpath]
  simp only [loadHands_of_no_spoilt hinput hlines, hopen, resolveHands_of_unusable he]
  split
  · rfl
  · exact report_fail e

/-- Resolving is refused if there is no library, and it is refused if the library cannot be loaded or
    does not know the profile and the file has a hand. Nothing is reported then, and the failure says
    why. Without a hand the file is resolved, and nothing is said of the library. -/
theorem run_resolve_unusable [Dialect] (arguments : List String)
    (harguments : Invocation.ofArguments arguments = .run (.resolve input library profile))
    (hpath : libraryPath env w library = .ok path) (hinput : w.Holds input content)
    (hlines : ∀ p ∈ Text.lines (Workspace.withoutMark content), ¬ Spoilt p.1) :
    (∀ e, w.openExisting path = .error e →
      (run {} env arguments w).1 = ⟨2, [], [.failure (.library e.libraryError)]⟩) ∧
    ∀ o w' e, w.openExisting path = .ok (o, w') → Unusable o profile e →
      ((∃ p ∈ Text.lines (Workspace.withoutMark content), (handOn? p.1).isSome) →
        (run {} env arguments w).1 = ⟨2, [], [.failure e]⟩) ∧
      ((∀ p ∈ Text.lines (Workspace.withoutMark content), handOn? p.1 = none) →
        (run {} env arguments w).1 = ⟨0, [], []⟩) := by
  have haccounts := accounts (Workspace.withoutMark content)
  refine ⟨fun e hopen => ?_, fun o w' e hopen he => ?_⟩
  · rw [run_open harguments, Command.transcript, resolveTranscript, hpath]
    simp only [loadHands_of_no_spoilt hinput.text? hlines, hopen]
    exact report_fail _
  · rw [run_resolve_of_unusable harguments hpath hinput.text? hlines hopen he]
    refine ⟨fun ⟨p, hp, hhand⟩ => if_neg fun hnil => ?_, fun hnone => if_pos ?_⟩
    · exact Option.isSome_iff_ne_none.1 hhand (haccounts.hands_eq_nil_iff.1 hnil p hp)
    · exact haccounts.hands_eq_nil_iff.2 hnone

/-- A file of hands, and a library. -/
def handsAndLibrary (hands : String) (s : Store) : Workspace where
  files := [(["hands.jsonl"], .text hands), (["library.db"], .store s)]

theorem handsAndLibrary_holds (hands : String) (s : Store) :
    (handsAndLibrary hands s).Holds "hands.jsonl" hands :=
  Workspace.holds_of_plainText? (by decide +kernel) rfl

/-- A command line that asks for the spots of a profile. -/
def resolveOmaha : List String :=
  ["resolve", "--input=hands.jsonl", "--library=library.db", "--profile=Pot Limit Omaha"]

theorem ofArguments_resolveOmaha : Invocation.ofArguments resolveOmaha =
    .run (.resolve "hands.jsonl" (some "library.db") (some "Pot Limit Omaha")) := by
  decide +kernel

/-- A new library does not know the profile. -/
theorem unusable_omaha : Unusable ⟨some ["library.db"], some (.init {})⟩ (some "Pot Limit Omaha")
    (.spot (.unknownProfile "Pot Limit Omaha")) :=
  .profile (l := ({} : Store).init.spotLibrary Profile.defaults) rfl rfl (by decide +kernel)

/-- A hand is refused, as the library does not know the profile, and a blank line is resolved.
    Without a library that is refused as well. -/
theorem run_resolve_unusable_omaha :
    (run {} {} resolveOmaha (handsAndLibrary "\x7b\x7d\n" (.init {}))).1 =
      ⟨2, [], [.failure (.spot (.unknownProfile "Pot Limit Omaha"))]⟩ ∧
    (run {} {} resolveOmaha (handsAndLibrary "\n" (.init {}))).1 = ⟨0, [], []⟩ ∧
    (run {} {} resolveOmaha { files := [(["hands.jsonl"], .text "\n")] }).1 =
      ⟨2, [], [.failure (.library (StoreError.missingFile "library.db").libraryError)]⟩ := by
  have halone : Workspace.Holds { files := [(["hands.jsonl"], .text "\n")] } "hands.jsonl" "\n" :=
    Workspace.holds_of_plainText? (by decide +kernel) rfl
  have hpath (w : Workspace) : libraryPath {} w (some "library.db") = .ok "library.db" := rfl
  obtain ⟨-, hhand⟩ := run_resolve_unusable resolveOmaha ofArguments_resolveOmaha (hpath _)
    (handsAndLibrary_holds "\x7b\x7d\n" (.init {})) (by decide +kernel)
  obtain ⟨-, hblank⟩ := run_resolve_unusable resolveOmaha ofArguments_resolveOmaha (hpath _)
    (handsAndLibrary_holds "\n" (.init {})) (by decide +kernel)
  obtain ⟨hmissing, -⟩ := run_resolve_unusable resolveOmaha ofArguments_resolveOmaha (hpath _)
    halone (by decide +kernel)
  exact ⟨(hhand _ _ _ rfl unusable_omaha).1 (by decide +kernel),
    (hblank _ _ _ rfl unusable_omaha).2 (by decide +kernel), hmissing _ rfl⟩

/-- An empty file is resolved even by a library that does not know the profile, and by one that
    cannot be loaded. -/
theorem unknown_profile_unnoticed :
    let report (s : Store) := (run {} {} resolveOmaha (handsAndLibrary "" s)).1
    (∀ p ∈ Profile.defaults, ¬ Text.sameLetters p.name "Pot Limit Omaha") ∧
      ({} : Store).init.loadSpots = .ok (({} : Store).init.spotLibrary Profile.defaults) ∧
      report (.init {}) = ⟨0, [], []⟩ ∧
      ({} : Store).loadSpots = .error (.failed (.read .spots) (.missingTable .spots)) ∧
      report {} = ⟨0, [], []⟩ := by
  have hinput (s : Store) : (handsAndLibrary "" s).text? "hands.jsonl" = some "" :=
    (handsAndLibrary_holds "" s).text?
  have hnone : handsOf "" = [] := rfl
  refine ⟨by decide +kernel, rfl, ?_, rfl, ?_⟩
  · exact (run_resolve_of_unusable ofArguments_resolveOmaha rfl (hinput _) (by decide +kernel) rfl
      unusable_omaha).trans (if_pos hnone)
  · exact (run_resolve_of_unusable ofArguments_resolveOmaha rfl (hinput _) (by decide +kernel) rfl
      (.library rfl)).trans (if_pos hnone)

/-- Classifying is refused if the library cannot be loaded, whatever the hands are. -/
theorem run_classify_unloadable [Dialect] (arguments : List String)
    (harguments : Invocation.ofArguments arguments = .run (.classify input library))
    (hpath : libraryPath env w library = .ok path) (hinput : w.Holds input content)
    (hlines : ∀ p ∈ Text.lines (Workspace.withoutMark content), ¬ Spoilt p.1)
    (hopen : w.openExisting path = .ok (o, w')) {e : StoreError} (hload : o.loadTags = .error e) :
    (run {} env arguments w).1 = ⟨2, [], [.failure (.library e.libraryError)]⟩ := by
  rw [run_open harguments, Command.transcript, classifyTranscript, hpath]
  simp only [loadHands_of_no_spoilt hinput.text? hlines, hopen, hload]
  exact report_fail _

end HandStudy.Cli
