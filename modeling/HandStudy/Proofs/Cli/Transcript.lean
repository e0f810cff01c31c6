import HandStudy.Cli.Run
import HandStudy.Proofs.Json.Lines

/-!
# What is seen of a transcript

With both streams open a run is seen whole: its results and its notices, each in the order in
which they are written, its failure as the last notice, and a code that tells whether it failed or
broke off (`Transcript.report_open`).
-/

namespace HandStudy.Cli

namespace Write

/-- What goes to the stream of results. -/
def result? : Write → Option Output
  | result o => some o
  | notice _ => none

/-- What goes to the stream of notices. -/
def notice? : Write → Option Notice
  | result _ => none
  | notice n => some n

end Write

namespace Transcript

variable {t : Transcript} {ws : List Write}

/-- The results in the order in which they are written. -/
def results (t : Transcript) : List Output :=
  t.writes.filterMap Write.result?

/-- The notices in the order in which they are written, the failure apart. -/
def notices (t : Transcript) : List Notice :=
  t.writes.filterMap Write.notice?

/-- The exit code. -/
def code (t : Transcript) : Nat :=
  match t.ending with
  | .done => 0
  | .failed _ => failureCode
  | .aborted => abortCode

@[simp] theorem results_mk (ending : Ending) :
    results ⟨ws, ending⟩ = ws.filterMap Write.result? := rfl

@[simp] theorem notices_mk (ending : Ending) :
    notices ⟨ws, ending⟩ = ws.filterMap Write.notice? := rfl

@[simp] theorem ending_after : (after ws t).ending = t.ending := rfl

@[simp] theorem failure_after : (after ws t).failure = t.failure := rfl

@[simp] theorem results_after : (after ws t).results = ws.filterMap Write.result? ++ t.results :=
  List.filterMap_append

@[simp] theorem notices_after : (after ws t).notices = ws.filterMap Write.notice? ++ t.notices :=
  List.filterMap_append

@[simp] theorem results_fail (e : CliError) : (fail e).results = [] := rfl

@[simp] theorem notices_fail (e : CliError) : (fail e).notices = [] := rfl

@[simp] theorem failure_fail (e : CliError) : (fail e).failure = some e := rfl

/-- All that is written is seen if both streams are open. -/
theorem report_open (t : Transcript) :
    t.report {} = ⟨t.code, t.results, t.notices ++ t.failure.toList.map .failure⟩ := by
  obtain ⟨ws, ending⟩ := t
  rw [report, results, notices, code]
  induction ws with
  | nil => cases ending <;> rfl
  | cons w ws ih =>
    rw [reportOf, if_neg (by cases w <;> exact Bool.false_ne_true), ih]
    cases w <;> rfl

end Transcript

/-- What is seen of a run of a command with both streams open. -/
theorem run_open [Dialect] {env : Environment} {arguments : List String} {w : Workspace} {c : Command}
    (h : Invocation.ofArguments arguments = .run c) :
    (run {} env arguments w).1 = (c.transcript env w).1.report {} := by
  rw [run, h]

/-- Results that are values, each on one line, are found on the lines of the stream. -/
theorem Report.onLines {r : Report} {values : List Json} (hresults : r.results = values.map .line)
    (h : ∀ v ∈ values, v.LastsWithin Json.Builder.maxDepth) :
    Json.OnLines r.resultText values := by
  have htext : r.resultText = String.join (values.map fun v => v.print ++ "\n") := by
    rw [Report.resultText, hresults, List.map_map]
    rfl
  rw [htext]
  exact Json.onLines_join h

end HandStudy.Cli
