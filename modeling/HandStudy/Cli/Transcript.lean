import HandStudy.Cli.Arguments
import HandStudy.Json.Printer
import HandStudy.Resolution
import HandStudy.Settings
import HandStudy.Workspace

/-!
# What a program writes

A command writes results to one stream and notices to another, in some order, and may
fail or break off at the end: that is its transcript. A stream can be closed, and then
the first write to it is where the command ends (`Transcript.report`).

Texts that are not the program's own are left out: what the system, or a reader of
JSON or TOML, says about its failure, and what the runtime writes when a command
breaks off.
-/

namespace HandStudy.Cli

/-- Why a command fails. -/
inductive CliError where
  /-- A stream is closed. -/
  | closedStream
  /-- An input file cannot be read. -/
  | unreadable (file : String)
  /-- An input file holds no snapshot. -/
  | badSnapshot (file : String)
  /-- A file of hands has lines, and none of them is a hand. -/
  | noHands
  | card (e : CardError)
  | sequence (e : SequenceError)
  | settings (e : SettingsError)
  | library (e : LibraryError)
  /-- A folder cannot be created. -/
  | folder (path : String) (fault : Workspace.FolderFault)
  | spot (e : SpotError)
  /-- So many hands are in more than one spot. -/
  | ambiguousHands (count : Nat)
deriving DecidableEq, Inhabited

/-- The error in words. Why a file cannot be read, or holds no snapshot, is left out: it would
    follow after a colon. -/
def CliError.message : CliError → String
  | .closedStream => "I/O error: stream closed"
  | .unreadable file => s!"Invalid input: Failed to read {file}"
  | .badSnapshot file => s!"Invalid input: Invalid library snapshot {file}"
  | .noHands => "Invalid input: Invalid record"
  | .card e => s!"Invalid input: {e.message}"
  | .sequence e => s!"Invalid input: {e.message}"
  | .settings e => s!"Configuration error: Invalid configuration: {e.message}"
  | .library e | .spot (.library e) => s!"Library error: {e.reason}"
  | .folder path fault =>
    s!"Library error: Failed to create directory {path}: {fault.message}"
  | .spot (.ambiguous names) => "Ambiguous spot: " ++ ", ".intercalate names
  | .spot (.unknownProfile name) =>
    "Invalid input: " ++ (SpotError.unknownProfile name).message
  | .ambiguousHands count => s!"Ambiguous spot: {count} hand(s) matched more than one spot"

/-- A result. -/
inductive Output where
  | help
  | version
  /-- A value on one line. -/
  | line (v : Json)
  /-- A value on many lines. -/
  | block (v : Json)
deriving Inhabited

/-- The commands, each on a line of its own. -/
def commandList : String :=
  String.join (commandNames.map fun name => s!"  {name}\n")

/-- A result as text. -/
def Output.text : Output → String
  | .help =>
    "Classify poker hands against a study library of tags and spots\n\n" ++
      "Usage: librarian <COMMAND>\n\nCommands:\n" ++ commandList
  | .version => "librarian 0.1.0\n"
  | .line v => v.print ++ "\n"
  | .block v => v.pretty ++ "\n"

/-- A notice. -/
inductive Notice where
  /-- The command line is malformed. -/
  | usage
  /-- A line of a file of hands is no hand. -/
  | skippedLine (number : Nat)
  /-- A hand is in several spots. -/
  | ambiguousHand (label : String) (e : SpotError)
  | failure (e : CliError)
deriving DecidableEq, Inhabited

/-- How the program is used, in short. -/
def usageText : String :=
  "Usage: librarian <command> [options]\n\nCommands:\n" ++ commandList ++
    "\nFor full help, run: librarian --help\n"

/-- A notice as text. Why a line is no hand is left out: it would follow after a colon. -/
def Notice.text : Notice → String
  | .usage => "error: the command line is malformed\n\n" ++ usageText
  | .skippedLine number => s!"WARNING: Skipping line {number}\n"
  | .ambiguousHand label e => s!"Error: {label}: {e.message}\n"
  | .failure e => s!"Error: {e.message}\n"

/-- Something written. -/
inductive Write where
  | result (o : Output)
  | notice (n : Notice)
deriving Inhabited

/-- How a command ends. -/
inductive Ending where
  | done
  | failed (e : CliError)
  /-- It breaks off, and the program with it. -/
  | aborted
deriving DecidableEq, Inhabited

/-- What a command writes, and how it ends. -/
structure Transcript where
  writes : List Write := []
  ending : Ending := .done
deriving Inhabited

namespace Transcript

/-- The failure at the end, if there is one. -/
def failure (t : Transcript) : Option CliError :=
  match t.ending with
  | .failed e => some e
  | .done | .aborted => none

/-- One result and no failure. -/
def single (o : Output) : Transcript := ⟨[.result o], .done⟩

/-- Nothing but a failure. -/
def fail (e : CliError) : Transcript := ⟨[], .failed e⟩

/-- Writes something first. -/
def after (writes : List Write) (t : Transcript) : Transcript :=
  { t with writes := writes ++ t.writes }

end Transcript

/-- The streams that are closed. -/
structure Closed where
  results : Bool := false
  notices : Bool := false
deriving DecidableEq, Inhabited

/-- What is seen of a run. -/
structure Report where
  code : Nat
  results : List Output := []
  notices : List Notice := []
deriving Inhabited

/-- The exit code of a run that fails. -/
def failureCode : Nat := 2

/-- The exit code of a run that breaks off, which the runtime gives. -/
def abortCode : Nat := 101

namespace Report

/-- The results as text. -/
def resultText (r : Report) : String :=
  String.join (r.results.map Output.text)

/-- The notices as text. -/
def noticeText (r : Report) : String :=
  String.join (r.notices.map Notice.text)

/-- A run that ends in a failure, which is noted unless that is impossible. -/
def failed (closed : Closed) (e : CliError) : Report :=
  ⟨failureCode, [], if closed.notices then [] else [.failure e]⟩

/-- Something is written at the start of a run. -/
def withWrite (w : Write) (r : Report) : Report :=
  match w with
  | .result o => { r with results := o :: r.results }
  | .notice n => { r with notices := n :: r.notices }

end Report

/-- Can something be written? -/
def Write.isLost (closed : Closed) : Write → Bool
  | .result _ => closed.results
  | .notice _ => closed.notices

/-- What is seen of writes and the end after them. The first write to a closed stream is
    the end. -/
def reportOf (closed : Closed) (ending : Ending) : List Write → Report
  | [] =>
    match ending with
    | .done => ⟨0, [], []⟩
    | .failed e => .failed closed e
    | .aborted => ⟨abortCode, [], []⟩
  | w :: writes =>
    if w.isLost closed then .failed closed .closedStream
    else (reportOf closed ending writes).withWrite w

/-- What is seen of a command. -/
def Transcript.report (closed : Closed) (t : Transcript) : Report :=
  reportOf closed t.ending t.writes

end HandStudy.Cli
