import HandStudy.Cli.Run
import HandStudy.Store.Text
import HandStudy.Zstd.Frame

/-!
# The program

The outer layer of the command line: it reads the files that a run uses into a
workspace, runs the command, writes the streams, and puts the stores that changed
back where they belong.
-/

namespace HandStudy.Program

/-- A file with the given bytes. -/
def fileOf (bytes : ByteArray) : File :=
  match String.fromUTF8? bytes with
  | some text =>
    match Store.ofText? text with
    | some s => .store s
    | none => .text text
  | none =>
    match (Zstd.decompress? bytes).bind String.fromUTF8? with
    | some text => .compressed text
    | none => .binary bytes.size

/-- The workspace with what is found at a path. -/
def look (w : Workspace) (p : Path) : IO Workspace := do
  try
    let found ← IO.FS.realPath p.text
    if ← found.isDir then return { w with folders := p :: w.folders }
    else return w.write p (fileOf (← IO.FS.readBinFile found))
  catch _ => return w

/-- The workspace with what a path leads to and the folders on the way. -/
def load (w : Workspace) (path : String) : IO Workspace :=
  ((Path.names path).scanl Path.enter (.start path)).foldlM look w

/-- The text of a file that is a store. -/
def storeText? (w : Workspace) (p : Path) : Option String :=
  match w.file? p with
  | some (.store s) => some s.text
  | _ => none

/-- Creates the new folders and writes the stores that changed. -/
def save (before after : Workspace) : IO Unit := do
  for p in after.folders do
    if !before.folders.contains p then IO.FS.createDirAll p.text
  for (p, _) in after.files do
    match storeText? after p with
    | some text => if storeText? before p ≠ some text then IO.FS.writeFile p.text text
    | none => pure ()

/-- The environment. -/
def environment : IO Environment := do
  return {
    config := ← IO.getEnv "LIBRARIAN_CONFIG"
    library := ← IO.getEnv "LIBRARIAN_LIBRARY"
    seats := ← IO.getEnv "LIBRARIAN_POSITIONS"
    hero := ← IO.getEnv "LIBRARIAN_HERO" }

end HandStudy.Program

open HandStudy Program in
/-- Runs the program. -/
def main (arguments : List String) : IO UInt32 := do
  let env ← environment
  let settings ← env.config.toList.foldlM load {}
  let before ← (Cli.filesOf env arguments settings).foldlM load settings
  let (report, after) := Cli.run {} env arguments before
  save before after
  (← IO.getStdout).putStr report.resultText
  (← IO.getStderr).putStr report.noticeText
  return report.code.toUInt32
