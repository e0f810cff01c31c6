import HandStudy.Request
import HandStudy.Store.Tampering
import HandStudy.Workspace

/-!
# Working with stores

A session works with one open store at a time, asks it, imports into it, and opens
others. What it does shows in the files at once, so that a store that is opened again
is as it was left (`Session.step`). The store in use can also be changed behind the
session's back.
-/

namespace HandStudy

/-- A change behind a store's back. -/
inductive Tampering where
  /-- The parameters of a condition are overwritten. -/
  | setParameters (id : Int64) (text : String)
  /-- The format of a profile is overwritten. -/
  | setProfile (name gameClass variant tableSize : String)
  | deleteTag (id : Int64)
  | dropTable (t : Table)
deriving Inhabited

/-- The store after a change, and the number of rows that are changed one by one. -/
def Tampering.apply (s : Store) : Tampering → Option Nat × Store
  | setParameters id text => (s.setParameters id text).map some (fun t => t)
  | setProfile name gameClass variant tableSize =>
    (s.setProfile name gameClass variant tableSize).map some (fun t => t)
  | deleteTag id => (s.deleteTag id).map some (fun t => t)
  | dropTable t => (none, s.dropTable t)

/-- A store in use, and the files. -/
structure Session where
  workspace : Workspace := {}
  opened : Workspace.Opened := .fresh
deriving Inhabited

/-- What happens in a session. -/
inductive SessionStep where
  | openStore (path : String)
  | openExisting (path : String)
  | init
  | importSnapshot (x : Snapshot)
  | ask (r : Request)
  | tamper (t : Tampering)
deriving Inhabited

/-- What a step answers. -/
inductive SessionAnswer where
  | done
  | imported (s : ImportSummary)
  | answer (a : Answer)
  /-- The number of rows that were changed. -/
  | changed (count : Nat)
  | failed (e : StoreError)
deriving Inhabited

namespace Session

/-- The session after work on its store. -/
def keep (s : Session) (o : Workspace.Opened) : Session :=
  ⟨s.workspace.keep o, o⟩

/-- The session after another store was opened. If that failed it goes on with the
    same one. -/
def moveTo (s : Session) :
    Except StoreError (Workspace.Opened × Workspace) → SessionAnswer × Session
  | .ok (o, w) => (.done, ⟨w, o⟩)
  | .error e => (.failed e, s)

/-- The store in use is changed behind the session's back. -/
def tamper (s : Session) (t : Tampering) : SessionAnswer × Session :=
  match s.opened.store with
  | none => (.done, s)
  | some store =>
    let (count, store) := t.apply store
    (count.elim .done .changed, s.keep { s.opened with store := some store })

variable [Dialect]

/-- Takes a step. -/
def step (s : Session) : SessionStep → SessionAnswer × Session
  | .openStore path => s.moveTo (s.workspace.openStore path)
  | .openExisting path => s.moveTo (s.workspace.openExisting path)
  | .init =>
    match s.opened.init with
    | (.ok (), o) => (.done, s.keep o)
    | (.error e, o) => (.failed e, s.keep o)
  | .importSnapshot x =>
    match s.opened.importSnapshot x with
    | (.ok summary, o) => (.imported summary, s.keep o)
    | (.error e, o) => (.failed e, s.keep o)
  | .ask r => (.answer (s.opened.source.answer r), s)
  | .tamper t => s.tamper t

/-- Takes several steps: what each answers. -/
def run (s : Session) : List SessionStep → List SessionAnswer
  | [] => []
  | a :: steps =>
    let (answer, s) := s.step a
    answer :: s.run steps

end Session

end HandStudy
