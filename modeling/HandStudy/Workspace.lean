import HandStudy.Store.Import
import HandStudy.Store.Load

/-!
# Files

A workspace holds the files that a program sees: texts, compressed texts, stores and
whatever else there is. Paths are names separated by slashes; a folder is there if it
was created or if something is in it. What is above the folder that paths start from is
out of sight.

A file is read where its path leads, from folder to folder (`Workspace.locate?`). A store
is opened at a path (`Workspace.openStore`), which goes by the names alone, none of them
being read as an address of another kind, and creates an empty one if there is no file.
Whether the file holds a store shows only when the store is used.
-/

namespace HandStudy

/-- What a file holds. -/
inductive File where
  | text (s : String)
  /-- A text that is compressed. -/
  | compressed (s : String)
  /-- So many bytes that are neither. -/
  | binary (size : Nat)
  | store (s : Store)
deriving Inhabited

namespace File

/-- The text of a file that is read as it is. A store without tables is an empty
    file. -/
def plainText? : File → Option String
  | text s => some s
  | store s => if s.tables.isEmpty then some "" else none
  | compressed _ | binary _ => none

/-- The store in a file. There is an empty one in a file without bytes, and in one with
    a single byte. -/
def store? : File → Option Store
  | store s => some s
  | text s => if s.utf8ByteSize ≤ 1 then some {} else none
  | binary size => if size ≤ 1 then some {} else none
  | compressed _ => none

end File

/-- A path as the names on the way to a file. A path from the root has the root as its
    first name. -/
abbrev Path := List String

namespace Path

/-- Where the path that a text stands for starts. -/
def start (s : String) : Path :=
  if s.toList.head? = some '/' then ["/"] else []

/-- The names in a text, empty ones included. -/
def names (s : String) : List String :=
  (Text.fields (· = '/') s.toList).map String.ofList

/-- The path with one more name: an empty one and a dot stay where they are, and two dots
    lead back. -/
def enter (p : Path) (name : String) : Path :=
  if name = "" || name = "." then p
  else if name ≠ ".." then p ++ [name]
  else if p = ["/"] then p
  else if p.isEmpty || p.getLast? = some ".." then p ++ [name]
  else p.dropLast

/-- The path that a text stands for by its names alone. -/
def ofString (s : String) : Path :=
  (names s).foldl enter (start s)

/-- A path as text. -/
def text : Path → String
  | "/" :: names => "/" ++ "/".intercalate names
  | names => "/".intercalate names

end Path

/-- The files and the folders without files. -/
structure Workspace where
  files : List (Path × File) := []
  folders : List Path := []
deriving Inhabited

namespace Workspace

/-- The file at a path. -/
def file? (w : Workspace) (p : Path) : Option File :=
  w.files.lookup p

/-- Is there a folder at this path? The one that paths start from is always there, and
    so is the root. -/
def isFolder (w : Workspace) (p : Path) : Bool :=
  p.isEmpty || p = ["/"] || w.folders.any p.isPrefixOf ||
    w.files.any fun (q, _) => p.isPrefixOf q && p.length < q.length

/-- Where a text leads. Each name is looked up in a folder, the empty ones too. -/
def locate? (w : Workspace) (path : String) : Option Path :=
  if path = "" then none
  else (Path.names path).foldlM (fun p name => if w.isFolder p then some (p.enter name) else none)
    (.start path)

/-- The file that a text leads to. -/
def fileAt? (w : Workspace) (path : String) : Option File :=
  (w.locate? path).bind w.file?

/-- Does a text lead to anything? -/
def hasPath (w : Workspace) (path : String) : Bool :=
  (w.locate? path).any fun p => (w.file? p).isSome || w.isFolder p

/-- Writes a file. -/
def write (w : Workspace) (p : Path) (f : File) : Workspace :=
  { w with files := (p, f) :: w.files.filter (·.1 ≠ p) }

/-! ## Texts -/

/-- The text of a file, as it is. -/
def plainText? (w : Workspace) (path : String) : Option String :=
  (w.fileAt? path).bind File.plainText?

/-- A text without the byte order mark in front. -/
def withoutMark (s : String) : String :=
  match s.toList with
  | '\ufeff' :: cs => String.ofList cs
  | _ => s

/-- The text of a file that is compressed if its name says so, without a byte order
    mark. -/
def text? (w : Workspace) (path : String) : Option String :=
  if path.endsWith ".zst" then
    match w.fileAt? path with
    | some (.compressed s) => some (withoutMark s)
    | _ => none
  else (w.plainText? path).map withoutMark

/-! ## Folders -/

/-- Why a folder cannot be created. -/
inductive FolderFault where
  /-- There is a file in its place. -/
  | occupied
  /-- There is a file in the place of a folder above it. -/
  | belowFile
deriving DecidableEq, Inhabited

/-- The fault in words. -/
def FolderFault.message : FolderFault → String
  | .occupied => "File exists (os error 17)"
  | .belowFile => "Not a directory (os error 20)"

/-- The text of the folder that a path is in. -/
def parentText (path : String) : String :=
  let isSlash (c : Char) := c = '/'
  let name := path.toList.reverse.dropWhile isSlash
  String.ofList ((name.dropWhile fun c => !isSlash c).dropWhile isSlash).reverse

/-- Creates the folder that a path is in, with the folders above it. -/
def createParent (w : Workspace) (path : String) : Except FolderFault Workspace :=
  let parent : Path := .ofString (parentText path)
  if w.isFolder parent then .ok w
  else if (w.file? parent).isSome then .error .occupied
  else if w.files.any fun (q, _) => q.isPrefixOf parent then .error .belowFile
  else .ok { w with folders := parent :: w.folders }

/-! ## Stores -/

/-- A store that is open. -/
structure Opened where
  /-- Where the store is kept, unless it is private to the program. -/
  path : Option Path
  /-- The store, unless the file holds something else. -/
  store : Option Store
deriving Inhabited

/-- A new store without a file. -/
def Opened.fresh : Opened := ⟨none, some {}⟩

/-- Does the path ask for a store without a file? -/
def isPrivate (path : String) : Bool :=
  path = "" || path = ":memory:"

/-- Opens a store. -/
def openStore (w : Workspace) (path : String) : Except StoreError (Opened × Workspace) :=
  let p : Path := .ofString path
  if isPrivate path then .ok (.fresh, w)
  else if w.isFolder p || !w.isFolder p.dropLast then
    .error (.failed (.openFile path) (.cannotOpen path))
  else match w.file? p with
    | some f => .ok (⟨some p, f.store?⟩, w)
    | none => .ok (⟨some p, some {}⟩, w.write p (.store {}))

/-- Opens a store that is there. -/
def openExisting (w : Workspace) (path : String) : Except StoreError (Opened × Workspace) :=
  if w.hasPath path then w.openStore path else .error (.missingFile path)

/-- Keeps an open store where it belongs. -/
def keep (w : Workspace) (o : Opened) : Workspace :=
  match o.path, o.store with
  | some p, some s => w.write p (.store s)
  | _, _ => w

end Workspace

namespace Workspace.Opened

/-- The store, or the failure of an action that finds something else. -/
def require (o : Opened) (action : StoreAction) : Except StoreError Store :=
  match o.store with
  | some s => .ok s
  | none => .error (.failed action .noLibrary)

/-- Creates the tables and default profiles that are missing. -/
def init (o : Opened) : Except StoreError Unit × Opened :=
  match o.require .createTables with
  | .ok s => (.ok (), { o with store := some s.init })
  | .error e => (.error e, o)

/-- Imports a snapshot. -/
def importSnapshot (o : Opened) (x : Snapshot) : Except StoreError ImportSummary × Opened :=
  match o.require .createTables with
  | .ok s =>
    let (result, s) := s.importSnapshot x
    (result, { o with store := some s })
  | .error e => (.error e, o)

/-- Loads the library of tags. -/
def loadTags (o : Opened) : Except StoreError TagLibrary := do
  (← o.require (.read .tags)).loadTags

/-- Loads the library of spots. -/
def loadSpots (o : Opened) : Except StoreError SpotLibrary := do
  (← o.require (.read .spots)).loadSpots

/-- An open store as a source of libraries. -/
def source (o : Opened) : Source :=
  ⟨o.loadTags.mapError StoreError.libraryError, o.loadSpots.mapError StoreError.libraryError⟩

end Workspace.Opened

end HandStudy
