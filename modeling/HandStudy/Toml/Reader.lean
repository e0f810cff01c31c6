import HandStudy.Toml.Basic
import HandStudy.Toml.Scalar

/-!
# Reading TOML

A document is a sequence of lines, each with a header, a key with its value, or
nothing but a comment. A value may take up several lines. Reading gives the
document's table as a JSON object (`Toml.read`), or nothing if the text is no
document.
-/

namespace HandStudy.Toml

/-- A text without the comment in front. A comment is a part of one line. -/
def skipComment (cs : List Char) : Option (List Char) :=
  match cs with
  | '#' :: cs =>
    let rest := cs.dropWhile isPlain
    if rest.isEmpty || (afterNewline? rest).isSome then some rest else none
  | cs => some cs

/-- What follows the end of a line, after blanks and a comment. The end of the text
    is the end of a line. -/
def endLine (cs : List Char) : Option (List Char) := do
  let cs ← skipComment (skipSpaces cs)
  if cs.isEmpty then some [] else afterNewline? cs

/-- What follows blanks, comments and line ends. -/
def skipLines : Nat → List Char → Option (List Char)
  | 0, _ => none
  | fuel + 1, cs => do
    let cs ← skipComment (skipSpaces cs)
    match afterNewline? cs with
    | some cs => skipLines fuel cs
    | none => some cs

/-! ## Keys -/

/-- May the character stand in a key without quotes? -/
def isKeyChar (c : Char) : Bool :=
  c.isAlphanum || c = '_' || c = '-'

/-- One part of a key. -/
def readKeyPart (cs : List Char) : Option (String × List Char) :=
  match cs with
  | '"' :: cs => readBasic [] cs
  | '\'' :: cs => readLiteral [] cs
  | cs =>
    match cs.takeWhile isKeyChar with
    | [] => none
    | key => some (String.ofList key, cs.dropWhile isKeyChar)

/-- A key of one or more parts with dots between them. -/
def readKey : Nat → List Char → Option (List String × List Char)
  | 0, _ => none
  | fuel + 1, cs => do
    let (part, cs) ← readKeyPart (skipSpaces cs)
    match skipSpaces cs with
    | '.' :: cs => do
      let (parts, cs) ← readKey fuel cs
      return (part :: parts, cs)
    | cs => return ([part], cs)

/-! ## Values -/

mutual

/-- A value, at the start of the text. -/
def readValue : Nat → List Char → Option (Json × List Char)
  | 0, _ => none
  | fuel + 1, cs =>
    match cs with
    | '"' :: _ | '\'' :: _ => (readText cs).map fun (s, cs) => (.str s, cs)
    | '[' :: cs => readItems fuel [] cs
    | '\x7b' :: cs => readFields fuel [] cs
    | cs =>
      let (word, rest) := spanBare cs
      (bareValue? word).map (·, rest)

/-- The items of a list, after its opening bracket or a comma, with the items so far
    last first. Line ends and a final comma are allowed. -/
def readItems : Nat → List Json → List Char → Option (Json × List Char)
  | 0, _, _ => none
  | fuel + 1, items, cs => do
    match ← skipLines (cs.length + 1) cs with
    | ']' :: cs => return (.arr items.reverse, cs)
    | cs => do
      let (v, cs) ← readValue fuel cs
      match ← skipLines (cs.length + 1) cs with
      | ',' :: cs => readItems fuel (v :: items) cs
      | ']' :: cs => return (.arr (v :: items).reverse, cs)
      | _ => none

/-- The fields of a table in braces, after the opening brace or a comma. Line ends and
    a final comma are allowed. -/
def readFields : Nat → Entries → List Char → Option (Json × List Char)
  | 0, _, _ => none
  | fuel + 1, entries, cs => do
    match ← skipLines (cs.length + 1) cs with
    | '\x7d' :: cs => return (.obj (fieldsJson entries), cs)
    | cs => do
      let (path, v, cs) ← readPair fuel cs
      let entries ← entries.put v path
      match ← skipLines (cs.length + 1) cs with
      | ',' :: cs => readFields fuel entries cs
      | '\x7d' :: cs => return (.obj (fieldsJson entries), cs)
      | _ => none

/-- A key and its value. -/
def readPair : Nat → List Char → Option (List String × Json × List Char)
  | 0, _ => none
  | fuel + 1, cs => do
    let (path, cs) ← readKey (cs.length + 1) cs
    let cs ← expect? '=' cs
    let (v, cs) ← readValue fuel (skipSpaces cs)
    return (path, v, cs)

end

/-! ## Documents -/

/-- A document that is being read: its table, and the path of the table that keys go
    to. -/
structure Draft where
  root : Entries := []
  current : List String := []

/-- The path in a header and what follows the header. -/
def readHeader (close : List Char) (cs : List Char) : Option (List String × List Char) := do
  let (path, cs) ← readKey (cs.length + 1) cs
  if close.isPrefixOf cs then some (path, cs.drop close.length) else none

/-- Reads one line, with the following lines if its value takes them up. -/
def Draft.readLine (d : Draft) (cs : List Char) : Option (Draft × List Char) := do
  match skipSpaces cs with
  | '[' :: '[' :: cs => do
    let (path, cs) ← readHeader [']', ']'] cs
    return (⟨← d.root.openTable true path, path⟩, ← endLine cs)
  | '[' :: cs => do
    let (path, cs) ← readHeader [']'] cs
    return (⟨← d.root.openTable false path, path⟩, ← endLine cs)
  | cs =>
    match endLine cs with
    | some cs => return (d, cs)
    | none => do
      let (path, v, cs) ← readPair (2 * cs.length + 2) cs
      return ({ d with root := ← d.root.change (Entries.put v path) d.current }, ← endLine cs)

/-- Reads all lines. -/
def Draft.readLines : Nat → Draft → List Char → Option Draft
  | _, d, [] => some d
  | 0, _, _ => none
  | fuel + 1, d, cs => do
    let (d, cs) ← d.readLine cs
    readLines fuel d cs

/-- The table of a document. A byte order mark in front is skipped. -/
def read (s : String) : Option Json := do
  let cs := match s.toList with
    | '\ufeff' :: cs => cs
    | cs => cs
  let d ← Draft.readLines (cs.length + 1) {} cs
  return .obj (fieldsJson d.root)

end HandStudy.Toml
