import HandStudy.Classification
import HandStudy.Resolution

/-!
# Requests to a library

What can be asked of something that has a library: one of its two libraries as a
whole, or what one of them says about a hand. Every request needs exactly one of
the two, so that a library can be fetched when it is needed.
-/

namespace HandStudy

/-- The two libraries. -/
inductive LibraryKind where
  | tags
  | spots
deriving DecidableEq, Inhabited

/-- A question to the library of tags. -/
inductive TagRequest where
  | whole
  | active (h : Hand)
  | documents (h : Hand)
  | classify (h : Hand)
deriving Inhabited

/-- A question to the library of spots. -/
inductive SpotRequest where
  | whole
  | find (profile : Option String) (h : Hand)
deriving Inhabited

/-- A question to a library. -/
inductive Request where
  | tags (r : TagRequest)
  | spots (r : SpotRequest)
deriving Inhabited

/-- The library that a request needs. -/
def Request.kind : Request → LibraryKind
  | .tags _ => .tags
  | .spots _ => .spots

/-- The answer to a request. -/
inductive Answer where
  | tagLibrary (l : TagLibrary)
  | active (tags : List Int64)
  | documents (documents : List Document)
  | classification (c : Classification)
  | spotLibrary (l : SpotLibrary)
  | spot (m : Option SpotMatch)
  | libraryError (e : LibraryError)
  | spotError (e : SpotError)
  /-- The evaluation has broken off. -/
  | aborted
deriving Inhabited

/-- The answer of an evaluation. -/
def Answer.ofLogged {α : Type} (answer : α → Answer) (x : Logged α) : Answer :=
  match x.result? with
  | some a => answer a
  | none => .aborted

variable [Dialect]

/-- The answer when the library of tags is there. -/
def TagRequest.answer (r : TagRequest) (l : TagLibrary) : Answer :=
  match r with
  | whole => .tagLibrary l
  | active h => .ofLogged .active (l.activeTags h)
  | documents h => .ofLogged .documents (l.relevantDocuments h)
  | classify h => .ofLogged .classification (l.classify h)

/-- The answer when the library of tags is there or cannot be had. -/
def TagRequest.answerFrom (r : TagRequest) : Except LibraryError TagLibrary → Answer
  | .ok l => r.answer l
  | .error e => .libraryError e

/-- The answer when the library of spots is there. -/
def SpotRequest.answer (r : SpotRequest) (l : SpotLibrary) : Answer :=
  match r with
  | whole => .spotLibrary l
  | find profile h =>
    match (l.find profile h).value with
    | .ok m => .spot m
    | .error e => .spotError e

/-- The answer when the library of spots is there or cannot be had. -/
def SpotRequest.answerFrom (r : SpotRequest) : Except LibraryError SpotLibrary → Answer
  | .ok l => r.answer l
  | .error e =>
    match r with
    | whole => .libraryError e
    | find .. => .spotError (.library e)

/-- A library that can be asked for. -/
structure Source where
  tags : Except LibraryError TagLibrary
  spots : Except LibraryError SpotLibrary

/-- A snapshot is always to be had. -/
def Snapshot.source (s : Snapshot) : Source := ⟨.ok s.tagLibrary, .ok s.spotLibrary⟩

/-- The answer of a source. -/
def Source.answer (s : Source) : Request → Answer
  | .tags r => r.answerFrom s.tags
  | .spots r => r.answerFrom s.spots

end HandStudy
