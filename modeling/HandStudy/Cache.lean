import HandStudy.Request

/-!
# Cached libraries

A cache stands between those who ask and a source whose contents change and which
may be down, as a whole or for one of the two libraries. Each library is fetched when
it is first needed and then kept until the cache is cleared; a fetch that fails leaves
nothing behind, so the next one tries again. Nothing tells the cache that the source
has changed.

A run (`CachedSource.step`) goes through requests and changes of the source in any
order and counts the fetches.
-/

namespace HandStudy

/-- What is kept of a source. -/
structure Cache where
  tags : Option TagLibrary := none
  spots : Option SpotLibrary := none
deriving Inhabited

/-- A source that can be edited and taken down. -/
structure Origin where
  contents : Snapshot := {}
  /-- The reason why it is down for one of the libraries, if it is. -/
  failure : LibraryKind → Option String := fun _ => none
deriving Inhabited

/-- What comes of asking the origin. -/
def Origin.source (o : Origin) : Source where
  tags := match o.failure .tags with
    | none => .ok o.contents.tagLibrary
    | some reason => .error ⟨reason⟩
  spots := match o.failure .spots with
    | none => .ok o.contents.spotLibrary
    | some reason => .error ⟨reason⟩

/-- A cache with its origin, and the number of fetches of each library. -/
structure CachedSource where
  origin : Origin := {}
  cache : Cache := {}
  tagFetches : Nat := 0
  spotFetches : Nat := 0
deriving Inhabited

/-- What happens to a cached source. -/
inductive CacheStep where
  /-- The origin gets other contents. -/
  | edit (contents : Snapshot)
  /-- The origin goes down for a reason, or comes up again: for both libraries or for
      one of them. -/
  | setFailure (reason : Option String) (kinds : List LibraryKind := [.tags, .spots])
  /-- The cache is cleared. -/
  | invalidate
  /-- A request, past the cache or through it. -/
  | ask (direct : Bool) (r : Request)
deriving Inhabited

namespace CachedSource

/-- Fetches the library of tags from the origin. -/
def fetchTags (c : CachedSource) : Except LibraryError TagLibrary × CachedSource :=
  (c.origin.source.tags, { c with tagFetches := c.tagFetches + 1 })

/-- Fetches the library of spots from the origin. -/
def fetchSpots (c : CachedSource) : Except LibraryError SpotLibrary × CachedSource :=
  (c.origin.source.spots, { c with spotFetches := c.spotFetches + 1 })

/-- The library of tags, kept or fetched. -/
def loadTags (c : CachedSource) : Except LibraryError TagLibrary × CachedSource :=
  match c.cache.tags with
  | some l => (.ok l, c)
  | none =>
    match c.fetchTags with
    | (.ok l, c) => (.ok l, { c with cache.tags := some l })
    | (.error e, c) => (.error e, c)

/-- The library of spots, kept or fetched. -/
def loadSpots (c : CachedSource) : Except LibraryError SpotLibrary × CachedSource :=
  match c.cache.spots with
  | some l => (.ok l, c)
  | none =>
    match c.fetchSpots with
    | (.ok l, c) => (.ok l, { c with cache.spots := some l })
    | (.error e, c) => (.error e, c)

variable [Dialect]

/-- Answers a request, past the cache or through it. -/
def ask (c : CachedSource) (direct : Bool) : Request → Answer × CachedSource
  | .tags r =>
    let (tags, c) := if direct then c.fetchTags else c.loadTags
    (r.answerFrom tags, c)
  | .spots r =>
    let (spots, c) := if direct then c.fetchSpots else c.loadSpots
    (r.answerFrom spots, c)

/-- Takes a step. Only a request has an answer. -/
def step (c : CachedSource) : CacheStep → Option Answer × CachedSource
  | .edit contents => (none, { c with origin.contents := contents })
  | .setFailure reason kinds =>
    let failure (k : LibraryKind) := if k ∈ kinds then reason else c.origin.failure k
    (none, { c with origin.failure := failure })
  | .invalidate => (none, { c with cache := {} })
  | .ask direct r =>
    let (answer, c) := c.ask direct r
    (some answer, c)

/-- Takes several steps: what each answers and the counters after it. -/
def run (c : CachedSource) : List CacheStep → List (Option Answer × Nat × Nat)
  | [] => []
  | s :: steps =>
    let (answer, c) := c.step s
    (answer, c.tagFetches, c.spotFetches) :: c.run steps

end CachedSource

end HandStudy
