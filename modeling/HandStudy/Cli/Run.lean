import HandStudy.Cli.Transcript

/-!
# Running commands

Every command is a function of its options, the environment and the files, which
gives its transcript and the files afterwards (`Command.transcript`). Nothing is
written before all that can fail has been tried, except that hands are reported one
by one.
-/

namespace HandStudy.Cli

/-- A hand in a file and the line it is on. -/
structure LoadedHand where
  line : Nat
  hand : Hand
deriving Inhabited

/-- What the hand is called: its own label, or else its line. -/
def LoadedHand.label (h : LoadedHand) : String :=
  h.hand.label.getD s!"line {h.line}"

/-- A line of a file of hands. -/
inductive HandLine where
  | hand (h : LoadedHand)
  /-- The line with this number is no hand. -/
  | bad (number : Nat)
deriving Inhabited

namespace HandLine

/-- Reads a line that is not blank. -/
def read (number : Nat) (text : String) : HandLine :=
  match (Json.read text).map Hand.decode with
  | some (.ok h) => .hand ⟨number, h⟩
  | _ => .bad number

/-- The hand on the line. -/
def hand? : HandLine → Option LoadedHand
  | hand h => some h
  | bad _ => none

/-- The number of a line that is no hand. -/
def badNumber? : HandLine → Option Nat
  | hand _ => none
  | bad number => some number

end HandLine

/-- The lines of a text that are not blank. -/
def handLines (text : String) : List HandLine :=
  (Text.numberedLines text).map fun (number, line) => HandLine.read number line

/-- The hands of a file, and a notice for each line that is none. There must be a
    hand if there is a line. -/
def loadHands (w : Workspace) (input : String) : List Write × Except CliError (List LoadedHand) :=
  match w.text? input with
  | none => ([], .error (.unreadable input))
  | some text =>
    let lines := handLines text
    let hands := lines.filterMap HandLine.hand?
    let bad := lines.filterMap HandLine.badNumber?
    (bad.map fun number => .notice (.skippedLine number),
      if hands.isEmpty && !bad.isEmpty then .error .noHands else .ok hands)

/-- The settings. -/
def loadSettings (env : Environment) (w : Workspace) : Except CliError Settings :=
  (Settings.load env w.plainText?).mapError .settings

/-- The path of the library: the one given, or else that of the settings. -/
def libraryPath (env : Environment) (w : Workspace) (given : Option String) :
    Except CliError String :=
  match given with
  | some path => .ok path
  | none => (loadSettings env w).map fun s => s.library.value

/-- The error of a store as that of a command. -/
def storeFailure (e : StoreError) : CliError := .library e.libraryError

/-! ## The commands -/

/-- The texture of a board, whose cards are separated by blanks or commas. -/
def textureTranscript (board : String) : Transcript :=
  match Texture.analyzeText (Text.tokens (fun c => Text.isBlank c || c = ',') board) with
  | .ok tags => .single (.line (.ofList (fun t => .str t.name) tags))
  | .error e => .fail (.card e)

/-- The number of seats and the player, as given or else as the settings say. -/
def seatsAndPlayer (env : Environment) (w : Workspace) (seats : Option Nat)
    (player : Option String) : Except CliError (Nat × Option String) :=
  match seats, player with
  | some n, some p => .ok (n, some p)
  | _, _ => do
    let s ← loadSettings env w
    return (seats.getD s.seats.value, player <|> s.hero.value)

/-- What is reported of the seats that have not folded. -/
def survivorsJson (sequence : String) (seats : Nat) (player : Option String)
    (alive : List Nat) : Json :=
  .obj
    [("filter", .ofOption (fun p => .str (PositionFilter.ofSeats alive p).sql) player),
     ("player", .ofOption .str player),
     ("position_count", .int seats),
     ("positions", .ofList (fun n : Nat => .int n) alive),
     ("sequence", .str sequence)]

/-- The seats that have not folded, and the filter for a player. -/
def survivorsTranscript (env : Environment) (w : Workspace) (sequence : String)
    (seats : Option Nat) (player : Option String) : Transcript :=
  match seatsAndPlayer env w seats player with
  | .error e => .fail e
  | .ok (n, p) =>
    match ActionSequence.survivors sequence n with
    | .ok alive => .single (.block (survivorsJson sequence n p alive))
    | .error e => .fail (.sequence e)

/-- What is reported of a classified hand. -/
def classifiedJson (h : LoadedHand) (c : Classification) : Json :=
  (Json.obj (("hand", .str h.label) :: c.fields)).canonical

/-- Classifies the hands of a file. Nothing is reported if that breaks off. -/
def classifyTranscript [Dialect] (env : Environment) (w : Workspace) (input : String)
    (library : Option String) : Transcript × Workspace :=
  match libraryPath env w library with
  | .error e => (.fail e, w)
  | .ok path =>
    match loadHands w input with
    | (notices, .error e) => (.after notices (.fail e), w)
    | (notices, .ok hands) =>
      match w.openExisting path with
      | .error e => (.after notices (.fail (storeFailure e)), w)
      | .ok (o, w) =>
        match o.loadTags with
        | .error e => (.after notices (.fail (storeFailure e)), w)
        | .ok l =>
          match (l.classifyAll (hands.map LoadedHand.hand)).result? with
          | none => (⟨notices, .aborted⟩, w)
          | some results =>
            let lines := List.zipWith classifiedJson hands results
            (⟨notices ++ lines.map fun v => .result (.line v), .done⟩, w)

/-- What is reported of the spot of a hand. -/
def resolvedJson (h : LoadedHand) (m : Option SpotMatch) : Json :=
  (Json.obj [("hand", .str h.label), ("spot", .ofOption SpotMatch.toJson m)]).canonical

/-- Reports the spots of some hands. A hand in several spots is noted, and there is a
    failure at the end; any other error ends the report. -/
def resolveHands (l : Except LibraryError SpotLibrary) (profile : Option String)
    (ambiguous : Nat) : List LoadedHand → Transcript
  | [] => if ambiguous = 0 then {} else .fail (.ambiguousHands ambiguous)
  | h :: hands =>
    match l with
    | .error e => .fail (.library e)
    | .ok library =>
      match (library.find profile h.hand).value with
      | .ok m =>
        .after [.result (.line (resolvedJson h m))] (resolveHands l profile ambiguous hands)
      | .error (.ambiguous names) =>
        .after [.notice (.ambiguousHand h.label (.ambiguous names))]
          (resolveHands l profile (ambiguous + 1) hands)
      | .error e => .fail (.spot e)

/-- Finds the spots of the hands of a file. The library is loaded when the first hand
    needs it. -/
def resolveTranscript (env : Environment) (w : Workspace) (input : String)
    (library profile : Option String) : Transcript × Workspace :=
  match libraryPath env w library with
  | .error e => (.fail e, w)
  | .ok path =>
    match loadHands w input with
    | (notices, .error e) => (.after notices (.fail e), w)
    | (notices, .ok hands) =>
      match w.openExisting path with
      | .error e => (.after notices (.fail (storeFailure e)), w)
      | .ok (o, w) =>
        (.after notices
          (resolveHands (o.loadSpots.mapError StoreError.libraryError) profile 0 hands), w)

/-- Opens a store, in a folder that is created if need be. -/
def openLibrary (w : Workspace) (path : String) :
    Except CliError (Workspace.Opened × Workspace) :=
  match w.createParent path with
  | .error fault => .error (.folder (Workspace.parentText path) fault)
  | .ok w => (w.openStore path).mapError storeFailure

/-- Creates a library. -/
def initTranscript (env : Environment) (w : Workspace) (library : Option String) :
    Transcript × Workspace :=
  match libraryPath env w library with
  | .error e => (.fail e, w)
  | .ok path =>
    match openLibrary w path with
    | .error e => (.fail e, w)
    | .ok (o, w) =>
      match o.init with
      | (.error e, o) => (.fail (storeFailure e), w.keep o)
      | (.ok (), o) =>
        match o.loadSpots with
        | .error e => (.fail (storeFailure e), w.keep o)
        | .ok l =>
          let names := l.profiles.map Profile.name
          (.single (.block (.obj [("library", .str path), ("profiles", .ofList .str names)])),
            w.keep o)

/-- Imports a snapshot into the library. -/
def importTranscript (env : Environment) (w : Workspace) (input : String)
    (library : Option String) : Transcript × Workspace :=
  match libraryPath env w library with
  | .error e => (.fail e, w)
  | .ok path =>
    match w.text? input with
    | none => (.fail (.unreadable input), w)
    | some text =>
      match (Json.read text).map Snapshot.decode with
      | some (.ok snapshot) =>
        match openLibrary w path with
        | .error e => (.fail e, w)
        | .ok (o, w) =>
          match o.importSnapshot snapshot with
          | (.ok summary, o) => (.single (.block summary.toJson), w.keep o)
          | (.error e, o) => (.fail (storeFailure e), w.keep o)
      | _ => (.fail (.badSnapshot input), w)

/-- The settings and where they come from. -/
def settingsTranscript (env : Environment) (w : Workspace) : Transcript :=
  match loadSettings env w with
  | .ok s => .single (.block s.toJson)
  | .error e => .fail e

/-- What a command writes and the files afterwards. -/
def Command.transcript [Dialect] (env : Environment) (w : Workspace) :
    Command → Transcript × Workspace
  | .texture board => (textureTranscript board, w)
  | .survivors sequence seats player => (survivorsTranscript env w sequence seats player, w)
  | .classify input library => classifyTranscript env w input library
  | .resolve input library profile => resolveTranscript env w input library profile
  | .init library => initTranscript env w library
  | .importFile input library => importTranscript env w input library
  | .settings => (settingsTranscript env w, w)

/-! ## The program -/

/-- The files that a command uses, apart from the configuration file. -/
def Command.files (env : Environment) (w : Workspace) : Command → List String
  | .classify input library | .resolve input library _ | .importFile input library =>
    input :: (libraryPath env w library).toOption.toList
  | .init library => (libraryPath env w library).toOption.toList
  | .texture _ | .survivors .. | .settings => []

/-- The files that a run uses, apart from the configuration file. -/
def filesOf (env : Environment) (arguments : List String) (w : Workspace) : List String :=
  match Invocation.ofArguments arguments with
  | .run c => c.files env w
  | .help | .version | .mistake => []

/-- A result that is all there is to a run. If it cannot be written nothing else is
    said. -/
def lonely (closed : Closed) (o : Output) : Report :=
  if closed.results then ⟨failureCode, [], []⟩ else ⟨0, [o], []⟩

/-- Runs the program: what is seen of it and the files afterwards. -/
def run [Dialect] (closed : Closed) (env : Environment) (arguments : List String) (w : Workspace) :
    Report × Workspace :=
  match Invocation.ofArguments arguments with
  | .help => (lonely closed .help, w)
  | .version => (lonely closed .version, w)
  | .mistake => (⟨failureCode, [], if closed.notices then [] else [.usage]⟩, w)
  | .run c =>
    let (t, w) := c.transcript env w
    (t.report closed, w)

end HandStudy.Cli
