import HandStudy.Json.Reader

/-!
# Command lines

A command line names a command and gives its options: `--name value` or
`--name=value`, each at most once. Help can be asked for instead, and wins over
whatever stands after it but over nothing in front of it. All else is a mistake
(`Invocation.ofArguments`).
-/

namespace HandStudy.Cli

/-- What the program is asked to do. -/
inductive Command where
  /-- The texture of a board. -/
  | texture (board : String)
  /-- The seats that have not folded, and the filter for a player. -/
  | survivors (sequence : String) (seats : Option Nat) (player : Option String)
  /-- The tags and documents of each hand in a file. -/
  | classify (input : String) (library : Option String)
  /-- The spot of each hand in a file. -/
  | resolve (input : String) (library profile : Option String)
  /-- A new library. -/
  | init (library : Option String)
  /-- A snapshot into the library. -/
  | importFile (input : String) (library : Option String)
  /-- The settings. -/
  | settings
deriving DecidableEq, Inhabited

/-- What a command line asks for. -/
inductive Invocation where
  | run (c : Command)
  | help
  | version
  /-- The command line is malformed. -/
  | mistake
deriving DecidableEq, Inhabited

/-- The names of the commands. -/
def commandNames : List String :=
  ["texture", "survivors", "classify", "resolve", "init", "import", "cfg"]

/-! ## Options -/

/-- An option of a command. -/
structure OptionSpec where
  name : String
  required : Bool
  /-- Is this a value of the option? -/
  accepts : String → Bool

/-- A whole number with or without a sign. -/
def readInteger? (s : String) : Option Int :=
  let (sign, digits) : Int × List Char := match s.toList with
    | '-' :: cs => (-1, cs)
    | '+' :: cs => (1, cs)
    | cs => (1, cs)
  if digits.isEmpty || !digits.all Char.isDigit then none
  else some (sign * Json.digitsValue digits)

/-- The number of seats that a text stands for: from two to nine. -/
def readSeats? (s : String) : Option Nat := do
  let n ← readInteger? s
  if 2 ≤ n && n ≤ 9 then some n.toNat else none

/-- An option whose value is any text. -/
def textOption (name : String) (required : Bool) : OptionSpec := ⟨name, required, fun _ => true⟩

/-- The options of the command with the given name. -/
def optionsOf (command : String) : List OptionSpec :=
  match command with
  | "texture" => [textOption "board" true]
  | "survivors" =>
    [textOption "sequence" true, ⟨"positions", false, fun s => (readSeats? s).isSome⟩,
     textOption "player" false]
  | "classify" => [textOption "input" true, textOption "library" false]
  | "resolve" =>
    [textOption "input" true, textOption "library" false, textOption "profile" false]
  | "init" => [textOption "library" false]
  | "import" => [textOption "input" true, textOption "library" false]
  | _ => []

/-- Why reading options ends early. -/
inductive Stop where
  | help
  | mistake
deriving DecidableEq, Inhabited

/-- The values of options, by name. -/
abbrev Values := List (String × String)

/-- Gives a value to an option, which has none so far. -/
def setOption (specs : List OptionSpec) (values : Values) (name value : String) :
    Except Stop Values :=
  match specs.find? (·.name = name) with
  | none => .error .mistake
  | some spec =>
    if (values.lookup name).isSome || !spec.accepts value then .error .mistake
    else .ok ((name, value) :: values)

/-- May the text stand alone as a value? One that starts with a dash may not, unless
    it is nothing else. -/
def isValue (s : String) : Bool :=
  s = "-" || s.toList.head? ≠ some '-'

/-- A name and the value after its equals sign. -/
def splitEquals (cs : List Char) : String × Option String :=
  let name := String.ofList (cs.takeWhile (· ≠ '='))
  match cs.dropWhile (· ≠ '=') with
  | [] => (name, none)
  | _ :: value => (name, some (String.ofList value))

/-- Reads the options of a command. After two dashes there may be nothing more. -/
def readOptions (specs : List OptionSpec) (values : Values) : List String → Except Stop Values
  | [] => .ok values
  | ["--"] => .ok values
  | argument :: rest =>
    match argument.toList with
    | '-' :: '-' :: cs =>
      match splitEquals cs with
      | (name, some value) => do
        readOptions specs (← setOption specs values name value) rest
      | (name, none) =>
        if name = "help" then .error .help
        else match rest with
          | value :: rest =>
            if isValue value then do
              readOptions specs (← setOption specs values name value) rest
            else .error .mistake
          | [] => .error .mistake
    | '-' :: 'h' :: _ => .error .help
    | _ => .error .mistake

/-! ## Commands -/

/-- The command with the given name and options, if all are there that have to be. -/
def commandOf? (command : String) (values : Values) : Option Command := do
  let value? (name : String) := values.lookup name
  match command with
  | "texture" => return .texture (← value? "board")
  | "survivors" =>
    return .survivors (← value? "sequence") ((value? "positions").bind readSeats?)
      (value? "player")
  | "classify" => return .classify (← value? "input") (value? "library")
  | "resolve" => return .resolve (← value? "input") (value? "library") (value? "profile")
  | "init" => return .init (value? "library")
  | "import" => return .importFile (← value? "input") (value? "library")
  | "cfg" => return .settings
  | _ => none

/-- Does the help command know what it is asked about: nothing, a command or
    itself? -/
def isHelpTopic (arguments : List String) : Bool :=
  match arguments with
  | [] => true
  | [name] => name = "help" || commandNames.contains name
  | _ => false

/-- What a command line asks for. -/
def Invocation.ofArguments (arguments : List String) : Invocation :=
  match arguments with
  | [] => .mistake
  | first :: rest =>
    if first = "--help" || "-h".toList.isPrefixOf first.toList then .help
    else if first = "--version" || "-V".toList.isPrefixOf first.toList then .version
    else if first = "help" then if isHelpTopic rest then .help else .mistake
    else match readOptions (optionsOf first) [] rest with
      | .error .help => if commandNames.contains first then .help else .mistake
      | .error .mistake => .mistake
      | .ok values => ((commandOf? first values).map .run).getD .mistake

end HandStudy.Cli
