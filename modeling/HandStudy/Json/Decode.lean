import HandStudy.Decimal.Text
import HandStudy.Json.Basic
import HandStudy.Text.Debug

/-!
# Decoding JSON values

A decoder turns a JSON value into a value of a type of its own, or says what is
wrong with it (`DecodeError`). Records are described by the list of their members
(`Record`) and may be given in two forms:

* as an object, whose fields are read in their order: unknown fields are skipped,
  the first bad one is reported, and only then the first missing one;
* as a list of the members' values in their order, from which members with a
  default may be missing at the end.
-/

namespace HandStudy.Decode

/-- Why a value cannot be decoded. -/
inductive DecodeError where
  /-- A value of the wrong type. -/
  | wrongType (found expected : String)
  /-- A value of the right type that is out of range. -/
  | wrongValue (found expected : String)
  | wrongLength (length : Nat) (expected : String)
  | missingField (name : String)
  | duplicateField (name : String)
  | unknownVariant (name : String) (variants : List String)
  /-- A text that does not denote what it should, for a reason of its own. -/
  | invalid (reason : String)
deriving DecidableEq, Inhabited

/-- The names among which a choice has to be made. -/
def describeVariants : List String → String
  | [] => "there are no variants"
  | [a] => s!"expected `{a}`"
  | [a, b] => s!"expected `{a}` or `{b}`"
  | names => "expected one of " ++ ", ".intercalate (names.map fun a => s!"`{a}`")

/-- The error in words. -/
def DecodeError.message : DecodeError → String
  | .wrongType found expected => s!"invalid type: {found}, expected {expected}"
  | .wrongValue found expected => s!"invalid value: {found}, expected {expected}"
  | .wrongLength length expected => s!"invalid length {length}, expected {expected}"
  | .missingField name => s!"missing field `{name}`"
  | .duplicateField name => s!"duplicate field `{name}`"
  | .unknownVariant name variants => s!"unknown variant `{name}`, {describeVariants variants}"
  | .invalid reason => reason

/-- What was found, in words. -/
def describe : Json → String
  | .null => "null"
  | .bool b => s!"boolean `{b}`"
  | .int n => s!"integer `{n}`"
  | .float x => s!"floating point `{Decimal.text .message x}`"
  | .str s => "string " ++ Text.debug s
  | .arr _ => "sequence"
  | .obj _ => "map"
  | .void => "nothing"

/-- Decoders of values of a type. -/
abbrev Decoder (α : Type) := Json → Except DecodeError α

/-- A value of another type than expected. -/
def mismatch {α : Type} (v : Json) (expected : String) : Except DecodeError α :=
  .error (.wrongType (describe v) expected)

/-! ## Values without parts -/

/-- A text. -/
def text : Decoder String
  | .str s => .ok s
  | v => mismatch v "a string"

/-- True or false. -/
def boolean : Decoder Bool
  | .bool b => .ok b
  | v => mismatch v "a boolean"

/-- A whole number from `low` up to `high`. -/
def integer (low high : Int) (expected : String) : Decoder Int
  | .int n =>
    if low ≤ n ∧ n ≤ high then .ok n else .error (.wrongValue (describe (.int n)) expected)
  | v => mismatch v expected

/-- A signed number of 64 bits. -/
def int64 : Decoder Int64 := fun v =>
  (integer Int64.minValue.toInt Int64.maxValue.toInt "i64" v).map Int64.ofInt

/-- A natural number of 32 bits. -/
def word32 : Decoder UInt32 := fun v =>
  (integer 0 (UInt32.size - 1 : Nat) "u32" v).map fun n => n.toNat.toUInt32

/-- A natural number below 256. -/
def byte : Decoder Nat := fun v =>
  (integer 0 (UInt8.size - 1 : Nat) "u8" v).map Int.toNat

/-- A float. Whole numbers are rounded to one. -/
def float : Decoder Float
  | .float x => .ok x
  | .int n => .ok (if n < 0 then -(n.natAbs.toUInt64.toFloat) else n.natAbs.toUInt64.toFloat)
  | v => mismatch v "f64"

/-- Any value, in canonical form, if all its parts have one. -/
def anything : Decoder Json := fun v =>
  if v.isWhole then .ok v.canonical else .error (.invalid "no value")

/-- A value or null. -/
def nullable {α : Type} (item : Decoder α) : Decoder (Option α)
  | .null => .ok none
  | v => (item v).map some

/-- A list of values. -/
def list {α : Type} (item : Decoder α) : Decoder (List α)
  | .arr items => items.mapM item
  | v => mismatch v "a sequence"

/-- One of several named values, written as its name or as an object with the name
    as its only key and null as the value. -/
def choice {α : Type} (variants : List (String × α)) : Decoder α := fun v =>
  let pick (name : String) : Except DecodeError α :=
    match variants.lookup name with
    | some a => .ok a
    | none => .error (.unknownVariant name (variants.map (·.1)))
  match v with
  | .str name => pick name
  | .obj [(name, v)] => do
    let a ← pick name
    match v with
    | .null => return a
    | v => mismatch v "unit"
  | .obj _ => .error (.wrongValue "map" "map with a single key")
  | v => mismatch v "string or map"

/-! ## Records -/

/-- A member of a record: how its value is put into the record. -/
structure Member (α : Type) where
  name : String
  required : Bool
  put : Json → α → Except DecodeError α

/-- A member that has to be given. -/
def needed {α β : Type} (name : String) (read : Decoder β) (put : β → α → α) : Member α :=
  ⟨name, true, fun v a => (read v).map (put · a)⟩

/-- A member that has a default. -/
def defaulted {α β : Type} (name : String) (read : Decoder β) (put : β → α → α) : Member α :=
  ⟨name, false, fun v a => (read v).map (put · a)⟩

/-- A record: its name in messages, its members in their order, and the record in
    which every member has its default. -/
structure Record (α : Type) where
  name : String
  members : List (Member α)
  blank : α

namespace Record

variable {α : Type}

/-- Reads the fields of an object into the record, noting the members seen. -/
def readFields (r : Record α) : List (String × Json) → α → List String →
    Except DecodeError (α × List String)
  | [], a, seen => .ok (a, seen)
  | (key, v) :: fields, a, seen =>
    match r.members.find? (·.name = key) with
    | none => r.readFields fields a seen
    | some m =>
      if seen.contains key then .error (.duplicateField key)
      else do r.readFields fields (← m.put v a) (key :: seen)

/-- Reads the values of a list into the members, the first one having the given
    place in the record. -/
def readItems (r : Record α) : List (Member α) → List Json → (place : Nat) → α →
    Except DecodeError α
  | [], [], _, a => .ok a
  | [], items, place, _ =>
    .error (.wrongLength (place + items.length) "fewer elements in array")
  | m :: members, [], place, a =>
    if m.required then
      .error (.wrongLength place s!"struct {r.name} with {r.members.length} elements")
    else r.readItems members [] (place + 1) a
  | m :: members, v :: items, place, a => do
    r.readItems members items (place + 1) (← m.put v a)

/-- The first member that has to be given and was not seen. -/
def firstMissing? (r : Record α) (seen : List String) : Option String :=
  (r.members.find? fun m => m.required && !seen.contains m.name).map (·.name)

/-- A record given as an object. -/
def decodeFields (r : Record α) (fields : List (String × Json)) : Except DecodeError α := do
  let (a, seen) ← r.readFields fields r.blank []
  match r.firstMissing? seen with
  | some name => .error (.missingField name)
  | none => return a

/-- A record in either form. -/
def decode (r : Record α) : Decoder α
  | .obj fields => r.decodeFields fields
  | .arr items => r.readItems r.members items 0 r.blank
  | v => mismatch v s!"struct {r.name}"

end Record

end HandStudy.Decode
