import HandStudy.Decimal.Text
import HandStudy.Json.Basic

/-!
# Writing JSON

A value is written on one line without blanks (`Json.print`) or on many, each
level indented by two blanks (`Json.pretty`). A float that is not finite has no
JSON form and is written `null`.
-/

namespace HandStudy.Json

/-- A lower-case hexadecimal digit. -/
def hexDigit (n : Nat) : Char :=
  if n < 10 then Char.ofNat (48 + n) else Char.ofNat (87 + n)

/-- A character inside a quoted text. Only the quote, the backslash and the
    control characters below the blank are escaped. -/
def escapeChar (c : Char) : List Char :=
  if c = '"' then ['\\', '"']
  else if c = '\\' then ['\\', '\\']
  else if c = '\x08' then ['\\', 'b']
  else if c = '\t' then ['\\', 't']
  else if c = '\n' then ['\\', 'n']
  else if c = '\x0c' then ['\\', 'f']
  else if c = '\r' then ['\\', 'r']
  else if c < ' ' then ['\\', 'u', '0', '0', hexDigit (c.toNat / 16), hexDigit (c.toNat % 16)]
  else [c]

/-- A text in quotes. -/
def quote (s : String) : String :=
  String.ofList ('"' :: s.toList.flatMap escapeChar ++ ['"'])

/-- A float, `null` if it is not finite. -/
def printFloat (x : Float) : String :=
  if x.isFinite then Decimal.text .json x else "null"

mutual

/-- The value on one line. -/
def print : Json → String
  | .null => "null"
  | .bool b => if b then "true" else "false"
  | .int n => toString n
  | .float x => printFloat x
  | .str s => quote s
  | .arr items => "[" ++ ",".intercalate (printItems items) ++ "]"
  | .obj fields => "\x7b" ++ ",".intercalate (printFields fields) ++ "\x7d"
  | .void => "null"

/-- The items of a list, each on one line. -/
def printItems : List Json → List String
  | [] => []
  | v :: items => print v :: printItems items

/-- The fields of an object, each on one line. -/
def printFields : List (String × Json) → List String
  | [] => []
  | (key, v) :: fields => (quote key ++ ":" ++ print v) :: printFields fields

end

/-- Items on lines of their own between an opening and a closing bracket. -/
def block (opening closing : String) (depth : Nat) (items : List String) : String :=
  if items.isEmpty then opening ++ closing
  else
    let indent (d : Nat) := "\n" ++ String.ofList (List.replicate (2 * d) ' ')
    opening ++ indent (depth + 1) ++ ("," ++ indent (depth + 1)).intercalate items ++
      indent depth ++ closing

mutual

/-- The value on many lines, inside so many levels. -/
def prettyAt (depth : Nat) : Json → String
  | .arr items => block "[" "]" depth (prettyItems (depth + 1) items)
  | .obj fields => block "\x7b" "\x7d" depth (prettyFields (depth + 1) fields)
  | v => print v

/-- The items of a list, each on many lines. -/
def prettyItems (depth : Nat) : List Json → List String
  | [] => []
  | v :: items => prettyAt depth v :: prettyItems depth items

/-- The fields of an object, each on many lines. -/
def prettyFields (depth : Nat) : List (String × Json) → List String
  | [] => []
  | (key, v) :: fields => (quote key ++ ": " ++ prettyAt depth v) :: prettyFields depth fields

end

/-- The value on many lines. -/
def pretty (v : Json) : String :=
  prettyAt 0 v

end HandStudy.Json
