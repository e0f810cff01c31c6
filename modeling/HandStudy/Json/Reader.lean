import HandStudy.Json.Basic

/-!
# Reading JSON

Reading takes two passes over the text, each a fold of one step. The first cuts
the text into tokens (`Scanner.step`); the second assembles the tokens to a value,
with the lists and objects that are still open on a stack (`Builder.step`).

The grammar is the strict one: no comments, no final commas, no bare words. What
is grammatical but has no value is read as `Json.void`, so that a reader of a
whole document (`Json.readWhole`) can refuse it and a reader that skips unknown
fields need not.
-/

namespace HandStudy.Json

/-! ## Numbers -/

/-- The parts of a number's text: its sign, the digits before the point, those
    after it and the exponent with its sign. -/
structure NumberText where
  negative : Bool
  whole : List Char
  fraction : Option (List Char)
  exponent : Option (Bool × List Char)

/-- Splits off the digits in front. -/
def spanDigits (cs : List Char) : List Char × List Char :=
  (cs.takeWhile Char.isDigit, cs.dropWhile Char.isDigit)

/-- Splits off a minus sign in front, and tells whether there was one. -/
def splitSign : List Char → Bool × List Char
  | '-' :: cs => (true, cs)
  | cs => (false, cs)

/-- The exponent of a number, if there is one. -/
def NumberText.readExponent (cs : List Char) : Option (Option (Bool × List Char)) :=
  match cs with
  | [] => some none
  | e :: rest =>
    if e = 'e' || e = 'E' then
      let (negative, digits) := match rest with
        | '+' :: ds => (false, ds)
        | '-' :: ds => (true, ds)
        | ds => (false, ds)
      if !digits.isEmpty && digits.all Char.isDigit then some (some (negative, digits)) else none
    else none

/-- The parts of a number, if the text is one: no leading zero, and at least one
    digit before the point, after it and in the exponent. -/
def NumberText.ofChars? (cs : List Char) : Option NumberText :=
  let (negative, cs) := splitSign cs
  let (whole, rest) := spanDigits cs
  if whole.isEmpty || (whole.head? = some '0' && whole.length ≠ 1) then none
  else match rest with
    | '.' :: rest =>
      let (fraction, rest) := spanDigits rest
      if fraction.isEmpty then none
      else (readExponent rest).map fun e => ⟨negative, whole, some fraction, e⟩
    | _ => (readExponent rest).map fun e => ⟨negative, whole, none, e⟩

/-- The number that a list of digits stands for. -/
def digitsValue (ds : List Char) : Nat :=
  ds.foldl (fun n d => 10 * n + (d.toNat - 48)) 0

/-- The significand gathers digits as long as they fit 64 bits. Gives the
    significand and the digits that are left. -/
def gather (significand : Nat) : List Char → Nat × List Char
  | [] => (significand, [])
  | d :: ds =>
    let next := 10 * significand + (d.toNat - 48)
    if next < UInt64.size then gather next ds else (significand, d :: ds)

/-- A float times a power of ten, rounded once for each factor up to ten to the
    308. There is none when the result is beyond the floats. -/
def scale (fuel : Nat) (x : Float) (e : Int) : Option Float :=
  let power (n : Nat) : Float := Float.ofScientific 1 false n
  match fuel with
  | 0 => some x
  | fuel + 1 =>
    if e.natAbs ≤ 308 then
      if 0 ≤ e then
        let y := x * power e.natAbs
        if y.isInf then none else some y
      else some (x / power e.natAbs)
    else if x == 0.0 then some x
    else if 0 ≤ e then none
    else scale fuel (x / power 308) (e + 308)

/-- The float of a decimal: its first digits, as many as fit 64 bits, are rounded
    to a float, which is then scaled. -/
def NumberText.float? (t : NumberText) : Option Float :=
  let (significand, dropped) := gather 0 t.whole
  let (significand, places) := match dropped, t.fraction with
    | [], some fraction =>
      let (s, rest) := gather significand fraction
      (s, fraction.length - rest.length)
    | _ :: _, some fraction =>
      let (s, rest) := gather significand fraction
      (s, fraction.length - rest.length)
    | _, none => (significand, 0)
  let point : Int := dropped.length - places
  let e : Int := match t.exponent with
    | none => point
    | some (negative, ds) =>
      -- an exponent this large is beyond the floats whatever the digits are
      let n : Int := digitsValue (ds.dropWhile (· = '0') |>.take 10)
      if negative then point - n else point + n
  let sign (x : Float) : Float := if t.negative then -x else x
  (scale (e.natAbs / 308 + 2) significand.toUInt64.toFloat e).map sign

/-- The value of a number's text. A whole number is one without point and
    exponent that fits 64 bits, other than minus zero. -/
def NumberText.value (t : NumberText) : Json :=
  let n : Int := digitsValue t.whole
  let isWhole := t.fraction.isNone && t.exponent.isNone
  if isWhole && !t.negative && n < UInt64.size then .int n
  else if isWhole && t.negative && 0 < n && Int64.minValue.toInt ≤ -n then .int (-n)
  else match t.float? with
    | some x => .float x
    | none => .void

/-! ## Tokens -/

/-- The smallest pieces of JSON text. -/
inductive Token where
  /-- A bracket, a comma or a colon. -/
  | mark (c : Char)
  /-- A value without parts. -/
  | value (v : Json)
  /-- A quoted text that is spoilt. -/
  | spoilt
deriving Inhabited

/-- Where the scanner stands. -/
inductive Place where
  | between
  /-- In a word or number, its characters last first. -/
  | bare (chars : List Char)
  /-- In a quoted text, its characters last first. A high surrogate may wait for
      its partner, and half a pair spoils the text. -/
  | quoted (chars : List Char) (high : Option Nat) (spoilt : Bool)
  /-- After a backslash. -/
  | escape (chars : List Char) (high : Option Nat) (spoilt : Bool)
  /-- In the four digits of an escape. -/
  | hex (chars : List Char) (high : Option Nat) (spoilt : Bool) (left : Nat) (value : Nat)

/-- The value of a word or number. -/
def bareValue (chars : List Char) : Option Json :=
  if chars = "null".toList then some .null
  else if chars = "true".toList then some (.bool true)
  else if chars = "false".toList then some (.bool false)
  else (NumberText.ofChars? chars).map NumberText.value

/-- The character that a backslash and the given letter stand for. -/
def escaped? (c : Char) : Option Char :=
  if c = '"' || c = '\\' || c = '/' then some c
  else if c = 'b' then some '\x08'
  else if c = 'f' then some '\x0c'
  else if c = 'n' then some '\n'
  else if c = 'r' then some '\r'
  else if c = 't' then some '\t'
  else none

/-- The value of a hexadecimal digit. -/
def hexValue? (c : Char) : Option Nat :=
  if '0' ≤ c && c ≤ '9' then some (c.toNat - 48)
  else if 'a' ≤ c && c ≤ 'f' then some (c.toNat - 87)
  else if 'A' ≤ c && c ≤ 'F' then some (c.toNat - 55)
  else none

/-- May the character stand in a word or number? -/
def isBare (c : Char) : Bool :=
  c.isAlphanum || c = '-' || c = '+' || c = '.'

/-- The quoted text after one more code unit of an escape: surrogates go in
    pairs, a high one before a low one. -/
def afterUnit (chars : List Char) (high : Option Nat) (spoilt : Bool) (unit : Nat) : Place :=
  match high with
  | some h =>
    if 0xDC00 ≤ unit && unit < 0xE000 then
      .quoted (Char.ofNat (0x10000 + (h - 0xD800) * 0x400 + (unit - 0xDC00)) :: chars) none spoilt
    else if 0xD800 ≤ unit && unit < 0xDC00 then .quoted chars (some unit) true
    else .quoted (Char.ofNat unit :: chars) none true
  | none =>
    if 0xD800 ≤ unit && unit < 0xDC00 then .quoted chars (some unit) spoilt
    else if 0xDC00 ≤ unit && unit < 0xE000 then .quoted chars none true
    else .quoted (Char.ofNat unit :: chars) none spoilt

/-- The scanner: where it stands, and the tokens found so far, last first. -/
structure Scanner where
  place : Place := .between
  tokens : List Token := []

namespace Scanner

/-- A step between tokens. -/
def stepBetween (tokens : List Token) (c : Char) : Option Scanner :=
  if c = ' ' || c = '\t' || c = '\n' || c = '\r' then some ⟨.between, tokens⟩
  else if c = '"' then some ⟨.quoted [] none false, tokens⟩
  else if "[]{},:".toList.contains c then some ⟨.between, .mark c :: tokens⟩
  else if isBare c then some ⟨.bare [c], tokens⟩
  else none

/-- The scanner after one more character, unless no JSON text goes on so. -/
def step (s : Scanner) (c : Char) : Option Scanner :=
  match s.place with
  | .between => stepBetween s.tokens c
  | .bare chars =>
    if isBare c then some { s with place := .bare (c :: chars) }
    else do stepBetween (.value (← bareValue chars.reverse) :: s.tokens) c
  | .quoted chars high spoilt =>
    if c = '\\' then some { s with place := .escape chars high spoilt }
    else if c = '"' then
      let t := if spoilt || high.isSome then .spoilt else .value (.str (String.ofList chars.reverse))
      some ⟨.between, t :: s.tokens⟩
    else if c < ' ' then none
    else some { s with place := .quoted (c :: chars) none (spoilt || high.isSome) }
  | .escape chars high spoilt =>
    if c = 'u' then some { s with place := .hex chars high spoilt 4 0 }
    else do
      let d ← escaped? c
      return { s with place := .quoted (d :: chars) none (spoilt || high.isSome) }
  | .hex chars high spoilt left value => do
    let value := 16 * value + (← hexValue? c)
    if left ≤ 1 then return { s with place := afterUnit chars high spoilt value }
    else return { s with place := .hex chars high spoilt (left - 1) value }

/-- The tokens of a whole text, in order. -/
def finish (s : Scanner) : Option (List Token) :=
  match s.place with
  | .between => some s.tokens.reverse
  | .bare chars => do return (.value (← bareValue chars.reverse) :: s.tokens).reverse
  | _ => none

end Scanner

/-- The tokens of a text. -/
def tokens (s : String) : Option (List Token) := do
  (← s.toList.foldlM Scanner.step {}).finish

/-! ## Values -/

/-- A list or object that is still open, what it has so far last first. -/
inductive Frame where
  | inArray (items : List Json)
  /-- After the key of a field. -/
  | inObject (fields : List (String × Json)) (key : String)
  /-- After a key of an object with a spoilt one, which has no value. -/
  | inVoid

/-- What may come next. -/
inductive Expect where
  | value
  | valueOrEnd
  | keyOrEnd (fields : List (String × Json))
  | key (fields : List (String × Json))
  | voidKey
  | colon
  /-- A comma or the end of the innermost frame, whose last value is here. -/
  | separator (v : Json)

/-- The builder: the open frames, innermost first, and what may come next. -/
structure Builder where
  frames : List Frame := []
  expect : Expect := .value

namespace Builder

/-- Lists and objects may be nested so deep and no deeper. -/
def maxDepth : Nat := 127

/-- A list or object is complete. -/
def close (frames : List Frame) (v : Json) : Builder :=
  ⟨frames, .separator (if frames.length < maxDepth then v else .void)⟩

/-- The builder after one more token, unless no JSON text goes on so. -/
def step (b : Builder) (t : Token) : Option Builder :=
  match b.expect, t with
  | .value, .value v | .valueOrEnd, .value v => some ⟨b.frames, .separator v⟩
  | .value, .spoilt | .valueOrEnd, .spoilt => some ⟨b.frames, .separator .void⟩
  | .value, .mark '[' | .valueOrEnd, .mark '[' => some ⟨.inArray [] :: b.frames, .valueOrEnd⟩
  | .value, .mark '{' | .valueOrEnd, .mark '{' => some ⟨b.frames, .keyOrEnd []⟩
  | .valueOrEnd, .mark ']' =>
    match b.frames with
    | .inArray items :: frames => some (close frames (.arr items.reverse))
    | _ => none
  | .keyOrEnd fields, .value (.str key) | .key fields, .value (.str key) =>
    some ⟨.inObject fields key :: b.frames, .colon⟩
  | .keyOrEnd _, .spoilt | .key _, .spoilt | .voidKey, .spoilt | .voidKey, .value (.str _) =>
    some ⟨.inVoid :: b.frames, .colon⟩
  | .keyOrEnd fields, .mark '}' => some (close b.frames (.obj fields.reverse))
  | .colon, .mark ':' => some ⟨b.frames, .value⟩
  | .separator v, .mark ',' =>
    match b.frames with
    | .inArray items :: frames => some ⟨.inArray (v :: items) :: frames, .value⟩
    | .inObject fields key :: frames => some ⟨frames, .key ((key, v) :: fields)⟩
    | .inVoid :: frames => some ⟨frames, .voidKey⟩
    | [] => none
  | .separator v, .mark ']' =>
    match b.frames with
    | .inArray items :: frames => some (close frames (.arr (v :: items).reverse))
    | _ => none
  | .separator v, .mark '}' =>
    match b.frames with
    | .inObject fields key :: frames => some (close frames (.obj ((key, v) :: fields).reverse))
    | .inVoid :: frames => some (close frames .void)
    | _ => none
  | _, _ => none

/-- The value, if the text is complete. -/
def finish (b : Builder) : Option Json :=
  match b.frames, b.expect with
  | [], .separator v => some v
  | _, _ => none

end Builder

/-- The value of a text, if the text is well-formed. -/
def read (s : String) : Option Json := do
  (← (← tokens s).foldlM Builder.step {}).finish

/-- The value of a text that is well-formed and has a value in every part. -/
def readWhole (s : String) : Option Json :=
  (read s).filter isWhole

end HandStudy.Json
