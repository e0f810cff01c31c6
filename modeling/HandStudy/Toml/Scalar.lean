import HandStudy.Json.Reader

/-!
# TOML values without parts

Texts in four kinds of quotes, and the values that are written without quotes:
numbers, truth values, dates and times.
-/

namespace HandStudy.Toml

/-- Is the character a blank within a line? -/
def isSpace (c : Char) : Bool :=
  c = ' ' || c = '\t'

/-- A text without the blanks in front. -/
def skipSpaces (cs : List Char) : List Char :=
  cs.dropWhile isSpace

/-- What follows the line end that is next. -/
def afterNewline? : List Char → Option (List Char)
  | '\n' :: cs => some cs
  | '\r' :: '\n' :: cs => some cs
  | _ => none

/-- May the character stand in a text or comment as it is? -/
def isPlain (c : Char) : Bool :=
  c = '\t' || (' ' ≤ c && c ≠ '\x7f')

/-! ## Texts -/

/-- The character with the code that hexadecimal digits give. -/
def codePoint? (digits : List Char) : Option Char := do
  let n ← digits.foldlM (fun n d => (Json.hexValue? d).map (16 * n + ·)) 0
  if n < 0xD800 || (0xE000 ≤ n && n < 0x110000) then some (Char.ofNat n) else none

/-- The character that a backslash and the given letter stand for. -/
def escaped? (c : Char) : Option Char :=
  if c = '/' then none else if c = 'e' then some '\x1b' else Json.escaped? c

/-- A text in double quotes, after the opening quote. The characters so far come
    last first. -/
def readBasic (text : List Char) : List Char → Option (String × List Char)
  | [] => none
  | '"' :: cs => some (String.ofList text.reverse, cs)
  | '\\' :: 'x' :: a :: b :: cs => do readBasic ((← codePoint? [a, b]) :: text) cs
  | '\\' :: 'u' :: a :: b :: c :: d :: cs => do
    readBasic ((← codePoint? [a, b, c, d]) :: text) cs
  | '\\' :: 'U' :: a :: b :: c :: d :: e :: f :: g :: h :: cs => do
    readBasic ((← codePoint? [a, b, c, d, e, f, g, h]) :: text) cs
  | '\\' :: c :: cs => do readBasic ((← escaped? c) :: text) cs
  | c :: cs => if isPlain c then readBasic (c :: text) cs else none

/-- A text in single quotes, after the opening quote. -/
def readLiteral (text : List Char) : List Char → Option (String × List Char)
  | [] => none
  | '\'' :: cs => some (String.ofList text.reverse, cs)
  | c :: cs => if isPlain c then readLiteral (c :: text) cs else none

/-- Do only blanks stand before the next line end? -/
def blankLine (cs : List Char) : Bool :=
  (afterNewline? (skipSpaces cs)).isSome

/-- A text of many lines in triple double quotes, after the opening quotes. After a
    backslash at the end of a line, blanks and line ends are skipped. Up to two
    quotes may stand before the closing ones. -/
def readBasicLines (skipping : Bool) (text : List Char) : List Char → Option (String × List Char)
  | [] => none
  | '"' :: '"' :: '"' :: '"' :: '"' :: cs => some (String.ofList ('"' :: '"' :: text).reverse, cs)
  | '"' :: '"' :: '"' :: '"' :: cs => some (String.ofList ('"' :: text).reverse, cs)
  | '"' :: '"' :: '"' :: cs => some (String.ofList text.reverse, cs)
  | '\r' :: '\n' :: cs => readBasicLines skipping (if skipping then text else '\n' :: text) cs
  | '\n' :: cs => readBasicLines skipping (if skipping then text else '\n' :: text) cs
  | '\\' :: 'x' :: a :: b :: cs => do readBasicLines false ((← codePoint? [a, b]) :: text) cs
  | '\\' :: 'u' :: a :: b :: c :: d :: cs => do
    readBasicLines false ((← codePoint? [a, b, c, d]) :: text) cs
  | '\\' :: 'U' :: a :: b :: c :: d :: e :: f :: g :: h :: cs => do
    readBasicLines false ((← codePoint? [a, b, c, d, e, f, g, h]) :: text) cs
  | '\\' :: c :: cs =>
    if blankLine (c :: cs) then readBasicLines true text (c :: cs)
    else do readBasicLines false ((← escaped? c) :: text) cs
  | c :: cs =>
    if skipping && isSpace c then readBasicLines true text cs
    else if isPlain c then readBasicLines false (c :: text) cs
    else none

/-- A text of many lines in triple single quotes, after the opening quotes. -/
def readLiteralLines (text : List Char) : List Char → Option (String × List Char)
  | [] => none
  | '\'' :: '\'' :: '\'' :: '\'' :: '\'' :: cs =>
    some (String.ofList ('\'' :: '\'' :: text).reverse, cs)
  | '\'' :: '\'' :: '\'' :: '\'' :: cs => some (String.ofList ('\'' :: text).reverse, cs)
  | '\'' :: '\'' :: '\'' :: cs => some (String.ofList text.reverse, cs)
  | '\r' :: '\n' :: cs => readLiteralLines ('\n' :: text) cs
  | '\n' :: cs => readLiteralLines ('\n' :: text) cs
  | c :: cs => if isPlain c then readLiteralLines (c :: text) cs else none

/-- A text of many lines may start with a line end, which is dropped. -/
def dropNewline (cs : List Char) : List Char :=
  (afterNewline? cs).getD cs

/-- A text in quotes of any kind. -/
def readText : List Char → Option (String × List Char)
  | '"' :: '"' :: '"' :: cs => readBasicLines false [] (dropNewline cs)
  | '\'' :: '\'' :: '\'' :: cs => readLiteralLines [] (dropNewline cs)
  | '"' :: cs => readBasic [] cs
  | '\'' :: cs => readLiteral [] cs
  | _ => none

/-! ## Numbers -/

/-- The digits of a number, of the given kind, with single underscores between them
    taken out. There is at least one digit. -/
def digits? (isDigit : Char → Bool) : List Char → Option (List Char)
  | [] => none
  | [c] => if isDigit c then some [c] else none
  | c :: '_' :: cs => if isDigit c then (digits? isDigit cs).map (c :: ·) else none
  | c :: cs => if isDigit c then (digits? isDigit cs).map (c :: ·) else none

/-- Decimal digits without a leading zero. -/
def wholeDigits? (cs : List Char) : Option (List Char) :=
  match digits? Char.isDigit cs with
  | some ('0' :: _ :: _) => none
  | ds => ds

/-- A sign and what follows it. -/
def splitSign : List Char → Bool × List Char
  | '-' :: cs => (true, cs)
  | '+' :: cs => (false, cs)
  | cs => (false, cs)

/-- The number that digits of a base stand for. -/
def digitsIn (base : Nat) (ds : List Char) : Int :=
  ds.foldl (fun n d => base * n + (Json.hexValue? d).getD 0) (0 : Nat)

/-- A whole number: decimal with a sign, or without one in another base. -/
def integer? : List Char → Option Int
  | '0' :: 'x' :: cs => (digits? (fun c => (Json.hexValue? c).isSome) cs).map (digitsIn 16)
  | '0' :: 'o' :: cs => (digits? (fun c => '0' ≤ c && c ≤ '7') cs).map (digitsIn 8)
  | '0' :: 'b' :: cs => (digits? (fun c => c = '0' || c = '1') cs).map (digitsIn 2)
  | cs =>
    let (negative, cs) := splitSign cs
    (wholeDigits? cs).map fun ds => if negative then -digitsIn 10 ds else digitsIn 10 ds

/-- Is this the exponent of a float? -/
def isExponent (cs : List Char) : Bool :=
  match cs with
  | c :: cs => (c = 'e' || c = 'E') && (digits? Char.isDigit (splitSign cs).2).isSome
  | [] => false

/-- Is this a float: a whole part with a fraction or an exponent or both, or one of
    the names for what is no finite number? -/
def isFloat (cs : List Char) : Bool :=
  let (_, cs) := splitSign cs
  let isPart (c : Char) := c.isDigit || c = '_'
  if cs = "inf".toList || cs = "nan".toList then true
  else if (wholeDigits? (cs.takeWhile isPart)).isNone then false
  else match cs.dropWhile isPart with
    | '.' :: cs =>
      (digits? Char.isDigit (cs.takeWhile isPart)).isSome &&
        (cs.dropWhile isPart = [] || isExponent (cs.dropWhile isPart))
    | cs => isExponent cs

/-! ## Dates and times -/

/-- The number of a field of so many digits, and what follows it. -/
def field? (width : Nat) (cs : List Char) : Option (Nat × List Char) :=
  let ds := cs.take width
  if ds.length = width && ds.all Char.isDigit then some (Json.digitsValue ds, cs.drop width)
  else none

/-- What follows a given character. -/
def expect? (c : Char) : List Char → Option (List Char)
  | d :: cs => if c = d then some cs else none
  | [] => none

/-- The number of days of a month. -/
def daysIn (year month : Nat) : Nat :=
  let leap := year % 4 = 0 && (year % 100 ≠ 0 || year % 400 = 0)
  if month = 2 then if leap then 29 else 28
  else if [4, 6, 9, 11].contains month then 30
  else 31

/-- What follows a date. -/
def afterDate? (cs : List Char) : Option (List Char) := do
  let (year, cs) ← field? 4 cs
  let (month, cs) ← field? 2 (← expect? '-' cs)
  let (day, cs) ← field? 2 (← expect? '-' cs)
  if 1 ≤ month && month ≤ 12 && 1 ≤ day && day ≤ daysIn year month then some cs else none

/-- What follows the seconds of a time, with a fraction if there is one. -/
def afterSeconds? (cs : List Char) : Option (List Char) := do
  let (second, cs) ← field? 2 cs
  if 61 ≤ second then none
  else match cs with
    | '.' :: d :: cs => if d.isDigit then some (cs.dropWhile Char.isDigit) else none
    | '.' :: [] => none
    | cs => some cs

/-- What follows a time of day, which may have seconds. -/
def afterTime? (cs : List Char) : Option (List Char) := do
  let (hour, cs) ← field? 2 cs
  let (minute, cs) ← field? 2 (← expect? ':' cs)
  if 24 ≤ hour || 60 ≤ minute then none
  else match cs with
    | ':' :: cs => afterSeconds? cs
    | cs => some cs

/-- Is this the end of a date and time: nothing, or the offset of its time zone? -/
def isOffset (cs : List Char) : Bool :=
  match cs with
  | [] | ['Z'] | ['z'] => true
  | sign :: cs =>
    (sign = '+' || sign = '-') &&
      match field? 2 cs with
      | some (hour, ':' :: cs) =>
        match field? 2 cs with
        | some (minute, []) => hour < 24 && minute < 60
        | _ => false
      | _ => false

/-- Is this a date, a time or both? -/
def isDateTime (cs : List Char) : Bool :=
  match afterDate? cs with
  | some [] => true
  | some (c :: cs) =>
    (c = 'T' || c = 't' || c = ' ') && (afterTime? cs).any isOffset
  | none => afterTime? cs = some []

/-! ## Values without quotes -/

/-- May the character stand in a value without quotes? -/
def isBare (c : Char) : Bool :=
  c.isAlphanum || c = '_' || c = '-' || c = '+' || c = '.' || c = ':'

/-- The characters of a value without quotes and what follows them. A date and the
    time after it may be separated by a blank. -/
def spanBare (cs : List Char) : List Char × List Char :=
  let word := cs.takeWhile isBare
  match cs.dropWhile isBare with
  | ' ' :: c :: rest =>
    if afterDate? word = some [] && c.isDigit then
      (word ++ ' ' :: (c :: rest).takeWhile isBare, (c :: rest).dropWhile isBare)
    else (word, ' ' :: c :: rest)
  | rest => (word, rest)

/-- The value that is written so. Whole numbers have up to 128 bits. -/
def bareValue? (cs : List Char) : Option Json :=
  if cs = "true".toList then some (.bool true)
  else if cs = "false".toList then some (.bool false)
  else match integer? cs with
    | some n => if -Int.pow 2 127 ≤ n && n < Int.pow 2 128 then some (.int n) else none
    | none => if isFloat cs || isDateTime cs then some .void else none

end HandStudy.Toml
