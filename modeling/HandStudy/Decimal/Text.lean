import HandStudy.Decimal.Shortest

/-!
# Floats as text

A finite float is written with the digits of its shortest decimal. A `Layout`
says which numbers are written positionally; all others get an exponent. A
positional number always has a decimal point.
-/

namespace HandStudy.Decimal

/-- Where positional notation ends, by the place of the decimal point: the number
    of digits before it, negative when zeros follow it. -/
structure Layout where
  least : Option Int
  greatest : Option Int

/-- Numbers in JSON are positional from 0.00001 up to ten quadrillion. -/
def Layout.json : Layout := ⟨some (-4), some 16⟩

/-- Numbers in messages are always positional. -/
def Layout.message : Layout := ⟨none, none⟩

/-- Is a number with its point at this place written positionally? -/
def Layout.positional (l : Layout) (point : Int) : Bool :=
  l.least.all (· ≤ point) && l.greatest.all (point ≤ ·)

/-- Digits with the decimal point at the given place. -/
def positionalText (digits : List Char) (point : Int) : List Char :=
  let count : Int := digits.length
  if point ≤ 0 then "0.".toList ++ List.replicate (-point).toNat '0' ++ digits
  else if count ≤ point then digits ++ List.replicate (point - count).toNat '0' ++ ".0".toList
  else digits.take point.toNat ++ '.' :: digits.drop point.toNat

/-- Digits with the decimal point after the first, times a power of ten. -/
def exponentText (digits : List Char) (point : Int) : List Char :=
  let fraction := match digits with
    | first :: second :: rest => first :: '.' :: second :: rest
    | _ => digits
  fraction ++ 'e' :: (toString (point - 1)).toList

/-- A finite float as text. -/
def text (l : Layout) (x : Float) : String :=
  let (n, k) := shortest x
  let sign := if x.toBits.toNat / Nat.pow 2 63 = 1 then "-" else ""
  let digits := Nat.toDigits 10 n
  let point : Int := if n = 0 then 1 else digits.length + k
  sign ++ String.ofList
    (if l.positional point then positionalText digits point else exponentText digits point)

end HandStudy.Decimal
