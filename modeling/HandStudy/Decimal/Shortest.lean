/-!
# Shortest decimals

Every finite float is a whole number of units, `m · 2 ^ e`, and stands for the
interval of reals that round to it. Its shortest decimal is the one with the
fewest digits in that interval, and among those the one nearest to the float
(`Decimal.shortest`). The search is exact: on the grid of the decimals with a given
number of digits only the two neighbours of the float can be nearest, and a grid
that has a point in the interval has one of these two in it.
-/

namespace HandStudy.Decimal

/-- A positive number as a fraction, with the interval around it in which a
    decimal has to lie: all three over one denominator. -/
structure Target where
  low : Nat
  value : Nat
  high : Nat
  denominator : Nat
  /-- Do the two ends belong to the interval? -/
  closed : Bool

/-- The float `m · 2 ^ e` with the interval of reals that round to it. The
    interval reaches half a unit to both sides, but only a quarter of one below a
    power of two, where the floats lie twice as close. Ties go to the even
    neighbour, so the ends belong to it when `m` is even. -/
def Target.ofBinary (m : Nat) (e : Int) (isPower : Bool) : Target :=
  let scale : Nat := Nat.pow 2 e.toNat
  { low := (4 * m - if isPower then 1 else 2) * scale
    value := 4 * m * scale
    high := (4 * m + 2) * scale
    denominator := 4 * Nat.pow 2 (-e).toNat
    closed := m % 2 = 0 }

/-- Does the decimal `n · 10 ^ k` lie in the interval? -/
def Target.accepts (t : Target) (n : Nat) (k : Int) : Bool :=
  let point := n * Nat.pow 10 k.toNat * t.denominator
  let scale := Nat.pow 10 (-k).toNat
  if t.closed then t.low * scale ≤ point && point ≤ t.high * scale
  else t.low * scale < point && point < t.high * scale

/-- The whole part of the target in units of `10 ^ k`, and whether the upper
    neighbour on that grid is nearer to it. -/
def Target.onGrid (t : Target) (k : Int) : Nat × Bool :=
  let numerator := t.value * Nat.pow 10 (-k).toNat
  let denominator := t.denominator * Nat.pow 10 k.toNat
  (numerator / denominator, denominator < 2 * (numerator % denominator))

/-- The number of decimal digits of a natural number. -/
def digitCount (n : Nat) : Nat :=
  (Nat.toDigits 10 n).length

/-- The place of the first digit of the target, counted from the decimal point:
    one for a number from 1 up to 10, zero for one from 0.1 up to 1. -/
def Target.place (t : Target) : Int :=
  if t.denominator ≤ t.value then digitCount (t.value / t.denominator)
  else 1 - digitCount ((t.denominator - 1) / t.value)

/-- The decimals on the grids with `count`, `count + 1`, … digits, up to `grids`
    grids: the first that lies in the interval. -/
def Target.search (t : Target) (place : Int) : (grids count : Nat) → Nat × Int
  | 0, count => ((t.onGrid (place - count)).1, place - count)
  | grids + 1, count =>
    let k := place - count
    let (below, nearerAbove) := t.onGrid k
    let (first, second) := if nearerAbove then (below + 1, below) else (below, below + 1)
    if t.accepts first k then (first, k)
    else if t.accepts second k then (second, k)
    else t.search place grids (count + 1)

/-- The same decimal with its final zeros moved into the exponent. -/
def withoutZeros (fuel n : Nat) (k : Int) : Nat × Int :=
  match fuel with
  | 0 => (n, k)
  | fuel + 1 => if n ≠ 0 && n % 10 = 0 then withoutZeros fuel (n / 10) (k + 1) else (n, k)

/-- The digits and the exponent of the shortest decimal of a finite float, its
    sign left out. Seventeen digits are always enough. -/
def shortest (x : Float) : Nat × Int :=
  let bits : Nat := x.toBits.toNat
  let fraction : Nat := bits % Nat.pow 2 52
  let exponent : Nat := bits / Nat.pow 2 52 % Nat.pow 2 11
  if fraction = 0 && exponent = 0 then (0, 0)
  else
    let isPower := fraction = 0 && exponent ≠ 1
    let t :=
      if exponent = 0 then Target.ofBinary fraction (-1074) false
      else Target.ofBinary (Nat.pow 2 52 + fraction) ((exponent : Int) - 1075) isPower
    let (n, k) := t.search t.place 17 1
    withoutZeros 20 n k

end HandStudy.Decimal
