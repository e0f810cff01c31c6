/-!
# Bits and codes

What the entropy coders of Zstandard need: numbers that are cut out of the bits of a range of bytes,
and state machines that turn such numbers into symbols (`StateTable`).

Some streams of bits are read from their end. What is before their start counts as zeros, and where
they stand is a whole number, so that it shows if too much was read.
-/

namespace HandStudy.Zstd

/-- The byte at a place, or zero if that is outside. -/
def byteAt (data : ByteArray) (i : Nat) : Nat :=
  (data[i]?.getD 0).toNat

/-- The sum of some numbers. -/
def total (l : List Nat) : Nat :=
  l.foldl (· + ·) 0

/-- The number that some bytes are, the lowest byte first. -/
def littleEndian (data : ByteArray) (start : Nat) : Nat → Nat
  | 0 => 0
  | n + 1 => byteAt data start + 256 * littleEndian data (start + 1) n

/-- The number that some bits are, the lowest bit first. -/
def bitsAt (data : ByteArray) (bit count : Nat) : Nat :=
  littleEndian data (bit / 8) ((bit % 8 + count + 7) / 8) >>> (bit % 8) % (1 <<< count)

/-! ## Reading from the end -/

/-- A stream of bits that is read from its end: where it starts, and how many of its bits are left.
    That is negative if more were read than there are. -/
structure Backward where
  data : ByteArray
  start : Nat
  left : Int

namespace Backward

/-- A stream in a range of bytes. The highest bit of the last byte that is set only marks the
    end. -/
def ofRange (data : ByteArray) (start size : Nat) : Option Backward :=
  if size = 0 || data.size < start + size then none
  else
    let last := byteAt data (start + size - 1)
    if last = 0 then none else some ⟨data, start, 8 * (size - 1) + last.log2⟩

/-- The next bits, which stay where they are. -/
def peek (b : Backward) (count : Nat) : Nat :=
  let first := b.left - count
  if 0 ≤ first then bitsAt b.data (8 * b.start + first.toNat) count
  else bitsAt b.data (8 * b.start) b.left.toNat <<< (count - b.left.toNat)

/-- The stream without its next bits. -/
def skip (b : Backward) (count : Nat) : Backward :=
  { b with left := b.left - count }

/-- The next bits and the stream after them. -/
def read (b : Backward) (count : Nat) : Nat × Backward :=
  (b.peek count, b.skip count)

end Backward

/-! ## State machines -/

/-- What a state stands for, and the states after it: a base and the number of bits to be added. -/
structure StateEntry where
  symbol : Nat
  bits : Nat
  base : Nat
deriving Inhabited

/-- A state machine: the logarithm of the number of states, and what they stand for. -/
structure StateTable where
  log : Nat
  entries : Array StateEntry
deriving Inhabited

namespace StateTable

/-- A machine with one state. -/
def single (symbol : Nat) : StateTable :=
  ⟨0, #[⟨symbol, 0, 0⟩]⟩

/-- The state from which a stream starts. -/
def first (t : StateTable) (b : Backward) : Nat × Backward :=
  b.read t.log

/-- What a state stands for. -/
def entry (t : StateTable) (state : Nat) : StateEntry :=
  t.entries.getD state default

/-- The state after a state. -/
def next (t : StateTable) (state : Nat) (b : Backward) : Nat × Backward :=
  let e := t.entry state
  let (n, b) := b.read e.bits
  (e.base + n, b)

/-- The places of the states for a symbol that is not rare: they are spread in equal steps over all
    places but those at the end, which are for rare symbols. -/
def places (size rareFrom : Nat) : List Nat :=
  let step := size / 2 + size / 8 + 3
  ((List.range size).map fun i => i * step % size).filter (· < rareFrom)

/-- A machine in which every symbol has so many states, a rare symbol, for which minus one is
    given, having one state at the end. -/
def ofCounts (log : Nat) (counts : List Int) : StateTable :=
  let size := 1 <<< log
  let symbols := counts.zipIdx
  let rare := symbols.filterMap fun (n, s) => if n < 0 then some s else none
  let usual := symbols.flatMap fun (n, s) => List.replicate n.toNat s
  let rareFrom := size - rare.length
  let spread := ((places size rareFrom).zip usual).foldl
    (fun (a : Array Nat) (i, s) => a.set! i s) (Array.replicate size 0)
  let placed := rare.zipIdx.foldl (fun (a : Array Nat) (s, i) => a.set! (size - 1 - i) s) spread
  -- The states for a symbol are numbered from the number of them on.
  let start := (counts.map fun n => if n < 0 then 1 else n.toNat).toArray
  let (entries, _) := placed.foldl
    (fun (entries, numbers) s =>
      let number := numbers.getD s 1
      let bits := log - number.log2
      (entries.push (StateEntry.mk s bits (number <<< bits - size)), numbers.set! s (number + 1)))
    ((#[] : Array StateEntry), start)
  ⟨log, entries⟩

/-- Reads the numbers of states of the symbols, as long as states are left. Gives them, last first,
    and the bit after them. -/
def readCounts (data : ByteArray) (fuel : Nat) (left bit : Nat) (counts : List Int) :
    Option (List Int × Nat) :=
  match fuel with
  | 0 => none
  | fuel + 1 =>
    if left = 0 then some (counts, bit)
    else
      let width := (left + 1).log2 + 1
      let n := bitsAt data bit width
      let half := 1 <<< (width - 1)
      let low := n % half
      -- Small numbers take one bit less.
      let spare := 2 * half - 2 - left
      let (value, bit) :=
        if low < spare then (low, bit + width - 1)
        else (if half ≤ n then n - spare else n, bit + width)
      let count : Int := value - 1
      if left < count.natAbs then none
      else if count = 0 then
        let (zeros, bit) := readZeros fuel bit 0
        readCounts data fuel left bit (List.replicate zeros 0 ++ 0 :: counts)
      else readCounts data fuel (left - count.natAbs) bit (count :: counts)
where
  /-- How many more symbols have no state: numbers of two bits, as long as these are three. -/
  readZeros (fuel bit zeros : Nat) : Nat × Nat :=
    match fuel with
    | 0 => (zeros, bit)
    | fuel + 1 =>
      let n := bitsAt data bit 2
      if n = 3 then readZeros fuel (bit + 2) (zeros + 3) else (zeros + n, bit + 2)

/-- Reads a machine with symbols and states up to a bound. Gives the place after it. -/
def read (data : ByteArray) (start size maxLog maxSymbol : Nat) : Option (StateTable × Nat) := do
  let log := bitsAt data (8 * start) 4 + 5
  if maxLog < log then none
  else
    let (counts, bit) ← readCounts data (maxSymbol + 2) (1 <<< log) (8 * start + 4) []
    let stop := (bit + 7) / 8
    if start + size < stop || maxSymbol + 1 < counts.length then none
    else return (.ofCounts log counts.reverse, stop)

end StateTable

end HandStudy.Zstd
