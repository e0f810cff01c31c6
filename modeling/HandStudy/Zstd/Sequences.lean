import HandStudy.Zstd.Bits

/-!
# Sequences

What is not a literal is a copy of something before it. A sequence says how many literals come
first, how far back the copy starts and how long it is (`Sequence`). Each of the three numbers has
a state machine of its own, whose symbols are ranges of numbers (`Field`).
-/

namespace HandStudy.Zstd

/-- How many literals come first, how far back the copy after them starts, or which of the last
    distances it has again, and how long it is. -/
structure Sequence where
  literals : Nat
  distance : Nat
  length : Nat

/-! ## The numbers of a sequence -/

/-- One of the numbers: the lowest one, how many bits follow after each symbol, and the states of
    the machine: at most so many, and those that are usual. -/
structure Field where
  first : Nat
  extra : List Nat
  maxLog : Nat
  usualLog : Nat
  usual : List Int

namespace Field

/-- How many literals come first. -/
def literals : Field where
  first := 0
  extra := List.replicate 16 0 ++ [1, 1, 1, 1, 2, 2, 3, 3, 4, 6, 7, 8, 9, 10, 11, 12, 13, 14, 15, 16]
  maxLog := 9
  usualLog := 6
  usual := [4, 3] ++ List.replicate 11 2 ++ [1, 1, 1] ++ List.replicate 9 2 ++
    [3, 2, 1, 1, 1, 1, 1, -1, -1, -1, -1]

/-- How far back a copy starts. -/
def distance : Field where
  first := 1
  extra := List.range 32
  maxLog := 8
  usualLog := 5
  usual := List.replicate 6 1 ++ [2, 2, 2] ++ List.replicate 15 1 ++ List.replicate 5 (-1)

/-- How long a copy is. -/
def length : Field where
  first := 3
  extra := List.replicate 32 0 ++
    [1, 1, 1, 1, 2, 2, 3, 3, 4, 4, 5, 7, 8, 9, 10, 11, 12, 13, 14, 15, 16]
  maxLog := 9
  usualLog := 6
  usual := [1, 4, 3] ++ List.replicate 6 2 ++ List.replicate 37 1 ++ List.replicate 7 (-1)

/-- The highest symbol. -/
def maxSymbol (f : Field) : Nat :=
  f.extra.length - 1

/-- Reads the number in the range that a symbol stands for. The ranges follow one another. -/
def value (f : Field) (symbol : Nat) (b : Backward) : Nat × Backward :=
  let (n, b) := b.read (f.extra.getD symbol 0)
  (f.first + total ((f.extra.take symbol).map (1 <<< ·)) + n, b)

/-- Reads a machine: the usual one, one with a single symbol, one that is given, or the last one
    before it. -/
def readTable (f : Field) (data : ByteArray) (start stop mode : Nat) (last : Option StateTable) :
    Option (StateTable × Nat) :=
  match mode with
  | 0 => some (.ofCounts f.usualLog f.usual, start)
  | 1 =>
    let symbol := byteAt data start
    if start < stop && symbol ≤ f.maxSymbol then some (.single symbol, start + 1) else none
  | 2 => StateTable.read data start (stop - start) f.maxLog f.maxSymbol
  | _ => last.map (·, start)

end Field

/-- The machines for the three numbers. -/
structure Machines where
  literals : StateTable
  distance : StateTable
  length : StateTable

namespace Machines

/-- Reads the machines, which stand one after the other. -/
def read (data : ByteArray) (start stop : Nat) (last : Option Machines) :
    Option (Machines × Nat) := do
  let modes := byteAt data start
  if stop ≤ start || modes % 4 ≠ 0 then none
  else
    let (literals, next) ←
      Field.literals.readTable data (start + 1) stop (modes / 64) (last.map Machines.literals)
    let (distance, next) ←
      Field.distance.readTable data next stop (modes / 16 % 4) (last.map Machines.distance)
    let (length, next) ←
      Field.length.readTable data next stop (modes / 4 % 4) (last.map Machines.length)
    return (⟨literals, distance, length⟩, next)

/-- The states that the machines are in. -/
structure States where
  literals : Nat
  distance : Nat
  length : Nat

/-- The states from which a stream starts. -/
def first (m : Machines) (b : Backward) : States × Backward :=
  let (literals, b) := m.literals.first b
  let (distance, b) := m.distance.first b
  let (length, b) := m.length.first b
  (⟨literals, distance, length⟩, b)

/-- Reads what the states stand for. -/
def sequence (m : Machines) (s : States) (b : Backward) : Sequence × Backward :=
  let (distance, b) := Field.distance.value (m.distance.entry s.distance).symbol b
  let (length, b) := Field.length.value (m.length.entry s.length).symbol b
  let (literals, b) := Field.literals.value (m.literals.entry s.literals).symbol b
  (⟨literals, distance, length⟩, b)

/-- The states after these. -/
def next (m : Machines) (s : States) (b : Backward) : States × Backward :=
  let (literals, b) := m.literals.next s.literals b
  let (length, b) := m.length.next s.length b
  let (distance, b) := m.distance.next s.distance b
  (⟨literals, distance, length⟩, b)

/-- Reads so many sequences, which have to use up the stream. -/
def readAll (m : Machines) (count : Nat) (s : States) (b : Backward) (before : List Sequence) :
    Option (List Sequence) :=
  match count with
  | 0 => if b.left = 0 then some before.reverse else none
  | count + 1 =>
    let (q, b) := m.sequence s b
    let (s, b) := if count = 0 then (s, b) else m.next s b
    readAll m count s b (q :: before)

end Machines

namespace Sequence

/-- Reads how many sequences there are. Gives the place after it. -/
def readCount (data : ByteArray) (start : Nat) : Nat × Nat :=
  let head := byteAt data start
  if head < 128 then (head, start + 1)
  else if head < 255 then ((head - 128) * 256 + byteAt data (start + 1), start + 2)
  else (littleEndian data (start + 1) 2 + 0x7f00, start + 3)

/-- Reads the sequences of a block, and the machines that they are read by. -/
def read (data : ByteArray) (start stop : Nat) (last : Option Machines) :
    Option (List Sequence × Option Machines) := do
  let (count, next) := readCount data start
  if stop < next then none
  else if count = 0 then if next = stop then some ([], last) else none
  else
    let (machines, next) ← Machines.read data next stop last
    let b ← Backward.ofRange data next (stop - next)
    let (states, b) := machines.first b
    return (← machines.readAll count states b [], machines)

/-! ## What sequences do -/

/-- The last three distances, the latest one first. -/
structure Recent where
  first : Nat := 1
  second : Nat := 4
  third : Nat := 8

/-- How far back the copy of a sequence starts, and the last distances from then on. Without literals
    before it, a distance that is had again is not the latest one. -/
def resolve (q : Sequence) (r : Recent) : Nat × Recent :=
  let again := q.distance - 1 + if q.literals = 0 then 1 else 0
  if 3 < q.distance then (q.distance - 3, ⟨q.distance - 3, r.first, r.second⟩)
  else match again with
    | 0 => (r.first, r)
    | 1 => (r.second, ⟨r.second, r.first, r.third⟩)
    | 2 => (r.third, ⟨r.third, r.first, r.second⟩)
    | _ => (r.first - 1, ⟨r.first - 1, r.first, r.second⟩)

/-- Appends a copy byte by byte. It may run into what it appends. -/
def copy (out : ByteArray) (distance : Nat) : Nat → ByteArray
  | 0 => out
  | n + 1 => copy (out.push (byteAt out (out.size - distance)).toUInt8) distance n

/-- Puts a content together, after what is written already. The literals that no sequence takes come
    last. -/
def execute (literals : ByteArray) (place : Nat) (r : Recent) (out : ByteArray) :
    List Sequence → Option (ByteArray × Recent)
  | [] => some (out ++ literals.extract place literals.size, r)
  | q :: rest =>
    let stop := place + q.literals
    let (distance, r) := q.resolve r
    let out := out ++ literals.extract place stop
    if literals.size < stop || distance = 0 || out.size < distance then none
    else execute literals stop r (copy out distance q.length) rest

end Sequence

end HandStudy.Zstd
