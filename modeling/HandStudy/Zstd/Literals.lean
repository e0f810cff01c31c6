import HandStudy.Zstd.Bits

/-!
# Literals

The literals of a block are bytes that are given as they are, or one byte that is repeated, or the
letters of a prefix code. How long the code of a byte is follows from its weight: a byte of one
more weight has a code of one bit less, and bytes of no weight have none.
-/

namespace HandStudy.Zstd

/-- A prefix code: the length of its longest codes, and the letter and the length of the code that
    so many bits begin with. -/
structure PrefixCode where
  depth : Nat
  entries : Array (UInt8 × Nat)

namespace PrefixCode

/-- The code of bytes with the given weights, the weight of the last one being what is left. -/
def ofWeights (weights : List Nat) : Option PrefixCode :=
  let used := total (weights.map fun w => if w = 0 then 0 else 1 <<< (w - 1))
  let depth := used.log2 + 1
  let left := 1 <<< depth - used
  if used = 0 || 11 < depth || left ≠ 1 <<< left.log2 then none
  else
    let letters := (weights ++ [left.log2 + 1]).zipIdx
    let entries := (List.range depth).flatMap fun w =>
      (letters.filter (·.1 = w + 1)).flatMap fun (_, letter) =>
        List.replicate (1 <<< w) (letter.toUInt8, depth - w)
    some ⟨depth, entries.toArray⟩

/-- Reads weights by two state machines that take turns, until the bits are used up. -/
def readWeights (t : StateTable) (fuel : Nat) (b : Backward) (state other : Nat)
    (weights : List Nat) : Option (List Nat) :=
  match fuel with
  | 0 => none
  | fuel + 1 =>
    let weights := (t.entry state).symbol :: weights
    let (state, b) := t.next state b
    if b.left < 0 then some ((t.entry other).symbol :: weights).reverse
    else readWeights t fuel b other state weights

/-- Reads a code. Gives the place after it. -/
def read (data : ByteArray) (start size : Nat) : Option (PrefixCode × Nat) := do
  let header := byteAt data start
  let count := header - 127
  let bytes := if header < 128 then header else (count + 1) / 2
  let stop := start + 1 + bytes
  if start + size < stop then none
  else
    let weights ←
      if header < 128 then do
        let (table, first) ← StateTable.read data (start + 1) bytes 6 255
        let b ← Backward.ofRange data first (stop - first)
        let (state, b) := table.first b
        let (other, b) := table.first b
        readWeights table 255 b state other []
      else pure ((List.range count).map fun i =>
        byteAt data (start + 1 + i / 2) >>> (if i % 2 = 0 then 4 else 0) % 16)
    return (← ofWeights weights, stop)

/-- Reads letters from a stream, which they have to use up. -/
def readLetters (code : PrefixCode) (count : Nat) (b : Backward) (out : ByteArray) :
    Option ByteArray :=
  match count with
  | 0 => if b.left = 0 then some out else none
  | count + 1 => do
    let (letter, length) ← code.entries[b.peek code.depth]?
    readLetters code count (b.skip length) (out.push letter)

/-- Reads letters from one stream, or from four one after the other, the lengths of three of
    which are given in front. -/
def readStreams (code : PrefixCode) (data : ByteArray) (start size count : Nat) (four : Bool) :
    Option ByteArray :=
  if four then
    let part := (count + 3) / 4
    let sizes := (List.range 3).map fun i => littleEndian data (start + 2 * i) 2
    let used := 6 + total sizes
    if size < used || count < 3 * part then none
    else do
      let step (place : Nat × ByteArray) (stream : Nat × Nat) : Option (Nat × ByteArray) := do
        let b ← Backward.ofRange data place.1 stream.1
        return (place.1 + stream.1, ← code.readLetters stream.2 b place.2)
      let streams := sizes.map (·, part) ++ [(size - used, count - 3 * part)]
      return (← streams.foldlM step (start + 6, .empty)).2
  else do
    let b ← Backward.ofRange data start size
    code.readLetters count b .empty

end PrefixCode

/-- The literals of a block, the code that they were in or the last one before it, and the place
    after them. -/
structure Literals where
  bytes : ByteArray
  code : Option PrefixCode
  stop : Nat

namespace Literals

/-- Reads literals that are not in a code: as many bytes as there are, or one for all. -/
def readPlain (data : ByteArray) (start stop : Nat) (code : Option PrefixCode) (repeated : Bool) :
    Option Literals :=
  let format := byteAt data start / 4 % 4
  let (header, count) :=
    if format % 2 = 0 then (1, byteAt data start / 8)
    else if format = 1 then (2, littleEndian data start 2 / 16)
    else (3, littleEndian data start 3 / 16)
  let next := start + header + if repeated then 1 else count
  if stop < next then none
  else
    let bytes := if repeated then
        ⟨Array.replicate count (byteAt data (start + header)).toUInt8⟩
      else data.extract (start + header) next
    some ⟨bytes, code, next⟩

/-- Reads literals that are in a code, which is given or else the last one before it. -/
def readCoded (data : ByteArray) (start stop : Nat) (code : Option PrefixCode) (given : Bool) :
    Option Literals := do
  let format := byteAt data start / 4 % 4
  let (header, bits) :=
    if format < 2 then (3, 10) else if format = 2 then (4, 14) else (5, 18)
  let numbers := littleEndian data start header / 16
  let count := numbers % (1 <<< bits)
  let size := numbers >>> bits % (1 <<< bits)
  let first := start + header
  if stop < first + size then none
  else
    let (code, streams) ←
      if given then PrefixCode.read data first size else code.map (·, first)
    let bytes ← code.readStreams data streams (first + size - streams) count (format ≠ 0)
    return ⟨bytes, code, first + size⟩

/-- Reads literals. -/
def read (data : ByteArray) (start stop : Nat) (code : Option PrefixCode) : Option Literals :=
  match byteAt data start % 4 with
  | 0 => readPlain data start stop code false
  | 1 => readPlain data start stop code true
  | 2 => readCoded data start stop code true
  | _ => readCoded data start stop code false

end Literals

end HandStudy.Zstd
