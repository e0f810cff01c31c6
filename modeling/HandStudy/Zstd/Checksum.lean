import HandStudy.Zstd.Bits

/-!
# Checksums

The checksum of a content is the lower half of its XXH64 hash: four lanes of eight bytes each are
mixed in turn, then what is left in smaller and smaller pieces, and at last the bits of the whole.
-/

namespace HandStudy.Zstd.Checksum

/-- The factors of the hash. -/
def prime1 : UInt64 := 0x9e3779b185ebca87
@[inherit_doc prime1] def prime2 : UInt64 := 0xc2b2ae3d27d4eb4f
@[inherit_doc prime1] def prime3 : UInt64 := 0x165667b19e3779f9
@[inherit_doc prime1] def prime4 : UInt64 := 0x85ebca77c2b2ae63
@[inherit_doc prime1] def prime5 : UInt64 := 0x27d4eb2f165667c5

/-- Turns the bits to the left. -/
def rotate (x : UInt64) (n : UInt64) : UInt64 :=
  x <<< n ||| x >>> (64 - n)

/-- The number in eight bytes. -/
def word (data : ByteArray) (i : Nat) : UInt64 :=
  (littleEndian data i 8).toUInt64

/-- Mixes a word into a lane. -/
def round (lane x : UInt64) : UInt64 :=
  rotate (lane + x * prime2) 31 * prime1

/-- Four lanes. -/
structure Lanes where
  a : UInt64 := prime1 + prime2
  b : UInt64 := prime2
  c : UInt64 := 0
  d : UInt64 := 0 - prime1

/-- Mixes four words into the lanes. -/
def Lanes.step (data : ByteArray) (l : Lanes) (i : Nat) : Lanes where
  a := round l.a (word data (32 * i))
  b := round l.b (word data (32 * i + 8))
  c := round l.c (word data (32 * i + 16))
  d := round l.d (word data (32 * i + 24))

/-- The lanes in one number. -/
def Lanes.merge (l : Lanes) : UInt64 :=
  [l.a, l.b, l.c, l.d].foldl (fun h lane => (h ^^^ round 0 lane) * prime1 + prime4)
    (rotate l.a 1 + rotate l.b 7 + rotate l.c 12 + rotate l.d 18)

/-- Mixes in what is left from a place on: words, then half a word, then bytes. -/
def rest (data : ByteArray) (start : Nat) (h : UInt64) : UInt64 :=
  let words := (data.size - start) / 8
  let h := (List.range words).foldl (fun h i =>
    rotate (h ^^^ round 0 (word data (start + 8 * i))) 27 * prime1 + prime4) h
  let start := start + 8 * words
  let halves := (data.size - start) / 4
  let h := (List.range halves).foldl (fun h i =>
    rotate (h ^^^ (littleEndian data (start + 4 * i) 4).toUInt64 * prime1) 23 * prime2 + prime3) h
  let start := start + 4 * halves
  (List.range (data.size - start)).foldl (fun h i =>
    rotate (h ^^^ (byteAt data (start + i)).toUInt64 * prime5) 11 * prime1) h

/-- Mixes the bits. -/
def avalanche (h : UInt64) : UInt64 :=
  let h := (h ^^^ h >>> 33) * prime2
  let h := (h ^^^ h >>> 29) * prime3
  h ^^^ h >>> 32

/-- The checksum of a content. -/
def ofContent (data : ByteArray) : Nat :=
  let stripes := data.size / 32
  let h := if stripes = 0 then prime5
    else ((List.range stripes).foldl (Lanes.step data) {}).merge
  (avalanche (rest data (32 * stripes) (h + data.size.toUInt64))).toNat % (1 <<< 32)

end HandStudy.Zstd.Checksum
