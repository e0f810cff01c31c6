import HandStudy.Zstd.Checksum
import HandStudy.Zstd.Literals
import HandStudy.Zstd.Sequences

/-!
# Frames

A compressed content is one or more frames, whose contents stand one after the other. Some of them
are only there to be skipped. A frame is made of blocks, each of which may copy from those before it
in the frame.

Contents that need a dictionary are left out, and so are those that need a larger window than a
reader is asked to have.
-/

namespace HandStudy.Zstd

/-! ## Blocks -/

/-- What blocks take over from those before them, and what they wrote. -/
structure Progress where
  out : ByteArray := .empty
  recent : Sequence.Recent := {}
  code : Option PrefixCode := none
  machines : Option Machines := none

/-- Reads a block that is literals and sequences. -/
def readCompressed (data : ByteArray) (start stop : Nat) (p : Progress) : Option Progress := do
  let literals ← Literals.read data start stop p.code
  let (sequences, machines) ← Sequence.read data literals.stop stop p.machines
  let (out, recent) ← Sequence.execute literals.bytes 0 p.recent p.out sequences
  return ⟨out, recent, literals.code, machines⟩

/-- Reads the blocks of a frame. Gives the place after them. -/
def readBlocks (data : ByteArray) (limit fuel start : Nat) (p : Progress) :
    Option (ByteArray × Nat) :=
  match fuel with
  | 0 => none
  | fuel + 1 => do
    let header := littleEndian data start 3
    let size := header / 8
    let isRun := header / 2 % 4 = 1
    let first := start + 3
    let stop := first + if isRun then 1 else size
    if data.size < stop || limit < size then none
    else
      let p' ← match header / 2 % 4 with
        | 0 => some { p with out := p.out ++ data.extract first stop }
        | 1 => some { p with out := p.out ++ ⟨.replicate size (byteAt data first).toUInt8⟩ }
        | 2 => readCompressed data first stop p
        | _ => none
      if p.out.size + limit < p'.out.size then none
      else if header % 2 = 1 then return (p'.out, stop)
      else readBlocks data limit fuel stop p'

/-! ## Frames -/

/-- The largest window that a reader is asked to have. -/
def maxWindow : Nat :=
  1 <<< 27

/-- The largest content of a block. -/
def maxBlock : Nat :=
  1 <<< 17

/-- The size of the window that a byte stands for. -/
def windowSize (n : Nat) : Nat :=
  1 <<< (7 + n / 8) * (8 + n % 8)

/-- Reads a frame after its mark. Gives its content and the place after it. -/
def readFrame (data : ByteArray) (start : Nat) : Option (ByteArray × Nat) := do
  let flags := byteAt data start
  let isSingle := flags / 32 % 2 = 1
  let dictionaryBytes := [0, 1, 2, 4].getD (flags % 4) 0
  let sizeBytes := if flags < 64 then if isSingle then 1 else 0 else 1 <<< (flags / 64)
  let dictionaryStart := start + if isSingle then 1 else 2
  let sizeStart := dictionaryStart + dictionaryBytes
  let first := sizeStart + sizeBytes
  let size := littleEndian data sizeStart sizeBytes + if sizeBytes = 2 then 256 else 0
  let window := if isSingle then size else windowSize (byteAt data (start + 1))
  if data.size < first || flags / 8 % 2 = 1 || maxWindow < window ||
      littleEndian data dictionaryStart dictionaryBytes ≠ 0 then none
  else
    let (content, stop) ← readBlocks data (Nat.min window maxBlock) data.size first {}
    let hasSum := flags / 4 % 2 = 1
    let next := stop + if hasSum then 4 else 0
    if data.size < next || (sizeBytes ≠ 0 && content.size ≠ size) ||
        (hasSum && littleEndian data stop 4 ≠ Checksum.ofContent content) then none
    else return (content, next)

/-- Reads frames to the end. There has to be one. -/
def readFrames (data : ByteArray) (fuel start : Nat) (out : ByteArray) : Option ByteArray :=
  match fuel with
  | 0 => none
  | fuel + 1 => do
    let mark := littleEndian data start 4
    let (content, next) ←
      if data.size < start + 4 then none
      else if mark = 0xfd2fb528 then readFrame data (start + 4)
      else if mark / 16 = 0x184d2a5 then some (.empty, start + 8 + littleEndian data (start + 4) 4)
      else none
    let out := out ++ content
    if data.size < next then none
    else if next = data.size then return out
    else readFrames data fuel next out

/-- The content that some bytes are, if they are compressed. -/
def decompress? (data : ByteArray) : Option ByteArray :=
  readFrames data data.size 0 .empty

end HandStudy.Zstd
