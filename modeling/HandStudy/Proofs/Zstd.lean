import HandStudy.Zstd.Frame

/-!
# Contents that are stored

A content can be cut into blocks that are given as they are (`stored`), and is read back from them
(`decompress?_stored`). So every content is what some bytes are if they are decompressed
(`exists_decompress?`).
-/

namespace HandStudy.Zstd

/-! ## Numbers as bytes -/

/-- So many bytes with a number in them, the lowest byte first. -/
def bytesOf : Nat → Nat → ByteArray
  | 0, _ => .empty
  | count + 1, n => ⟨#[n.toUInt8]⟩ ++ bytesOf count (n / 256)

theorem size_bytesOf (count n : Nat) : (bytesOf count n).size = count := by
  induction count generalizing n with
  | zero => rfl
  | succ count ih =>
    rw [bytesOf, ByteArray.size_append, ih]
    exact Nat.add_comm 1 count

theorem byteAt_append_add (a b : ByteArray) (i : Nat) :
    byteAt (a ++ b) (a.size + i) = byteAt b i := by
  have hsize : (a ++ b).size = a.size + b.size := ByteArray.size_append
  rw [byteAt, byteAt]
  by_cases hi : i < b.size
  · rw [getElem?_pos (a ++ b) _ (by omega), getElem?_pos b _ hi,
      ByteArray.getElem_append_right (Nat.le_add_right ..)]
    simp only [Nat.add_sub_cancel_left]
  · rw [getElem?_neg (a ++ b) _ (by omega), getElem?_neg b _ hi]

theorem byteAt_append_left {a : ByteArray} {i : Nat} (hi : i < a.size) (b : ByteArray) :
    byteAt (a ++ b) i = byteAt a i := by
  have hsize : (a ++ b).size = a.size + b.size := ByteArray.size_append
  rw [byteAt, byteAt, getElem?_pos (a ++ b) _ (by omega), getElem?_pos a _ hi,
    ByteArray.getElem_append_left hi]

theorem littleEndian_append_add (a b : ByteArray) (i count : Nat) :
    littleEndian (a ++ b) (a.size + i) count = littleEndian b i count := by
  induction count generalizing i with
  | zero => rfl
  | succ count ih => rw [littleEndian, littleEndian, byteAt_append_add, Nat.add_assoc, ih]

/-- A number is read back from its bytes, if they are enough. -/
theorem littleEndian_bytesOf {count n : Nat} (hn : n < Nat.pow 256 count) (rest : ByteArray) :
    littleEndian (bytesOf count n ++ rest) 0 count = n := by
  induction count generalizing n with
  | zero => exact (Nat.lt_one_iff.1 hn).symm
  | succ count ih =>
    have hhigh : n / 256 < Nat.pow 256 count :=
      Nat.div_lt_of_lt_mul (Nat.lt_of_lt_of_eq hn (Nat.mul_comm ..))
    have hlow : byteAt (⟨#[n.toUInt8]⟩ ++ (bytesOf count (n / 256) ++ rest)) 0 = n % 256 :=
      byteAt_append_left (a := ⟨#[n.toUInt8]⟩) Nat.one_pos _
    have hnext := littleEndian_append_add ⟨#[n.toUInt8]⟩ (bytesOf count (n / 256) ++ rest) 0 count
    rw [bytesOf, ByteArray.append_assoc, littleEndian, hlow]
    exact (congrArg (n % 256 + 256 * ·) (hnext.trans (ih hhigh))).trans (Nat.mod_add_div n 256)

/-! ## Blocks -/

/-- A block whose content is given as it is. -/
def rawBlock (isLast : Bool) (content : ByteArray) : ByteArray :=
  bytesOf 3 (8 * content.size + isLast.toNat) ++ content

theorem size_rawBlock (isLast : Bool) (content : ByteArray) :
    (rawBlock isLast content).size = 3 + content.size := by
  rw [rawBlock, ByteArray.size_append, size_bytesOf]

/-- What is between two pieces is cut out again. -/
theorem extract_between (a b c : ByteArray) :
    (a ++ (b ++ c)).extract a.size (a.size + b.size) = b := by
  have htail : (a ++ (b ++ c)).extract (a.size + 0) (a.size + b.size) = (b ++ c).extract 0 b.size :=
    ByteArray.extract_append_size_add
  exact htail.trans (ByteArray.extract_append_eq_left rfl)

/-- Its content is appended, and reading goes on after it. -/
theorem readBlocks_rawBlock {content : ByteArray} (hsize : content.size ≤ maxBlock)
    (isLast : Bool) (before after : ByteArray) (fuel : Nat) (p : Progress) :
    readBlocks (before ++ (rawBlock isLast content ++ after)) maxBlock (fuel + 1) before.size p =
      if isLast then some (p.out ++ content, (before ++ rawBlock isLast content).size)
      else readBlocks (before ++ (rawBlock isLast content ++ after)) maxBlock fuel
        (before ++ rawBlock isLast content).size { p with out := p.out ++ content } := by
  have hbound : content.size ≤ 131072 := hsize
  have hflag : isLast.toNat ≤ 1 := Bool.toNat_le isLast
  have hheader : littleEndian (before ++ (rawBlock isLast content ++ after)) before.size 3 =
      8 * content.size + isLast.toNat := by
    rw [rawBlock, ByteArray.append_assoc, ← Nat.add_zero before.size, littleEndian_append_add]
    exact littleEndian_bytesOf (show _ < 16777216 by omega) _
  have hextract : (before ++ (rawBlock isLast content ++ after)).extract (before.size + 3)
      (before.size + 3 + content.size) = content := by
    have hfirst : (before ++ bytesOf 3 (8 * content.size + isLast.toNat)).size =
        before.size + 3 := by
      rw [ByteArray.size_append, size_bytesOf]
    rw [rawBlock, ByteArray.append_assoc, ← ByteArray.append_assoc (a := before), ← hfirst]
    exact extract_between _ content after
  have hstop : before.size + 3 + content.size ≤
      (before ++ (rawBlock isLast content ++ after)).size := by
    rw [ByteArray.size_append, ByteArray.size_append, size_rawBlock]
    omega
  have hnext : (before ++ rawBlock isLast content).size = before.size + 3 + content.size := by
    rw [ByteArray.size_append, size_rawBlock, Nat.add_assoc]
  have hout : (p.out ++ content).size = p.out.size + content.size := ByteArray.size_append
  generalize before ++ (rawBlock isLast content ++ after) = data at hheader hextract hstop ⊢
  have hkind : (8 * content.size + isLast.toNat) / 2 % 4 = 0 := by omega
  have hcount : (8 * content.size + isLast.toNat) / 8 = content.size := by omega
  have hlast : (8 * content.size + isLast.toNat) % 2 = isLast.toNat := by omega
  rw [readBlocks, hnext]
  simp only [hheader, hkind, hcount, hlast]
  cases isLast <;> simp [hextract, hout, Nat.not_lt.2 hstop, Nat.not_lt.2 hsize]

/-- Blocks with some contents, at least one. -/
def rawBlocks (content : ByteArray) : List ByteArray → ByteArray
  | [] => rawBlock true content
  | next :: rest => rawBlock false content ++ rawBlocks next rest

theorem length_lt_size_rawBlocks (content : ByteArray) (rest : List ByteArray) :
    rest.length < (rawBlocks content rest).size := by
  induction rest generalizing content with
  | nil =>
    rw [rawBlocks, size_rawBlock, List.length_nil]
    omega
  | cons next rest ih =>
    have hrest := ih next
    rw [rawBlocks, ByteArray.size_append, size_rawBlock, List.length_cons]
    omega

/-- The contents of blocks are appended one after the other, up to the last block. -/
theorem readBlocks_rawBlocks {content : ByteArray} {rest : List ByteArray} {fuel : Nat}
    (hfuel : rest.length < fuel) (hsize : ∀ c ∈ content :: rest, c.size ≤ maxBlock)
    (before : ByteArray) (p : Progress) :
    readBlocks (before ++ rawBlocks content rest) maxBlock fuel before.size p =
      some (rest.foldl (· ++ ·) (p.out ++ content), (before ++ rawBlocks content rest).size) := by
  induction rest generalizing content before fuel p with
  | nil =>
    obtain ⟨fuel, rfl⟩ := Nat.exists_eq_add_one.2 hfuel
    have hread := readBlocks_rawBlock (hsize content List.mem_cons_self) true before .empty fuel p
    rwa [ByteArray.append_empty] at hread
  | cons next rest ih =>
    obtain ⟨fuel, rfl⟩ := Nat.exists_eq_add_one.2 (Nat.zero_lt_of_lt hfuel)
    obtain ⟨hfirst, hrest⟩ := List.forall_mem_cons.1 hsize
    rw [rawBlocks, readBlocks_rawBlock hfirst, if_neg Bool.false_ne_true,
      ← ByteArray.append_assoc (a := before), ih (Nat.lt_of_succ_lt_succ hfuel) hrest]
    rfl

/-! ## Frames -/

/-- The mark of a frame, and that its window is as large as a block can be. -/
def frameStart : ByteArray :=
  bytesOf 4 0xfd2fb528 ++ ⟨#[0, 56]⟩

/-- A frame with blocks as they are. -/
def stored (content : ByteArray) (rest : List ByteArray) : ByteArray :=
  frameStart ++ rawBlocks content rest

variable {content : ByteArray} {rest : List ByteArray}

theorem readFrame_stored (hsize : ∀ c ∈ content :: rest, c.size ≤ maxBlock) :
    readFrame (stored content rest) 4 =
      some (rest.foldl (· ++ ·) content, (stored content rest).size) := by
  have htotal : (stored content rest).size = 6 + (rawBlocks content rest).size :=
    ByteArray.size_append
  have hflags : byteAt (stored content rest) 4 = 0 :=
    byteAt_append_left (a := frameStart) (by decide) _
  have hwindow : byteAt (stored content rest) 5 = 56 :=
    byteAt_append_left (a := frameStart) (by decide) _
  have hread : readBlocks (stored content rest) maxBlock (stored content rest).size 6 {} =
      some (rest.foldl (· ++ ·) content, (stored content rest).size) := by
    have hlength := length_lt_size_rawBlocks content rest
    have hblocks := readBlocks_rawBlocks (show rest.length < (stored content rest).size by omega)
      hsize frameStart {}
    rwa [ByteArray.empty_append] at hblocks
  have hlimit : Nat.min (windowSize 56) maxBlock = maxBlock := by decide
  have hfits : ¬ (stored content rest).size < 6 := by omega
  have hsmall : ¬ maxWindow < windowSize 56 := by decide
  simp only [readFrame, hflags, hwindow]
  simp [hlimit, hfits, hsmall, littleEndian, hread]

/-- The contents of the blocks are the whole content. -/
theorem decompress?_stored (hsize : ∀ c ∈ content :: rest, c.size ≤ maxBlock) :
    decompress? (stored content rest) = some (rest.foldl (· ++ ·) content) := by
  have htotal : (stored content rest).size = 6 + (rawBlocks content rest).size :=
    ByteArray.size_append
  have hmark : littleEndian (stored content rest) 0 4 = 0xfd2fb528 := by
    rw [stored, frameStart, ByteArray.append_assoc]
    exact littleEndian_bytesOf (by decide) _
  obtain ⟨fuel, hfuel⟩ := Nat.exists_eq_add_one.2 (show 0 < (stored content rest).size by omega)
  have hfits : ¬ (stored content rest).size < 4 := by omega
  rw [decompress?, hfuel, readFrames]
  simp [hmark, hfits, readFrame_stored hsize]

/-- A content can be cut into blocks. -/
theorem exists_blocks (data : ByteArray) : ∃ content rest,
    (∀ c ∈ content :: rest, c.size ≤ maxBlock) ∧ rest.foldl (· ++ ·) content = data := by
  by_cases hsmall : data.size ≤ maxBlock
  · exact ⟨data, [], fun c hc => List.mem_singleton.1 hc ▸ hsmall, rfl⟩
  · -- The last block is cut off.
    obtain ⟨content, rest, hsize, hjoin⟩ := exists_blocks (data.extract 0 (data.size - maxBlock))
    refine ⟨content, rest ++ [data.extract (data.size - maxBlock) data.size], fun c hc => ?_, ?_⟩
    · rcases List.mem_append.1 (List.cons_append ▸ hc) with hc | hc
      · exact hsize c hc
      · rw [List.mem_singleton.1 hc, ByteArray.size_extract]
        omega
    · rw [List.foldl_append, hjoin, List.foldl_cons, List.foldl_nil,
        ← ByteArray.extract_eq_extract_append_extract _ (Nat.zero_le _) (Nat.sub_le ..)]
      exact ByteArray.extract_zero_size
termination_by data.size
decreasing_by
  have hpos : 0 < maxBlock := by decide
  rw [ByteArray.size_extract]
  omega

/-- Every content can be compressed. -/
theorem exists_decompress?_eq_some (data : ByteArray) : ∃ z, decompress? z = some data := by
  obtain ⟨content, rest, hsize, rfl⟩ := exists_blocks data
  exact ⟨_, decompress?_stored hsize⟩

end HandStudy.Zstd
