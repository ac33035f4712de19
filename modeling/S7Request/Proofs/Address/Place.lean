import S7Request.Proofs.Address.Grammar

/-!
# The place of an address

The place read from the segments of an address has the area of the letter and, field by field, the
number in the segment that holds it. Every function that reads a place succeeds exactly when these
segments have digits and the place has their numbers.
-/
namespace S7Request.Grammar

variable {policy : VPolicy} {address : String} {size : TransportSize} {letter : Char} {area : Area}
  {dbNumber : UInt16}

section Block

variable {parts : List (List Char)}

theorem area?_eq_ofLetter? (hD : letter ≠ 'D') (hV : letter ≠ 'V') :
    area? policy letter = Area.ofLetter? letter := by
  unfold area? Area.ofLetter?
  split <;> simp_all

/-- If there is a segment with the block, it has a digit, and the number of the block is `n`. -/
def ReadsBlock (policy : VPolicy) (letter : Char) (parts : List (List Char)) (n : ℕ) : Prop :=
  (∀ segment ∈ blockSegment? letter parts, ∃ c ∈ segment, c.isDigit = true) ∧
    blockNumber policy letter parts = n

theorem ReadsBlock.numbered (h : ReadsBlock policy letter parts dbNumber.toNat) :
    Numbered 65535 (blockSegment? letter parts) := by
  have hlt := dbNumber.toNat_lt
  by_cases hD : letter = 'D'
  · subst hD
    have hvalue : value (blockSegment? 'D' parts) = dbNumber.toNat := by
      cases policy <;> exact h.2
    exact Reads.numbered ⟨h.1, hvalue⟩ (by omega)
  · rw [blockSegment?, if_neg hD]
    simp [Numbered]

theorem readsBlock_D {n : ℕ} {head : List Char} {tail : List (List Char)} :
    ReadsBlock policy 'D' (head :: tail) n ↔ Reads (some head) n := by
  cases policy <;> exact Iff.rfl

/-- Without a segment for it the block follows from the letter. -/
theorem readsBlock_of_ne (hD : letter ≠ 'D') {w : UInt16}
    (hnumber : blockNumber policy letter parts = dbNumber.toNat) :
    ReadsBlock policy letter parts w.toNat ↔ w = dbNumber := by
  have hnone : blockSegment? letter parts = none := if_neg hD
  rw [ReadsBlock, hnone, hnumber, UInt16.toNat_inj]
  exact ⟨fun h => h.2.symm, fun h => ⟨by simp, h.symm⟩⟩

theorem blockNumber_of_ne (hD : letter ≠ 'D') (hV : letter ≠ 'V') :
    blockNumber policy letter parts = (0 : UInt16).toNat := by
  have hnone : blockSegment? letter parts = none := if_neg hD
  unfold blockNumber
  split
  · contradiction
  · rw [hnone]
    rfl

theorem blockNumber_eq_zero (harea : area? policy letter = some area) (hne : area ≠ .dataBlocks) :
    blockNumber policy letter parts = (0 : UInt16).toNat := by
  have hD : letter ≠ 'D' := by
    rintro rfl
    cases policy <;> simp_all [area?]
  by_cases hV : letter = 'V'
  · subst hV
    cases policy <;> simp_all [area?]
  · exact blockNumber_of_ne hD hV

end Block

section Places

variable {parts : Text.Segments} {p : Place}

theorem flatPlace_eq_ok_iff (hD : letter ≠ 'D') :
    flatPlace address size area dbNumber parts = .ok p ↔
      p.area = area ∧ p.dbNumber = dbNumber ∧
        Reads (byteSegment? letter parts.toList) p.byteAddress.toNat ∧
        Reads (bitSegment? size letter parts.toList) p.bitIndex.toNat := by
  obtain ⟨area', dbNumber', byte, bit⟩ := p
  have hbyte : byteSegment? letter parts.toList = some parts.head := if_neg hD
  have hbit : bitSegment? size letter parts.toList =
      if size.isBit then parts.tail[0]? else none := by
    rw [bitSegment?, if_neg hD]
    rfl
  rw [hbyte, hbit]
  simp only [flatPlace, bind_eq_ok_iff, segmentNumber_eq_ok_iff, bitIndex_eq_ok_iff, pure,
    Except.pure, Except.ok.injEq, Place.mk.injEq]
  constructor
  · rintro ⟨_, hbyte, _, hbit, rfl, rfl, rfl, rfl⟩
    exact ⟨rfl, rfl, hbyte, hbit⟩
  · rintro ⟨rfl, rfl, hbyte, hbit⟩
    exact ⟨_, hbyte, _, hbit, rfl, rfl, rfl, rfl⟩

/-- Once the block has its number, the byte and the bit are read. -/
theorem blockPlace_of_reads (h : Reads (some parts.head) dbNumber.toNat) :
    blockPlace address size parts =
      optionalNumber address parts.tail[0]? >>= fun byte =>
        bitIndex address size parts.tail[1]? >>= fun bit =>
          pure ⟨.dataBlocks, dbNumber, byte, bit⟩ := by
  have hblock : segmentNumber address parts.head = .ok dbNumber.toUInt32 := by
    rwa [segmentNumber_eq_ok_iff, UInt16.toNat_toUInt32]
  have hnumber : Word.ofNat16? dbNumber.toUInt32.toNat = some dbNumber :=
    Word.ofNat16?_eq_some_iff.2 (UInt16.toNat_toUInt32 dbNumber).symm
  rw [blockPlace, hblock]
  simp only [bind, Except.bind, hnumber]

theorem blockPlace_eq_ok_iff :
    blockPlace address size parts = .ok p ↔
      p.area = .dataBlocks ∧ Reads (some parts.head) p.dbNumber.toNat ∧
        Reads (byteSegment? 'D' parts.toList) p.byteAddress.toNat ∧
        Reads (bitSegment? size 'D' parts.toList) p.bitIndex.toNat := by
  obtain ⟨area', dbNumber', byte, bit⟩ := p
  have hbyte : byteSegment? 'D' parts.toList = parts.tail[0]? := rfl
  have hbit : bitSegment? size 'D' parts.toList = if size.isBit then parts.tail[1]? else none := rfl
  rw [hbyte, hbit]
  simp only [blockPlace, bind_eq_ok_iff, segmentNumber_eq_ok_iff]
  constructor
  · rintro ⟨number, hnumber, h⟩
    split at h
    · simp at h
    · rename_i w hw
      simp only [bind_eq_ok_iff, optionalNumber_eq_ok_iff, bitIndex_eq_ok_iff, pure, Except.pure,
        Except.ok.injEq, Place.mk.injEq] at h
      obtain ⟨_, hbyte, _, hbit, rfl, rfl, rfl, rfl⟩ := h
      exact ⟨rfl, (Word.ofNat16?_eq_some_iff.1 hw) ▸ hnumber, hbyte, hbit⟩
  · rintro ⟨rfl, hnumber, hbyte, hbit⟩
    refine ⟨dbNumber'.toUInt32, by simpa using hnumber, ?_⟩
    rw [Word.ofNat16?_eq_some_iff.2 (UInt16.toNat_toUInt32 dbNumber').symm]
    simp only [bind_eq_ok_iff, optionalNumber_eq_ok_iff, bitIndex_eq_ok_iff]
    exact ⟨byte, hbyte, bit, hbit, rfl⟩

/-- An address with a given letter names a place when the letter has an area and the segments
are read. -/
theorem place_eq_ok_iff :
    place policy address size letter parts = .ok p ↔
      area? policy letter = some p.area ∧
        ReadsBlock policy letter parts.toList p.dbNumber.toNat ∧
        Reads (byteSegment? letter parts.toList) p.byteAddress.toNat ∧
        Reads (bitSegment? size letter parts.toList) p.bitIndex.toNat := by
  unfold place
  split
  · subst letter
    have harea : area? policy 'D' = some p.area ↔ p.area = .dataBlocks := by
      cases policy <;> simp [area?, eq_comm]
    rw [blockPlace_eq_ok_iff, readsBlock_D, harea]
  rename_i hD
  split
  · subst letter
    cases policy with
    | block dbNumber =>
        have hnumber : blockNumber (.block dbNumber) 'V' parts.toList = dbNumber.toNat := rfl
        simp only [flatPlace_eq_ok_iff hD, readsBlock_of_ne hD hnumber, area?, Option.some.injEq]
        rw [eq_comm]
    | reject => simp [area?]
  · rename_i hV
    rw [area?_eq_ofLetter? hD hV, readsBlock_of_ne hD (blockNumber_of_ne hD hV)]
    cases Area.ofLetter? letter with
    | none => simp
    | some area =>
        simp only [flatPlace_eq_ok_iff hD, Option.some.injEq]
        rw [eq_comm]

end Places

end S7Request.Grammar
