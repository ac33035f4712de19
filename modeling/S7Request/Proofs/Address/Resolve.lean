import S7Request.Proofs.Address.Place
import S7Request.Proofs.Item.Valid

/-!
# Resolving follows the grammar

An address that can be resolved is one of the grammar, and it is resolved to the item that it names.
Every number in a well-formed address fits into its field of an item, so each of them names one.
-/
namespace S7Request.Grammar

variable {policy : VPolicy} {address : String} {count : UInt32} {size : TransportSize} {item : Item}
  {letter : Char}

theorem resolve_of_text_eq_nil (htext : normalized address = []) :
    resolve policy address count size = .error (.addressFormat address .empty) := by
  rw [resolve, if_pos htext]
  rfl

theorem resolve_of_count_eq_zero (htext : normalized address ≠ []) :
    resolve policy address 0 size = .error (.addressFormat address .zeroCount) := by
  rw [resolve, if_neg htext, if_pos rfl]
  rfl

theorem resolve_of_head_eq_nil (htext : normalized address ≠ []) (hcount : count ≠ 0)
    (hhead : (addressSegments address).head = []) :
    resolve policy address count size = .error (.addressFormat address .noAreaLetter) := by
  rw [resolve, if_neg htext, if_neg hcount]
  simp only [hhead]
  rfl

/-- Once an address has text, units and a first letter, its place decides. -/
theorem resolve_of_head (htext : normalized address ≠ []) (hcount : count ≠ 0) {rest : List Char}
    (hhead : (addressSegments address).head = letter :: rest) :
    resolve policy address count size =
      place policy address size letter (addressSegments address) >>= fun p =>
        if 7 < p.bitIndex then .error (.bitIndexOutOfRange address p.bitIndex)
        else Item.make p.area p.dbNumber p.byteAddress p.bitIndex.toUInt8 size count := by
  rw [resolve, if_neg htext, if_neg hcount]
  simp only [hhead]
  refine congrArg _ (funext fun p => ?_)
  split <;> rfl

/-- A place whose bit is one of a byte has an item of any units. -/
theorem exists_make {p : Place} (hcount : count ≠ 0) (hbit : ¬7 < p.bitIndex) :
    ∃ item, Item.make p.area p.dbNumber p.byteAddress p.bitIndex.toUInt8 size count =
      .ok item := by
  have hle := UInt32.le_iff_toNat_le.1 (UInt32.not_lt.1 hbit)
  have hle' : p.bitIndex.toUInt8 ≤ 7 := by
    rw [UInt8.le_iff_toNat_le, UInt32.toNat_toUInt8,
      Nat.mod_eq_of_lt (Nat.lt_of_le_of_lt hle (by decide))]
    exact hle
  exact ⟨_, Item.make_eq_ok_iff.2 ⟨hle', hcount, rfl⟩⟩

/-- An address is resolved when its text has a first letter, the segments name a place, and the
bit index is one. -/
theorem resolve_eq_ok_iff :
    resolve policy address count size = .ok item ↔
      normalized address ≠ [] ∧ count ≠ 0 ∧
        ∃ letter rest, (segments address)[0]? = some (letter :: rest) ∧
          ∃ p, place policy address size letter (addressSegments address) = .ok p ∧
            p.bitIndex ≤ 7 ∧
            Item.make p.area p.dbNumber p.byteAddress p.bitIndex.toUInt8 size count = .ok item := by
  simp only [getElem?_zero_segments]
  by_cases htext : normalized address = []
  · simp [resolve_of_text_eq_nil htext, htext]
  by_cases hcount : count = 0
  · rw [hcount, resolve_of_count_eq_zero htext]
    simp
  cases hhead : (addressSegments address).head with
  | nil => simp [resolve_of_head_eq_nil htext hcount hhead]
  | cons letter rest =>
      rw [resolve_of_head htext hcount hhead, bind_eq_ok_iff]
      constructor
      · rintro ⟨p, hplace, h⟩
        split at h
        · simp at h
        · rename_i hbit
          exact ⟨htext, hcount, letter, rest, rfl, p, hplace, UInt32.not_lt.1 hbit, h⟩
      · rintro ⟨-, -, letter', rest', he, p, hplace, hbit, h⟩
        obtain ⟨rfl, rfl⟩ := List.cons.inj he
        exact ⟨p, hplace, by rwa [if_neg (UInt32.not_lt.2 hbit)]⟩

theorem valid_of_resolve (h : resolve policy address count size = .ok item) : item.Valid := by
  obtain ⟨-, -, _, _, -, p, -, -, hmake⟩ := resolve_eq_ok_iff.1 h
  exact Item.valid_of_make hmake

theorem bitSegment?_of_not_bit {parts : List (List Char)} (h : ¬size.isBit) :
    bitSegment? size letter parts = none :=
  if_neg h

/-- Clearing the block number outside data blocks changes nothing, for there it is zero. -/
theorem ReadsBlock.toNat_dbNumber {area : Area} {dbNumber : UInt16}
    (h : ReadsBlock policy letter (segments address) dbNumber.toNat)
    (harea : area? policy letter = some area) :
    (if area = .dataBlocks then dbNumber else 0).toNat =
      blockNumber policy letter (segments address) := by
  split
  · exact h.2.symm
  · rename_i hne
    rw [blockNumber_eq_zero harea hne]

/-- Clearing the bit index where bits are not addressed changes nothing, for there it is zero, and
an index of a bit fits into a byte. -/
theorem Reads.toNat_bitAddress {parts : List (List Char)} {bit : UInt32}
    (h : Reads (bitSegment? size letter parts) bit.toNat) (hle : bit ≤ 7) :
    (if size.isBit then bit.toUInt8 else 0).toNat = value (bitSegment? size letter parts) := by
  have hle := UInt32.le_iff_toNat_le.1 hle
  split
  · rw [h.2, UInt32.toNat_toUInt8, Nat.mod_eq_of_lt (Nat.lt_of_le_of_lt hle (by decide))]
  · rename_i hne
    rw [bitSegment?_of_not_bit hne]
    rfl

/-- The place read from a well-formed address and the item that it names agree. -/
theorem WellFormed.reads (hform : WellFormed policy address count size letter)
    (hnames : Names policy address count size letter item) :
    ReadsBlock policy letter (segments address) item.dbNumber.toNat ∧
      Reads (byteSegment? letter (segments address)) item.byteAddress.toNat ∧
      Reads (bitSegment? size letter (segments address)) item.bitAddress.toNat := by
  have hbyte := (numbered_iff.1 hform.byte).1
  have hbit := (numbered_iff.1 hform.bit).1
  rw [← hnames.byteAddress_eq] at hbyte
  rw [← hnames.bitAddress_eq] at hbit
  exact ⟨⟨fun s hs => (hform.block s hs).1, hnames.dbNumber_eq.symm⟩, hbyte, hbit⟩

theorem WellFormed.valid (hform : WellFormed policy address count size letter)
    (hnames : Names policy address count size letter item) : item.Valid := by
  obtain ⟨area, dbNumber, byteAddress, bitAddress, transportSize, count'⟩ := item
  obtain ⟨harea, hblock, -, hbit, rfl, rfl⟩ := hnames
  refine ⟨?_, fun hsize => ?_, fun hne => ?_, ?_⟩
  · rw [UInt8.le_iff_toNat_le]
    exact hbit ▸ (numbered_iff.1 hform.bit).2
  · rw [bitSegment?_of_not_bit hsize] at hbit
    exact UInt8.toNat_inj.1 hbit
  · rw [blockNumber_eq_zero harea hne] at hblock
    exact UInt16.toNat_inj.1 hblock
  · rintro rfl
    exact absurd hform.count_pos (Nat.not_succ_le_zero 0)

/-- Resolving gives the item that a well-formed address names. -/
theorem resolve_eq_ok_iff_names :
    resolve policy address count size = .ok item ↔
      ∃ letter, WellFormed policy address count size letter ∧
        Names policy address count size letter item := by
  rw [resolve_eq_ok_iff]
  simp only [place_eq_ok_iff, ← segments_eq_toList]
  constructor
  · rintro ⟨htext, hcount, letter, rest, hhead, p, ⟨harea, hblock, hbyte, hbit⟩, hle, hmake⟩
    obtain ⟨-, -, rfl⟩ := Item.make_eq_ok_iff.1 hmake
    have hlt := p.byteAddress.toNat_lt
    have hform : WellFormed policy address count size letter :=
      ⟨htext, one_le_toNat_iff.2 hcount, ⟨rest, hhead⟩, ⟨_, harea⟩, hblock.numbered,
        hbyte.numbered (by omega), hbit.numbered (UInt32.le_iff_toNat_le.1 hle)⟩
    exact ⟨letter, hform, harea, hblock.toNat_dbNumber harea, hbyte.2.symm,
      hbit.toNat_bitAddress hle, rfl, rfl⟩
  · rintro ⟨letter, hform, hnames⟩
    have hvalid := hform.valid hnames
    obtain ⟨rest, hhead⟩ := hform.head
    obtain ⟨hblock, hbyte, hbit⟩ := hform.reads hnames
    obtain ⟨harea, -, -, -, rfl, rfl⟩ := hnames
    have hle : item.bitAddress.toUInt32 ≤ 7 := by
      simpa [UInt32.le_iff_toNat_le] using UInt8.le_iff_toNat_le.1 hvalid.bitAddress_le
    refine ⟨hform.text_ne_nil, hvalid.count_ne_zero, letter, rest, hhead,
      ⟨item.area, item.dbNumber, item.byteAddress, item.bitAddress.toUInt32⟩,
      ⟨harea, hblock, hbyte, by simpa using hbit⟩, hle, ?_⟩
    simpa using hvalid.make_eq

theorem WellFormed.blockNumber_le (h : WellFormed policy address count size letter) :
    blockNumber policy letter (segments address) ≤ 65535 := by
  unfold blockNumber
  split
  · rename_i dbNumber
    have := dbNumber.toNat_lt
    omega
  · exact (numbered_iff.1 h.block).2

/-- Every number in a well-formed address fits into the field of the item that it is for. -/
theorem WellFormed.exists_names (h : WellFormed policy address count size letter) :
    ∃ item, Names policy address count size letter item := by
  obtain ⟨area, harea⟩ := h.area
  have hblock := h.blockNumber_le
  have hbyte := (numbered_iff.1 h.byte).2
  have hbit := (numbered_iff.1 h.bit).2
  refine ⟨⟨area, .ofNat (blockNumber policy letter (segments address)),
    .ofNat (value (byteSegment? letter (segments address))),
    .ofNat (value (bitSegment? size letter (segments address))), size, count⟩, harea, ?_, ?_, ?_,
    rfl, rfl⟩
  · exact UInt16.toNat_ofNat_of_lt' (by simp only [UInt16.size]; omega)
  · exact UInt32.toNat_ofNat_of_lt' (by simp only [UInt32.size]; omega)
  · exact UInt8.toNat_ofNat_of_lt' (by simp only [UInt8.size]; omega)

/-- The well-formed addresses are those that can be resolved, and they are resolved to the items
that they name. -/
theorem resolves_iff_wellFormed (policy : VPolicy) (address : String) (count : UInt32)
    (size : TransportSize) :
    ((∃ item, resolve policy address count size = .ok item) ↔
        ∃ letter, WellFormed policy address count size letter) ∧
      ∀ item, resolve policy address count size = .ok item ↔
        ∃ letter, WellFormed policy address count size letter ∧
          Names policy address count size letter item := by
  refine ⟨⟨?_, ?_⟩, fun item => resolve_eq_ok_iff_names⟩
  · rintro ⟨item, h⟩
    obtain ⟨letter, hform, -⟩ := resolve_eq_ok_iff_names.1 h
    exact ⟨letter, hform⟩
  · rintro ⟨letter, hform⟩
    obtain ⟨item, hnames⟩ := hform.exists_names
    exact ⟨item, resolve_eq_ok_iff_names.2 ⟨letter, hform, hnames⟩⟩

example :
    resolve (.block 8) " vX0040.db7 " 1 .bit = .ok ⟨.dataBlocks, 8, 40, 7, .bit, 1⟩ := by
  decide +kernel

end S7Request.Grammar
