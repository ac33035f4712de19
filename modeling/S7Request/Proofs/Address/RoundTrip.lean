import S7Request.Address.Render
import S7Request.Proofs.Address.Resolve

/-!
# Addresses of items are resolved to these items

The address of an item is its area part, the byte and the bit, with dots between them. These texts
consist of capital letters, digits and dots, so they are normalized already, and cutting them at
their dots gives the numbers back.
-/
namespace S7Request

namespace Area

/-- The letter of an area is no dot and no digit, and it is not one of the letters of data
blocks. -/
theorem letter_of_ofLetter? {letter : Char} {area : Area} (h : ofLetter? letter = some area) :
    area ≠ .dataBlocks ∧ letter ≠ 'D' ∧ letter ≠ 'V' ∧ letter ≠ '.' ∧ letter.isDigit = false ∧
      Text.IsPlain letter := by
  unfold ofLetter? at h
  split at h <;> cases h <;> decide

end Area

namespace Item

/-- The address of an item with a given area part. -/
def render (item : Item) (area : String) : String :=
  area ++ (if item.area = .dataBlocks then "." else "") ++
    String.ofList (Text.decimal item.byteAddress.toNat) ++ "." ++
    String.ofList (Text.decimal item.bitAddress.toNat)

/-- The area part of an address is `DB` with the number of the block, or the letter of the area. -/
theorem areaText_eq_ok {item : Item} {p : String} (h : item.areaText = .ok p) :
    (item.area = .dataBlocks ∧ p = "DB" ++ String.ofList (Text.decimal item.dbNumber.toNat)) ∨
      ∃ letter, Area.ofLetter? letter = some item.area ∧ p = letter.toString := by
  obtain ⟨area, dbNumber, _, _, _, _⟩ := item
  cases area <;> cases h
  case dataBlocks => exact .inl ⟨rfl, rfl⟩
  case inputs => exact .inr ⟨'I', rfl, rfl⟩
  case outputs => exact .inr ⟨'Q', rfl, rfl⟩
  case flags => exact .inr ⟨'M', rfl, rfl⟩
  case counters => exact .inr ⟨'C', rfl, rfl⟩
  case timers => exact .inr ⟨'T', rfl, rfl⟩

end Item

namespace Grammar

theorem normalized_of_plain {address : String} (h : ∀ c ∈ address.toList, Text.IsPlain c) :
    normalized address = address.toList := by
  rw [normalized, Text.trim_of_plain h, Text.uppercase_of_plain h]

/-- A text of plain segments with dots between them has these segments, unless the last one is
empty. -/
theorem segments_of_join {address : String} {head : List Char} {tail : List (List Char)}
    (htext : address.toList = Text.Segments.join ⟨head, tail⟩)
    (hplain : ∀ s ∈ head :: tail, ∀ c ∈ s, Text.IsPlain c ∧ c ≠ '.')
    (hlast : ∀ h : tail ≠ [], tail.getLast h ≠ []) : segments address = head :: tail := by
  have hnormal : normalized address = address.toList := by
    refine normalized_of_plain fun c hc => ?_
    rw [htext, Text.Segments.join, List.mem_append, List.mem_flatMap] at hc
    obtain hc | ⟨s, hs, hc⟩ := hc
    · exact (hplain head List.mem_cons_self c hc).1
    · obtain rfl | hc := List.mem_cons.1 hc
      · decide
      · exact (hplain s (List.mem_cons_of_mem _ hs) c hc).1
  have hdot : ∀ s ∈ head :: tail, '.' ∉ s := fun s hs hc => (hplain s hs _ hc).2 rfl
  have htrim : Text.trimEnd List.isEmpty tail = tail := by
    rw [Text.trimEnd_eq_rdropWhile, List.rdropWhile_eq_self_iff]
    exact fun h => by simpa using hlast h
  rw [segments_eq_toList, addressSegments, hnormal, htext, Text.segments_join hdot, htrim]

theorem reads_append_decimal {s : List Char} (hs : ∀ c ∈ s, c.isDigit = false) (n : ℕ) :
    Reads (some (s ++ Text.decimal n)) n := by
  rw [reads_some_iff, Text.numeral?_append hs, Text.numeral?_decimal]

theorem reads_decimal (n : ℕ) : Reads (some (Text.decimal n)) n :=
  reads_append_decimal (s := []) (by simp) n

section Items

variable {policy : VPolicy} {address : String} {letter : Char} {item : Item} {p : String}

/-- A valid item is found wherever its area letter and its numbers are read. -/
theorem resolve_of_reads (hvalid : item.Valid) {rest : List Char} {tail : List (List Char)}
    (hparts : segments address = (letter :: rest) :: tail)
    (harea : area? policy letter = some item.area)
    (hblock : ReadsBlock policy letter ((letter :: rest) :: tail) item.dbNumber.toNat)
    (hbyte : Reads (byteSegment? letter ((letter :: rest) :: tail)) item.byteAddress.toNat)
    (hbit : Reads (bitSegment? item.transportSize letter ((letter :: rest) :: tail))
      item.bitAddress.toNat) :
    resolve policy address item.count item.transportSize = .ok item := by
  have htext : normalized address ≠ [] := by
    intro h
    rw [segments, h, List.splitOn_nil] at hparts
    simp at hparts
  have hlt := item.byteAddress.toNat_lt
  have hle := UInt8.le_iff_toNat_le.1 hvalid.bitAddress_le
  have hhead : (segments address)[0]? = some (letter :: rest) := by
    rw [hparts, List.getElem?_cons_zero]
  rw [← hparts] at hblock hbyte hbit
  have hform : WellFormed policy address item.count item.transportSize letter :=
    ⟨htext, one_le_toNat_iff.2 hvalid.count_ne_zero, ⟨rest, hhead⟩, ⟨_, harea⟩, hblock.numbered,
      hbyte.numbered (by omega), hbit.numbered hle⟩
  exact resolve_eq_ok_iff_names.2
    ⟨letter, hform, harea, hblock.2.symm, hbyte.2.symm, hbit.2.symm, rfl, rfl⟩

/-- Where bits are not addressed the bit segment is not read, and the bit index is zero. -/
theorem reads_bit (hvalid : item.Valid) :
    Reads (if item.transportSize.isBit then some (Text.decimal item.bitAddress.toNat) else none)
      item.bitAddress.toNat := by
  split
  · exact reads_decimal _
  · rename_i hsize
    rw [hvalid.bitAddress_eq_zero hsize]
    exact reads_none_iff.2 rfl

theorem segments_render_block (harea : item.area = .dataBlocks) (n : ℕ) :
    segments (item.render ("DB" ++ String.ofList (Text.decimal n))) =
      [['D', 'B'] ++ Text.decimal n, Text.decimal item.byteAddress.toNat,
        Text.decimal item.bitAddress.toNat] := by
  refine segments_of_join (by simp [Text.Segments.join, Item.render, harea]) ?_ fun _ => ?_
  · simp only [List.forall_mem_cons, List.forall_mem_append]
    exact ⟨⟨⟨by decide, by decide, by simp⟩, Text.isPlain_decimal _⟩, Text.isPlain_decimal _,
      Text.isPlain_decimal _, by simp⟩
  · exact Text.decimal_ne_nil _

theorem segments_render_letter (harea : item.area ≠ .dataBlocks) (hplain : Text.IsPlain letter)
    (hdot : letter ≠ '.') :
    segments (item.render letter.toString) =
      [letter :: Text.decimal item.byteAddress.toNat, Text.decimal item.bitAddress.toNat] := by
  refine segments_of_join (by simp [Text.Segments.join, Item.render, harea]) ?_ fun _ => ?_
  · simp only [List.forall_mem_cons]
    exact ⟨⟨⟨hplain, hdot⟩, Text.isPlain_decimal _⟩, Text.isPlain_decimal _, by simp⟩
  · exact Text.decimal_ne_nil _

theorem resolve_render_block (hvalid : item.Valid) (harea : item.area = .dataBlocks) :
    resolve policy (item.render ("DB" ++ String.ofList (Text.decimal item.dbNumber.toNat)))
      item.count item.transportSize = .ok item := by
  have hparts := segments_render_block harea item.dbNumber.toNat
  have hletter : area? policy 'D' = some item.area := by
    rw [harea]
    cases policy <;> rfl
  refine resolve_of_reads hvalid hparts hletter ?_ ?_ ?_
  · refine readsBlock_D.2 (reads_append_decimal (s := ['D', 'B']) ?_ _)
    simp only [List.forall_mem_cons]
    exact ⟨by decide, by decide, by simp⟩
  · exact reads_decimal _
  · exact reads_bit hvalid

theorem resolve_render_letter (hvalid : item.Valid)
    (hletter : Area.ofLetter? letter = some item.area) :
    resolve policy (item.render letter.toString) item.count item.transportSize = .ok item := by
  obtain ⟨harea, hD, hV, hdot, hdigit, hplain⟩ := Area.letter_of_ofLetter? hletter
  have hparts := segments_render_letter harea hplain hdot
  have hletter : area? policy letter = some item.area := by rw [area?_eq_ofLetter? hD hV, hletter]
  refine resolve_of_reads hvalid hparts hletter ?_ ?_ ?_
  · exact (readsBlock_of_ne hD (blockNumber_of_ne hD hV)).2 (hvalid.dbNumber_eq_zero harea)
  · rw [byteSegment?, if_neg hD]
    exact reads_append_decimal (s := [letter]) (by simpa using hdigit) _
  · rw [bitSegment?, if_neg hD]
    exact reads_bit hvalid

theorem resolve_render (hvalid : item.Valid) (hp : item.areaText = .ok p) :
    resolve policy (item.render p) item.count item.transportSize = .ok item := by
  obtain ⟨harea, rfl⟩ | ⟨letter, hletter, rfl⟩ := Item.areaText_eq_ok hp
  · exact resolve_render_block hvalid harea
  · exact resolve_render_letter hvalid hletter

/-- Every area that an address can begin with has letters to write it. -/
theorem exists_areaText (h : area? policy letter = some item.area) :
    ∃ p, item.areaText = .ok p := by
  obtain ⟨area, _, _, _, _, _⟩ := item
  unfold area? at h
  split at h <;> cases h <;> exact ⟨_, rfl⟩

end Items

/-- The address of an item is resolved to the item under every reading of `V`, and every item that
an address is resolved to has such an address. -/
theorem resolve_render_eq :
    (∀ (area : Area) (dbNumber : UInt16) (byteAddress : UInt32) (bitAddress : UInt8)
        (size : TransportSize) (count : UInt32) (item : Item) (p : String),
      Item.make area dbNumber byteAddress bitAddress size count = .ok item →
      item.areaText = .ok p →
        ∀ policy, resolve policy (item.render p) item.count item.transportSize = .ok item) ∧
    ∀ (policy : VPolicy) (address : String) (count : UInt32) (size : TransportSize) (item : Item),
      resolve policy address count size = .ok item →
        ∃ p, item.areaText = .ok p ∧
          ∀ policy', resolve policy' (item.render p) item.count item.transportSize = .ok item := by
  constructor
  · intro area dbNumber byteAddress bitAddress size count item p hmake hp policy
    exact resolve_render (Item.valid_of_make hmake) hp
  · intro policy address count size item h
    obtain ⟨letter, -, hnames⟩ := resolve_eq_ok_iff_names.1 h
    obtain ⟨p, hp⟩ := exists_areaText hnames.area_eq
    exact ⟨p, hp, fun policy' => resolve_render (valid_of_resolve h) hp⟩

/-- A bit of a data block, and variable memory written as a data block. -/
theorem resolve_render_blocks :
    Item.make .dataBlocks 65535 4294967295 7 .bit 2 =
        .ok ⟨.dataBlocks, 65535, 4294967295, 7, .bit, 2⟩ ∧
      (∀ policy, resolve policy "DB65535.4294967295.7" 2 .bit =
        .ok ⟨.dataBlocks, 65535, 4294967295, 7, .bit, 2⟩) ∧
      resolve .standard " v100.3" 5 .word = .ok ⟨.dataBlocks, 1, 100, 0, .word, 5⟩ ∧
      ∃ p, Item.areaText ⟨.dataBlocks, 1, 100, 0, .word, 5⟩ = .ok p ∧
        ∀ policy, resolve policy (Item.render ⟨.dataBlocks, 1, 100, 0, .word, 5⟩ p) 5 .word =
          .ok ⟨.dataBlocks, 1, 100, 0, .word, 5⟩ := by
  have hmake : Item.make .dataBlocks 65535 4294967295 7 .bit 2 =
      .ok ⟨.dataBlocks, 65535, 4294967295, 7, .bit, 2⟩ := by decide
  have hresolve : resolve .standard " v100.3" 5 .word =
      .ok ⟨.dataBlocks, 1, 100, 0, .word, 5⟩ := by decide +kernel
  have hrender : Item.render ⟨.dataBlocks, 65535, 4294967295, 7, .bit, 2⟩ "DB65535" =
      "DB65535.4294967295.7" := by decide +kernel
  refine ⟨hmake, fun policy => ?_, hresolve, resolve_render_eq.2 _ _ _ _ _ hresolve⟩
  rw [← hrender]
  exact resolve_render_eq.1 _ _ _ _ _ _ _ _ hmake (by decide +kernel) policy

end Grammar

end S7Request
