import S7Request.Address.Resolve
import S7Request.Proofs.Lists
import S7Request.Proofs.Text.Basic

/-!
# The grammar of addresses

An address is a text of dotted segments. Its first letter is the area; the segments that hold the
block, the byte and the bit follow from the letter, and each of them counts with the number that its
digits spell. `WellFormed` says which addresses there are and `Names` what an address means.
Resolving accepts exactly the well-formed addresses and gives the item that the address names.
-/
namespace S7Request

namespace Grammar

/-- The segments of an address, cut at the dots of its normalized text. Empty segments at the end do
not count, the first one always does. -/
def segments (address : String) : List (List Char) :=
  match (normalized address).splitOn '.' with
  | [] => []
  | first :: rest => first :: rest.rdropWhile List.isEmpty

/-- The area whose addresses begin with a letter. The letter `V` needs a block to stand for. -/
def area? : VPolicy → Char → Option Area
  | _, 'I' => some .inputs
  | _, 'Q' => some .outputs
  | _, 'M' => some .flags
  | _, 'T' => some .timers
  | _, 'C' => some .counters
  | _, 'D' => some .dataBlocks
  | .block _, 'V' => some .dataBlocks
  | _, _ => none

/-- The segment with the number of the data block, which only the letter `D` has. -/
def blockSegment? (letter : Char) (parts : List (List Char)) : Option (List Char) :=
  if letter = 'D' then parts[0]? else none

def byteSegment? (letter : Char) (parts : List (List Char)) : Option (List Char) :=
  if letter = 'D' then parts[1]? else parts[0]?

/-- The segment with the bit, which is read only where bits are addressed. -/
def bitSegment? (size : TransportSize) (letter : Char) (parts : List (List Char)) :
    Option (List Char) :=
  if size.isBit then (if letter = 'D' then parts[2]? else parts[1]?) else none

/-- The number that the decimal digits of a segment spell, everything else left out. -/
def number (segment : List Char) : ℕ :=
  Nat.ofDigitChars 10 (segment.filter Char.isDigit) 0

/-- The number in a segment that need not be there; its absence counts as zero. -/
def value (segment? : Option (List Char)) : ℕ :=
  (segment?.map number).getD 0

/-- If there is the segment, it has a digit and its number is at most `bound`. -/
def Numbered (bound : ℕ) (segment? : Option (List Char)) : Prop :=
  ∀ segment ∈ segment?, (∃ c ∈ segment, c.isDigit = true) ∧ number segment ≤ bound

/-- The number of the data block that an address lies in, zero in every other area. -/
def blockNumber (policy : VPolicy) (letter : Char) (parts : List (List Char)) : ℕ :=
  match policy, letter with
  | .block dbNumber, 'V' => dbNumber.toNat
  | _, _ => value (blockSegment? letter parts)

/-- An address that begins with a given letter and can be resolved to `count` units. -/
structure WellFormed (policy : VPolicy) (address : String) (count : UInt32) (size : TransportSize)
    (letter : Char) : Prop where
  text_ne_nil : normalized address ≠ []
  count_pos : 1 ≤ count.toNat
  head : ∃ rest, (segments address)[0]? = some (letter :: rest)
  area : ∃ area, area? policy letter = some area
  block : Numbered 65535 (blockSegment? letter (segments address))
  byte : Numbered 4294967295 (byteSegment? letter (segments address))
  bit : Numbered 7 (bitSegment? size letter (segments address))

/-- The item that an address with a given letter names. -/
structure Names (policy : VPolicy) (address : String) (count : UInt32) (size : TransportSize)
    (letter : Char) (item : Item) : Prop where
  area_eq : area? policy letter = some item.area
  dbNumber_eq : item.dbNumber.toNat = blockNumber policy letter (segments address)
  byteAddress_eq : item.byteAddress.toNat = value (byteSegment? letter (segments address))
  bitAddress_eq : item.bitAddress.toNat = value (bitSegment? size letter (segments address))
  transportSize_eq : item.transportSize = size
  count_eq : item.count = count

theorem segments_eq_toList (address : String) :
    segments address = (addressSegments address).toList := by
  rw [segments, Text.splitOn_dot]
  simp [addressSegments, Text.trimEnd_eq_rdropWhile]

theorem getElem?_zero_segments {address : String} {segment : List Char} :
    (segments address)[0]? = some segment ↔ (addressSegments address).head = segment := by
  rw [segments_eq_toList, List.getElem?_cons_zero, Option.some.injEq]

theorem one_le_toNat_iff {count : UInt32} : 1 ≤ count.toNat ↔ count ≠ 0 :=
  have hzero : count.toNat = (0 : UInt32).toNat ↔ count = 0 := UInt32.toNat_inj
  Nat.one_le_iff_ne_zero.trans (not_congr hzero)

/-- If there is the segment, it has a digit, and the number in it is `n`. -/
def Reads (segment? : Option (List Char)) (n : ℕ) : Prop :=
  (∀ segment ∈ segment?, ∃ c ∈ segment, c.isDigit = true) ∧ value segment? = n

theorem numbered_iff {bound : ℕ} {segment? : Option (List Char)} :
    Numbered bound segment? ↔ Reads segment? (value segment?) ∧ value segment? ≤ bound := by
  cases segment? <;> simp [Numbered, Reads, value]

theorem Reads.numbered {bound n : ℕ} {segment? : Option (List Char)} (h : Reads segment? n)
    (hle : n ≤ bound) : Numbered bound segment? :=
  numbered_iff.2 ⟨⟨h.1, rfl⟩, h.2 ▸ hle⟩

theorem digits_eq_nil_iff {segment : List Char} :
    Text.digits segment = [] ↔ ¬∃ c ∈ segment, c.isDigit = true := by
  simp [Text.digits, List.filter_eq_nil_iff]

theorem digits_ne_nil_iff {segment : List Char} :
    Text.digits segment ≠ [] ↔ ∃ c ∈ segment, c.isDigit = true :=
  digits_eq_nil_iff.not.trans not_not

theorem numeral?_of_digits_ne {segment : List Char} (h : Text.digits segment ≠ []) :
    Text.numeral? segment = some (number segment) := by
  unfold Text.numeral?
  split
  · contradiction
  · rfl

theorem reads_some_iff {segment : List Char} {n : ℕ} :
    Reads (some segment) n ↔ Text.numeral? segment = some n := by
  by_cases h : Text.digits segment = []
  · rw [Text.numeral?_eq_none_iff.2 h]
    refine iff_of_false ?_ (by simp)
    rintro ⟨hdigit, -⟩
    exact digits_eq_nil_iff.1 h (hdigit segment rfl)
  · have hdigit := digits_ne_nil_iff.1 h
    rw [numeral?_of_digits_ne h]
    simpa [Reads, value] using fun _ => hdigit

@[simp] theorem reads_none_iff {n : ℕ} : Reads none n ↔ n = 0 := by
  simpa [Reads, value] using eq_comm

section Numbers

variable {address : String} {segment? : Option (List Char)} {w : UInt32}

theorem segmentNumber_eq_ok_iff {segment : List Char} :
    segmentNumber address segment = .ok w ↔ Reads (some segment) w.toNat := by
  rw [reads_some_iff]
  unfold segmentNumber
  split
  · simp [*]
  · rename_i n hn
    rw [hn, Option.some.injEq, eq_comm (a := n), ← Word.ofNat32?_eq_some_iff]
    split <;> simp [*]

theorem optionalNumber_eq_ok_iff :
    optionalNumber address segment? = .ok w ↔ Reads segment? w.toNat := by
  cases segment? with
  | none =>
      rw [reads_none_iff, optionalNumber, Except.ok.injEq]
      exact ⟨fun h => h ▸ rfl, fun h => (UInt32.toNat_inj.1 h).symm⟩
  | some segment => exact segmentNumber_eq_ok_iff

theorem bitIndex_eq_optionalNumber {size : TransportSize} :
    bitIndex address size segment? =
      optionalNumber address (if size.isBit then segment? else none) := by
  unfold bitIndex
  split <;> rfl

theorem bitIndex_eq_ok_iff {size : TransportSize} :
    bitIndex address size segment? = .ok w ↔
      Reads (if size.isBit then segment? else none) w.toNat := by
  rw [bitIndex_eq_optionalNumber, optionalNumber_eq_ok_iff]

end Numbers

end Grammar

end S7Request
