import S7Request.Proofs.Plan.Requests

/-!
# Ranges without a slice

A range of units has no slice for one of three reasons: its end has no number of 64 bits, it is
empty or ends after the item, or its first unit has no number of 32 bits. At most one of them holds
of a range, and it is the error of the slice. Every other range has a slice, which names the units
of the range.
-/
namespace S7Request

theorem Mismatch.text_injective : Function.Injective Mismatch.text := by
  intro m m' h
  cases m <;> cases m' <;> simp [text] at h ⊢

namespace Item

/-- A range of an item is refused for a reason. -/
def Refused (item : Item) (offset length : UInt64) : Mismatch → Prop
  | .rangeOverflow => UInt64.size ≤ offset.toNat + length.toNat
  | .rangeOutsideItem =>
      offset.toNat + length.toNat < UInt64.size ∧
        (length.toNat = 0 ∨ item.count.toNat < offset.toNat + length.toNat)
  | .addressOverflow =>
      0 < length.toNat ∧ offset.toNat + length.toNat ≤ item.count.toNat ∧
        UInt32.size ≤ item.start + offset.toNat
  | _ => False

variable {item sub : Item} {offset length : UInt64}

/-- The end is looked at first, and only as a number of 64 bits. -/
theorem slice_of_overflow (h : UInt64.size ≤ offset.toNat + length.toNat) :
    item.slice offset length = .error (.planMismatch .rangeOverflow) := by
  have hstop : Word.add64? offset length = none := if_neg (Nat.not_lt.2 h)
  rw [slice, hstop]

theorem slice_of_outside (hstop : offset.toNat + length.toNat < UInt64.size)
    (h : length.toNat = 0 ∨ item.count.toNat < offset.toNat + length.toNat) :
    item.slice offset length = .error (.planMismatch .rangeOutsideItem) := by
  have hsum : Word.add64? offset length = some (offset + length) := if_pos hstop
  have hrange : length = 0 ∨ item.count.toUInt64 < offset + length := by
    rw [UInt64.lt_iff_toNat_lt, Word.add64?_eq_some_iff.1 hsum, UInt32.toNat_toUInt64]
    exact h.imp_left fun hzero => UInt64.toNat_inj.1 hzero
  simp only [slice, hsum, hrange, ↓reduceIte]

/-- A range has a slice, or it is refused for a reason. -/
theorem exists_slice_or_refused (item : Item) (offset length : UInt64) :
    (∃ sub, item.slice offset length = .ok sub) ∨
      ∃ m, item.Refused offset length m ∧ item.slice offset length = .error (.planMismatch m) := by
  by_cases hstop : offset.toNat + length.toNat < UInt64.size
  · by_cases hrange : length.toNat = 0 ∨ item.count.toNat < offset.toNat + length.toNat
    · exact .inr ⟨.rangeOutsideItem, ⟨hstop, hrange⟩, slice_of_outside hstop hrange⟩
    · have hpos : 0 < length.toNat := by omega
      have hle : offset.toNat + length.toNat ≤ item.count.toNat := by omega
      by_cases hstart : item.start + offset.toNat < UInt32.size
      · exact .inl (exists_slice hpos hle hstart)
      · have hsize := Nat.le_of_not_lt hstart
        exact .inr ⟨.addressOverflow, ⟨hpos, hle, hsize⟩, slice_of_size_le hpos hle hsize⟩
  · have hsize := Nat.le_of_not_lt hstop
    exact .inr ⟨.rangeOverflow, hsize, slice_of_overflow hsize⟩

theorem slice_of_refused {m : Mismatch} (h : item.Refused offset length m) :
    item.slice offset length = .error (.planMismatch m) := by
  cases m with
  | rangeOverflow => exact slice_of_overflow h
  | rangeOutsideItem => exact slice_of_outside h.1 h.2
  | addressOverflow => exact slice_of_size_le h.1 h.2.1 h.2.2
  | offsetOverflow | unknownItem | responseCount | responseItemCount | payloadCount
  | payloadLength => exact h.elim

/-- The error of a slice is the reason for which the range is refused. -/
theorem slice_eq_error_iff {e : Error} :
    item.slice offset length = .error e ↔
      ∃ m, e = .planMismatch m ∧ item.Refused offset length m := by
  constructor
  · intro h
    obtain ⟨sub, hok⟩ | ⟨m, hrefused, hslice⟩ := exists_slice_or_refused item offset length
    · rw [hok] at h
      contradiction
    · exact ⟨m, Except.error.inj (h.symm.trans hslice), hrefused⟩
  · rintro ⟨m, rfl, hrefused⟩
    exact slice_of_refused hrefused

/-- A range is refused for one reason only. -/
theorem Refused.eq {m m' : Mismatch} (h : item.Refused offset length m)
    (h' : item.Refused offset length m') : m = m' :=
  Error.planMismatch.inj (Except.error.inj ((slice_of_refused h).symm.trans (slice_of_refused h')))

/-- Of a range that is refused the text of the reason tells which one it is. -/
theorem Refused.text_eq_iff {m : Mismatch} (h : item.Refused offset length m) (m' : Mismatch) :
    m.text = m'.text ↔ item.Refused offset length m' :=
  ⟨fun he => Mismatch.text_injective he ▸ h, fun h' => congrArg Mismatch.text (h.eq h')⟩

theorem exists_slice_iff :
    (∃ sub, item.slice offset length = .ok sub) ↔
      0 < length.toNat ∧ offset.toNat + length.toNat ≤ item.count.toNat ∧
        item.start + offset.toNat < UInt32.size := by
  constructor
  · rintro ⟨sub, h⟩
    obtain ⟨hpos, hle, position, hposition, -⟩ := slice_eq_ok_iff.1 h
    exact ⟨hpos, hle, hposition ▸ position.toNat_lt⟩
  · rintro ⟨hpos, hle, hstart⟩
    exact exists_slice hpos hle hstart

/-- A range has a slice when it is not empty, lies within the item, and begins at a unit with a
number of 32 bits. The slice has the units of the range and means the same. Every other range is
refused, and the text of the error says why. -/
theorem slice_exact (item : Item) (offset length : UInt64) :
    ((∃ sub, item.slice offset length = .ok sub) ↔
      1 ≤ length.toNat ∧ offset.toNat + length.toNat ≤ item.count.toNat ∧
        item.start + offset.toNat ≤ 4294967295) ∧
    (∀ sub, item.slice offset length = .ok sub →
      (∀ k < length.toNat, sub.location.shift k = item.location.shift (offset.toNat + k)) ∧
        sub.count.toNat = length.toNat ∧ sub.area = item.area ∧ sub.dbNumber = item.dbNumber ∧
        sub.transportSize = item.transportSize) ∧
    ∀ e, item.slice offset length = .error e → ∃ m, e = .planMismatch m ∧
      (m.text = "sub-request range overflows" ↔
        18446744073709551615 < offset.toNat + length.toNat) ∧
      (m.text = "sub-request range outside item" ↔
        offset.toNat + length.toNat ≤ 18446744073709551615 ∧
          (length.toNat = 0 ∨ item.count.toNat < offset.toNat + length.toNat)) ∧
      (m.text = "sub-request address overflows" ↔
        1 ≤ length.toNat ∧ offset.toNat + length.toNat ≤ item.count.toNat ∧
          4294967295 < item.start + offset.toNat) ∧
      m.text ≠ "sub-request offset overflows" := by
  refine ⟨?_, ?_, ?_⟩
  · simp only [exists_slice_iff, UInt32.size]
    omega
  · intro sub h
    obtain ⟨-, -, position, -, hsub⟩ := slice_eq_ok_iff.1 h
    refine ⟨?_, toNat_count_of_slice h, ?_, ?_, ?_⟩
    · intro k _
      rw [location_of_slice h, Location.shift_shift]
    · rw [hsub, area_relocate]
    · rw [hsub, dbNumber_relocate]
    · rw [hsub, transportSize_relocate]
  · intro e he
    obtain ⟨m, rfl, h⟩ := slice_eq_error_iff.1 he
    refine ⟨m, rfl, h.text_eq_iff .rangeOverflow, ?_, h.text_eq_iff .addressOverflow, ?_⟩
    · exact (h.text_eq_iff .rangeOutsideItem).trans (and_congr_left' Nat.lt_succ_iff)
    · exact (h.text_eq_iff .offsetOverflow).not.2 id

/-- A hundred bits, of which only the first three have numbers of 32 bits. -/
def lastBits : Item :=
  ⟨.flags, 0, 0x1FFFFFFF, 5, .bit, 100⟩

/-- The last bit with a number can be the first of a slice, the next one cannot. -/
theorem slice_exact_lastBits :
    lastBits.slice 2 98 = .ok ⟨.flags, 0, 0x1FFFFFFF, 7, .bit, 98⟩ ∧
      (⟨.flags, 0, 0x1FFFFFFF, 7, .bit, 98⟩ : Item).location.shift 97 =
        lastBits.location.shift 99 ∧
      ∃ m, lastBits.slice 3 1 = .error (.planMismatch m) ∧
        m.text = "sub-request address overflows" := by
  have hslice : lastBits.slice 2 98 = .ok ⟨.flags, 0, 0x1FFFFFFF, 7, .bit, 98⟩ := by decide
  have hrefused : lastBits.slice 3 1 = .error (.planMismatch .addressOverflow) := by decide
  obtain ⟨-, hunits, -⟩ := slice_exact lastBits 2 98
  obtain ⟨-, -, hreason⟩ := slice_exact lastBits 3 1
  obtain ⟨m, hm, -, -, haddress, -⟩ := hreason _ hrefused
  refine ⟨hslice, (hunits _ hslice).1 97 (by decide), m, hm ▸ hrefused, haddress.2 ?_⟩
  exact ⟨by decide, by decide, by decide⟩

end Item

end S7Request
