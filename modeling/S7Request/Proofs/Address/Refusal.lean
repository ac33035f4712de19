import S7Request.Proofs.Address.Reading

/-!
# Addresses that are not resolved

An address is refused at the first thing in it that is wrong: it has no text, no units, no letter or
the letter of no area, or one of the segments for the block, the byte and the bit holds no number or
one that is too large, in this order. `Refused` says which error each of them has, and resolving
fails with exactly these errors. What is checked when the item is made has been checked before.
-/
namespace S7Request

namespace Grammar

variable {policy : VPolicy} {address : String} {count : UInt32} {size : TransportSize} {e : Error}
  {letter : Char}

/-- What is wrong with a segment, if there is one, that should spell a number of 32 bits. -/
def Unread (segment? : Option (List Char)) : AddressFault → Prop
  | .noDigits => ∃ segment ∈ segment?, ¬∃ c ∈ segment, c.isDigit = true
  | .numberTooLarge =>
      ∃ segment ∈ segment?, (∃ c ∈ segment, c.isDigit = true) ∧ 4294967295 < number segment
  | _ => False

/-- What is wrong with segments that name no place. The block comes before the byte and the byte
before the bit. -/
inductive Misplaced (size : TransportSize) (letter : Char) (parts : List (List Char)) :
    AddressFault → Prop
  | block {fault : AddressFault} : Unread (blockSegment? letter parts) fault →
      Misplaced size letter parts fault
  | blockTooLarge {n : ℕ} : Reads (blockSegment? letter parts) n → 65535 < n → n ≤ 4294967295 →
      Misplaced size letter parts .blockNumberTooLarge
  | byte {fault : AddressFault} : Numbered 65535 (blockSegment? letter parts) →
      Unread (byteSegment? letter parts) fault → Misplaced size letter parts fault
  | bit {fault : AddressFault} : Numbered 65535 (blockSegment? letter parts) →
      Numbered 4294967295 (byteSegment? letter parts) →
      Unread (bitSegment? size letter parts) fault → Misplaced size letter parts fault

/-- An address with text and units whose first letter has an area. -/
structure Begun (policy : VPolicy) (address : String) (count : UInt32) (letter : Char) : Prop where
  text_ne_nil : normalized address ≠ []
  count_pos : 1 ≤ count.toNat
  head : ∃ rest, (segments address)[0]? = some (letter :: rest)
  area : ∃ area, area? policy letter = some area

/-- An address that is right up to the byte. -/
structure Located (policy : VPolicy) (address : String) (count : UInt32) (letter : Char) : Prop
    extends Begun policy address count letter where
  block : Numbered 65535 (blockSegment? letter (segments address))
  byte : Numbered 4294967295 (byteSegment? letter (segments address))

/-- The error of an address that is not resolved. -/
inductive Refused (policy : VPolicy) (address : String) (count : UInt32) (size : TransportSize) :
    Error → Prop
  | empty : normalized address = [] →
      Refused policy address count size (.addressFormat address .empty)
  | zeroCount : normalized address ≠ [] → count.toNat = 0 →
      Refused policy address count size (.addressFormat address .zeroCount)
  | noAreaLetter : normalized address ≠ [] → 1 ≤ count.toNat → (segments address)[0]? = some [] →
      Refused policy address count size (.addressFormat address .noAreaLetter)
  | unknownArea {letter : Char} {rest : List Char} : normalized address ≠ [] → 1 ≤ count.toNat →
      (segments address)[0]? = some (letter :: rest) → area? policy letter = none →
      Refused policy address count size (.unknownArea letter.toString)
  | misplaced {letter : Char} {fault : AddressFault} : Begun policy address count letter →
      Misplaced size letter (segments address) fault →
      Refused policy address count size (.addressFormat address fault)
  | bitIndex {letter : Char} {bit : UInt32} : Located policy address count letter →
      Reads (bitSegment? size letter (segments address)) bit.toNat → 8 ≤ bit.toNat →
      Refused policy address count size (.bitIndexOutOfRange address bit)

section Numbers

variable {segment? : Option (List Char)}

theorem segmentNumber_eq_error_iff {segment : List Char} :
    segmentNumber address segment = .error e ↔
      ∃ fault, Unread (some segment) fault ∧ e = .addressFormat address fault := by
  unfold segmentNumber
  by_cases hdigit : ∃ c ∈ segment, c.isDigit = true
  · rw [numeral?_of_digits_ne (digits_ne_nil_iff.2 hdigit)]
    by_cases hlarge : 4294967295 < number segment
    · have hword : Word.ofNat32? (number segment) = none := if_neg (Nat.not_lt.2 hlarge)
      have hunread : ∀ fault, Unread (some segment) fault ↔ fault = .numberTooLarge := by
        intro fault
        cases fault <;> simp [Unread, hdigit, hlarge]
      simp [hword, hunread, eq_comm]
    · have hword : Word.ofNat32? (number segment) = some (.ofNat (number segment)) :=
        if_pos (Nat.lt_succ_of_le (Nat.not_lt.1 hlarge))
      have hunread : ∀ fault, ¬Unread (some segment) fault := by
        intro fault
        cases fault <;> simp [Unread, hdigit, hlarge]
      simp [hword, hunread]
  · rw [Text.numeral?_eq_none_iff.2 (digits_eq_nil_iff.2 hdigit)]
    have hnone : ∀ c ∈ segment, c.isDigit = false := by simpa using hdigit
    have hunread : ∀ fault, Unread (some segment) fault ↔ fault = .noDigits := by
      intro fault
      cases fault <;> simp +contextual [Unread, hnone]
    simp [hunread, eq_comm]

theorem optionalNumber_eq_error_iff :
    optionalNumber address segment? = .error e ↔
      ∃ fault, Unread segment? fault ∧ e = .addressFormat address fault := by
  cases segment? with
  | none =>
      have hunread : ∀ fault, ¬Unread none fault := by
        intro fault
        cases fault <;> simp [Unread]
      simp [optionalNumber, hunread]
  | some segment => exact segmentNumber_eq_error_iff

/-- A segment is read as a word exactly when its number has 32 bits. -/
theorem exists_reads_iff :
    (∃ w : UInt32, Reads segment? w.toNat) ↔ Numbered 4294967295 segment? := by
  constructor
  · rintro ⟨w, hw⟩
    have hlt := w.toNat_lt
    exact hw.numbered (by omega)
  · intro h
    obtain ⟨hreads, hle⟩ := numbered_iff.1 h
    refine ⟨.ofNat (value segment?), ?_⟩
    rwa [UInt32.toNat_ofNat_of_lt' (Nat.lt_succ_of_le hle)]

/-- Nothing is wrong with a segment whose number is in range. -/
theorem Numbered.not_unread {bound : ℕ} {fault : AddressFault} (h : Numbered bound segment?)
    (hbound : bound ≤ 4294967295) : ¬Unread segment? fault := by
  intro hunread
  cases fault with
  | noDigits =>
      obtain ⟨segment, hmem, hnone⟩ := hunread
      exact hnone (h segment hmem).1
  | numberTooLarge =>
      obtain ⟨segment, hmem, -, hlarge⟩ := hunread
      have hle := (h segment hmem).2
      omega
  | empty | zeroCount | noAreaLetter | blockNumberTooLarge => exact hunread

end Numbers

section Places

variable {area : Area} {dbNumber : UInt16}

/-- Once the block is right, what is wrong is the byte or, behind a right byte, the bit. -/
theorem Misplaced.behind_block {parts : List (List Char)} {fault : AddressFault}
    (h : Misplaced size letter parts fault) (hblock : Numbered 65535 (blockSegment? letter parts)) :
    Unread (byteSegment? letter parts) fault ∨
      Numbered 4294967295 (byteSegment? letter parts) ∧
        Unread (bitSegment? size letter parts) fault := by
  cases h with
  | block hunread => exact absurd hunread (hblock.not_unread (by decide))
  | blockTooLarge hreads hlt =>
      have hle := (numbered_iff.1 hblock).2
      rw [hreads.2] at hle
      omega
  | byte _ hunread => exact .inl hunread
  | bit _ hbyte hunread => exact .inr ⟨hbyte, hunread⟩

/-- Behind a right block the byte is read, and behind it the bit. -/
theorem byteAndBit_eq_error_iff {parts : List (List Char)} {f : UInt32 → UInt32 → Place}
    (hblock : Numbered 65535 (blockSegment? letter parts)) :
    (optionalNumber address (byteSegment? letter parts) >>= fun byte =>
        optionalNumber address (bitSegment? size letter parts) >>= fun bit =>
          pure (f byte bit)) = .error e ↔
      ∃ fault, Misplaced size letter parts fault ∧ e = .addressFormat address fault := by
  simp only [bind_eq_error_iff, optionalNumber_eq_error_iff, optionalNumber_eq_ok_iff]
  constructor
  · rintro (⟨fault, hunread, rfl⟩ | ⟨w, hw, ⟨fault, hunread, rfl⟩ | ⟨_, -, h⟩⟩)
    · exact ⟨fault, .byte hblock hunread, rfl⟩
    · exact ⟨fault, .bit hblock (exists_reads_iff.1 ⟨w, hw⟩) hunread, rfl⟩
    · contradiction
  · rintro ⟨fault, hmisplaced, rfl⟩
    obtain hunread | ⟨hbyte, hunread⟩ := hmisplaced.behind_block hblock
    · exact .inl ⟨fault, hunread, rfl⟩
    · obtain ⟨w, hw⟩ := exists_reads_iff.2 hbyte
      exact .inr ⟨w, hw, .inl ⟨fault, hunread, rfl⟩⟩

variable {parts : Text.Segments}

theorem flatPlace_eq_error_iff (hD : letter ≠ 'D') :
    flatPlace address size area dbNumber parts = .error e ↔
      ∃ fault, Misplaced size letter parts.toList fault ∧ e = .addressFormat address fault := by
  have hblock : Numbered 65535 (blockSegment? letter parts.toList) := by
    simp [blockSegment?, hD, Numbered]
  have hbyte : byteSegment? letter parts.toList = some parts.head := if_neg hD
  have hbit : bitSegment? size letter parts.toList =
      if size.isBit then parts.tail[0]? else none := by
    rw [bitSegment?, if_neg hD]
    rfl
  rw [← byteAndBit_eq_error_iff (f := fun byte bit => ⟨area, dbNumber, byte, bit⟩) hblock, hbyte,
    hbit, ← bitIndex_eq_optionalNumber]
  rfl

theorem blockPlace_eq_error_iff :
    blockPlace address size parts = .error e ↔
      ∃ fault, Misplaced size 'D' parts.toList fault ∧ e = .addressFormat address fault := by
  by_cases hblock : Numbered 65535 (blockSegment? 'D' parts.toList)
  · obtain ⟨hreads, hle⟩ := numbered_iff.1 hblock
    have hword : (UInt16.ofNat (value (some parts.head))).toNat = value (some parts.head) :=
      UInt16.toNat_ofNat_of_lt' (Nat.lt_succ_of_le hle)
    rw [blockPlace_of_reads (hword ▸ hreads), ← byteAndBit_eq_error_iff hblock,
      bitIndex_eq_optionalNumber]
    rfl
  · -- A block that cannot be read, or not in 16 bits, is refused before the byte is looked at.
    simp only [blockPlace, bind_eq_error_iff, segmentNumber_eq_error_iff, segmentNumber_eq_ok_iff]
    constructor
    · rintro (⟨fault, hunread, rfl⟩ | ⟨n, hn, h⟩)
      · exact ⟨fault, .block hunread, rfl⟩
      · have hlarge : 65535 < n.toNat := by
          by_contra hle
          exact hblock (hn.numbered (Nat.not_lt.1 hle))
        have hlt := n.toNat_lt
        have hword : Word.ofNat16? n.toNat = none := if_neg (Nat.not_lt.2 hlarge)
        rw [hword] at h
        exact ⟨_, .blockTooLarge hn hlarge (by omega), (Except.error.inj h).symm⟩
    · rintro ⟨fault, hmisplaced, rfl⟩
      cases hmisplaced with
      | block hunread => exact .inl ⟨fault, hunread, rfl⟩
      | @blockTooLarge n hreads hlt hle =>
          have hn : (UInt32.ofNat n).toNat = n := UInt32.toNat_ofNat_of_lt' (Nat.lt_succ_of_le hle)
          have hword : Word.ofNat16? n = none := if_neg (Nat.not_lt.2 hlt)
          refine .inr ⟨.ofNat n, by rwa [hn], ?_⟩
          simp only [hn, hword]
      | byte hblock' | bit hblock' => exact absurd hblock' hblock

/-- A letter without an area is refused before any segment is read. -/
theorem place_eq_error_iff :
    place policy address size letter parts = .error e ↔
      (area? policy letter = none ∧ e = .unknownArea letter.toString) ∨
        (∃ area, area? policy letter = some area) ∧
          ∃ fault, Misplaced size letter parts.toList fault ∧ e = .addressFormat address fault := by
  unfold place
  split
  · subst letter
    have harea : area? policy 'D' = some .dataBlocks := by cases policy <;> rfl
    rw [blockPlace_eq_error_iff, harea]
    simp
  rename_i hD
  split
  · subst letter
    cases policy with
    | block dbNumber =>
        have harea : area? (.block dbNumber) 'V' = some .dataBlocks := rfl
        simp only [flatPlace_eq_error_iff hD, harea]
        simp
    | reject =>
        have harea : area? .reject 'V' = none := rfl
        simp [harea, eq_comm]
  · rename_i hV
    rw [area?_eq_ofLetter? hD hV]
    cases Area.ofLetter? letter with
    | none => simp [eq_comm]
    | some area =>
        simp only [flatPlace_eq_error_iff hD]
        simp

end Places

section Resolve

/-- An address that is right up to the bit, whose number has 32 bits, names a place. -/
theorem Located.exists_place (h : Located policy address count letter)
    (hbit : Numbered 4294967295 (bitSegment? size letter (segments address))) :
    ∃ p, place policy address size letter (addressSegments address) = .ok p := by
  cases hplace : place policy address size letter (addressSegments address) with
  | ok p => exact ⟨p, rfl⟩
  | error e =>
      rw [place_eq_error_iff, ← segments_eq_toList] at hplace
      obtain ⟨hnone, -⟩ | ⟨-, fault, hmisplaced, -⟩ := hplace
      · obtain ⟨area, harea⟩ := h.area
        rw [hnone] at harea
        contradiction
      · obtain hunread | ⟨-, hunread⟩ := hmisplaced.behind_block h.block
        · exact absurd hunread (h.byte.not_unread le_rfl)
        · exact absurd hunread (hbit.not_unread le_rfl)

/-- What an address that has begun is resolved to is decided by its place. -/
theorem Begun.resolve_eq (h : Begun policy address count letter) :
    resolve policy address count size =
      place policy address size letter (addressSegments address) >>= fun p =>
        if 7 < p.bitIndex then .error (.bitIndexOutOfRange address p.bitIndex)
        else Item.make p.area p.dbNumber p.byteAddress p.bitIndex.toUInt8 size count := by
  obtain ⟨rest, hhead⟩ := h.head
  rw [getElem?_zero_segments] at hhead
  exact resolve_of_head h.text_ne_nil (one_le_toNat_iff.1 h.count_pos) hhead

theorem resolve_of_refused (h : Refused policy address count size e) :
    resolve policy address count size = .error e := by
  cases h with
  | empty htext => exact resolve_of_text_eq_nil htext
  | zeroCount htext hcount =>
      obtain rfl : count = 0 := UInt32.toNat_inj.1 hcount
      exact resolve_of_count_eq_zero htext
  | noAreaLetter htext hcount hhead =>
      rw [getElem?_zero_segments] at hhead
      exact resolve_of_head_eq_nil htext (one_le_toNat_iff.1 hcount) hhead
  | @unknownArea letter rest htext hcount hhead harea =>
      rw [getElem?_zero_segments] at hhead
      rw [resolve_of_head htext (one_le_toNat_iff.1 hcount) hhead,
        place_eq_error_iff.2 (.inl ⟨harea, rfl⟩)]
      rfl
  | misplaced hbegun hmisplaced =>
      rw [segments_eq_toList] at hmisplaced
      rw [hbegun.resolve_eq, place_eq_error_iff.2 (.inr ⟨hbegun.area, _, hmisplaced, rfl⟩)]
      rfl
  | @bitIndex letter bit hlocated hreads hlarge =>
      obtain ⟨p, hplace⟩ := hlocated.exists_place (exists_reads_iff.1 ⟨bit, hreads⟩)
      have hread := (place_eq_ok_iff.1 hplace).2.2.2
      rw [← segments_eq_toList] at hread
      obtain rfl : p.bitIndex = bit := UInt32.toNat_inj.1 (hread.2.symm.trans hreads.2)
      have hlt : 7 < p.bitIndex := UInt32.lt_iff_toNat_lt.2 hlarge
      rw [hlocated.resolve_eq, hplace]
      exact if_pos hlt

/-- The first thing that is wrong with an address is the error of resolving it. -/
theorem refused_of_resolve (h : resolve policy address count size = .error e) :
    Refused policy address count size e := by
  by_cases htext : normalized address = []
  · rw [resolve_of_text_eq_nil htext] at h
    cases h
    exact .empty htext
  by_cases hcount : count = 0
  · subst hcount
    rw [resolve_of_count_eq_zero htext] at h
    cases h
    exact .zeroCount htext rfl
  have hpos := one_le_toNat_iff.2 hcount
  cases hhead : (addressSegments address).head with
  | nil =>
      rw [resolve_of_head_eq_nil htext hcount hhead] at h
      cases h
      exact .noAreaLetter htext hpos (getElem?_zero_segments.2 hhead)
  | cons letter rest =>
      have hfirst := getElem?_zero_segments.2 hhead
      rw [resolve_of_head htext hcount hhead, bind_eq_error_iff] at h
      obtain hplace | ⟨p, hplace, h⟩ := h
      · rw [place_eq_error_iff, ← segments_eq_toList] at hplace
        obtain ⟨harea, rfl⟩ | ⟨harea, fault, hmisplaced, rfl⟩ := hplace
        · exact .unknownArea htext hpos hfirst harea
        · exact .misplaced ⟨htext, hpos, ⟨rest, hfirst⟩, harea⟩ hmisplaced
      · rw [place_eq_ok_iff, ← segments_eq_toList] at hplace
        obtain ⟨harea, hblock, hbyte, hbit⟩ := hplace
        split at h
        · rename_i hlarge
          cases h
          exact .bitIndex ⟨⟨htext, hpos, ⟨rest, hfirst⟩, _, harea⟩, hblock.numbered,
            exists_reads_iff.1 ⟨_, hbyte⟩⟩ hbit (UInt32.lt_iff_toNat_lt.1 hlarge)
        · rename_i hle
          obtain ⟨item, hmake⟩ := exists_make hcount hle
          rw [hmake] at h
          contradiction

/-- Resolving fails with the error for which the address is refused. -/
theorem resolve_eq_error_iff :
    resolve policy address count size = .error e ↔ Refused policy address count size e :=
  ⟨refused_of_resolve, resolve_of_refused⟩

/-- A refusal is about the address as it was given, or about its first character in upper case. -/
theorem Refused.faithful (h : Refused policy address count size e) :
    (∃ fault, e = .addressFormat address fault) ∨ (∃ bit, e = .bitIndexOutOfRange address bit) ∨
      ∃ letter, (normalized address).head? = some letter ∧ e = .unknownArea letter.toString := by
  cases h with
  | empty | zeroCount | noAreaLetter | misplaced => exact .inl ⟨_, rfl⟩
  | bitIndex => exact .inr (.inl ⟨_, rfl⟩)
  | @unknownArea letter rest _ _ hhead _ =>
      rw [getElem?_zero_segments] at hhead
      exact .inr (.inr ⟨letter, (exists_head_iff.1 ⟨rest, hhead⟩).1, rfl⟩)

/-- A bit index is refused where bits are addressed, all before it is right, and it is a number of
32 bits above seven. -/
theorem refused_bitIndex_iff {bit : UInt32} :
    Refused policy address count size (.bitIndexOutOfRange address bit) ↔
      size = .bit ∧ ∃ letter, Located policy address count letter ∧
        ∃ segment, bitSegment? size letter (segments address) = some segment ∧
          (∃ c ∈ segment, c.isDigit = true) ∧ number segment = bit.toNat ∧ 8 ≤ bit.toNat := by
  constructor
  · intro h
    cases h with
    | @bitIndex letter _ hlocated hreads hlarge =>
        have hsize : size = .bit := by
          by_contra hne
          rw [bitSegment?_of_not_bit (by simpa [TransportSize.isBit] using hne),
            reads_none_iff] at hreads
          omega
        cases hsegment : bitSegment? size letter (segments address) with
        | none =>
            rw [hsegment, reads_none_iff] at hreads
            omega
        | some segment =>
            rw [hsegment] at hreads
            exact ⟨hsize, letter, hlocated, segment, hsegment, hreads.1 segment rfl, hreads.2,
              hlarge⟩
  · rintro ⟨-, letter, hlocated, segment, hsegment, hdigit, hnumber, hlarge⟩
    have hreads : Reads (some segment) bit.toNat := by
      refine ⟨fun s hs => ?_, hnumber⟩
      obtain rfl := Option.some.inj hs
      exact hdigit
    exact .bitIndex hlocated (hsegment ▸ hreads) hlarge

/-- Resolving with another way of making an item from its fields. -/
def resolveWith (make : Area → UInt16 → UInt32 → UInt8 → TransportSize → UInt32 → Except Error Item)
    (policy : VPolicy) (address : String) (count : UInt32) (size : TransportSize) :
    Except Error Item := do
  if normalized address = [] then
    throw (.addressFormat address .empty)
  if count = 0 then
    throw (.addressFormat address .zeroCount)
  let parts := addressSegments address
  match parts.head with
  | [] => throw (.addressFormat address .noAreaLetter)
  | letter :: _ =>
      let p ← place policy address size letter parts
      if 7 < p.bitIndex then
        throw (.bitIndexOutOfRange address p.bitIndex)
      make p.area p.dbNumber p.byteAddress p.bitIndex.toUInt8 size count

theorem resolveWith_make : resolveWith Item.make = resolve := rfl

/-- Resolving never sees an error of the maker, for every item that it asks for can be made. -/
theorem resolveWith_eq
    {make : Area → UInt16 → UInt32 → UInt8 → TransportSize → UInt32 → Except Error Item}
    (hmake : ∀ area dbNumber byteAddress bitAddress size count item,
      Item.make area dbNumber byteAddress bitAddress size count = .ok item →
        make area dbNumber byteAddress bitAddress size count = .ok item) :
    resolveWith make policy address count size = resolve policy address count size := by
  rw [← resolveWith_make]
  by_cases htext : normalized address = []
  · rw [resolveWith, resolveWith, if_pos htext, if_pos htext]
    rfl
  by_cases hcount : count = 0
  · rw [resolveWith, resolveWith, if_neg htext, if_neg htext, if_pos hcount, if_pos hcount]
    rfl
  rw [resolveWith, resolveWith, if_neg htext, if_neg htext, if_neg hcount, if_neg hcount]
  cases hhead : (addressSegments address).head with
  | nil => simp only [hhead]
  | cons letter rest =>
      simp only [hhead]
      refine congrArg _ (funext fun p => ?_)
      by_cases hbit : 7 < p.bitIndex
      · rw [if_pos hbit, if_pos hbit]
        rfl
      · rw [if_neg hbit, if_neg hbit]
        obtain ⟨item, hitem⟩ := exists_make hcount hbit
        rw [hitem, hmake _ _ _ _ _ _ _ hitem]

/-- Every failure of resolving is about the address. It shows the address as it was given, or its
first character in upper case; a bit index is refused exactly where it is the only thing wrong, and
shown in full; and it makes no difference how the making of items fails. -/
theorem resolve_error_faithful (policy : VPolicy) (address : String) (count : UInt32)
    (size : TransportSize) :
    (∀ e, resolve policy address count size = .error e →
        e.isAddressError = true ∧
          ((∃ fault, e = .addressFormat address fault) ∨
            (∃ bit, e = .bitIndexOutOfRange address bit) ∨
              ∃ letter, (normalized address).head? = some letter ∧
                e = .unknownArea letter.toString)) ∧
      (∀ text bit, resolve policy address count size = .error (.bitIndexOutOfRange text bit) ↔
        text = address ∧ size = .bit ∧ ∃ letter, Located policy address count letter ∧
          ∃ segment, bitSegment? size letter (segments address) = some segment ∧
            (∃ c ∈ segment, c.isDigit = true) ∧ number segment = bit.toNat ∧ 8 ≤ bit.toNat) ∧
      ∀ make, (∀ area dbNumber byteAddress bitAddress size' count' item,
          Item.make area dbNumber byteAddress bitAddress size' count' = .ok item →
            make area dbNumber byteAddress bitAddress size' count' = .ok item) →
        resolveWith make policy address count size = resolve policy address count size := by
  refine ⟨fun e h => ?_, fun text bit => ⟨fun h => ?_, ?_⟩, fun make hmake => resolveWith_eq hmake⟩
  · have hfaithful := (resolve_eq_error_iff.1 h).faithful
    refine ⟨?_, hfaithful⟩
    obtain ⟨_, rfl⟩ | ⟨_, rfl⟩ | ⟨_, -, rfl⟩ := hfaithful <;> rfl
  · have hrefused := resolve_eq_error_iff.1 h
    obtain rfl : text = address := by cases hrefused; rfl
    exact ⟨rfl, refused_bitIndex_iff.1 hrefused⟩
  · rintro ⟨rfl, h⟩
    exact resolve_eq_error_iff.2 (refused_bitIndex_iff.2 h)

/-- One address with a bit index of 32 bits, one whose letter has no area, and a maker that fails
with the error of another subject. -/
theorem resolve_error_faithful_given :
    (resolve .reject " v1.2 " 3 .bit = .error (.unknownArea "V") ∧
        (Error.unknownArea "V").isAddressError = true) ∧
      (resolve .reject " db7.4.x4294967295 " 3 .bit =
          .error (.bitIndexOutOfRange " db7.4.x4294967295 " 4294967295) ∧
        ∃ letter, Located .reject " db7.4.x4294967295 " 3 letter) ∧
      ∃ make, (∀ area dbNumber byteAddress bitAddress size count item,
          Item.make area dbNumber byteAddress bitAddress size count = .ok item →
            make area dbNumber byteAddress bitAddress size count = .ok item) ∧
        make .flags 0 9 8 .bit 1 = .error (.planMismatch .addressOverflow) ∧
        resolveWith make .reject "m9.7" 1 .bit = resolve .reject "m9.7" 1 .bit := by
  have hletter : resolve .reject " v1.2 " 3 .bit = .error (.unknownArea "V") := by decide +kernel
  have hbit : resolve .reject " db7.4.x4294967295 " 3 .bit =
      .error (.bitIndexOutOfRange " db7.4.x4294967295 " 4294967295) := by decide +kernel
  refine ⟨⟨hletter, ((resolve_error_faithful _ _ _ _).1 _ hletter).1⟩, ⟨hbit, ?_⟩, ?_⟩
  · obtain ⟨-, -, letter, hlocated, -⟩ := ((resolve_error_faithful _ _ _ _).2.1 _ _).1 hbit
    exact ⟨letter, hlocated⟩
  · refine ⟨fun area dbNumber byteAddress bitAddress size count =>
      match Item.make area dbNumber byteAddress bitAddress size count with
      | .ok item => .ok item
      | .error _ => .error (.planMismatch .addressOverflow), ?_, rfl,
      (resolve_error_faithful _ _ _ _).2.2 _ ?_⟩
    all_goals
      intro area dbNumber byteAddress bitAddress size count item h
      simp only [h]

end Resolve

end Grammar

end S7Request
