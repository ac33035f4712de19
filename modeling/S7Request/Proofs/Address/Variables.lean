import S7Request.Proofs.Address.Reading
import S7Request.Proofs.Address.RoundTrip

/-!
# Variable memory and its data block

An address that begins with `V` names what the same address in the block of the policy names: the
letters and the number of the block are one more segment in front, and all later segments move on by
one. Resolving both gives the same item, or the same error about the other text. No other address
depends on the policy.
-/
namespace S7Request

/-- The same error about another address. -/
def Error.showing (address : String) : Error → Error
  | .addressFormat _ fault => .addressFormat address fault
  | .bitIndexOutOfRange _ bit => .bitIndexOutOfRange address bit
  | e => e

namespace Text

/-- Cutting a text at its dots loses no digits. -/
theorem flatMap_digits_segments (cs : List Char) :
    (segments cs).toList.flatMap digits = digits cs := by
  induction cs with
  | nil => rfl
  | cons c cs ih =>
      by_cases hc : c = '.'
      · subst hc
        simpa [digits] using ih
      · have hsplit : ∀ s, digits (c :: s) = digits [c] ++ digits s := digits_append [c]
        rw [segments_cons hc, hsplit cs, ← ih, List.flatMap_cons, List.flatMap_cons, hsplit,
          List.append_assoc]

end Text

namespace Grammar

variable {a b address : String} {size : TransportSize} {count : UInt32} {policy : VPolicy}

section Showing

theorem segmentNumber_showing (segment : List Char) :
    (segmentNumber b segment).mapError (.showing a) = segmentNumber a segment := by
  unfold segmentNumber
  cases Text.numeral? segment with
  | none => rfl
  | some n =>
      dsimp only
      cases Word.ofNat32? n <;> rfl

theorem segmentNumber_congr {s t : List Char} (h : Text.digits s = Text.digits t) :
    segmentNumber a s = segmentNumber a t := by
  rw [segmentNumber, Text.numeral?_congr h, segmentNumber]

theorem bitIndex_showing (segment? : Option (List Char)) :
    (bitIndex b size segment?).mapError (.showing a) = bitIndex a size segment? := by
  unfold bitIndex
  split
  · cases segment? with
    | none => rfl
    | some segment => exact segmentNumber_showing segment
  · rfl

/-- What is checked of a place fails with the same error, about the address that is resolved. -/
theorem make_showing (hcount : count ≠ 0) (p : Place) :
    (if 7 < p.bitIndex then .error (.bitIndexOutOfRange b p.bitIndex)
      else Item.make p.area p.dbNumber p.byteAddress p.bitIndex.toUInt8 size count).mapError
        (.showing a) =
      if 7 < p.bitIndex then .error (.bitIndexOutOfRange a p.bitIndex)
      else Item.make p.area p.dbNumber p.byteAddress p.bitIndex.toUInt8 size count := by
  split
  · rfl
  · rename_i hbit
    obtain ⟨item, hmake⟩ := exists_make hcount hbit
    rw [hmake]
    rfl

end Showing

/-- The block comes out of its spelling, and then the second segment holds the byte. -/
theorem blockPlace_decimal (n : UInt16) (s : List Char) (tail : List (List Char)) :
    blockPlace b size ⟨['D', 'B'] ++ Text.decimal n.toNat, s :: tail⟩ =
      segmentNumber b s >>= fun byte => bitIndex b size tail[0]? >>= fun bit =>
        pure ⟨.dataBlocks, n, byte, bit⟩ := by
  refine blockPlace_of_reads (reads_append_decimal ?_ _)
  simp only [List.forall_mem_cons]
  exact ⟨by decide, by decide, by simp⟩

/-- The letter `V` stands for the first segment of a data block. -/
theorem flatPlace_eq_blockPlace (b : String) (n : UInt16) (s : List Char)
    (tail : List (List Char)) :
    flatPlace a size .dataBlocks n ⟨'V' :: s, tail⟩ =
      (blockPlace b size ⟨['D', 'B'] ++ Text.decimal n.toNat, s :: tail⟩).mapError
        (.showing a) := by
  have hbyte : segmentNumber a ('V' :: s) = segmentNumber a s := segmentNumber_congr rfl
  rw [blockPlace_decimal, flatPlace, hbyte]
  simp only [mapError_bind, segmentNumber_showing, bitIndex_showing]
  rfl

section Normalized

/-- Plain characters in front of a text stay as they are, and keep the blanks that the text begins
with. -/
theorem normalized_of_front (front : List Char) {rest : List Char} (hne : front ≠ [])
    (hplain : ∀ c ∈ front, Text.IsPlain c) (hrest : ∃ c ∈ rest, Text.isBlank c = false)
    (haddress : address.toList = front ++ rest) :
    normalized address = front ++ Text.uppercase (Text.trimEnd Text.isBlank rest) := by
  have hfront : front.dropWhile Text.isBlank = front :=
    List.dropWhile_eq_self_iff.2 fun hl => by
      simp [(hplain _ (List.getElem_mem hl)).isBlank_eq_false]
  obtain ⟨c, hc⟩ := List.exists_mem_of_ne_nil front hne
  rw [normalized, haddress, Text.trim,
    Text.dropWhile_append_of_exists ⟨c, hc, (hplain c hc).isBlank_eq_false⟩, hfront,
    Text.trimEnd_append_of_exists hrest, Text.uppercase_append, Text.uppercase_of_plain hplain]

variable {rest : String}

/-- The segments after `V` are those after the block, the first of them joined to the letter. Since
the text has a digit, the same empty segments at its end do not count. -/
theorem addressSegments_V (hdigit : ∃ c ∈ rest.toList, c.isDigit = true) :
    ∃ s tail, addressSegments ("V" ++ rest) = ⟨'V' :: s, tail⟩ ∧
      ∀ n : UInt16,
        addressSegments ("DB" ++ String.ofList (Text.decimal n.toNat) ++ "." ++ rest) =
          ⟨['D', 'B'] ++ Text.decimal n.toNat, s :: tail⟩ := by
  have hmark := Text.exists_not_blank hdigit
  generalize htext : Text.uppercase (Text.trimEnd Text.isBlank rest.toList) = text
  have hdigits : Text.digits text ≠ [] := by
    rw [← htext, Text.digits_uppercase, Text.digits_trimEnd]
    exact digits_ne_nil_iff.2 hdigit
  -- The segment with the digit is not empty, so the one before it stays even if it is.
  have hkept : ∃ s ∈ (Text.segments text).toList, s.isEmpty = false := by
    by_contra hnone
    refine hdigits ?_
    rw [← Text.flatMap_digits_segments, List.flatMap_eq_nil_iff]
    intro s hs
    have hempty : s = [] := by simpa using not_and.1 (not_exists.1 hnone s) hs
    rw [hempty]
    rfl
  refine ⟨(Text.segments text).head, Text.trimEnd List.isEmpty (Text.segments text).tail, ?_, ?_⟩
  · have hnormal : normalized ("V" ++ rest) = 'V' :: text := by
      rw [normalized_of_front ['V'] (by simp) (List.forall_mem_singleton.2 (by decide)) hmark
        (by simp), htext]
      rfl
    rw [addressSegments, hnormal, Text.segments_cons (by decide)]
  · intro n
    have hplain : ∀ c ∈ ['D', 'B'] ++ Text.decimal n.toNat, Text.IsPlain c ∧ c ≠ '.' := by
      simp only [List.forall_mem_append, List.forall_mem_cons]
      exact ⟨⟨by decide, by decide, by simp⟩, Text.isPlain_decimal _⟩
    have hnormal : normalized ("DB" ++ String.ofList (Text.decimal n.toNat) ++ "." ++ rest) =
        ['D', 'B'] ++ Text.decimal n.toNat ++ '.' :: text := by
      rw [normalized_of_front (['D', 'B'] ++ Text.decimal n.toNat ++ ['.']) (by simp)
        ?_ hmark (by simp), htext]
      · simp
      · rw [List.forall_mem_append]
        exact ⟨fun c hc => (hplain c hc).1, List.forall_mem_singleton.2 (by decide)⟩
    have hdot : '.' ∉ ['D', 'B'] ++ Text.decimal n.toNat := fun hc => (hplain _ hc).2 rfl
    rw [addressSegments, hnormal, Text.segments_append_of_no_dot hdot, Text.segments_dot,
      List.append_nil, Text.trimEnd_cons_of_exists hkept]

end Normalized

section Resolve

theorem text_ne_nil_of_head {letter : Char} {rest : List Char}
    (h : (addressSegments address).head = letter :: rest) : normalized address ≠ [] := by
  intro hnil
  have hhead := (exists_head_iff.1 ⟨rest, h⟩).1
  rw [hnil] at hhead
  contradiction

/-- Where one text has the letter and the other one has the block as a segment of its own, what is
resolved is the same. -/
theorem resolve_eq_showing {n : UInt16} {s : List Char} {tail : List (List Char)}
    (ha : addressSegments a = ⟨'V' :: s, tail⟩)
    (hb : addressSegments b = ⟨['D', 'B'] ++ Text.decimal n.toNat, s :: tail⟩) :
    resolve (.block n) a count size = (resolve policy b count size).mapError (.showing a) := by
  have hheada : (addressSegments a).head = 'V' :: s := by rw [ha]
  have hheadb : (addressSegments b).head = 'D' :: 'B' :: Text.decimal n.toNat := by
    rw [hb]
    rfl
  have htexta := text_ne_nil_of_head hheada
  have htextb := text_ne_nil_of_head hheadb
  by_cases hcount : count = 0
  · rw [hcount, resolve_of_count_eq_zero htexta, resolve_of_count_eq_zero htextb]
    rfl
  · have hplacea : ∀ parts, place (.block n) a size 'V' parts =
        flatPlace a size .dataBlocks n parts := fun _ => rfl
    have hplaceb : ∀ parts, place policy b size 'D' parts = blockPlace b size parts :=
      fun _ => rfl
    rw [resolve_of_head htexta hcount hheada, resolve_of_head htextb hcount hheadb, hplacea,
      hplaceb, ha, hb, mapError_bind, flatPlace_eq_blockPlace b]
    simp only [make_showing hcount]

theorem resolve_reject_V (h : (normalized address).head? = some 'V') (hcount : count ≠ 0) :
    resolve .reject address count size = .error (.unknownArea "V") := by
  obtain ⟨rest, hhead⟩ := exists_head_iff.2 ⟨h, by decide⟩
  rw [resolve_of_head (text_ne_nil_of_head hhead) hcount hhead]
  rfl

/-- The policy is looked at for the letter `V` only. -/
theorem resolve_eq_of_not_V (h : (normalized address).head? ≠ some 'V') (policy' : VPolicy) :
    resolve policy address count size = resolve policy' address count size := by
  by_cases htext : normalized address = []
  · rw [resolve_of_text_eq_nil htext, resolve_of_text_eq_nil htext]
  by_cases hcount : count = 0
  · rw [hcount, resolve_of_count_eq_zero htext, resolve_of_count_eq_zero htext]
  cases hhead : (addressSegments address).head with
  | nil => rw [resolve_of_head_eq_nil htext hcount hhead, resolve_of_head_eq_nil htext hcount hhead]
  | cons letter rest =>
      have hletter : letter ≠ 'V' := by
        rintro rfl
        exact h (exists_head_iff.1 ⟨rest, hhead⟩).1
      rw [resolve_of_head htext hcount hhead, resolve_of_head htext hcount hhead]
      simp only [place, if_neg hletter]

end Resolve

/-- An address in variable memory is resolved to the item of the address in the block of the policy,
or fails with the same error about its own text. Where the letter is rejected it names no area, and
no other address depends on the policy. -/
theorem resolve_variables :
    (∀ (n : UInt16) (rest : String) (count : UInt32) (size : TransportSize) (policy : VPolicy),
      (∃ c ∈ rest.toList, c.isDigit = true) →
        resolve (.block n) ("V" ++ rest) count size =
          (resolve policy ("DB" ++ String.ofList (Text.decimal n.toNat) ++ "." ++ rest) count
            size).mapError (.showing ("V" ++ rest))) ∧
    (∀ (address : String) (count : UInt32) (size : TransportSize),
      (normalized address).head? = some 'V' → 1 ≤ count.toNat →
        resolve .reject address count size = .error (.unknownArea "V")) ∧
    ∀ (address : String) (count : UInt32) (size : TransportSize) (policy policy' : VPolicy),
      (normalized address).head? ≠ some 'V' →
        resolve policy address count size = resolve policy' address count size := by
  refine ⟨?_, ?_, ?_⟩
  · intro n rest count size policy hdigit
    obtain ⟨s, tail, hV, hDB⟩ := addressSegments_V hdigit
    exact resolve_eq_showing hV (hDB n)
  · intro address count size h hcount
    refine resolve_reject_V h ?_
    rintro rfl
    contradiction
  · intro address count size policy policy' h
    exact resolve_eq_of_not_V h policy'

/-- A bit with blanks and dots around its numbers, an empty segment after the letter, a rejected
letter, and an address of flags. -/
theorem resolve_variables_spellings :
    resolve (.block 65535) "V x40.7.. " 1 .bit = .ok ⟨.dataBlocks, 65535, 40, 7, .bit, 1⟩ ∧
      resolve (.block 7) "V.5" 1 .byte = .error (.addressFormat "V.5" .noDigits) ∧
      resolve .reject " vB2" 1 .byte = .error (.unknownArea "V") ∧
      resolve .reject "m0.3" 1 .bit = resolve (.block 7) "m0.3" 1 .bit := by
  have hbit : resolve .reject "DB65535. x40.7.. " 1 .bit =
      .ok ⟨.dataBlocks, 65535, 40, 7, .bit, 1⟩ := by decide +kernel
  have hempty : resolve .reject "DB7..5" 1 .byte =
      .error (.addressFormat "DB7..5" .noDigits) := by decide +kernel
  obtain ⟨hV, hreject, hother⟩ := resolve_variables
  refine ⟨?_, ?_, ?_, ?_⟩
  · have htext : "DB" ++ String.ofList (Text.decimal (65535 : UInt16).toNat) ++ "." ++
        " x40.7.. " = "DB65535. x40.7.. " := by decide +kernel
    have h := hV 65535 " x40.7.. " 1 .bit .reject ⟨'4', by simp, by decide⟩
    rw [htext, hbit] at h
    exact h
  · have htext : "DB" ++ String.ofList (Text.decimal (7 : UInt16).toNat) ++ "." ++ ".5" =
        "DB7..5" := by decide +kernel
    have h := hV 7 ".5" 1 .byte .reject ⟨'5', by simp, by decide⟩
    rw [htext, hempty] at h
    exact h
  · exact hreject " vB2" 1 .byte (by decide +kernel) (by decide)
  · exact hother "m0.3" 1 .bit .reject (.block 7) (by decide +kernel)

end Grammar

end S7Request
