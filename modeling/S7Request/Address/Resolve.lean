import S7Request.Address.Policy
import S7Request.Event
import S7Request.Item
import S7Request.Text.Numeral
import S7Request.Text.Segments
import S7Request.Text.Trim
import S7Request.Text.Uppercase

/-!
# Resolving addresses

An address such as `DB1.DBX4.7`, `MW10` or `v100.3` is trimmed, put into upper case and cut at its
dots. The first letter selects the area; all other letters are ignored, and each segment counts
with the number that its digits spell. In a data block the first segment holds the block number,
the second the byte and the third the bit; elsewhere the first holds the byte and the second the
bit. The bit segment is read only where bits are addressed.
-/
namespace S7Request

/-- The text of an address without outer blanks and in upper case. -/
def normalized (address : String) : List Char :=
  Text.uppercase (Text.trim address.toList)

/-- The dotted segments of an address. Empty segments at the end do not count, the first one
always does. -/
def addressSegments (address : String) : Text.Segments :=
  let parts := Text.segments (normalized address)
  ⟨parts.head, Text.trimEnd List.isEmpty parts.tail⟩

/-- The number in a segment of an address. -/
def segmentNumber (address : String) (segment : List Char) : Except Error UInt32 :=
  match Text.numeral? segment with
  | none => .error (.addressFormat address .noDigits)
  | some n =>
      match Word.ofNat32? n with
      | none => .error (.addressFormat address .numberTooLarge)
      | some w => .ok w

/-- The number in a segment that need not be there; its absence counts as zero. -/
def optionalNumber (address : String) (segment : Option (List Char)) : Except Error UInt32 :=
  match segment with
  | none => .ok 0
  | some s => segmentNumber address s

/-- The bit index in a segment, zero where bits are not addressed. -/
def bitIndex (address : String) (size : TransportSize) (segment : Option (List Char)) :
    Except Error UInt32 :=
  if size.isBit then optionalNumber address segment else .ok 0

/-- A place in a memory area, before the bit index is checked. -/
structure Place where
  area : Area
  dbNumber : UInt16
  byteAddress : UInt32
  bitIndex : UInt32
  deriving DecidableEq, Repr

/-- The place in an area whose first segment holds the byte. -/
def flatPlace (address : String) (size : TransportSize) (area : Area) (dbNumber : UInt16)
    (parts : Text.Segments) : Except Error Place := do
  let byte ← segmentNumber address parts.head
  let bit ← bitIndex address size parts.tail[0]?
  pure ⟨area, dbNumber, byte, bit⟩

/-- The place in a data block whose number the first segment holds. -/
def blockPlace (address : String) (size : TransportSize) (parts : Text.Segments) :
    Except Error Place := do
  let number ← segmentNumber address parts.head
  match Word.ofNat16? number.toNat with
  | none => .error (.addressFormat address .blockNumberTooLarge)
  | some dbNumber =>
      let byte ← optionalNumber address parts.tail[0]?
      let bit ← bitIndex address size parts.tail[1]?
      pure ⟨.dataBlocks, dbNumber, byte, bit⟩

def place (policy : VPolicy) (address : String) (size : TransportSize) (letter : Char)
    (parts : Text.Segments) : Except Error Place :=
  if letter = 'D' then
    blockPlace address size parts
  else if letter = 'V' then
    match policy with
    | .block dbNumber => flatPlace address size .dataBlocks dbNumber parts
    | .reject => .error (.unknownArea letter.toString)
  else
    match Area.ofLetter? letter with
    | some area => flatPlace address size area 0 parts
    | none => .error (.unknownArea letter.toString)

/-- The item of `count` units at an address. -/
def resolve (policy : VPolicy) (address : String) (count : UInt32) (size : TransportSize) :
    Except Error Item := do
  if normalized address = [] then
    throw (.addressFormat address .empty)
  if count = 0 then
    throw (.addressFormat address .zeroCount)
  let parts := addressSegments address
  match parts.head with
  | [] => throw (.addressFormat address .noAreaLetter)
  | letter :: _ =>
      let p ← place policy address size letter parts
      if 7 < p.bitIndex then
        throw (.bitIndexOutOfRange address p.bitIndex)
      Item.make p.area p.dbNumber p.byteAddress p.bitIndex.toUInt8 size count

def resolveBytes (policy : VPolicy) (address : String) (count : UInt32) : Except Error Item :=
  resolve policy address count .byte

def resolveBit (policy : VPolicy) (address : String) : Except Error Item :=
  resolve policy address 1 .bit

/-- The events of resolving an address: reading `V` as a data block is reported before any digit
is read. -/
def resolveEvents (policy : VPolicy) (address : String) (count : UInt32) : List Event :=
  match policy, (addressSegments address).head with
  | .block dbNumber, 'V' :: _ => if count = 0 then [] else [.resolvingV address dbNumber]
  | _, _ => []

end S7Request
