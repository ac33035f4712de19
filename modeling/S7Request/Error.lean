import S7Request.Settings.Fault

/-!
# Errors

Every failure of the library by its cause, and the wording of each cause.
-/
namespace S7Request

/-- Why an address does not have the form of an address. -/
inductive AddressFault
  | empty
  | zeroCount
  | noAreaLetter
  | noDigits
  | numberTooLarge
  | blockNumberTooLarge
  deriving DecidableEq, Repr

def AddressFault.text : AddressFault → String
  | empty => "address is empty"
  | zeroCount => "count must be positive"
  | noAreaLetter => "missing area prefix"
  | noDigits => "segment has no digits"
  | numberTooLarge => "numeric segment out of range"
  | blockNumberTooLarge => "db number out of range"

/-- How data or ranges handed to a plan disagree with it. -/
inductive Mismatch
  | rangeOverflow
  | rangeOutsideItem
  | offsetOverflow
  | addressOverflow
  | unknownItem
  | responseCount
  | responseItemCount
  | payloadCount
  | payloadLength
  deriving DecidableEq, Repr

def Mismatch.text : Mismatch → String
  | rangeOverflow => "sub-request range overflows"
  | rangeOutsideItem => "sub-request range outside item"
  | offsetOverflow => "sub-request offset overflows"
  | addressOverflow => "sub-request address overflows"
  | unknownItem => "chunk refers to unknown item"
  | responseCount => "response count differs from group count"
  | responseItemCount => "response item count differs from chunk count"
  | payloadCount => "payload count differs from item count"
  | payloadLength => "payload length differs from item count"

/-- A failure and its cause. -/
inductive Error
  | addressFormat (address : String) (fault : AddressFault)
  | bitIndexOutOfRange (address : String) (bit : UInt32)
  | unknownArea (area : String)
  | budgetTooSmall (target overhead margin : UInt64)
  | planMismatch (mismatch : Mismatch)
  | insufficientData (needed : UInt64) (available : Nat)
  | settings (fault : Settings.Fault)
  deriving DecidableEq, Repr

namespace Error

def message : Error → String
  | addressFormat address fault => s!"invalid address '{address}': {fault.text}"
  | bitIndexOutOfRange address bit =>
      s!"invalid address '{address}': bit index {bit} is out of range (0..=7)"
  | unknownArea area => s!"unknown area: {area}"
  | budgetTooSmall target overhead margin =>
      s!"PDU budget too small: target {target} bytes, overhead {overhead} bytes, margin {margin} bytes"
  | planMismatch mismatch => s!"plan mismatch: {mismatch.text}"
  | insufficientData needed available =>
      s!"insufficient data: needed {needed} bytes, available {available} bytes"
  | settings fault => s!"configuration error: {fault.message}"

/-- Whether the failure belongs to the resolution of an address. -/
def isAddressError : Error → Bool
  | addressFormat .. | bitIndexOutOfRange .. | unknownArea .. => true
  | _ => false

end Error

end S7Request
