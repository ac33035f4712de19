import S7Request.Address.Policy

/-!
# Events

What the library reports while it works. Resolving an address, closing a group and loading the
settings are reported as they happen; a finished packing is summed up.
-/
namespace S7Request

inductive Direction
  | read
  | write
  deriving DecidableEq, Repr

def Direction.name : Direction → String
  | read => "read"
  | write => "write"

/-- Something that happened. -/
inductive Event
  | resolvingV (address : String) (dbNumber : UInt16)
  /-- A group was closed because it could not take one more byte of payload. -/
  | closingFullGroup (group : Nat) (used : UInt64)
  /-- A group was closed because its reserve was reached. -/
  | closingGroup (group : Nat) (used : UInt64)
  | packed (direction : Direction) (tags groups chunks : Nat) (target overhead reserve : UInt64)
  | loadedSettings (pduLength : UInt16) (policy : VPolicy)
  deriving DecidableEq, Repr

inductive Level
  | trace
  | debug
  deriving DecidableEq, Repr

def Level.name : Level → String
  | trace => "TRACE"
  | debug => "DEBUG"

/-- A named value of an event. -/
inductive FieldValue
  | number (value : Nat)
  | text (value : String)
  deriving DecidableEq, Repr

namespace Event

def level : Event → Level
  | resolvingV .. | closingFullGroup .. | closingGroup .. => .trace
  | packed .. | loadedSettings .. => .debug

def message : Event → String
  | resolvingV .. => "resolving V area as data block"
  | closingFullGroup .. => "closing full PDU group"
  | closingGroup .. => "closing PDU group"
  | packed .. => "packed S7 requests"
  | loadedSettings .. => "loaded S7 settings"

/-- The values that an event carries, by name. -/
def fields : Event → List (String × FieldValue)
  | resolvingV address dbNumber =>
      [("address", .text address), ("db_number", .number dbNumber.toNat)]
  | closingFullGroup group used => [("group", .number group), ("used", .number used.toNat)]
  | closingGroup group used => [("group", .number group), ("used", .number used.toNat)]
  | packed direction tags groups chunks target overhead reserve =>
      [("mode", .text direction.name), ("tags", .number tags), ("groups", .number groups),
        ("chunks", .number chunks), ("target_size", .number target.toNat),
        ("overhead_size", .number overhead.toNat), ("reserve", .number reserve.toNat)]
  | loadedSettings pduLength policy =>
      [("pdu_len", .number pduLength.toNat), ("v_area", .text policy.display)]

end Event

end S7Request
