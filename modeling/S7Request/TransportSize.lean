/-!
# Transport sizes

The kind of value a request item carries, with the byte that stands for it on the wire. Only bits
are addressed singly; every other kind is counted in bytes.
-/
namespace S7Request

/-- The transport size of a request item. -/
inductive TransportSize
  | bit
  | byte
  | char
  | word
  | int
  | dword
  | dint
  | real
  | counter
  | timer
  deriving DecidableEq, Repr

namespace TransportSize

/-- The byte that names the transport size on the wire. -/
def code : TransportSize → UInt8
  | bit => 0x01
  | byte => 0x02
  | char => 0x03
  | word => 0x04
  | int => 0x05
  | dword => 0x06
  | dint => 0x07
  | real => 0x08
  | counter => 0x1c
  | timer => 0x1d

def all : List TransportSize :=
  [bit, byte, char, word, int, dword, dint, real, counter, timer]

def ofCode? (code : UInt8) : Option TransportSize :=
  all.find? (·.code = code)

@[simp] theorem ofCode?_code (t : TransportSize) : ofCode? t.code = some t := by
  cases t <;> rfl

def name : TransportSize → String
  | bit => "Bit"
  | byte => "Byte"
  | char => "Char"
  | word => "Word"
  | int => "Int"
  | dword => "DWord"
  | dint => "DInt"
  | real => "Real"
  | counter => "Counter"
  | timer => "Timer"

/-- Whether single bits are addressed. -/
def isBit (t : TransportSize) : Bool :=
  t = bit

end TransportSize

end S7Request
