/-!
# Memory areas

The memory areas of a controller that a request item can name, with the byte that stands for each
of them on the wire, their names, and the letters that begin an address in them.
-/
namespace S7Request

/-- A memory area of an S7 controller. -/
inductive Area
  | peripheral
  | inputs
  | outputs
  | flags
  | dataBlocks
  | instanceDataBlocks
  | localData
  | counters
  | timers
  deriving DecidableEq, Repr

namespace Area

/-- The byte that names the area on the wire. -/
def code : Area → UInt8
  | peripheral => 0x80
  | inputs => 0x81
  | outputs => 0x82
  | flags => 0x83
  | dataBlocks => 0x84
  | instanceDataBlocks => 0x85
  | localData => 0x86
  | counters => 0x1c
  | timers => 0x1d

def all : List Area :=
  [peripheral, inputs, outputs, flags, dataBlocks, instanceDataBlocks, localData, counters, timers]

def ofCode? (code : UInt8) : Option Area :=
  all.find? (·.code = code)

@[simp] theorem ofCode?_code (a : Area) : ofCode? a.code = some a := by
  cases a <;> rfl

def name : Area → String
  | peripheral => "Peripheral"
  | inputs => "Inputs"
  | outputs => "Outputs"
  | flags => "Flags"
  | dataBlocks => "DataBlocks"
  | instanceDataBlocks => "InstanceDataBlocks"
  | localData => "LocalData"
  | counters => "S7Counters"
  | timers => "S7Timers"

/-- The letters that begin an address in the area. A data block's number follows its letters.
Peripheral memory, instance data blocks and local data have no address syntax. -/
def letters? : Area → Option String
  | inputs => some "I"
  | outputs => some "Q"
  | flags => some "M"
  | dataBlocks => some "DB"
  | timers => some "T"
  | counters => some "C"
  | peripheral | instanceDataBlocks | localData => none

/-- The area other than data blocks whose addresses begin with a letter. -/
def ofLetter? (letter : Char) : Option Area :=
  match letter with
  | 'I' => some inputs
  | 'Q' => some outputs
  | 'M' => some flags
  | 'T' => some timers
  | 'C' => some counters
  | _ => none

end Area

end S7Request
