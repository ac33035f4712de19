import S7Request.Address.Policy
import S7Request.Settings.Library

/-!
# Meaning of settings

The telegram length is the entry `pdu_len` of the section `planner`, the reading of the letter `V`
the entry `v_area` of the section `address`. What is missing has its usual value.
-/
namespace S7Request

/-- The settings of this library. -/
structure Settings where
  pduLength : UInt16
  policy : VPolicy
  deriving DecidableEq, Repr

namespace Settings

def standardPduLength : UInt16 := 240

def standard : Settings :=
  ⟨standardPduLength, .standard⟩

namespace Library

variable (lib : Library)

/-- What a field of a record is decoded to. A missing field has its usual value. -/
def decodeField (expected : Expected) (position : Nat) (key name : String) (usual : α)
    (decode : String → Tree → Except Fault α) (t : Tree) : Except Fault α := do
  match ← lib.field expected position key name t with
  | none => pure usual
  | some (key, value) => decode key value

/-- The telegram length of the section `planner`. -/
def pduLengthOf (key : String) (planner : Tree) : Except Fault UInt16 :=
  lib.decodeField .plannerSection 0 key "pdu_len" standardPduLength lib.word16 planner

/-- The reading of the letter `V` from its setting, which is a record tagged with its kind. -/
def policyOf (t : Tree) : Except Fault VPolicy := do
  let (kind, fields) ← lib.tagged .policy "kind" ["alias", "reject"] t
  if kind = "reject" then
    lib.bare fields
    pure .reject
  else
    pure (.block (← lib.only16 "db_number" fields))

/-- The reading of the letter `V` of the section `address`. -/
def addressPolicyOf (key : String) (address : Tree) : Except Fault VPolicy :=
  lib.decodeField .addressSection 0 key "v_area" .standard (fun _ => lib.policyOf) address

/-- The settings of a tree. -/
def ofTree (t : Tree) : Except Fault Settings := do
  let pduLength ← lib.decodeField .settings 0 "" "planner" standardPduLength lib.pduLengthOf t
  let policy ← lib.decodeField .settings 1 "" "address" .standard lib.addressPolicyOf t
  pure ⟨pduLength, policy⟩

end Library

end Settings

end S7Request
