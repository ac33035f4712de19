/-!
# The letter V

Small controllers show their variable memory as a data block, so an address that begins with the
letter `V` is read as an address in that block. Where there is no variable memory the letter names
no area.
-/
namespace S7Request

/-- How the area letter `V` is read. -/
inductive VPolicy
  | block (dbNumber : UInt16)
  | reject
  deriving DecidableEq, Repr

namespace VPolicy

/-- Variable memory is data block 1 unless something else is said. -/
def standard : VPolicy :=
  block 1

instance : Inhabited VPolicy := ⟨standard⟩

/-- The policy as it is shown in a log. -/
def display : VPolicy → String
  | block dbNumber => "Alias \x7b db_number: " ++ toString dbNumber ++ " \x7d"
  | reject => "Reject"

end VPolicy

end S7Request
