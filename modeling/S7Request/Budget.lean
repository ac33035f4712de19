import S7Request.Error
import S7Request.Event
import S7Request.Telegram
import S7Request.Word

/-!
# Budgets

How many bytes of a telegram the items of one group may use, and what each item costs beside its
payload. A budget is accepted when every chunk can carry at least one byte and, for a read, an
empty group is not closed at once. The budget of a direction follows from the negotiated telegram
length unless it is given outright.
-/
namespace S7Request

/-- The packing parameters of one direction. -/
structure Budget where
  /-- Bytes for the payload of all items and their overhead. -/
  target : UInt64
  /-- Bytes that each item costs beside its payload. -/
  overhead : UInt64
  /-- Bytes kept free when a group of a read is closed. -/
  margin : UInt64
  deriving DecidableEq, Repr

namespace Budget

/-- Whether sizes can be packed under the budget. -/
def Accepted (d : Direction) (b : Budget) : Prop :=
  b.overhead < b.target ∧ (d = .read → b.margin < b.target)

instance (d : Direction) (b : Budget) : Decidable (b.Accepted d) :=
  inferInstanceAs (Decidable (_ ∧ _))

def tooSmall (b : Budget) : Error :=
  .budgetTooSmall b.target b.overhead b.margin

/-- The budget itself, if it is accepted. -/
def checked (d : Direction) (b : Budget) : Except Error Budget :=
  if b.Accepted d then .ok b else .error b.tooSmall

/-- The budget under a negotiated telegram length. A read is limited by its response, where each
item has a header and may need a fill byte, and keeps the length of one item specification free. A
write is limited by its request, which holds the specification of each item as well. -/
def ofPduLength (d : Direction) (pduLength : UInt16) : Budget :=
  match d with
  | .read => {
      target := Word.subClamped pduLength.toUInt64
        (.ofNat (Telegram.acknowledgeHeader + Telegram.parameterBase))
      overhead := .ofNat (Telegram.dataHeader + Telegram.fillByte)
      margin := .ofNat Telegram.itemSpecification }
  | .write => {
      target := Word.subClamped pduLength.toUInt64
        (.ofNat (Telegram.jobHeader + Telegram.parameterBase))
      overhead :=
        .ofNat (Telegram.itemSpecification + Telegram.dataHeader + Telegram.fillByte)
      margin := 0 }

end Budget

/-- What a plan is made with: the negotiated telegram length and the budgets given outright. -/
structure PlannerConfig where
  pduLength : UInt16
  readBudget : Option Budget
  writeBudget : Option Budget
  deriving DecidableEq, Repr

namespace PlannerConfig

/-- The configuration for a telegram length, without budgets of its own. -/
def ofPduLength (pduLength : UInt16) : PlannerConfig :=
  ⟨pduLength, none, none⟩

def given (c : PlannerConfig) : Direction → Option Budget
  | .read => c.readBudget
  | .write => c.writeBudget

/-- The budget of a direction: the one given, else the one that follows from the telegram length,
if it is accepted. -/
def budget (c : PlannerConfig) (d : Direction) : Except Error Budget :=
  ((c.given d).getD (Budget.ofPduLength d c.pduLength)).checked d

end PlannerConfig

end S7Request
