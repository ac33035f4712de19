/-!
# Telegram framing

The fixed parts of the telegrams that read and write variables. Lengths are in bytes.
-/
namespace S7Request.Telegram

/-- The header of a request. -/
def jobHeader : Nat := 10

/-- The header of a response, which holds an error code too. -/
def acknowledgeHeader : Nat := 12

/-- The function code and the item count, in a request as in a response. -/
def parameterBase : Nat := 2

/-- The specification of one item in a request. -/
def itemSpecification : Nat := 12

/-- The header before the data of one item. -/
def dataHeader : Nat := 4

/-- The byte that fills up data of odd length. -/
def fillByte : Nat := 1

end S7Request.Telegram
