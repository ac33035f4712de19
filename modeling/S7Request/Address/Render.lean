import S7Request.Item
import S7Request.Text.Numeral

/-!
# Writing addresses

The letters of an item's area, with the block number in a data block.
-/
namespace S7Request.Item

/-- The area part of an item's address: `DB` and the block number, or the letter of the area.
Areas without address syntax have none. -/
def areaText (item : Item) : Except Error String :=
  match item.area, item.area.letters? with
  | .dataBlocks, some letters => .ok (letters ++ String.ofList (Text.decimal item.dbNumber.toNat))
  | _, some letters => .ok letters
  | area, none => .error (.unknownArea area.name)

end S7Request.Item
