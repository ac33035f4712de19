import S7Request.Json.Basic

/-!
# Plain JSON values

A value whose kind is known only after all of it has been read is held in memory meanwhile. Such a
value is plain: its arrays and objects are not nested too deeply, its numbers can be held and its
strings have values.
-/
namespace S7Request.Json

/-- The number of arrays and objects around each other in a plain value. -/
def maxDepth : Nat := 127

mutual

/-- Whether a value is plain with at most `depth` arrays and objects around each other. -/
def isPlain (holds : Number → Bool) : Nat → Json → Bool
  | _, null => true
  | _, boolean _ => true
  | _, number n => holds n
  | _, string s => s.isSome
  | 0, array _ => false
  | 0, object _ => false
  | depth + 1, array es => elementsPlain holds depth es
  | depth + 1, object ms => membersPlain holds depth ms

def elementsPlain (holds : Number → Bool) : Nat → List Json → Bool
  | _, [] => true
  | depth, e :: es => isPlain holds depth e && elementsPlain holds depth es

def membersPlain (holds : Number → Bool) : Nat → List (Option String × Json) → Bool
  | _, [] => true
  | depth, (name, value) :: ms =>
      name.isSome && isPlain holds depth value && membersPlain holds depth ms

end

end S7Request.Json
