import S7Request.Settings.Library
import S7Request.Text.Lowercase
import S7Request.Word

/-!
# Records and words of settings

A record is a table, or an array of its fields in order. A word that is a setting of its own may be
given as a boolean, a number or a text; a word within a variant is an integer and nothing else.
What is not known is ignored in a table, and a variant that is an array has nothing more than its
fields.
-/
namespace S7Request.Settings

def unsigned? (s : String) : Option UInt64 :=
  let ds := match s.toList with
    | '+' :: rest => rest
    | cs => cs
  if ds ≠ [] ∧ ds.all Char.isDigit then Word.ofNat64? (Nat.ofDigitChars 10 ds 0) else none

/-- The word that a text stands for. -/
def wordOfText? (s : String) : Option UInt64 :=
  let lower := Text.lowercase s
  if lower = "true" ∨ lower = "on" ∨ lower = "yes" then some 1
  else if lower = "false" ∨ lower = "off" ∨ lower = "no" then some 0
  else unsigned? s

/-- The word of a number setting. A boolean counts as one or zero, and a floating-point number is
rounded. -/
def wordOf (key : String) (t : Tree) : Except Fault UInt64 :=
  match t with
  | .leaf origin (.integer n) =>
      if n < 0 then .error (.wrongNumber (.signedWord n) .unsignedWord key origin)
      else .ok (UInt64.ofNat n.toNat)
  | .leaf _ (.boolean b) => .ok (if b then 1 else 0)
  | .leaf _ (.float x) => .ok x.toWord
  | .leaf origin (.text s) =>
      match wordOfText? s with
      | some w => .ok w
      | none => .error (.wrongNumber (.text s) .integer key origin)
  | t => .error (.wrongNumber t.found .integer key t.origin)

/-- A number setting that fits in 16 bits. -/
def word16Of (key : String) (t : Tree) : Except Fault UInt16 := do
  let w ← wordOf key t
  match Word.ofNat16? w.toNat with
  | some v => pure v
  | none => throw (.wrongNumber (.unsignedWord w) .unsignedHalf key none)

/-- The field of a record and its key. -/
def fieldOf (expected : Expected) (position : Nat) (key name : String) :
    Tree → Except Fault (Option (String × Tree))
  | .table _ es =>
      .ok ((Entries.get? es name).map fun t => (keyOf key name, t))
  | .array _ es => .ok (es[position]?.map fun t => (s!"{key}[{position}]", t))
  | t => .error (.wrongType t.found expected)

def variantOf (tag : String) (variants : List String) (t : Option Tree) : Except Fault String :=
  match t with
  | none => .error (.missingField tag)
  | some (.leaf _ (.text name)) =>
      if name ∈ variants then .ok name else .error (.unknownVariant name variants)
  | some t => .error (.wrongType t.found .policyName)

/-- The variant of a tagged record, and the record without its tag. The tag of an array comes
first. -/
def taggedOf (expected : Expected) (tag : String) (variants : List String) :
    Tree → Except Fault (String × Tree)
  | .table origin es => do
      let variant ← variantOf tag variants (Entries.get? es tag)
      pure (variant, .table origin (Entries.erase es tag))
  | .array origin es => do
      let variant ← variantOf tag variants es[0]?
      pure (variant, .array origin es.tail)
  | t => .error (.wrongType t.found expected)

/-- The end of a variant without fields. -/
def bareOf : Tree → Except Fault Unit
  | .table .. => .ok ()
  | .array _ [] => .ok ()
  | .array _ es => .error (.surplus es.length 0)
  | t => .error (.wrongType t.found .policy)

/-- The word of a variant's field. -/
def strictWord16 (t : Tree) : Except Fault UInt16 :=
  match t with
  | .leaf _ (.integer n) =>
      match if n < 0 then none else Word.ofNat16? n.toNat with
      | some w => .ok w
      | none => .error (.wrongValue (.integer n) .blockNumber)
  | t => .error (.wrongType t.found .blockNumber)

/-- The word that is the only field of a variant. -/
def only16Of (name : String) : Tree → Except Fault UInt16
  | .table _ es =>
      match Entries.get? es name with
      | none => .error (.missingField name)
      | some t => strictWord16 t
  | .array _ [] => .error (.tooShort 0 .blockVariant)
  | .array _ (t :: rest) => do
      let w ← strictWord16 t
      if rest = [] then pure w else throw (.surplus (rest.length + 1) 1)
  | t => .error (.wrongType t.found .policy)

end S7Request.Settings
