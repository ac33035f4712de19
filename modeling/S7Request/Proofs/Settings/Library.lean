import S7Request.Decimal.Literal
import S7Request.Settings.Library
import S7Request.Text.Lowercase
import Mathlib.Data.Nat.Notation

/-!
# What is known of a settings library

The rules that the loading of settings relies on. A variable holds one setting, whose path its name
spells. Sources are laid over each other in order: a table is merged into a table, anything else
replaces what lies under it, and a path turns what stands in its way into tables and arrays. A
record is read from a table by the names of its fields. Which values a field may have besides those
named here is left open, and so are the files.
-/
namespace S7Request.Settings

/-- The decimal spelling of a number, which may begin with zeros. -/
structure Spells (text : String) (n : ℕ) : Prop where
  ne_nil : text.toList ≠ []
  isDigit : ∀ c ∈ text.toList, c.isDigit = true
  value_eq : Decimal.digitsValue text.toList = n

/-- Whether a text consists of capitals and digits, with single underscores between them. -/
def isPart : List Char → Bool
  | [] => false
  | [c] => c.isUpper || c.isDigit
  | c :: '_' :: rest => (c.isUpper || c.isDigit) && isPart rest
  | c :: rest => (c.isUpper || c.isDigit) && isPart rest

/-- Whether a text is a name that may stand in a path. -/
def isName (name : String) : Bool :=
  name ≠ "" && name.toList.all fun c => c.isAlphanum || c = '_' || c = '-'

/-- Words of letters that do not stand for themselves. -/
def reservedWords : List String :=
  ["true", "false", "inf", "infinity", "nan"]

/-- Whether a step can be taken by growing an array, to at most `capacity` elements. -/
def Step.fits (capacity : ℕ) : Step → Bool
  | name _ => true
  | index i => 0 ≤ i && i < capacity

namespace Library

/-- The rules for variables. -/
structure ReadsVariables (lib : Library) : Prop where
  variables_single : ∀ {stem : String} {parts : List String} (text : String),
    parts ≠ [] → (∀ s ∈ stem :: parts, isPart s.toList) →
      lib.environment stem "__" [("__".intercalate (stem :: parts), text)] =
        [(".".intercalate (parts.map Text.lowercase),
          .leaf (some .environment) (lib.scalar text))]
  scalar_digits : ∀ {text : String} {n : ℕ}, Spells text n → n < 9223372036854775808 →
    lib.scalar text = .integer n
  scalar_word : ∀ {text : String}, (∀ c ∈ text.toList, c.isAlpha = true) →
    Text.lowercase text ∉ reservedWords → lib.scalar text = .text text

/-- The rules for sources laid over each other. -/
structure LaysSources (lib : Library) : Prop where
  exists_path : ∀ name, ∃ first steps, lib.path name = .name first :: steps
  path_names : ∀ {names : List String}, names ≠ [] → (∀ s ∈ names, isName s) →
    lib.path (".".intercalate names) = names.map .name
  lay_leaf : ∀ name origin value t, lib.lay name (.leaf origin value) t =
    t.putEntry (Text.lowercase name) (.leaf origin value)
  lay_array : ∀ name origin es t, lib.lay name (.array origin es) t =
    t.putEntry (Text.lowercase name) (.array origin es)
  lay_table : ∀ name origin es t, lib.lay name (.table origin es) t =
    t.putEntry (Text.lowercase name)
      (es.foldl (fun sub e => lib.lay e.1 e.2 sub)
        ((t.entries.get? (Text.lowercase name)).getD .emptyTable))
  set_last_name : ∀ value name t, lib.set value [.name name] t = .ok (lib.lay name value t)
  set_name : ∀ value name step steps t, lib.set value (.name name :: step :: steps) t =
    (lib.set value (step :: steps) ((t.entries.get? (Text.lowercase name)).getD .nothing)).map
      (t.putEntry (Text.lowercase name))
  set_last_index : ∀ {i : ℕ} value t, i < lib.capacity →
    lib.set value [.index i] t = .ok (t.putElement i value)
  set_index : ∀ {i : ℕ} value step steps t, i < lib.capacity →
    lib.set value (.index i :: step :: steps) t =
      (lib.set value (step :: steps) ((t.elements[i]?).getD .nothing)).map (t.putElement i)
  build_eq : ∀ sources, lib.build sources =
    sources.flatten.foldlM (fun t e => lib.set e.2 (lib.path e.1) t) .emptyTable

/-- The rules for records and words. -/
structure TakesRecords (lib : Library) : Prop where
  field_table : ∀ expected position key name origin (es : Entries Tree),
    lib.field expected position key name (.table origin es) =
      .ok ((es.get? name).map fun t => (keyOf key name, t))
  word16_integer : ∀ key origin (n : UInt16),
    lib.word16 key (.leaf origin (.integer n.toNat)) = .ok n
  tagged_table : ∀ {tag variant : String} {variants origin} {es : Entries Tree} expected origin',
    es.get? tag = some (.leaf origin (.text variant)) → variant ∈ variants →
      lib.tagged expected tag variants (.table origin' es) =
        .ok (variant, .table origin' (es.erase tag))
  bare_table : ∀ origin es, lib.bare (.table origin es) = .ok ()

/-- The rules of a settings library. -/
structure Lawful (lib : Library) : Prop extends
  ReadsVariables lib, LaysSources lib, TakesRecords lib

end Library

end S7Request.Settings
