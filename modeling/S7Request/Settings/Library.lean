import S7Request.Settings.Tree

/-!
# What is taken from a settings library

Settings are loaded with a library that reads files and environments, lays what it has read over one
another, and takes records and words from the result. Which settings there are, how they are
nested and what they are called is not the library's.
-/
namespace S7Request.Settings

/-- A file of the directory. -/
structure SourceFile where
  name : String
  content : ByteArray

/-- The settings of one source, by their paths, in the order in which they are laid. -/
abbrev Source := List (String × Tree)

/-- The key of an entry below a key, which is empty at the root. -/
def keyOf (key name : String) : String :=
  if key = "" then name else key ++ "." ++ name

/-- What the loading of settings takes from a library. -/
structure Library where
  /-- The name and the text of the file that a path names. -/
  find : List SourceFile → String → Option (String × String)
  /-- The settings in a file of a given name and text, absent when they cannot be parsed. -/
  parse : String → String → Option Source
  /-- The setting that the value of a variable reads as. -/
  scalar : String → Scalar
  /-- The settings in the variables whose names begin with a stem, by the text that separates the
  parts of a name. -/
  environment : String → String → List (String × String) → Source
  /-- The steps of a setting's path. -/
  path : String → List Step
  /-- The number of elements that an array can be grown to. -/
  capacity : Nat
  /-- The tree with a value laid over its entry of a name. -/
  lay : String → Tree → Tree → Tree
  /-- The tree with a value laid over what lies at the end of a path. -/
  set : Tree → List Step → Tree → Except Fault Tree
  /-- The tree of several sources. -/
  build : List Source → Except Fault Tree
  /-- The value of a field and the key that faults show for it, absent when the record does not
  have the field. A record that is an array has the field at a position. -/
  field : Expected → Nat → String → String → Tree → Except Fault (Option (String × Tree))
  /-- The word of a setting with a key. -/
  word16 : String → Tree → Except Fault UInt16
  /-- The variant that the tag of a record names, and the record without the tag. -/
  tagged : Expected → String → List String → Tree → Except Fault (String × Tree)
  /-- The end of a variant without fields. -/
  bare : Tree → Except Fault Unit
  /-- The word that is the only field of a variant. -/
  only16 : String → Tree → Except Fault UInt16

end S7Request.Settings
