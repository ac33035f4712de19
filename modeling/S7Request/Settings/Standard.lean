import S7Request.Settings.Environment
import S7Request.Settings.File
import S7Request.Settings.Layer
import S7Request.Settings.Record

/-!
# The standard settings library

Files are TOML documents, variables hold one setting each, and records are tables or arrays.
-/
namespace S7Request.Settings

/-- The settings library of this project. -/
def Library.standard : Library where
  find := fileText?
  parse := fileSource?
  scalar := scalarOf
  environment := environmentSource
  path := pathOf
  capacity := Tree.capacity
  lay := Tree.lay
  set := Tree.set
  build := Tree.build
  field := fieldOf
  word16 := word16Of
  tagged := taggedOf
  bare := bareOf
  only16 := only16Of

end S7Request.Settings
