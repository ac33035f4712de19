import S7Request.Settings.Library
import S7Request.Toml.Parser

/-!
# Settings files

The settings file is looked for in one directory under a given name, and under that name with the
extension `toml` if there is no file of the name itself. Only a file with this extension is read.
A missing file, a file with another extension and a file that is not UTF-8 text hold no settings;
a file that is not TOML is a fault.
-/
namespace S7Request.Settings

/-- The extension of a file name: what follows its last dot, unless nothing precedes that dot. -/
def extension? (name : List Char) : Option (List Char) :=
  let tail := (name.reverse.takeWhile (· ≠ '.')).reverse
  if name.length ≤ tail.length + 1 then none else some tail

/-- The parts of a path between its slashes, without those that stay where they are. -/
def pathParts (path : List Char) : List (List Char) :=
  (path.splitBy fun a b => a ≠ '/' ∧ b ≠ '/').filter fun part => part ≠ ['/'] ∧ part ≠ ['.']

/-- Whether a path ends in a slash, or in a dot behind a slash, so that it cannot name a file. -/
def endsInDirectory (path : List Char) : Bool :=
  match path.reverse with
  | '/' :: _ => true
  | '.' :: '/' :: _ => true
  | _ => false

/-- The file that a path within the directory names. -/
def locate? (files : List SourceFile) (path : String) : Option SourceFile :=
  let cs := path.toList
  match cs, pathParts cs with
  | '/' :: _, _ => none
  | _, [part] =>
      let named := fun (name : List Char) => files.find? (·.name.toList = name)
      if part = ['.', '.'] then none
      else
        match if endsInDirectory cs then none else named part with
        | some file => if extension? part = some "toml".toList then some file else none
        | none => named (part ++ ".toml".toList)
  | _, _ => none

/-- The name and the text of the file that a path names. -/
def fileText? (files : List SourceFile) (path : String) : Option (String × String) := do
  let file ← locate? files path
  let text ← String.fromUTF8? file.content
  pure (file.name, text)

namespace Tree

mutual

def ofToml (origin : Origin) : Toml.Value → Tree
  | .string s => leaf (some origin) (.text s)
  | .integer n => leaf (some origin) (.integer n)
  | .float x => leaf (some origin) (.float x)
  | .boolean b => leaf (some origin) (.boolean b)
  | .moment s => leaf (some origin) (.text s)
  | .array es => array (some origin) (ofTomlElements origin es)
  | .table es => table (some origin) (ofTomlEntries origin es)

def ofTomlElements (origin : Origin) : List Toml.Value → List Tree
  | [] => []
  | e :: es => ofToml origin e :: ofTomlElements origin es

def ofTomlEntries (origin : Origin) : List (String × Toml.Value) → List (String × Tree)
  | [] => []
  | (name, value) :: es => (name, ofToml origin value) :: ofTomlEntries origin es

end

end Tree

/-- The settings in a file of a given name and text. -/
def fileSource? (name text : String) : Option Source :=
  (Toml.parse? text).map (Tree.ofTomlEntries (.file name))

end S7Request.Settings
