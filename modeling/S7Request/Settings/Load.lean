import S7Request.Address.Resolve
import S7Request.Budget
import S7Request.Settings.Decode
import S7Request.Settings.Standard

/-!
# Loading settings

Settings are read from a file and from the environment, which is laid over the file. In the
environment their names begin with `NG_S7`, and two underscores lead from a section to its entry.
A file that is missing holds no settings.
-/
namespace S7Request.Settings

namespace Library

variable (lib : Library)

/-- The settings in the file that a path names. -/
def source (files : List SourceFile) (path : String) : Except Fault Source :=
  match lib.find files path with
  | none => .ok []
  | some (name, text) =>
      match lib.parse name text with
      | none => .error .notParsed
      | some source => .ok source

/-- The settings of several sources, of which the later ones are laid over the earlier ones. -/
def settings (sources : List Source) : Except Fault Settings := do
  lib.ofTree (← lib.build sources)

/-- The settings in the file that a path names, with those in the environment laid over them. -/
def load (files : List SourceFile) (path : String) (environment : List (String × String)) :
    Except Error Settings :=
  (do
    let file ← lib.source files path
    lib.settings [file, lib.environment "NG_S7" "__" environment]).mapError .settings

end Library

/-- The settings in a file and in the environment, read by the standard library. -/
def load (files : List SourceFile) (path : String) (environment : List (String × String)) :
    Except Error Settings :=
  Library.standard.load files path environment

def loadedEvent (s : Settings) : Event :=
  .loadedSettings s.pduLength s.policy

/-- What plans are made with under these settings. -/
def plannerConfig (s : Settings) : PlannerConfig :=
  .ofPduLength s.pduLength

/-- What addresses are resolved with under these settings. -/
def resolver (s : Settings) : String → UInt32 → TransportSize → Except Error Item :=
  resolve s.policy

end S7Request.Settings
