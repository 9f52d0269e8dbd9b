import Metasearch.Failure
import Metasearch.Settings
import Metasearch.Toml.Parser
import Metasearch.Toml.Printer

/-!
# Settings as a document

Settings are stored as TOML. A document is read only if the settings in it are sound.

## Main definitions

* `Settings.readToml`, `Settings.writeToml`.
-/

namespace Metasearch.Settings

/-- The settings of a document, if they are sound. -/
def readToml (text : String) : Except Failure Settings :=
  match (Toml.parse? text.toList).bind decode? with
  | none => .error (.config .notToml)
  | some s =>
    match s.fault? with
    | some fault => .error (.config fault)
    | none => .ok s

/-- The document of settings. -/
def writeToml (s : Settings) : Except Failure String :=
  match Toml.print? s.encode with
  | some text => .ok (String.ofList text)
  | none => .error (.config .unwritable)

end Metasearch.Settings
