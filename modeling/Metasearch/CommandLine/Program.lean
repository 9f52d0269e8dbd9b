import Metasearch.Adapter.Assembly
import Metasearch.CommandLine.Arguments
import Metasearch.CommandLine.Report
import Metasearch.Settings.Document

/-!
# The program behind the command line

Settings are read, the service that they describe is set up, the call is made and reported on. The
first thing that goes wrong ends the program; a source that fails does not, as the report tells of
it.

## Main definitions

* `Exit`: what a run of the program leaves.
* `Command.report`: the report that a command asks for.
* `run`: a run of the program.
-/

namespace Metasearch.CommandLine

/-- What a run of the program leaves. -/
structure Exit where
  /-- The exit code: zero for success, one for a failure, two for arguments that make no sense. -/
  code : Nat
  /-- What is written. -/
  output : String
  /-- What went wrong. -/
  failure : Option Failure

/-- The version of the program. -/
def version : String := "0.1.0"

/-- The settings of an invocation; `read` gives the text of a file. -/
def Invocation.settings (i : Invocation) (read : String → Except FileFault String) :
    Except Failure Settings :=
  match i.config with
  | none => .ok Settings.standard
  | some path =>
    match read path with
    | .ok text => Settings.readToml text
    | .error fault => .error (.config (.unreadable path fault))

/-- The report on what was answered. -/
def replyReport (limit : Nat) (format : Format) : Reply → Except Failure (List String)
  | .refused fault => .error (.query fault)
  | .found set => .ok (searchReport limit set format)
  | .collected collection => .ok (collectionReport collection format)

/-- The report that a command asks for. -/
def Command.report (settings : Settings) (server : Server) :
    Command → Except Failure (List String)
  | .search query limit format => do
    let service ← Service.ofSettings settings
    replyReport limit format (service.replyTo server (.search query))
  | .collect categories format => do
    let service ← Service.ofSettings settings
    replyReport 0 format (service.replyTo server (.collect categories))
  | .sources => .ok (catalogReport settings)

/-- The report that an invocation asks for. -/
def Invocation.report (i : Invocation) (read : String → Except FileFault String)
    (server : Server) : Except Failure (List String) := do
  i.command.report (← i.settings read) server

/-- A run of the program with arguments. -/
def run (read : String → Except FileFault String) (server : Server) (arguments : List String) :
    Exit :=
  match Invocation.parse arguments with
  | .error .help => ⟨0, "", none⟩
  | .error .version => ⟨0, written ["center-search " ++ version], none⟩
  | .error .usage => ⟨2, "", none⟩
  | .ok i =>
    match i.report read server with
    | .ok lines => ⟨0, written lines, none⟩
    | .error failure => ⟨1, "", some failure⟩

end Metasearch.CommandLine
