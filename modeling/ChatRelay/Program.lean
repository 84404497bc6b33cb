import ChatRelay.Server
import ChatRelay.Settings.Load

/-!
# The program

What a run of the program from the command line does: it loads the settings, sets up the log, says
what it is, and starts the server. What goes wrong is told on the error output, and the log begins
only behind the settings.
-/

namespace ChatRelay

open Log (Line Setup)

inductive ProgramFault where
  | settings (fault : LoadFault)
  | server (fault : ServerFault)
deriving DecidableEq

namespace ProgramFault

def message : ProgramFault → String
  | .settings fault => fault.message
  | .server fault => fault.message

def cause? : ProgramFault → Option String
  | .settings _ => none
  | .server fault => fault.cause?

def report (fault : ProgramFault) : String :=
  "Error: " ++ fault.message
    ++ (match fault.cause? with
      | some cause => "\n\nCaused by:\n    " ++ cause
      | none => "")
    ++ "\n"

end ProgramFault

structure Launch where
  /-- There is none before the settings are loaded. -/
  log : Option Setup
  lines : List Line
  result : Except ProgramFault ChatServer

namespace Program

/-- The file that the settings are in, unless the environment names another. -/
def defaultPath : String := "parlor.toml"

def greeting (path : String) : Line :=
  Server.line "Parlor Server wird initialisiert"
    [("version", .literal Health.version), ("config", .shown path)]

/-- Loads the settings and starts the server; with or without a greeting before it. -/
def launch (host : Host) (env : Log.Environment) (path : String) (content : FileContent)
    (greets : Bool) : Launch :=
  match (Settings.load path content).1 with
  | .error fault => { log := none, lines := [], result := .error (.settings fault) }
  | .ok settings =>
    let log := Log.setup env settings.logging.level settings.logging.format
    let (lines, result) := Server.listenAndStart host settings
    { log := some log
      lines := if greets then greeting path :: lines else lines
      result := match result with
        | .ok server => .ok server
        | .error fault => .error (.server fault) }

end Program

namespace Launch

/-- The lines that the log of a run lets through. -/
def visible (launch : Launch) (lines : List Line) : List Line :=
  match launch.log with
  | some s => lines.filter fun l => s.filter.lets l.level l.target
  | none => []

end Launch

end ChatRelay
