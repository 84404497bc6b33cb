import ChatRelay.Program

/-!
# The command line

Reads the environment and the file with the settings, lets the program decide, and prints what it
says. The end of the standard input is the signal to stop.
-/

namespace ChatRelay.Main

def readContent (path : String) : IO FileContent := do
  match ← (IO.FS.readBinFile path).toBaseIO with
  | .ok bytes => return match String.fromUTF8? bytes with
    | some text => .text text
    | none => .notText
  | .error (.noFileOrDirectory ..) => return .missing
  | .error (.inappropriateType ..) => return .directory
  | .error other => return .unreadable other.toString

def printLines (launch : Launch) (lines : List Log.Line) : IO Unit := do
  let style : Log.Style := match launch.log.map Log.Setup.format with
    | some .json => .byName
    | _ => .quoted
  for line in launch.visible lines do
    IO.println (line.text style)
  (← IO.getStdout).flush

/-- Reads until the input ends. -/
partial def awaitSignal (input : IO.FS.Stream) : IO Unit := do
  if (← input.getLine).isEmpty then return
  awaitSignal input

end ChatRelay.Main

open ChatRelay

def main : IO UInt32 := do
  let env : Log.Environment :=
    ⟨← IO.getEnv "PARLOR_LOG_LEVEL", ← IO.getEnv "PARLOR_LOG_FORMAT"⟩
  let path := (← IO.getEnv "PARLOR_CONFIG").getD Program.defaultPath
  let begun ← IO.monoMsNow
  let launch := Program.launch {} env path (← Main.readContent path) true
  Main.printLines launch launch.lines
  match launch.result with
  | .error fault =>
    IO.eprint fault.report
    return 1
  | .ok server =>
    Main.awaitSignal (← IO.getStdin)
    let uptime := ((← IO.monoMsNow) - begun) / 1000
    Main.printLines launch (Server.stop server uptime).1
    return 0
