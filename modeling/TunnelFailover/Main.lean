import TunnelFailover.CommandLine
import TunnelFailover.Config.Encode
/-!
This file is the program. It finds and checks the settings, and it prints the settings in effect.
-/

namespace TunnelFailover.Program

/-- What lies at a path. Anything that cannot be read as a file counts as a directory. -/
def readState (path : String) : IO FileState := do
  try pure (.file (← IO.FS.readBinFile path))
  catch
    | .noFileOrDirectory .. => pure .absent
    | _ => pure .directory

/-- The settings are loaded and printed, or the fault is reported. -/
def run (arguments : Arguments) : IO UInt32 := do
  let explicit ← arguments.config.mapM readState
  let searched ← (Arguments.searchPaths (← IO.getEnv "HOME")).mapM readState
  match Config.load explicit searched with
  | .ok config =>
    IO.println (arguments.override config).toJson.render
    pure 0
  | .error fault =>
    IO.eprintln s!"Error: failed to load configuration\n\nCaused by:\n    {fault.message}"
    pure 1

/-- The arguments decide whether the program runs or explains itself. -/
def start (words : List String) : IO UInt32 := do
  match Arguments.parse words with
  | .ok (.run arguments) => run arguments
  | .ok .help =>
    IO.println Arguments.usage
    pure 0
  | .error fault =>
    IO.eprintln fault.message
    pure 2

end TunnelFailover.Program

/-- The program starts with the words of its command line. -/
def main (words : List String) : IO UInt32 := TunnelFailover.Program.start words
