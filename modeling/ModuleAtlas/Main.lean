import ModuleAtlas.CommandLine
import ModuleAtlas.Disk.Snapshot
import ModuleAtlas.TypeScript.Parser

/-!
# The program

Carries out the command that its arguments ask for, on a disk described on standard input: a JSON
array of entries with absolute paths. Where the input is empty the disk is empty.
-/

open ModuleAtlas

/-- All that a stream has to give. -/
partial def readLines (input : IO.FS.Stream) (before : String) : IO String := do
  let line ← input.getLine
  if line.isEmpty then return before else readLines input (before ++ line)

/-- The variables that settings are read from, as far as they are set. -/
def readEnvironment : IO Environment := do
  let names := ["LOG_LEVEL", "MAX_WORKERS", "API_HOST", "API_PORT"].map ("DEPGRAPH_" ++ ·)
  let values ← names.mapM fun n => IO.getEnv n
  return (names.zip values).filterMap fun (n, v) => v.map (n, ·)

def main (args : List String) : IO UInt32 := do
  let text ← readLines (← IO.getStdin) ""
  let entries := match Json.read? text.length text.toList with
    | some (.array entries) => entries
    | _ => []
  let slash : Path := .ofText "/"
  let disk := Disk.writeSnapshots slash (Disk.withRoot slash slash) entries
  let outcome := CommandLine.run disk TypeScript.Parsers.fresh.parse (← readEnvironment) args
  (← IO.getStdout).putStr outcome.output
  let time := toString (← IO.monoMsNow)
  for line in outcome.errorLines time do (← IO.getStderr).putStrLn line
  return UInt32.ofNat outcome.exit
