import TabCompletion.CommandLine.Program
import TabCompletion.Programs.Table

/-!
# The command line program

The outer layer: it gathers the files that the command line names and the environment, lets
`CommandLine.execute` do the work, and prints what comes of it. The shells are those of
`Programs.all`; they run at a station that has these files.
-/
namespace TabCompletion.CommandLine

def environmentNames : List String :=
  ["HOME","PATH","TMPDIR"] ++ localeVariables ++ HarnessConfig.overrides.map (·.1)

def filesNamed (arguments : List String) : List String :=
  match parse program arguments with
  | .ok (.run r _) => r.suite :: r.config.toList
  | .ok (.probe r) => r.config.toList
  | _ => []

def gatherFile (name : String) : IO (Option (String × Bytes)) := do
  try
    let content ← IO.FS.readBinFile name
    return some (name, content.toList)
  catch _ => return none

def gatherVariable (name : String) : IO (Option (String × String)) :=
  return (← IO.getEnv name).map (name, ·)

def gatherStation (arguments : List String) : IO Station := do
  let directory := Location.ofPath [] (← IO.currentDir).toString
  let files ← (filesNamed arguments).filterMapM gatherFile
  let environment ← environmentNames.filterMapM gatherVariable
  let seed := UInt64.ofNat (← IO.monoNanosNow)
  return { machine := { programs := Programs.all, files := .ofWorkplace directory files, directory, environment }
           seed }

end TabCompletion.CommandLine

open TabCompletion in
def main (arguments : List String) : IO UInt32 := do
  let station ← CommandLine.gatherStation arguments
  let (printed, _) := (CommandLine.execute arguments).run station
  IO.eprint printed.err
  IO.print printed.out
  return UInt32.ofNat printed.exit
