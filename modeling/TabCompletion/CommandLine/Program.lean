import TabCompletion.CommandLine.Output
import TabCompletion.CommandLine.Scripts
import TabCompletion.Station
import TabCompletion.SuiteFile

/-!
# The program

What the program does at a station: it reads its arguments, runs a suite, probes an input, or prints
a script, and says with its exit code how that went. A wrong command line has the exit code 2.
-/
namespace TabCompletion.CommandLine

def loadConfig? (m : Machine) (path : Option String) : HarnessResult (Option HarnessConfig) :=
  path.mapM fun path => SuiteFile.loadConfig path (m.readFile path)

def loadRun (m : Machine) (r : RunRequest) : HarnessResult (Suite × Option HarnessConfig) := do
  let suite ← SuiteFile.loadSuite r.suite (m.readFile r.suite)
  return (suite, ← loadConfig? m r.config)

/-- Runs a suite. Progress is shown unless the report is JSON. -/
def executeRun (r : RunRequest) (verbose : Bool) : StateM Station Printed := do
  match loadRun (← get).machine r with
  | .error e => return printError r.json e
  | .ok (suite, config) =>
    let (result, events) ← Station.runSuite suite config
    let told := if verbose && !r.json then unlines (Meter.tellAll {} events) else ""
    let printed := match result with
      | .ok report => printReport r.json report
      | .error e => printError r.json e
    return { printed with err := told ++ printed.err }

def shellOf (r : ProbeRequest) : SessionConfig :=
  { command := r.shell, args := r.args, prompt := r.prompt, context := r.context
    encoding := if r.lossy then .lossy else .strict }

/-- The timing of a probe: that of the file or the default, with the overrides of the environment. -/
def probeConfig (m : Machine) (r : ProbeRequest) : HarnessResult HarnessConfig := do
  ((← loadConfig? m r.config).getD {}).withOverrides m.lookup

def executeProbe (r : ProbeRequest) : StateM Station Printed := do
  let result ← match probeConfig (← get).machine r with
    | .error e => pure (.error e)
    | .ok config => Station.probeOnce (shellOf r) config r.input
  match result with
  | .ok result =>
    return if r.json then { out := unlines [result.toJson.render] } else printCompletion r.lines result
  | .error e => return printError r.json e

def executeRequest : Request → StateM Station Printed
  | .run r verbose => executeRun r verbose
  | .probe r => executeProbe r
  | .completions shell => return { out := completionScript program shell }

def usageExit : Nat := 2

def printStop : Stop → Printed
  | .help command long => { out := help program command long }
  | .version => { out := unlines [program.name ++ " " ++ program.version] }
  | .nothing => { err := help program none false, exit := usageExit }
  | .usage e =>
    { err := unlines ["error: " ++ e.message,"","For more information, try '--help'."]
      exit := usageExit }

def execute (arguments : List String) : StateM Station Printed :=
  match parse program arguments with
  | .ok request => executeRequest request
  | .error stop => return printStop stop

end TabCompletion.CommandLine
