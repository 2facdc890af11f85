import TabCompletion.Json.Printer
import TabCompletion.Report
import TabCompletion.Text.Quoted

/-!
# What the command line prints

Reports, errors and results go to standard output as one line of JSON or as text; what is not an
answer goes to standard error. The exit code is that of the report or the error. `Meter` prints the
progress of a run line by line.
-/
namespace TabCompletion

structure Printed where
  out : String := ""
  err : String := ""
  exit : Nat := 0
  deriving DecidableEq, Repr, Inhabited

namespace CommandLine

def unlines (lines : List String) : String := String.join (lines.map (· ++ "\n"))

/-- A result: the inserted text, or the tokens or lines one below the other. -/
def printCompletion (byLine : Bool) : CompletionResult → Printed
  | .immediate text => { out := unlines ["immediate: " ++ Text.quote text] }
  | .listed tokens lines => { out := unlines (if byLine then lines else tokens.toList) }
  | .empty => { err := unlines ["no completions"] }

def terminalWarning : String :=
  "warning: PTY support appears unavailable; this is common in minimal containers"

def printError (json : Bool) (e : HarnessError) : Printed :=
  if json then { out := unlines [e.toJson.render], exit := e.code.exitCode }
  else
    let advice := if Text.occursIn "open pty".toList e.message.toList then [terminalWarning] else []
    { err := unlines (("error: " ++ e.display) :: advice), exit := e.code.exitCode }

def exitCode : RunStatus → Nat
  | .passed => 0
  | .failed => 1
  | .errored => 2

/-- What went wrong with a probe, after its input. -/
def faultOf (p : ProbeReport) : String :=
  (match p.outcome.bind MatchOutcome.mismatch? with
    | some m => ": " ++ m.message
    | none => "") ++
  (match p.error with
    | some e => ": " ++ e.display
    | none => "")

def probeLine (p : ProbeReport) : String :=
  "  " ++ p.status.title ++ " " ++ Text.quote p.input ++ faultOf p

def errorLine (label : String) : Option HarnessError → List String
  | some e => [label ++ e.display]
  | none => []

def testLines (t : TestReport) : List String :=
  [t.name ++ " (" ++ t.status.title ++ ")"] ++ errorLine "  error: " t.error ++
    t.probes.map probeLine

def summaryLine (r : SuiteReport) : String :=
  r.status.title ++ s!": {r.count .passed} passed, {r.count .failed} failed, " ++
    s!"{r.count .errored} errored, {r.count .skipped} skipped"

def reportLines (r : SuiteReport) : List String :=
  r.tests.flatMap testLines ++ errorLine "suite error: " r.error ++ [summaryLine r]

def printReport (json : Bool) (r : SuiteReport) : Printed :=
  { out := unlines (if json then [r.toJson.render] else reportLines r), exit := exitCode r.status }

/-- What a progress meter remembers: the number of test cases, and whether a bar is shown. A bar
    swallows the lines of probes where there is no screen. -/
structure Meter where
  total : Nat := 0
  bar : Bool := false

def coloured (colour : Nat) (text : String) : String := s!"\x1b[{colour}m" ++ text ++ "\x1b[0m"

def statusSign : ProbeStatus → String
  | .passed => coloured 32 "✓"
  | .failed => coloured 31 "✗"
  | .errored => coloured 31 "!"
  | .skipped => coloured 33 "-"

def statusWord (s : RunStatus) : String :=
  coloured (match s with | .passed => 32 | _ => 31) s.name

def Meter.tell (m : Meter) : ProgressEvent → List String × Meter
  | .suiteStarted runId name tests probes =>
    (["suite " ++ name ++ " started: " ++ runId.display ++ s!" ({tests} tests, {probes} probes)"],
      { m with total := tests })
  | .testStarted index name _ => ([s!"[{index}/{m.total}] " ++ name], { m with bar := true })
  | .probeCompleted _ input status elapsed =>
    (if m.bar then []
      else ["  " ++ statusSign status ++ " " ++ Text.quote input ++ s!" ({elapsed}ms)"], m)
  | .testCompleted _ _ _ => ([], { m with bar := false })
  | .suiteCompleted _ status elapsed =>
    (["suite " ++ statusWord status ++ s!": {elapsed}ms total"], { m with bar := false })

def Meter.tellAll (m : Meter) : List ProgressEvent → List String
  | [] => []
  | e :: rest =>
    let (lines, m) := m.tell e
    lines ++ m.tellAll rest

end CommandLine
end TabCompletion
