import TabCompletion.FixtureShell.Basic
import TabCompletion.Programs.Filters

/-!
# Programs that wait and work with terminals

`sleep`, `stty` and `tty`, `dd`, and the fixture shell as a program.
-/
namespace TabCompletion.Programs
open Process

/-- The milliseconds of a number of seconds with decimals, which are rounded up. -/
def secondsToMilliseconds (factor : Nat) (cs : List Char) : Option Nat :=
  let whole := cs.takeWhile (· != '.')
  let decimals := (cs.drop whole.length).drop 1
  if (whole.isEmpty && decimals.isEmpty) || !(whole ++ decimals).all Char.isDigit then none
  else
    let scale := Nat.pow 10 decimals.length
    let units := (String.ofList (whole ++ decimals)).toNat?.getD 0 * factor * 1000
    some ((units + scale - 1) / scale)

/-- The duration in an argument of `sleep`; nothing inside means for ever. -/
def duration? (text : String) : Option (Option Nat) :=
  if text = "infinity" ∨ text = "inf" then some none
  else
    let cs := text.toList
    let factor? := cs.getLast?.bind fun c =>
      match c with
      | 's' => some 1
      | 'm' => some 60
      | 'h' => some 3600
      | 'd' => some 86400
      | _ => none
    let number := if factor?.isSome then cs.dropLast else cs
    (secondsToMilliseconds (factor?.getD 1) number).map some

/-- `sleep`: waits for the sum of durations. -/
def sleep (args : List String) : Mortal Nat := do
  match args.find? fun a => (duration? a).isNone with
  | some wrong =>
    match wrong.toList with
    | '-' :: c :: _ => misuse "sleep" ("invalid option -- '" ++ String.singleton c ++ "'")
    | _ => misuse "sleep" ("invalid time interval '" ++ wrong ++ "'")
  | none =>
    if args.isEmpty then misuse "sleep" "missing operand"
    else
      let times := args.filterMap duration?
      Process.pause (if times.contains none then none else some ((times.filterMap id).foldl (· + ·) 0))
      return 0

def setting? (name : String) : Option (TerminalMode → TerminalMode) :=
  let (on, word) := match name.toList with
    | '-' :: word => (false, String.ofList word)
    | _ => (true, name)
  match word with
  | "raw" => some fun m => if on then m.raw else m.cooked
  | "cooked" => some fun m => if on then m.cooked else m.raw
  | "cbreak" => some fun m => { m with canonical := !on }
  | "sane" => some TerminalMode.sane
  | "icanon" => some fun m => { m with canonical := on }
  | "echo" => some fun m => { m with echo := on }
  | "isig" => some fun m => { m with signals := on }
  | "icrnl" => some fun m => { m with returnIsNewline := on }
  | "nl" => some fun m => { m with returnIsNewline := !on, newlineIsPair := !on }
  | "ixon" => some fun m => { m with flowControl := on }
  | "opost" => some fun m => { m with processing := on }
  | "onlcr" => some fun m => { m with newlineIsPair := on }
  | "echoctl" => some fun m => { m with caretEcho := on }
  | "ctlecho" => some fun m => { m with caretEcho := on }
  | "echoe" => some fun m => { m with eraseEcho := on }
  | "crterase" => some fun m => { m with eraseEcho := on }
  | _ =>
    if ["echok","echoke","echonl","iexten","brkint","ignbrk","istrip","inlcr","igncr","ixany",
      "ixoff","imaxbel","iutf8","hupcl","tostop"].contains word then some id else none

/-- The change that settings make together; otherwise the setting that is unknown. -/
def settings : List String → Except String (TerminalMode → TerminalMode)
  | [] => .ok id
  | [last] =>
    match setting? last with
    | some f => .ok f
    | none => .error last
  | name :: value :: rest =>
    match name, value.toNat? with
    | "rows", some n => (settings rest).map fun f m => f { m with rows := n }
    | "cols", some n => (settings rest).map fun f m => f { m with columns := n }
    | "columns", some n => (settings rest).map fun f m => f { m with columns := n }
    | "min", some _ => settings rest
    | "time", some _ => settings rest
    | _, _ =>
      match setting? name with
      | some f => (settings (value :: rest)).map fun g m => g (f m)
      | none => .error name

def configure (f : TerminalMode → TerminalMode) : Mortal (Option TerminalMode) :=
  ExceptT.lift (.configure f .done)

def stty (args : List String) : Mortal Nat := do
  match settings (if args = ["size"] then [] else args) with
  | .error name => misuse "stty" ("invalid argument '" ++ name ++ "'")
  | .ok f =>
    match ← configure f with
    | none =>
      complain "stty: 'standard input': Inappropriate ioctl for device"
      return 1
    | some m =>
      if args = ["size"] then say s!"{m.rows} {m.columns}\n"
      return 0

def tty : Mortal Nat := do
  match ← configure id with
  | some _ => say "/dev/pts/0\n"; return 0
  | none => say "not a tty\n"; return 1

structure BlockCall where
  size : Nat := 512
  count : Option Nat := none
  input : Option String := none
  output : Option String := none
  silent : Bool := false

def blockArgument (call : BlockCall) (arg : String) : Option BlockCall :=
  let name := arg.toList.takeWhile (· != '=')
  let value := String.ofList ((arg.toList.drop name.length).drop 1)
  match String.ofList name with
  | "bs" => (count? value).map fun size => { call with size }
  | "ibs" => (count? value).map fun size => { call with size }
  | "obs" => some call
  | "count" => (count? value).map fun n => { call with count := some n }
  | "if" => some { call with input := some value }
  | "of" => some { call with output := some value }
  | "status" => some { call with silent := value == "none" }
  | "conv" => some call
  | "iflag" => some call
  | _ => none

structure Copied where
  whole : Nat := 0
  part : Nat := 0
  bytes : Nat := 0

def copyBlocks (size : Nat) (put : Bytes → Mortal Unit) :
    Nat → Option Nat → Source → Copied → Mortal Copied
  | 0, _, _, copied => return copied
  | rounds + 1, count, s, copied => do
    if count = some 0 then return copied
    let (bytes, s) ← s.take size
    if bytes.isEmpty then return copied
    put bytes
    let copied := { copied with bytes := copied.bytes + bytes.length }
    let copied :=
      if bytes.length = size then { copied with whole := copied.whole + 1 }
      else { copied with part := copied.part + 1 }
    copyBlocks size put rounds (count.map (· - 1)) s copied

def dd (around : Surroundings) (args : List String) : Mortal Nat := do
  match args.foldlM blockArgument {} with
  | none =>
    let wrong := (args.find? fun a => (blockArgument {} a).isNone).getD ""
    misuse "dd" ("unrecognized operand '" ++ wrong ++ "'")
  | some call =>
    match ← source around (call.input.getD "-") with
    | .error e =>
      complain ("dd: failed to open '" ++ call.input.getD "" ++ "': " ++ e.reason)
      return 1
    | .ok s =>
      let target := (call.output.filter (· != "/dev/null")).map (Location.ofPath around.directory)
      match target with
      | some place => change (·.put place [])
      | none => pure ()
      let write (bytes : Bytes) : Mortal Unit :=
        match call.output, target with
        | none, _ => put bytes
        | some _, some place => change (·.append place bytes)
        | some _, none => pure ()
      let copied ← copyBlocks call.size write readLimit call.count s {}
      if !call.silent then
        complain s!"{copied.whole}+{copied.part} records in"
        complain s!"{copied.whole}+{copied.part} records out"
        complain s!"{copied.bytes} bytes copied, 0 s, 0 B/s"
      return 0

/-- The fixture shell at its work: it reads keys until it exits or its input ends. -/
def answerKeys : Nat → FixtureShell → Mortal Unit
  | 0, _ => return
  | n + 1, shell => do
    let keys ← Process.input 256
    if keys.isEmpty then return
    let (output, action, shell) := shell.pressAll keys
    put output
    match action with
    | .exit => return
    | .goOn => answerKeys n shell

def fixtureShell (args : List String) : Mortal Nat := do
  let shell := FixtureShell.ofArgs args
  let before ← configure TerminalMode.rawSilent
  put (Utf8.encodeChars shell.prompt)
  answerKeys readLimit shell
  match before with
  | some mode => let _ ← configure fun _ => mode
  | none => pure ()
  return 0

end TabCompletion.Programs
