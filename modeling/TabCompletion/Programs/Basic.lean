import TabCompletion.Script.State

/-!
# Parts of programs

What programs have in common: they print, read files and their input, and complain.
-/
namespace TabCompletion.Programs
open Process

def say (text : String) : Mortal Unit := ExceptT.lift (Process.say .out text)

def put (bytes : Bytes) : Mortal Unit := ExceptT.lift (Process.write .out bytes)

def complain (text : String) : Mortal Unit := ExceptT.lift (Process.say .err (text ++ "\n"))

def files : Mortal Files := ExceptT.lift Process.files

def change (f : Files → Files) : Mortal Unit := ExceptT.lift (Process.modifyFiles f)

def misuse (name message : String) : Mortal Nat := do
  complain (name ++ ": " ++ message)
  complain ("Try '" ++ name ++ " --help' for more information.")
  return 1

/-- Does something for each argument: fails if one of them fails. -/
def forEach (args : List String) (f : String → Mortal Bool) : Mortal Nat := do
  let results ← args.mapM f
  return if results.all id then 0 else 1

inductive Source where
  | input
  | supply (s : Supply)

/-- What a name of a file stands for. -/
def source (around : Surroundings) (name : String) : Mortal (Except FileFault Source) := do
  match name with
  | "-" => return .ok .input
  | "/dev/stdin" => return .ok .input
  | "/dev/tty" => return .ok .input
  | "/dev/null" => return .ok (.supply (.held []))
  | "/dev/zero" => return .ok (.supply .zeros)
  | _ =>
    match (← files).read (Location.ofPath around.directory name) with
    | .ok bytes => return .ok (.supply (.held bytes))
    | .error fault => return .error fault

/-- At most so many bytes of a source, and the source after them. No bytes are its end. -/
def Source.take (limit : Nat) : Source → Mortal (Bytes × Source)
  | .input => return (← Process.input limit, .input)
  | .supply s => let (bytes, rest) := s.take limit; return (bytes, .supply rest)

def readLimit : Nat := 100000

def blockSize : Nat := 8192

def eachBlock (f : Bytes → Mortal Unit) : Nat → Source → Mortal Unit
  | 0, _ => return
  | n + 1, s => do
    let (bytes, s) ← s.take blockSize
    if bytes.isEmpty then return
    f bytes
    eachBlock f n s

def allBytes : Nat → Source → Mortal Bytes
  | 0, _ => return []
  | n + 1, s => do
    let (bytes, s) ← s.take blockSize
    if bytes.isEmpty then return []
    return bytes ++ (← allBytes n s)

def withSources (around : Surroundings) (name : String) (fault : String → FileFault → String)
    (args : List String) (f : Source → Mortal Unit) : Mortal Nat :=
  forEach (if args.isEmpty then ["-"] else args) fun arg => do
    match ← source around arg with
    | .ok s => f s; return true
    | .error e => complain (name ++ ": " ++ fault arg e); return false

end TabCompletion.Programs
