import TabCompletion.Process.Compose
import TabCompletion.Script.State

/-!
# Machines

A machine has programs, files, an environment and a clock. Commands run on it one after the other
and leave their files behind.
-/
namespace TabCompletion

structure Finished where
  ending : Ending
  out : Bytes := []
  err : Bytes := []
  files : Files

namespace Process

/-- Runs a process without a terminal. One that sleeps for ever counts as terminated. -/
def runDetached (out err : List Bytes) (files : Files) : Process Ending → Finished
  | .done ending => ⟨ending,out.reverse.flatten,err.reverse.flatten,files⟩
  | .print .out b k => runDetached (b :: out) err files (k ())
  | .print .err b k => runDetached out (b :: err) files (k ())
  | .configure _ k => runDetached out err files (k none)
  | .access change k => runDetached out err (change files) (k files)
  | .sleep (some _) _ k => runDetached out err files (k none)
  | .sleep none _ _ => ⟨.killed .terminate true,out.reverse.flatten,err.reverse.flatten,files⟩
  | .read _ _ k => runDetached out err files (k (.ok []))

end Process

structure Machine where
  programs : Programs
  files : Files
  directory : Location
  environment : List (String × String)
  clock : Nat := 0

namespace Machine

def lookup (m : Machine) (name : String) : Option String := m.environment.lookup name

def place (m : Machine) (path : String) : Location := Location.ofPath m.directory path

def directoryFault? (m : Machine) (path : String) : Option FileFault :=
  if path.isEmpty then some .missing
  else
    match m.files.wayFault? (m.place path) with
    | some fault => some fault
    | none =>
      if m.files.isDirectory (m.place path) then none
      else if m.files.has (m.place path) then some .notDirectory
      else some .missing

def readFile (m : Machine) (path : String) : FileContent :=
  if path.isEmpty then .error .missing else m.files.read (m.place path)

def surroundings (m : Machine) (name : String) (directory : Location) : Surroundings :=
  ⟨name,directory,m.environment⟩

def run (m : Machine) (name : String) (directory : Location) (args : List String) :
    Option Finished × Machine :=
  match m.programs.locate? directory ((m.lookup "PATH").getD Programs.standardPath) name with
  | none => (none, m)
  | some p =>
    let finished := (p (m.surroundings name directory) args).runDetached [] [] m.files
    (some finished, { m with files := finished.files })

def temporaryRoot (m : Machine) : String := (m.lookup "TMPDIR").getD "/tmp"

/-- Makes a directory for temporary files that a process needs: its path. The stamp tells it from
    others with the same name. -/
def makeTemporary (name : String) (process stamp : Nat) : StateM Machine String := fun m =>
  let path := m.temporaryRoot ++ "/tabprobe-" ++ name ++ s!"-{process}-{stamp}"
  (path, { m with files := m.files.makeWay (m.place path) })

end Machine
end TabCompletion
