import TabCompletion.Files
import TabCompletion.Json.Printer
import TabCompletion.Json.Reader
import TabCompletion.Validation
import TabCompletion.Yaml.Document
import TabCompletion.Yaml.Printer

/-!
# Suite and timing files

A file with the extension `yaml` or `yml` is in YAML, every other one in JSON. A file that cannot be
read, that is not UTF-8, or that does not hold a valid suite or valid timing is an error.
-/
namespace TabCompletion

namespace SuiteFile

def pathParts (path : String) : List (List Char) :=
  (path.toList.splitOn '/').filter fun part => !part.isEmpty && part != ['.']

/-- The part after the last full stop of a file name that does not begin with it. -/
def extension? (path : String) : Option String :=
  match (pathParts path).getLast? with
  | none => none
  | some name =>
    let ext := (name.reverse.takeWhile (· != '.')).reverse
    if name = ['.','.'] ∨ name.length ≤ ext.length + 1 then none else some (String.ofList ext)

def isYaml (path : String) : Bool :=
  match extension? path with
  | some ext => ext == "yaml" || ext == "yml"
  | none => false

def formatName (path : String) : String := if isYaml path then "yaml" else "json"

def documentOf (path text : String) : DocumentText :=
  if isYaml path then Yaml.readText text else Json.readText text

def parseError (what path : String) (r : Refusal) : HarnessError :=
  .withDetails .config ("failed to parse " ++ what ++ " " ++ formatName path)
    [("path", .str path),("source", .str r.message)]

def textOf (what : String) (content : FileContent) : HarnessResult String :=
  let failed (source : String) : HarnessError := .io ("failed to read " ++ what ++ " file") source
  match content with
  | .error fault => .error (failed fault.message)
  | .ok bytes =>
    match Utf8.decode? bytes with
    | .ok text => .ok text
    | .error _ => .error (failed "stream did not contain valid UTF-8")

def load {α : Type} (what : String) (read : Node → Reading α) (path : String)
    (content : FileContent) : HarnessResult α := do
  let text ← textOf what content
  match (documentOf path text).read read with
  | .ok a => return a
  | .error r => throw (parseError what path r)

def loadSuite (path : String) (content : FileContent) : HarnessResult Suite := do
  let suite ← load "suite" Suite.read path content
  suite.validate
  return suite

def loadConfig (path : String) (content : FileContent) : HarnessResult HarnessConfig := do
  let config ← load "config" HarnessConfig.read path content
  config.validate
  return config

def write (path : String) (suite : Suite) : String :=
  if isYaml path then Yaml.render suite.toJson else suite.toJson.render

end SuiteFile
end TabCompletion
