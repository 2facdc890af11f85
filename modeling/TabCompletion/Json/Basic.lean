/-!
# JSON values

The values that reports, suites and error contexts are exchanged as. Numbers are integers from
`-2 ^ 63` to `2 ^ 64 - 1` or floating-point numbers. The fields of an object have an order; objects
without a fixed list of fields are kept in ascending order of their keys (`Json.table`).
-/
namespace TabCompletion

/-- An entry put at its place among ascending keys; an entry with the same key is replaced. -/
def putEntry {α : Type} (key : String) (value : α) : List (String × α) → List (String × α)
  | [] => [(key, value)]
  | (k, v) :: rest =>
    if key < k then (key, value) :: (k, v) :: rest
    else if k < key then (k, v) :: putEntry key value rest
    else (key, value) :: rest

def putAll {α : Type} (entries pairs : List (String × α)) : List (String × α) :=
  pairs.foldl (fun entries (key, value) => putEntry key value entries) entries

inductive Json where
  | null
  | bool (b : Bool)
  | int (n : Int)
  | float (x : Float)
  | str (s : String)
  | arr (items : List Json)
  | obj (fields : List (String × Json))
  deriving Inhabited

namespace Json

instance : Coe String Json := ⟨.str⟩

def nat (n : Nat) : Json := .int n

def strs (texts : List String) : Json := .arr (texts.map .str)

/-- An object with its fields in ascending order; of two fields with one key the later counts. -/
def table (fields : List (String × Json)) : Json := .obj (putAll [] fields)

def field? (key : String) : Json → Option Json
  | .obj fields => fields.lookup key
  | _ => none

/-- The value of a field; a missing field counts as null. -/
def field (key : String) (j : Json) : Json := (j.field? key).getD .null

def without (key : String) : Json → Json
  | .obj fields => .obj (fields.filter (·.1 != key))
  | j => j

/-- A field that is left out when there is no value. -/
def optional (key : String) : Option Json → List (String × Json)
  | some v => [(key, v)]
  | none => []

end Json
end TabCompletion
