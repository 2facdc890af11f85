import TabCompletion.Document.Node

/-!
# Records and unions in documents

A record is read field by field in the order of the document: `Record.put` reads one field into a
partial value, `Record.finish` makes the value once all fields were read. A positional list stands
for the record with its fields in declared order. A union is a map in which one entry, the tag,
names the alternative; the other entries are the fields of that alternative.
-/
namespace TabCompletion

/-- How a record is read: its field names in declared order, whether other fields are refused, the
    partial value without fields, how one field is read into it, and what it becomes. -/
structure Record (π α : Type) where
  names : List String
  closed : Bool
  start : π
  put : String → Node → π → Reading π
  finish : π → Reading α

namespace Record

variable {π α : Type}

/-- Reads entries into a partial value; `seen` holds the names of the fields read so far. -/
def readEntries (r : Record π α) : List String → List (Node × Node) → π → Reading π
  | _, [], soFar => .ok soFar
  | seen, (key, value) :: rest, soFar =>
    match key.readString with
    | .error e => .error e
    | .ok name =>
      if r.names.contains name then
        if seen.contains name then .error (.malformed ("one field " ++ name))
        else
          match r.put name value soFar with
          | .error e => .error e
          | .ok next => r.readEntries (name :: seen) rest next
      else if r.closed then .error (.malformed "a known field")
      else r.readEntries seen rest soFar

/-- Reads entries, then finishes, if the map has an end. -/
def readMap (r : Record π α) (entries : List (Node × Node)) (ended : Bool) : Reading α :=
  match r.readEntries [] entries r.start with
  | .error e => .error e
  | .ok all => if ended then r.finish all else .error (.malformed "the end of a map")

def read (r : Record π α) (n : Node) : Reading α :=
  match n with
  | .map entries ended => r.readMap entries ended
  | .list true items ended =>
    r.readMap ((r.names.map Node.str).zip items) (ended && items.length ≤ r.names.length)
  | .void => r.finish r.start
  | n => if n.isBlankScalar then r.finish r.start else .error (.malformed "a map")

end Record

def required {α : Type} (name : String) : Option α → Reading α
  | some a => .ok a
  | none => .error (.malformed ("a field " ++ name))

namespace Node

/-- The entry with the tag, and the other entries in order; `none` if there are two tags. -/
def takeTag (tag : String) : Option Node → List (Node × Node) →
    Option (Option Node × List (Node × Node))
  | found, [] => some (found, [])
  | found, (key, value) :: rest =>
    if (match key with | .str s => s == tag | _ => false) then
      match found with
      | some _ => none
      | none => takeTag tag (some value) rest
    else (takeTag tag found rest).map fun (f, others) => (f, (key, value) :: others)

/-- The name of the alternative of a union, and the document of its fields. -/
def readUnion (tag : String) : Node → Reading (String × Node)
  | .map entries true =>
    match takeTag tag none entries with
    | some (some (.str name), others) => .ok (name, .map others true)
    | _ => .error (.malformed ("one field " ++ tag))
  | .list true (.str name :: items) true => .ok (name, .list true items true)
  | _ => .error (.malformed ("a map with a field " ++ tag))

/-- The fields of an alternative that has none: other entries are ignored, items are not. -/
def readNothing : Node → Reading Unit
  | .list _ (_ :: _) _ => .error (.malformed "no items")
  | _ => .ok ()

end Node
end TabCompletion
