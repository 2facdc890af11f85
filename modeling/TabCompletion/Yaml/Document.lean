import TabCompletion.Json.Reader
import TabCompletion.Yaml.Event

/-!
# Documents of YAML texts

`Yaml.readText` gives the document of a text in YAML. A reference stands for the node with its
anchor; one that is inside that node, or that would make the document too large, is unreadable. Text
that stops being well formed, or a reference without an anchor, cuts the document.
-/
namespace TabCompletion.Yaml

/-- Where the nodes with anchors are: for each name its number, and for each number the index of the
    first event of its node. -/
structure Anchors where
  numbers : List (String × Nat) := []
  places : List (Nat × Nat) := []

namespace Anchors

/-- An anchor before the node with the index. Its number is how many other names came before; of
    two nodes with one number the later counts. -/
def put (name : String) (index : Nat) (a : Anchors) : Anchors :=
  let number := a.numbers.length
  ⟨(name, number) :: a.numbers.filter (·.1 != name),(number, index) :: a.places⟩

end Anchors

inductive Piece where
  | reference (number : Nat)
  | event (e : Event)
  deriving Inhabited

def anchorOf : Event → Option String
  | .scalar anchor _ _ _ => anchor
  | .sequenceStart anchor => anchor
  | .mappingStart anchor => anchor
  | _ => none

/-- Resolves references, up to the first one without an anchor: the pieces, the anchors, and whether
    all references have one. -/
def resolve : Nat → Anchors → List Event → List Piece × Anchors × Bool
  | _, anchors, [] => ([], anchors, true)
  | index, anchors, .reference name :: rest =>
    match anchors.numbers.lookup name with
    | none => ([], anchors, false)
    | some number =>
      let (pieces, anchors, all) := resolve (index + 1) anchors rest
      (.reference number :: pieces, anchors, all)
  | index, anchors, e :: rest =>
    let anchors := match anchorOf e with
      | some name => anchors.put name index
      | none => anchors
    let (pieces, anchors, all) := resolve (index + 1) anchors rest
    (.event e :: pieces, anchors, all)

structure Source where
  pieces : Array Piece
  places : List (Nat × Nat)

mutual

/-- The node at an index, the index after it, and how many references may still be followed. `inside`
    holds the indices of the nodes around it. -/
def composeNode (s : Source) : Nat → List Nat → Nat → Nat → Node × Nat × Nat
  | 0, _, index, jumps => (.unreadable, index, jumps)
  | fuel + 1, inside, index, jumps =>
    match s.pieces[index]? with
    | none => (.cut, index, jumps)
    | some (.reference number) =>
      match s.places.lookup number, jumps with
      | some target, jumps + 1 =>
        if inside.contains target then (.unreadable, index + 1, jumps)
        else
          let (node, _, jumps) := composeNode s fuel inside target jumps
          (node, index + 1, jumps)
      | _, _ => (.unreadable, index + 1, jumps)
    | some (.event (.scalar _ tag content form)) => (.text content form tag, index + 1, jumps)
    | some (.event (.sequenceStart _)) =>
      let (items, ended, next, jumps) := composeItems s fuel (index :: inside) (index + 1) jumps
      (.list false items ended, next, jumps)
    | some (.event (.mappingStart _)) =>
      let (entries, ended, next, jumps) := composeEntries s fuel (index :: inside) (index + 1) jumps
      (.map entries ended, next, jumps)
    | some (.event _) => (.cut, index, jumps)

def composeItems (s : Source) : Nat → List Nat → Nat → Nat → List Node × Bool × Nat × Nat
  | 0, _, index, jumps => ([], false, index, jumps)
  | fuel + 1, inside, index, jumps =>
    match s.pieces[index]? with
    | none => ([], false, index, jumps)
    | some (.event .sequenceEnd) => ([], true, index + 1, jumps)
    | some _ =>
      let (item, next, jumps) := composeNode s fuel inside index jumps
      let (items, ended, next, jumps) := composeItems s fuel inside next jumps
      (item :: items, ended, next, jumps)

def composeEntries (s : Source) :
    Nat → List Nat → Nat → Nat → List (Node × Node) × Bool × Nat × Nat
  | 0, _, index, jumps => ([], false, index, jumps)
  | fuel + 1, inside, index, jumps =>
    match s.pieces[index]? with
    | none => ([], false, index, jumps)
    | some (.event .mappingEnd) => ([], true, index + 1, jumps)
    | some _ =>
      let (key, next, jumps) := composeNode s fuel inside index jumps
      let (value, next, jumps) := composeNode s fuel inside next jumps
      let (entries, ended, next, jumps) := composeEntries s fuel inside next jumps
      ((key, value) :: entries, ended, next, jumps)

end

/-- How many references may be followed for each event of a document. -/
def jumpsPerEvent : Nat := 100

def readText (text : String) : DocumentText :=
  match Event.firstDocument text with
  | (none, clean) => ⟨.void,clean⟩
  | (some events, clean) =>
    let (pieces, anchors, all) := resolve 0 {} events
    let size := pieces.length
    let source : Source := ⟨pieces.toArray,anchors.places⟩
    let (root, _) := composeNode source ((size + 2) * (size + 2)) [] 0 (jumpsPerEvent * size)
    ⟨root,clean && all⟩

end TabCompletion.Yaml
