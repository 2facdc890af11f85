import TabCompletion.Yaml.Token

/-!
# Events of YAML documents

A document is the list of its scalars and references and of the starts and ends of its collections.
`Event.firstDocument` gives the events of the first document of a text; where the text is not well
formed they end.
-/
namespace TabCompletion.Yaml

inductive Event where
  | reference (name : String)
  | scalar (anchor tag : Option String) (content : String) (form : ScalarForm)
  | sequenceStart (anchor : Option String)
  | sequenceEnd
  | mappingStart (anchor : Option String)
  | mappingEnd
  deriving DecidableEq, Repr, Inhabited

/-- Events that were read, and the tokens after them unless there is a fault. -/
structure Parsed where
  events : List Event
  rest : Option (List Token)

namespace Parsed

def fault : Parsed := ⟨[],none⟩

def one (e : Event) (rest : List Token) : Parsed := ⟨[e],some rest⟩

def andThen (p : Parsed) (next : List Token → Parsed) : Parsed :=
  match p.rest with
  | none => p
  | some tokens =>
    let q := next tokens
    ⟨p.events ++ q.events,q.rest⟩

end Parsed

namespace Event

def absent : Event := .scalar none none "" .plain

def parseAbsent (tokens : List Token) : Parsed := .one absent tokens

def defaultHandles : List (String × String) := [("!", "!"),("!!", "tag:yaml.org,2002:")]

def resolveTag? (handles : List (String × String)) (handle suffix : String) : Option String :=
  if handle = "" then some suffix
  else (handles.lookup handle).map (· ++ suffix)

/-- The anchor and the tag before a node, in any order, each at most once. -/
structure Properties where
  anchor : Option String := none
  tag : Option (String × String) := none

def readProperties : List Token → Properties × List Token
  | .anchor a :: .tag h s :: rest => (⟨some a,some (h, s)⟩, rest)
  | .tag h s :: .anchor a :: rest => (⟨some a,some (h, s)⟩, rest)
  | .anchor a :: rest => (⟨some a,none⟩, rest)
  | .tag h s :: rest => (⟨none,some (h, s)⟩, rest)
  | tokens => ({}, tokens)

def endsPair : Token → Bool
  | .key => true
  | .value => true
  | .blockEnd => true
  | _ => false

def endsEntry : Token → Bool
  | .blockEntry => true
  | .blockEnd => true
  | _ => false

def endsIndentless : Token → Bool
  | .blockEntry => true
  | t => endsPair t

def endsFlowPair : Token → Bool
  | .flowEntry => true
  | .flowMappingEnd => true
  | _ => false

def endsFlowEntry : Token → Bool
  | .flowEntry => true
  | .flowSequenceEnd => true
  | _ => false

/-- A node, unless a token that ends it comes first; then the node is absent. -/
def nodeUnless (ends : Token → Bool) (node : List Token → Parsed) (tokens : List Token) : Parsed :=
  match tokens with
  | [] => .fault
  | t :: _ => if ends t then parseAbsent tokens else node tokens

mutual

/-- A node. `block` admits blocks, `indentless` a sequence without a block of its own. -/
def parseNode (handles : List (String × String)) (block indentless : Bool) :
    Nat → List Token → Parsed
  | 0, _ => .fault
  | _, .reference name :: rest => .one (.reference name) rest
  | fuel + 1, tokens =>
    let (props, tokens) := readProperties tokens
    let tag? := match props.tag with
      | none => some none
      | some (h, s) => (resolveTag? handles h s).map some
    match tag?, tokens with
    | none, _ => .fault
    | _, [] => .fault
    | some tag, t :: rest =>
      match t with
      | .scalar content form =>
        .one (.scalar props.anchor (tag.filter (· != "!")) content form) rest
      | .flowSequenceStart =>
        (Parsed.one (.sequenceStart props.anchor) rest).andThen (parseFlowEntries handles true fuel)
      | .flowMappingStart =>
        (Parsed.one (.mappingStart props.anchor) rest).andThen (parseFlowPairs handles true fuel)
      | t =>
        if indentless && t == .blockEntry then
          (Parsed.one (.sequenceStart props.anchor) tokens).andThen (parseIndentless handles fuel)
        else if block && t == .blockSequenceStart then
          (Parsed.one (.sequenceStart props.anchor) rest).andThen (parseEntries handles fuel)
        else if block && t == .blockMappingStart then
          (Parsed.one (.mappingStart props.anchor) rest).andThen (parsePairs handles fuel)
        else if props.anchor.isSome || tag.isSome then
          .one (.scalar props.anchor tag "" .plain) tokens
        else .fault

def parseEntries (handles : List (String × String)) : Nat → List Token → Parsed
  | 0, _ => .fault
  | fuel + 1, .blockEntry :: rest =>
    (nodeUnless endsEntry (parseNode handles true false fuel) rest).andThen
      (parseEntries handles fuel)
  | _, .blockEnd :: rest => .one .sequenceEnd rest
  | _, _ => .fault

def parseIndentless (handles : List (String × String)) : Nat → List Token → Parsed
  | 0, _ => .fault
  | _, [] => .fault
  | fuel + 1, .blockEntry :: rest =>
    (nodeUnless endsIndentless (parseNode handles true false fuel) rest).andThen
      (parseIndentless handles fuel)
  | _, tokens => .one .sequenceEnd tokens

def parsePairs (handles : List (String × String)) : Nat → List Token → Parsed
  | 0, _ => .fault
  | fuel + 1, .key :: rest =>
    (nodeUnless endsPair (parseNode handles true true fuel) rest).andThen
      (parsePairValue handles fuel)
  | _, .blockEnd :: rest => .one .mappingEnd rest
  | _, _ => .fault

def parsePairValue (handles : List (String × String)) : Nat → List Token → Parsed
  | 0, _ => .fault
  | _, [] => .fault
  | fuel + 1, .value :: rest =>
    (nodeUnless endsPair (parseNode handles true true fuel) rest).andThen (parsePairs handles fuel)
  | fuel + 1, tokens => (parseAbsent tokens).andThen (parsePairs handles fuel)

/-- The entries between brackets; `first` says that none came before. -/
def parseFlowEntries (handles : List (String × String)) (first : Bool) :
    Nat → List Token → Parsed
  | 0, _ => .fault
  | _, .flowSequenceEnd :: rest => .one .sequenceEnd rest
  | fuel + 1, tokens =>
    let entries? := match first, tokens with
      | true, tokens => some tokens
      | false, .flowEntry :: rest => some rest
      | false, _ => none
    match entries? with
    | none => .fault
    | some (.key :: rest) =>
      (Parsed.one (.mappingStart none) rest).andThen (parseFlowSingle handles fuel)
    | some (.flowSequenceEnd :: rest) => .one .sequenceEnd rest
    | some tokens =>
      (parseNode handles false false fuel tokens).andThen (parseFlowEntries handles false fuel)

/-- The pair of an entry between brackets, and the entries after it. A sign in place of the key is
    taken away with it. -/
def parseFlowSingle (handles : List (String × String)) : Nat → List Token → Parsed
  | 0, _ => .fault
  | _, [] => .fault
  | fuel + 1, t :: rest =>
    let pairKey :=
      if t == .value || endsFlowEntry t then parseAbsent rest
      else parseNode handles false false fuel (t :: rest)
    (pairKey.andThen (parseFlowSingleValue handles fuel)).andThen fun tokens =>
      (Parsed.one .mappingEnd tokens).andThen (parseFlowEntries handles false fuel)

def parseFlowSingleValue (handles : List (String × String)) : Nat → List Token → Parsed
  | 0, _ => .fault
  | _, [] => .fault
  | fuel + 1, .value :: rest => nodeUnless endsFlowEntry (parseNode handles false false fuel) rest
  | _, tokens => parseAbsent tokens

def parseFlowPairs (handles : List (String × String)) (first : Bool) : Nat → List Token → Parsed
  | 0, _ => .fault
  | _, .flowMappingEnd :: rest => .one .mappingEnd rest
  | fuel + 1, tokens =>
    let pairs? := match first, tokens with
      | true, tokens => some tokens
      | false, .flowEntry :: rest => some rest
      | false, _ => none
    match pairs? with
    | none => .fault
    | some (.key :: rest) =>
      (nodeUnless (fun t => t == .value || endsFlowPair t) (parseNode handles false false fuel)
        rest).andThen (parseFlowPairValue handles fuel)
    | some (.flowMappingEnd :: rest) => .one .mappingEnd rest
    | some tokens =>
      ((parseNode handles false false fuel tokens).andThen parseAbsent).andThen
        (parseFlowPairs handles false fuel)

def parseFlowPairValue (handles : List (String × String)) : Nat → List Token → Parsed
  | 0, _ => .fault
  | _, [] => .fault
  | fuel + 1, .value :: rest =>
    (nodeUnless endsFlowPair (parseNode handles false false fuel) rest).andThen
      (parseFlowPairs handles false fuel)
  | fuel + 1, tokens => (parseAbsent tokens).andThen (parseFlowPairs handles false fuel)

end

/-- The handles of tags that directives declare, and the tokens after the directives. There is at
    most one version, 1.1 or 1.2, and at most one directive for a handle. -/
def readDirectives (version : Bool) (handles : List (String × String)) :
    List Token → Option (List (String × String) × List Token)
  | .version major minor :: rest =>
    if version || major ≠ 1 || (minor ≠ 1 && minor ≠ 2) then none
    else readDirectives true handles rest
  | .tagDirective handle start :: rest =>
    if (handles.lookup handle).isSome then none
    else readDirectives version ((handle, start) :: handles) rest
  | tokens => some (handles, tokens)

def endsDocument : Token → Bool
  | .version _ _ => true
  | .tagDirective _ _ => true
  | .documentStart => true
  | .documentEnd => true
  | .streamEnd => true
  | _ => false

def opensDocument : Token → Bool
  | .version _ _ => true
  | .tagDirective _ _ => true
  | .documentStart => true
  | _ => false

def parseDocument (tokens : List Token) : Parsed :=
  let fuel := 4 * tokens.length + 4
  match tokens with
  | [] => .fault
  | t :: _ =>
    if opensDocument t then
      match readDirectives false [] tokens with
      | some (handles, .documentStart :: rest) =>
        nodeUnless endsDocument (parseNode (handles ++ defaultHandles) true false fuel) rest
      | _ => .fault
    else parseNode defaultHandles true false fuel tokens

def isLast : List Token → Bool
  | .documentEnd :: rest => isLast rest
  | [.streamEnd] => true
  | _ => false

/-- The first document of a text: its events, or none if the text has no document, and whether it is
    well formed and the only one. -/
def firstDocument (text : String) : Option (List Event) × Bool :=
  match Token.scan text with
  | ([.streamEnd], _) => (none, true)
  | (tokens, _) =>
    let parsed := parseDocument tokens
    (some parsed.events, parsed.rest.any isLast)

end Event
end TabCompletion.Yaml
