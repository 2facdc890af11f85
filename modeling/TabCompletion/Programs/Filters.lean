import TabCompletion.Pattern.Match
import TabCompletion.Programs.Basic
import TabCompletion.Script.Format
import TabCompletion.Text.Lines

/-!
# Programs that copy and change text

Programs that read their input or files and print what they make of it.
-/
namespace TabCompletion.Programs
open Process

def cat (around : Surroundings) (args : List String) : Mortal Nat :=
  withSources around "cat" (fun arg e => arg ++ ": " ++ e.reason)
    (args.filter fun a => !(["-u","--"].contains a)) (eachBlock put readLimit)

def copyBytes : Nat → Nat → Source → Mortal Unit
  | 0, _, _ => return
  | rounds + 1, count, s => do
    if count = 0 then return
    let (bytes, s) ← s.take (min count blockSize)
    if bytes.isEmpty then return
    put bytes
    copyBytes rounds (count - bytes.length) s

/-- The bytes up to the end of so many lines, and the number of lines that are missing. -/
def takeLines : Nat → Bytes → Bytes × Nat
  | 0, _ => ([], 0)
  | n, [] => ([], n)
  | n + 1, b :: rest =>
    let (more, missing) := takeLines (if b = 10 then n else n + 1) rest
    (b :: more, missing)

def copyLines : Nat → Nat → Source → Mortal Unit
  | 0, _, _ => return
  | rounds + 1, count, s => do
    if count = 0 then return
    let (bytes, s) ← s.take blockSize
    if bytes.isEmpty then return
    let (lines, missing) := takeLines count bytes
    put lines
    copyLines rounds missing s

/-- A count in an argument: digits, in thousands or in multiples of 1024 if a letter follows. -/
def count? (text : String) : Option Nat :=
  let digits := text.toList.takeWhile Char.isDigit
  (String.ofList digits).toNat?.bind fun n =>
    match text.toList.drop digits.length with
    | [] => some n
    | ['b'] => some (n * 512)
    | ['k'] => some (n * 1024)
    | ['K'] => some (n * 1024)
    | ['M'] => some (n * 1024 * 1024)
    | ['k','B'] => some (n * 1000)
    | _ => none

structure HeadCall where
  bytes : Bool := false
  count : Nat := 10
  names : List String := []

def headCall (call : HeadCall) : List String → Except String HeadCall
  | [] => .ok call
  | "-c" :: n :: rest =>
    match count? n with
    | some count => headCall { call with bytes := true, count } rest
    | none => .error ("invalid number of bytes: '" ++ n ++ "'")
  | "-n" :: n :: rest =>
    match count? n with
    | some count => headCall { call with bytes := false, count } rest
    | none => .error ("invalid number of lines: '" ++ n ++ "'")
  | arg :: rest =>
    match arg.toList with
    | '-' :: 'c' :: n =>
      match count? (String.ofList n) with
      | some count => headCall { call with bytes := true, count } rest
      | none => .error ("invalid number of bytes: '" ++ String.ofList n ++ "'")
    | '-' :: 'n' :: n =>
      match count? (String.ofList n) with
      | some count => headCall { call with bytes := false, count } rest
      | none => .error ("invalid number of lines: '" ++ String.ofList n ++ "'")
    | '-' :: d :: n =>
      if d.isDigit then
        headCall { call with bytes := false, count := (count? (String.ofList (d :: n))).getD 10 } rest
      else .error ("invalid option -- '" ++ String.singleton d ++ "'")
    | _ => headCall { call with names := call.names ++ [arg] } rest

def head (around : Surroundings) (args : List String) : Mortal Nat :=
  match headCall {} args with
  | .error message =>
    if Text.occursIn "option".toList message.toList then misuse "head" message
    else do complain ("head: " ++ message); return 1
  | .ok call =>
    withSources around "head"
      (fun arg e => match e with
        | .directory => "error reading '" ++ arg ++ "': " ++ e.reason
        | e => "cannot open '" ++ arg ++ "' for reading: " ++ e.reason)
      call.names fun s =>
        if call.bytes then copyBytes readLimit call.count s else copyLines readLimit call.count s

def classBytes : String → List UInt8
  | "lower" => (List.range 26).map fun n => UInt8.ofNat (97 + n)
  | "upper" => (List.range 26).map fun n => UInt8.ofNat (65 + n)
  | "digit" => (List.range 10).map fun n => UInt8.ofNat (48 + n)
  | "space" => [9,10,11,12,13,32]
  | "blank" => [9,32]
  | "cntrl" => ((List.range 32).map UInt8.ofNat) ++ [127]
  | _ => []

/-- The bytes that a set without classes stands for, with ranges and escapes. -/
def setBytes : Nat → List Char → List UInt8
  | 0, _ => []
  | _, [] => []
  | fuel + 1, '[' :: ':' :: rest =>
    let name := rest.takeWhile (· != ':')
    classBytes (String.ofList name) ++ setBytes fuel (rest.drop (name.length + 2))
  | fuel + 1, c :: rest =>
    let unit (cs : List Char) : Bytes × List Char :=
      match cs with
      | '\\' :: more => let (bytes, after, _) := Script.Format.escape false more; (bytes, after)
      | c :: more => (Utf8.encodeChar c, more)
      | [] => ([], [])
    let (first, after) := unit (c :: rest)
    match after with
    | '-' :: d :: more =>
      let (last, after) := unit (d :: more)
      match first, last with
      | [a], [b] =>
        (List.range (b.toNat + 1 - a.toNat)).map (fun n => UInt8.ofNat (a.toNat + n)) ++
          setBytes fuel after
      | _, _ => first ++ last ++ setBytes fuel after
    | _ => first ++ setBytes fuel after

/-- The byte that stands for another one; the last byte of the second set stands for the rest of the
    first. -/
def mapByte (target : List UInt8) (b : UInt8) (source : List UInt8) : UInt8 :=
  match source.reverse.idxOf? b with
  | none => b
  | some k => (target[source.length - 1 - k]? <|> target.getLast?).getD b

/-- Bytes of which runs of one in a set are cut to one. -/
def squeeze (set : List UInt8) (previous : Option UInt8) : Bytes → Bytes
  | [] => []
  | b :: rest =>
    if previous = some b ∧ set.contains b then squeeze set previous rest
    else b :: squeeze set (some b) rest

/-- The bytes that are in a set, or that are not. -/
def setOf (complement : Bool) (text : String) : List UInt8 :=
  let set := setBytes (text.length + 1) text.toList
  if complement then ((List.range 256).map UInt8.ofNat).filter (!set.contains ·) else set

def tr (args : List String) : Mortal Nat := do
  let flags := (args.takeWhile fun a => a.length > 1 && a.toList.head? = some '-').flatMap
    fun a => a.toList.drop 1
  let sets := args.dropWhile fun a => a.length > 1 && a.toList.head? = some '-'
  let complement := flags.contains 'c' || flags.contains 'C'
  let first (text : String) := setOf complement text
  match flags.contains 'd', flags.contains 's', sets with
  | true, _, [a] =>
    let drop := first a
    eachBlock (fun bytes => put (bytes.filter (!drop.contains ·))) readLimit .input
    return 0
  | false, true, [a] =>
    let set := first a
    let bytes ← allBytes readLimit .input
    put (squeeze set none bytes)
    return 0
  | false, squeezed, [a,b] =>
    let source := first a
    let target := setOf false b
    eachBlock (fun bytes =>
      let mapped := bytes.map fun x => mapByte target x source
      put (if squeezed then squeeze target none mapped else mapped)) readLimit .input
    return 0
  | _, _, [] => misuse "tr" "missing operand"
  | _, _, [a] => do
    complain ("tr: missing operand after '" ++ a ++ "'")
    complain "Two strings must be given when translating."
    complain "Try 'tr --help' for more information."
    return 1
  | _, _, _ :: _ :: extra => misuse "tr" ("extra operand '" ++ extra.headD "" ++ "'")

def linesOf (bytes : Bytes) : List Bytes :=
  let pieces := bytes.splitOn 10
  if pieces.getLast? = some [] then pieces.dropLast else pieces

def grep (around : Surroundings) (args : List String) : Mortal Nat := do
  let isOption (a : String) : Bool := a.length > 1 && a.toList.head? = some '-'
  let flags := (args.takeWhile isOption).flatMap (·.toList.drop 1)
  match args.dropWhile isOption with
  | [] => complain "Usage: grep [OPTION]... PATTERNS [FILE]..."; return 2
  | text :: names =>
    let expression := (if flags.contains 'i' then "(?i)" else "") ++
      (if flags.contains 'x' then "^(?:" ++ text ++ ")$" else text)
    match Pattern.compile false expression with
    | .error _ => complain "grep: Invalid regular expression"; return 2
    | .ok pattern =>
      let hit (line : Bytes) : Bool :=
        (if flags.contains 'F' then Text.occursIn (Utf8.encode text) line
          else pattern.isFoundIn line) != flags.contains 'v'
      let results ← (if names.isEmpty then ["-"] else names).mapM fun name => do
        match ← source around name with
        | .error e => complain ("grep: " ++ name ++ ": " ++ e.reason); return none
        | .ok s =>
          let hits := (linesOf (← allBytes readLimit s)).filter hit
          if flags.contains 'c' then say (toString hits.length ++ "\n")
          else if !flags.contains 'q' then
            let front := if names.length > 1 then Utf8.encode (name ++ ":") else []
            hits.forM fun line => put (front ++ line ++ [10])
          return some hits.length
      return if results.contains none then 2 else if results.any (·.any (decide <| 0 < ·)) then 0 else 1

def column (width n : Nat) : String :=
  let digits := toString n
  String.ofList (List.replicate (width - digits.length) ' ') ++ digits

def wordCount (bytes : Bytes) : Nat :=
  let blank (b : UInt8) : Bool := [9,10,11,12,13,32].contains b
  (bytes.foldl (fun (n, inside) b =>
    if blank b then (n, false) else if inside then (n, true) else (n + 1, true))
    ((0, false) : Nat × Bool)).1

def wc (around : Surroundings) (args : List String) : Mortal Nat := do
  let flags := (args.filter fun a => a.length > 1 && a.toList.head? = some '-').flatMap String.toList
  let names := args.filter fun a => !(a.length > 1 && a.toList.head? = some '-')
  let counts (bytes : Bytes) : List Nat :=
    let shown (c : Char) := flags.isEmpty || flags.contains c
    (if shown 'l' then [bytes.count 10] else []) ++ (if shown 'w' then [wordCount bytes] else []) ++
      (if shown 'c' then [bytes.length] else [])
  let line (bytes : Bytes) (name : Option String) : String :=
    let ns := counts bytes
    let width := if ns.length ≤ 1 then 1 else if name.isSome then (toString bytes.length).length else 7
    " ".intercalate (ns.map (column width)) ++ (name.map (" " ++ ·)).getD "" ++ "\n"
  if names.isEmpty then
    say (line (← allBytes readLimit .input) none)
    return 0
  else
    forEach names fun name => do
      match ← source around name with
      | .ok s => say (line (← allBytes readLimit s) (some name)); return true
      | .error e => complain ("wc: " ++ name ++ ": " ++ e.reason); return false

def tee (around : Surroundings) (args : List String) : Mortal Nat := do
  let appending := args.contains "-a"
  let places := (args.filter (· != "-a")).map (Location.ofPath around.directory)
  if !appending then places.forM fun p => change (·.put p [])
  eachBlock (fun bytes => do
    put bytes
    places.forM fun p => change (·.append p bytes)) readLimit .input
  return 0

def seq (args : List String) : Mortal Nat := do
  let range (first step last : Nat) : List Nat :=
    if step = 0 then [] else
      (List.range ((last + step - first) / step)).map fun k => first + k * step
  let lines (ns : List Nat) : Mortal Nat := do
    ns.forM fun n => say (toString n ++ "\n")
    return 0
  match args.map String.toNat? with
  | [some last] => lines (range 1 1 last)
  | [some first,some last] => lines (range first 1 last)
  | [some first,some step,some last] => lines (range first step last)
  | [] => misuse "seq" "missing operand"
  | _ => misuse "seq" ("invalid floating point argument: '" ++
      ((args.find? fun a => a.toNat?.isNone).getD "") ++ "'")

def yes (args : List String) : Mortal Nat := do
  let line := (if args.isEmpty then "y" else " ".intercalate args) ++ "\n"
  eachBlock (fun _ => say line) readLimit (.supply .zeros)
  return 0

def echo (args : List String) : Mortal Nat := do
  match args with
  | "-n" :: rest => say (" ".intercalate rest)
  | "-e" :: rest => put ((Script.Format.escaped (" ".intercalate rest)).1 ++ [10])
  | rest => say (" ".intercalate rest ++ "\n")
  return 0

def printf (args : List String) : Mortal Nat := do
  match args with
  | [] => misuse "printf" "missing operand"
  | format :: args =>
    match Script.Format.printf format args with
    | .ok (bytes, faults) =>
      put bytes
      faults.forM fun f => complain ("printf: " ++ f)
      return if faults.isEmpty then 0 else 1
    | .error _ => complain "printf: invalid conversion specification"; return 1

end TabCompletion.Programs
