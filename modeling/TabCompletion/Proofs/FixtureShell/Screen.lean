import TabCompletion.Proofs.FixtureShell.Keys
import TabCompletion.Proofs.FixtureShell.Listing

/-!
# The screen of the fixture shell

What the fixture shell prints is drawn on the last row of a terminal (`row`). A key that does not end the
shell takes the row from its prompt and line to its prompt and line after the key (`press_draws`), so the row
shows them after any keys (`row_shows_line`). Candidates are withheld only as long as they are those for the
line.
-/
namespace TabCompletion.FixtureShell

open Text Utf8

variable {s after : FixtureShell} {shown output rest : Bytes} {b : UInt8} {cs head typed word line keyspace : List Char}
  {candidates : List (List Char)}

/-- A row after a byte: a backspace drops the last byte of it, the bell shows nothing, and any other byte is
    put at its end. -/
def drawByte (shown : Bytes) (b : UInt8) : Bytes :=
  if b = backspace then shown.dropLast else if b = bell then shown else shown ++ [b]

/-- The last row after bytes are drawn on it. A line break begins an empty row. -/
def row (shown : Bytes) : Bytes → Bytes
  | [] => shown
  | 0x0D :: 0x0A :: rest => row [] rest
  | b :: rest => row (drawByte shown b) rest

theorem row_byte (shown rest : Bytes) (other : b ≠ 0x0D) : row shown (b :: rest) = row (drawByte shown b) rest := by
  rw [row]
  rintro _ rfl
  exact absurd rfl other

theorem row_bell (shown rest : Bytes) : row shown (bell :: rest) = row shown rest := row_byte shown rest (by decide)

/-- Text without control characters is put at the end of a row. -/
theorem row_plain (plain : Plain cs) : row shown (encodeChars cs ++ rest) = row (shown ++ encodeChars cs) rest := by
  have others : ∀ b ∈ encodeChars cs, b ≠ 0x0D ∧ b ≠ backspace ∧ b ≠ bell := by
    intro b member
    refine ⟨?_,?_,?_⟩ <;> rintro rfl <;> exact not_mem_encodeChars_of_plain plain (by decide) member
  generalize encodeChars cs = bytes at others ⊢
  induction bytes generalizing shown with
  | nil => rw [List.nil_append,List.append_nil]
  | cons b bytes ih =>
    obtain ⟨⟨noReturn,noBackspace,noBell⟩,others⟩ := List.forall_mem_cons.mp others
    rw [List.cons_append,row_byte shown _ noReturn,drawByte,if_neg noBackspace,if_neg noBell,ih others,
      List.append_assoc,List.singleton_append]

/-- As many backspaces as bytes leave what was there before the bytes. -/
theorem row_backspaces (shown bytes rest : Bytes) :
    row (shown ++ bytes) (List.replicate bytes.length backspace ++ rest) = row shown rest := by
  induction bytes using List.reverseRecOn with
  | nil => simp
  | append_singleton bytes b ih =>
    rw [List.length_append,List.length_singleton,List.replicate_succ,List.cons_append,
      row_byte _ _ (by decide),drawByte,if_pos rfl,← List.append_assoc,List.dropLast_concat,ih]

/-- A new line of plain text is a row of its own. -/
theorem row_newLine (plain : Plain cs) :
    row shown (encodeChars ('\r' :: '\n' :: cs) ++ rest) = row (encodeChars cs) rest := by
  have bytes : encodeChars ('\r' :: '\n' :: cs) ++ rest = 0x0D :: 0x0A :: (encodeChars cs ++ rest) := rfl
  rw [bytes,row,row_plain plain,List.nil_append]

/-- The line and the keyspace of a shell are printable, and what is withheld are the candidates for its line. -/
structure Faithful (s : FixtureShell) : Prop where
  line : Printable s.line
  keyspace : Printable s.keyspace
  withheld : ∀ candidates, s.withheld = some candidates → complete s.line s.keyspace = .ambiguous candidates

theorem faithful_of_empty (typed : Printable s.line) (keys : Printable s.keyspace) (empty : s.withheld = none) :
    Faithful s where
  line := typed
  keyspace := keys
  withheld candidates withheld := by
    rw [empty] at withheld
    cases withheld

/-- What a shell has on the last row: its prompt and its line. -/
def display (s : FixtureShell) : Bytes := encodeChars (s.prompt ++ s.line)

theorem printable_prompt (keys : Printable s.keyspace) : Printable s.prompt := by
  have before : Printable "fake:".toList := by decide
  have behind : Printable "> ".toList := by decide
  exact printable_append.mpr ⟨printable_append.mpr ⟨before,keys⟩,behind⟩

theorem Faithful.display_plain (faithful : Faithful s) : Plain (s.prompt ++ s.line) :=
  (printable_append.mpr ⟨printable_prompt faithful.keyspace,faithful.line⟩).plain

theorem mem_of_mem_dropEnd {drop : Char → Bool} {c : Char} (member : c ∈ dropEnd drop cs) : c ∈ cs :=
  List.mem_reverse.mp ((List.dropWhile_sublist drop).subset (List.mem_reverse.mp member))

/-- A new keyspace is a part of the line. -/
theorem printable_keyspaceAfter (typed : Printable line) (keys : Printable keyspace) :
    Printable (keyspaceAfter (command line) keyspace) := by
  unfold keyspaceAfter
  split
  next verb name words =>
    split
    · intro c member
      have inName : c ∈ name := (List.dropWhile_sublist _).subset (mem_of_mem_dropEnd member)
      have among : name ∈ wordsChars (command line) := by rw [words]; simp
      exact typed c (mem_of_mem_trimChars (mem_of_mem_dropEnd (of_mem_wordsChars among inName)))
    · exact keys
  next => exact keys

/-! ## Keys -/

/-- What is printed makes the row that of a shell, which is faithful. -/
structure Draws (shown output : Bytes) (after : FixtureShell) : Prop where
  faithful : Faithful after
  row_eq : ∀ rest, row shown (output ++ rest) = row after.display rest

theorem Draws.trans {t : FixtureShell} {more : Bytes} (one : Draws shown output after)
    (other : Draws after.display more t) : Draws shown (output ++ more) t where
  faithful := other.faithful
  row_eq rest := by rw [List.append_assoc,one.row_eq,other.row_eq]

theorem draws_nothing (faithful : Faithful s) : Draws s.display [] s := ⟨faithful,fun _ => rfl⟩

theorem draws_bell (faithful : Faithful s) : Draws s.display [bell] s := ⟨faithful,fun rest => row_bell _ rest⟩

/-- A new prompt, after what is left of the row that is given up. -/
theorem draws_newPrompt {mark : List Char} (plain : Plain mark) (faithful : Faithful after) (empty : after.line = []) :
    Draws shown (encodeChars (mark ++ after.newPrompt)) after := by
  refine ⟨faithful,fun rest => ?_⟩
  have prompt := (printable_prompt faithful.keyspace).plain
  rw [encodeChars_append,List.append_assoc,row_plain plain,newPrompt,row_newLine prompt,display,empty,List.append_nil]

theorem printable_of_ambiguous (typed : Printable line) (keys : Printable keyspace)
    (ambiguous : complete line keyspace = .ambiguous candidates) : ∀ w ∈ candidates, Printable w := by
  obtain ⟨head,last,splits,whole,-⟩ := splitLine_eq line
  have before := (printable_append.mp (whole.symm ▸ typed)).1
  have completes := complete_completes splits keyspace
  rw [ambiguous] at completes
  cases completes <;> exact fun _ => printable_candidatesFor before keys

/-- What is inserted replaces the end of the line by printable text. -/
theorem retyped_of_insert {longer : List Char} (typed : Printable line) (keys : Printable keyspace)
    (inserts : complete line keyspace = .insert output longer) :
    ∃ head last word, head ++ last = line ∧ Printable word ∧ output = encodeChars (retyped last word) ∧
      longer = head ++ word := by
  obtain ⟨head,last,splits,whole,-⟩ := splitLine_eq line
  obtain ⟨before,lastPrintable⟩ := printable_append.mp (whole.symm ▸ typed)
  have printable : ∀ w ∈ candidatesFor head last keyspace, Printable w := fun _ => printable_candidatesFor before keys
  have completes := complete_completes splits keyspace
  generalize candidatesFor head last keyspace = candidates at printable completes
  generalize complete line keyspace = done at inserts completes
  cases completes with
  | nothing => cases inserts
  | @only word one =>
    rw [replaceWord_eq lastPrintable] at inserts
    cases inserts
    exact ⟨head,last,_,whole,printable_append.mpr ⟨printable word (one ▸ List.mem_cons_self),by decide⟩,rfl,rfl⟩
  | common several =>
    obtain ⟨first,others,rfl⟩ := List.exists_cons_of_length_pos (Nat.lt_of_succ_lt several)
    rw [replaceWord_eq lastPrintable] at inserts
    cases inserts
    have start := commonStart_isPrefix first others
    exact ⟨head,last,_,whole,fun c member => printable first List.mem_cons_self c (start.subset member),rfl,rfl⟩
  | hints => cases inserts
  | undecided => cases inserts

theorem row_retyped (printable : Printable typed) (plain : Plain word) :
    row (shown ++ encodeChars typed) (encodeChars (retyped typed word) ++ rest) = row (shown ++ encodeChars word) rest := by
  unfold retyped
  split
  next begins =>
    obtain ⟨more,rfl⟩ := List.isPrefixOf_iff_prefix.mp begins
    rw [List.drop_left,row_plain (plain_append.mp plain).2,encodeChars_append,List.append_assoc]
  next =>
    rw [encodeChars_append,encodeChars_backspaces,List.append_assoc,← length_encodeChars printable,row_backspaces,
      row_plain plain]

/-- The listing of what is withheld, with the prompt and the line after it. -/
theorem pressTab_withheld (withheld : s.withheld = some candidates) :
    s.pressTab = (encodeChars ('\r' :: '\n' :: "  ".toList.intercalate candidates ++
      '\r' :: '\n' :: (s.prompt ++ s.line)), { s with withheld := none }) := by
  have listing : '\r' :: '\n' :: "  ".toList.intercalate candidates ++ s.newPrompt ++ s.line =
      '\r' :: '\n' :: "  ".toList.intercalate candidates ++ '\r' :: '\n' :: (s.prompt ++ s.line) :=
    List.append_assoc _ _ _
  rw [pressTab,withheld,← listing]

theorem pressTab_draws (faithful : Faithful s) : Draws s.display s.pressTab.1 s.pressTab.2 := by
  cases withheld : s.withheld with
  | some candidates =>
    rw [pressTab_withheld withheld]
    refine ⟨faithful_of_empty faithful.line faithful.keyspace rfl,fun rest => ?_⟩
    have printable := printable_of_ambiguous faithful.line faithful.keyspace (faithful.withheld candidates withheld)
    have joined := plain_joined fun w among => (printable w among).plain
    rw [encodeChars_append,List.append_assoc,row_newLine joined,row_newLine faithful.display_plain]
    rfl
  | none =>
    rw [pressTab,withheld]
    dsimp only
    split
    next output longer inserts =>
      obtain ⟨head,last,word,whole,printable,rfl,rfl⟩ := retyped_of_insert faithful.line faithful.keyspace inserts
      obtain ⟨before,lastPrintable⟩ := printable_append.mp (whole.symm ▸ faithful.line)
      refine ⟨faithful_of_empty (printable_append.mpr ⟨before,printable⟩) faithful.keyspace rfl,fun rest => ?_⟩
      have old : s.display = encodeChars (s.prompt ++ head) ++ encodeChars last := by
        rw [display,← whole,← encodeChars_append,List.append_assoc]
      rw [old,row_retyped lastPrintable printable.plain,← encodeChars_append,List.append_assoc]
      rfl
    next candidates ambiguous =>
      refine ⟨⟨faithful.line,faithful.keyspace,?_⟩,fun rest => row_bell _ rest⟩
      rintro _ ⟨⟩
      exact ambiguous
    next => exact draws_bell faithful

theorem pressEnter_draws (faithful : Faithful s) (empty : s.withheld = none)
    (pressed : s.pressEnter = (output, .goOn, after)) : Draws s.display output after := by
  unfold pressEnter at pressed
  dsimp only at pressed
  split at pressed
  next => cases pressed
  next =>
    cases pressed
    have keys := printable_keyspaceAfter faithful.line faithful.keyspace
    have noMark : Plain [] := nofun
    exact draws_newPrompt noMark (faithful_of_empty nofun keys empty) rfl

theorem delete_draws (faithful : Faithful s) (empty : s.withheld = none) (nonempty : s.line ≠ []) :
    Draws s.display [backspace,0x20,backspace] { s with line := s.line.dropLast } := by
  have kept : s.line.dropLast ++ [s.line.getLast nonempty] = s.line := List.dropLast_append_getLast nonempty
  obtain ⟨printable,last⟩ := printable_append.mp (kept.symm ▸ faithful.line)
  refine ⟨faithful_of_empty printable faithful.keyspace empty,fun rest => ?_⟩
  -- The last character is one byte, and so is the space that is printed over it.
  have old : s.display = encodeChars (s.prompt ++ s.line.dropLast) ++ encodeChars [s.line.getLast nonempty] := by
    rw [display,← encodeChars_append,List.append_assoc,kept]
  have back := row_backspaces (encodeChars (s.prompt ++ s.line.dropLast)) (encodeChars [s.line.getLast nonempty])
    (encodeChars [' '] ++ backspace :: rest)
  rw [length_encodeChars last] at back
  have space : Plain [' '] := by decide
  rw [old]
  refine back.trans ?_
  rw [row_plain space]
  exact row_backspaces _ (encodeChars [' ']) rest

theorem draws_cancel (faithful : Faithful s) (empty : s.withheld = none) :
    Draws shown (encodeChars ('^' :: 'C' :: s.newPrompt)) { s with line := [] } := by
  have mark : Plain ['^','C'] := by decide
  have cleared : Faithful { s with line := [] } := faithful_of_empty nofun faithful.keyspace empty
  exact draws_newPrompt mark cleared rfl

theorem draws_typed (faithful : Faithful s) (empty : s.withheld = none) {key : UInt8} (between : 0x20 ≤ key ∧ key < 0x7F) :
    Draws s.display [key] { s with line := s.line ++ [Char.ofNat key.toNat] } := by
  rw [UInt8.le_iff_toNat_le,UInt8.lt_iff_toNat_lt] at between
  have value : (Char.ofNat key.toNat).toNat = key.toNat := toNat_ofNat_ascii (Nat.lt_trans between.2 (by decide))
  have printable : Printable [Char.ofNat key.toNat] := by
    refine List.forall_mem_singleton.mpr ?_
    rw [value]
    exact between
  have byte : encodeChars [Char.ofNat key.toNat] = [key] := by
    rw [encodeChars_cons,encodeChar_ascii (Nat.lt_trans (printable _ List.mem_cons_self).2 (by decide)),value]
    simp
  refine ⟨faithful_of_empty (printable_append.mpr ⟨faithful.line,printable⟩) faithful.keyspace empty,fun rest => ?_⟩
  rw [← byte,row_plain printable.plain,display,← encodeChars_append,List.append_assoc]
  rfl

/-- Any key that does not end the shell draws its prompt and line. -/
theorem press_draws (faithful : Faithful s) {key : UInt8} (pressed : s.press key = (output, .goOn, after)) :
    Draws s.display output after := by
  have dropped : Faithful { s with withheld := none } := faithful_of_empty faithful.line faithful.keyspace rfl
  unfold press at pressed
  split at pressed
  next isTab =>
    cases pressed
    exact pressTab_draws faithful
  next isOther =>
    dsimp only at pressed
    split at pressed
    next isCancel =>
      cases pressed
      exact draws_cancel dropped rfl
    split at pressed
    next ends => cases pressed
    split at pressed
    next isEnter => exact pressEnter_draws (s:={ s with withheld := none }) dropped rfl pressed
    split at pressed
    next isDelete =>
      split at pressed
      next nothing =>
        cases pressed
        exact draws_bell dropped
      next nonempty =>
        cases pressed
        exact delete_draws dropped rfl nonempty
    split at pressed
    next between =>
      cases pressed
      exact draws_typed dropped rfl between
    next others =>
      cases pressed
      exact draws_nothing dropped

theorem pressAll_draws {keys : Bytes} (faithful : Faithful s) (pressed : s.pressAll keys = (output, .goOn, after)) :
    Draws s.display output after := by
  induction keys generalizing s output with
  | nil =>
    cases pressed
    exact draws_nothing faithful
  | cons key keys ih =>
    rw [pressAll] at pressed
    split at pressed
    next => cases pressed
    next first between one =>
      cases others : between.pressAll keys with
      | mk more result =>
      obtain ⟨action,last⟩ := result
      rw [others] at pressed
      cases pressed
      have draws := press_draws faithful one
      exact draws.trans (ih draws.faithful others)

/-- A shell that goes on after keys went on after those that came first. -/
theorem goesOn_of_append {first later : Bytes} (goesOn : (s.pressAll (first ++ later)).2.1 = .goOn) :
    (s.pressAll first).2.1 = .goOn := by
  induction first generalizing s with
  | nil => rfl
  | cons key first ih =>
    rw [List.cons_append,pressAll] at goesOn
    rw [pressAll]
    split at goesOn
    next => cases goesOn
    next output between one => exact ih goesOn

/-- However keys are pressed in a keyspace of printable ASCII without ending the shell, the last row shows its
    prompt and its line after each of them. The line and the keyspace stay printable, and what is withheld
    are the candidates for the line: just these are what the next TAB lists. -/
theorem row_shows_line {keyspace : List Char} (printable : Printable keyspace) {keys : Bytes}
    (goesOn : (pressAll ⟨keyspace,[],none⟩ keys).2.1 = .goOn) :
    ∀ typed, typed <+: keys → ∃ s, (pressAll ⟨keyspace,[],none⟩ typed).2 = (.goOn, s) ∧
      row [] (transcript ⟨keyspace,[],none⟩ typed) = encodeChars (s.prompt ++ s.line) ∧
      Printable s.line ∧ Printable s.keyspace ∧
      ∀ candidates, s.withheld = some candidates → complete s.line s.keyspace = .ambiguous candidates ∧
        (s.press tab).1 = encodeChars ('\r' :: '\n' :: "  ".toList.intercalate candidates ++
          '\r' :: '\n' :: (s.prompt ++ s.line)) := by
  rintro typed ⟨later,rfl⟩
  have goesOn := goesOn_of_append goesOn
  cases pressed : pressAll ⟨keyspace,[],none⟩ typed with
  | mk output result =>
  obtain ⟨action,s⟩ := result
  rw [pressed] at goesOn
  cases goesOn
  have started : Faithful ⟨keyspace,[],none⟩ := faithful_of_empty nofun printable rfl
  obtain ⟨faithful,draws⟩ := pressAll_draws started pressed
  refine ⟨s,rfl,?_,faithful.line,faithful.keyspace,fun candidates withheld => ⟨faithful.withheld candidates withheld,?_⟩⟩
  · have row_eq := draws []
    rw [List.append_nil,display,List.append_nil] at row_eq
    rw [transcript,row_plain (printable_prompt started.keyspace).plain,pressed]
    exact row_eq
  · show s.pressTab.1 = _
    rw [pressTab_withheld withheld]

/-- Keys that change the keyspace, complete a word in another case, delete some of it, cancel the line, and
    begin a word that can go on in two ways. -/
def editingKeys : Bytes := Utf8.encode "USE other;\rdro\t\x7Fx\x03de\t"

theorem row_shows_line_editing : Printable "ks".toList ∧ (pressAll ⟨"ks".toList,[],none⟩ editingKeys).2.1 = .goOn ∧
    ∀ typed, typed <+: editingKeys → ∃ s, (pressAll ⟨"ks".toList,[],none⟩ typed).2 = (.goOn, s) ∧
      row [] (transcript ⟨"ks".toList,[],none⟩ typed) = encodeChars (s.prompt ++ s.line) ∧
      Printable s.line ∧ Printable s.keyspace ∧
      ∀ candidates, s.withheld = some candidates → complete s.line s.keyspace = .ambiguous candidates ∧
        (s.press tab).1 = encodeChars ('\r' :: '\n' :: "  ".toList.intercalate candidates ++
          '\r' :: '\n' :: (s.prompt ++ s.line)) :=
  have printable : Printable "ks".toList := by decide
  have goesOn : (pressAll ⟨"ks".toList,[],none⟩ editingKeys).2.1 = .goOn := by decide +kernel
  ⟨printable,goesOn,row_shows_line printable goesOn⟩

end TabCompletion.FixtureShell
