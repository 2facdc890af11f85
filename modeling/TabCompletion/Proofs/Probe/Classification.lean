import TabCompletion.Probe
import TabCompletion.Proofs.Candidates
import TabCompletion.Proofs.Pattern.Grouped
import TabCompletion.Proofs.Prompt
import TabCompletion.Proofs.Text.Pieces

/-!
# What comes after the second TAB

The text after the second TAB is taken for a list by its last line, which must be the prompt with the input
again (`Classified`). The lines before it are the candidates. A line has no line break, so no text is taken
for a list after an input that has one (`classification`).
-/
namespace TabCompletion

variable {template output input : String} {context : Option String} {prompt : Prompt} {redraw : Pattern}
  {lines candidates : List String} {last : String}

/-- The error of a list whose last line is not the prompt with the input. -/
def noPromptError (input last : String) (redraw : Pattern) : HarnessError :=
  .withDetails .protocolViolation ("double-tab completion does not print prompt for input " ++ Text.quote input)
    [("input", .str input),("last_line", .str last),("expected_pattern", .str redraw.source)]

/-- What the pieces of a text are taken for. -/
inductive Classified (input : String) (redraw : Pattern) : List String → HarnessResult CompletionResult → Prop where
  | nothing : Classified input redraw [] (.ok .empty)
  | noPrompt {candidates : List String} {last : String} (absent : redraw.isFoundIn (Utf8.encode last) = false) :
    Classified input redraw (candidates ++ [last]) (.error (noPromptError input last redraw))
  | blank {candidates : List String} {last : String} (found : redraw.isFoundIn (Utf8.encode last) = true)
    (blank : ∀ line ∈ candidates, Text.isBlankText line = true) :
    Classified input redraw (candidates ++ [last]) (.ok .empty)
  | listed {candidates : List String} {last : String} {tokens : TokenSet} (found : redraw.isFoundIn (Utf8.encode last) = true)
    (nonblank : ∃ line ∈ candidates, Text.isBlankText line = false)
    (words : ∀ word, word ∈ tokens ↔ ∃ line ∈ candidates, word ∈ Text.words line) :
    Classified input redraw (candidates ++ [last])
      (.ok (.listed tokens ((candidates.filter fun line => !Text.isBlankText line).map Text.trim)))

/-- The lines of a text are its pieces, and there are no others. -/
theorem pieces_iff_lines {pieces : List (List Char)} :
    Text.Pieces output.toList pieces ↔ pieces = (Text.lines output).map String.toList := by
  have chars : (Text.lines output).map String.toList = Text.linesChars output.toList := by
    rw [Text.lines,List.map_map]
    exact (List.map_congr_left fun cs _ => String.toList_ofList).trans (List.map_id _)
  rw [Text.pieces_iff,chars,eq_comm]

theorem classifyList_append (split : Text.lines output = candidates ++ [last]) (redrawn : prompt.redraw input = .ok redraw) :
    classifyList output input prompt =
      if redraw.isFoundIn (Utf8.encode last) then .ok (.ofLines candidates) else .error (noPromptError input last redraw) := by
  rw [classifyList,split,List.getLast?_concat,List.dropLast_concat]
  dsimp only
  rw [redrawn]
  rfl

theorem classifyList_classified (output : String) (redrawn : prompt.redraw input = .ok redraw) :
    Classified input redraw (Text.lines output) (classifyList output input prompt) := by
  rcases List.eq_nil_or_concat' (Text.lines output) with noLines | ⟨candidates,last,split⟩
  · rw [classifyList,noLines]
    exact .nothing
  rw [classifyList_append split redrawn,split]
  cases found : redraw.isFoundIn (Utf8.encode last) with
  | false => exact .noPrompt found
  | true =>
    rw [if_pos rfl]
    by_cases blank : keptLines candidates = []
    · rw [CompletionResult.ofLines_eq_empty blank]
      exact .blank found (keptLines_eq_nil_iff.mp blank)
    · obtain ⟨line,kept⟩ := List.exists_mem_of_ne_nil _ blank
      obtain ⟨whole,among,nonblank,-⟩ := mem_keptLines.mp kept
      rw [CompletionResult.ofLines_eq_listed blank]
      have words (word : String) : word ∈ tokensOf (keptLines candidates) ↔ ∃ line ∈ candidates, word ∈ Text.words line :=
        mem_tokensOf_keptLines
      rw [keptLines_eq] at words ⊢
      exact .listed found ⟨whole,among,nonblank⟩ words

theorem Classified.ne_immediate {result : HarnessResult CompletionResult} (classified : Classified input redraw lines result)
    (text : String) : result ≠ .ok (.immediate text) := by
  cases classified <;> nofun

/-- A line that is taken for the prompt with the input contains the input. -/
theorem infix_of_redraw {line : String} (made : Prompt.ofTemplate template context = .ok prompt)
    (redrawn : prompt.redraw input = .ok redraw) (found : redraw.isFoundIn (Utf8.encode line) = true) :
    input.toList <:+: line.toList := by
  obtain ⟨stream,lineStart,-,starts,rfl⟩ := Prompt.ofTemplate_eq_ok.mp made
  have compiled := Prompt.compilePart_eq_ok.mp starts
  obtain ⟨_,_,-,-,-,rfl⟩ := Pattern.compile_eq_ok.mp compiled
  unfold Prompt.redraw at redrawn
  dsimp only at redrawn
  split at redrawn
  next compiled' =>
    cases redrawn
    exact Pattern.infix_of_grouped compiled compiled' found
  next => cases redrawn

/-- No line contains an input with a line break. -/
theorem not_isFoundIn_of_break {c : Char} (made : Prompt.ofTemplate template context = .ok prompt)
    (redrawn : prompt.redraw input = .ok redraw) (breaks : c = '\r' ∨ c = '\n') (member : c ∈ input.toList)
    (inLine : last ∈ Text.lines output) : redraw.isFoundIn (Utf8.encode last) = false := by
  rw [Bool.eq_false_iff]
  intro found
  obtain ⟨chars,among,rfl⟩ := List.mem_map.mp inLine
  have inside : c ∈ (String.ofList chars).toList := (infix_of_redraw made redrawn found).subset member
  rw [String.toList_ofList] at inside
  obtain ⟨notReturn,notFeed⟩ := Text.inLine_of_mem_linesChars among c inside
  exact breaks.elim notReturn notFeed

theorem classifyList_of_break {c : Char} (made : Prompt.ofTemplate template context = .ok prompt)
    (redrawn : prompt.redraw input = .ok redraw) (breaks : c = '\r' ∨ c = '\n') (member : c ∈ input.toList)
    (nonempty : output ≠ "") : ∃ last, classifyList output input prompt = .error (noPromptError input last redraw) := by
  rcases List.eq_nil_or_concat' (Text.lines output) with noLines | ⟨candidates,last,split⟩
  · have empty : Text.Pieces output.toList [] := pieces_iff_lines.mpr (noLines ▸ rfl)
    generalize chars : output.toList = cs at empty
    cases empty
    exact absurd (String.toList_eq_nil_iff.mp chars) nonempty
  · have inLine : last ∈ Text.lines output := split ▸ List.mem_append_right _ (List.mem_singleton_self last)
    refine ⟨last,?_⟩
    rw [classifyList_append split redrawn,not_isFoundIn_of_break made redrawn breaks member inLine]
    rfl

/-- What a text is taken for, by its pieces. -/
theorem classification (output : String) (made : Prompt.ofTemplate template context = .ok prompt)
    (redrawn : prompt.redraw input = .ok redraw) : ∃ lines : List String,
      (∀ pieces, Text.Pieces output.toList pieces ↔ pieces = lines.map String.toList) ∧
        Classified input redraw lines (classifyList output input prompt) ∧
        (∀ text, classifyList output input prompt ≠ .ok (.immediate text)) ∧
        ('\r' ∈ input.toList ∨ '\n' ∈ input.toList → output ≠ "" →
          ∃ last, classifyList output input prompt = .error (noPromptError input last redraw)) := by
  have classified := classifyList_classified output redrawn
  refine ⟨Text.lines output,fun pieces => pieces_iff_lines,classified,classified.ne_immediate,?_⟩
  · rintro (member | member) nonempty
    · exact classifyList_of_break made redrawn (.inl rfl) member nonempty
    · exact classifyList_of_break made redrawn (.inr rfl) member nonempty

/-- A list with a blank line, and an input that no line contains. -/
theorem classification_prompt : ∃ prompt redraw redraw', Prompt.ofTemplate "ks> " none = .ok prompt ∧
    prompt.redraw "co" = .ok redraw ∧ prompt.redraw "c\no" = .ok redraw' ∧
      (∃ lines : List String,
        (∀ pieces, Text.Pieces "copy count\r\n\r\n count \rks> co".toList pieces ↔ pieces = lines.map String.toList) ∧
          Classified "co" redraw lines (classifyList "copy count\r\n\r\n count \rks> co" "co" prompt)) ∧
      ∃ last, classifyList "count\r\nks> c\no" "c\no" prompt = .error (noPromptError "c\no" last redraw') := by
  have compiles : (Prompt.ofTemplate "ks> " none >>= fun p => p.redraw "co" >>= fun _ => p.redraw "c\no").isOk = true := by
    decide +kernel
  cases run : Prompt.ofTemplate "ks> " none >>= fun p => p.redraw "co" >>= fun _ => p.redraw "c\no" with
  | error e =>
    rw [run] at compiles
    cases compiles
  | ok redraw' =>
    obtain ⟨prompt,made,redraws⟩ := bind_eq_ok.mp run
    obtain ⟨redraw,redrawn,redrawn'⟩ := bind_eq_ok.mp redraws
    obtain ⟨lines,pieces,classified,-⟩ := classification "copy count\r\n\r\n count \rks> co" made redrawn
    obtain ⟨-,-,-,-,breaks⟩ := classification "count\r\nks> c\no" made redrawn'
    exact ⟨prompt,redraw,redraw',made,redrawn,redrawn',⟨lines,pieces,classified⟩,breaks (.inr (by decide)) (by decide)⟩

end TabCompletion
