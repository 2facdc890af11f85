import TabCompletion.Probe
import TabCompletion.Proofs.FixtureShell.Completion
import TabCompletion.Proofs.Prompt

/-!
# Lists of the fixture shell

After a second TAB the fixture shell prints its candidates on one line, and on the next one its prompt
and the input. `classifyList_fixture` says that the list is recognised as the candidates, unless the
pattern for its last line is too big.
-/
namespace TabCompletion

open Pattern FixtureShell Utf8

variable {prompt : Prompt} {keyspace input : String} {candidates : List (List Char)}

/-- What the fixture shell prints for a second TAB. -/
def fixtureListing (keyspace : String) (candidates : List (List Char)) (input : String) : List Char :=
  '\r' :: '\n' :: "  ".toList.intercalate candidates ++ FixtureShell.newPrompt ⟨keyspace.toList,input.toList,none⟩ ++
    input.toList

theorem plain_fixtureText (keys : Plain keyspace.toList) : Plain (Prompt.fixtureText keyspace) :=
  have before : Plain "fake:".toList := by decide
  have after : Plain "> ".toList := by decide
  plain_append.mpr ⟨plain_append.mpr ⟨before,keys⟩,after⟩

theorem plain_joined (plain : ∀ w ∈ candidates, Plain w) :
    Plain ("  ".toList.intercalate candidates) := by
  intro c member
  rcases Text.of_mem_intercalate member with between | ⟨w,among,inside⟩
  · have separator : Plain "  ".toList := by decide
    exact separator c between
  · exact plain w among c inside

theorem lines_fixtureListing (plain : ∀ w ∈ candidates, Plain w)
    (keys : Plain keyspace.toList) (typed : Printable input.toList) :
    Text.lines (String.ofList (fixtureListing keyspace candidates input)) =
      ["",String.ofList ("  ".toList.intercalate candidates),
        String.ofList (Prompt.fixtureText keyspace ++ input.toList)] := by
  have joined : Text.InLine ("  ".toList.intercalate candidates) := (plain_joined plain).inLine
  have last : Text.InLine (Prompt.fixtureText keyspace ++ input.toList) :=
    (plain_append.mpr ⟨plain_fixtureText keys,typed.plain⟩).inLine
  have whole : fixtureListing keyspace candidates input = [] ++ '\r' :: '\n' :: ("  ".toList.intercalate candidates ++
      '\r' :: '\n' :: (Prompt.fixtureText keyspace ++ input.toList)) := List.append_assoc _ _ _
  have first : Text.InLine [] := nofun
  have nonempty : Prompt.fixtureText keyspace ++ input.toList ≠ [] := nofun
  unfold Text.lines
  rw [String.toList_ofList,whole,Text.linesChars_append_break first,Text.linesChars_append_break joined,
    Text.linesChars_inLine last nonempty]
  rfl

/-- The result of a probe that lists these candidates: one line, and the words of all of them. -/
def fixtureList (candidates : List (List Char)) : CompletionResult :=
  .listed (TokenSet.ofList ((candidates.flatMap Text.wordsChars).map String.ofList))
    [String.ofList (Text.trimChars ("  ".toList.intercalate candidates))]

theorem ofLines_fixture (shows : ∃ w ∈ candidates, ∃ c ∈ w, ¬Text.isBlank c = true) :
    CompletionResult.ofLines ["",String.ofList ("  ".toList.intercalate candidates)] = fixtureList candidates := by
  obtain ⟨w,among,c,inside,shown⟩ := shows
  have nonempty : Text.trimChars ("  ".toList.intercalate candidates) ≠ [] :=
    Text.trimChars_ne_nil (Text.mem_intercalate among inside) shown
  have trims : Text.trim (String.ofList ("  ".toList.intercalate candidates)) =
      String.ofList (Text.trimChars ("  ".toList.intercalate candidates)) := by
    rw [Text.trim,String.toList_ofList]
  have kept : (String.ofList (Text.trimChars ("  ".toList.intercalate candidates))).isEmpty = false := by
    rw [Bool.eq_false_iff]
    intro empty
    have nothing := congrArg String.toList (String.isEmpty_iff.mp empty)
    rw [String.toList_ofList] at nothing
    exact nonempty nothing
  have blank : (Text.trim "").isEmpty = true := by decide
  unfold CompletionResult.ofLines fixtureList tokensOf
  simp only [List.map_cons,List.map_nil,trims,List.filter_cons,blank,kept,List.filter_nil,Bool.not_true,Bool.not_false,
    Bool.false_eq_true,if_false,if_true,List.isEmpty_cons,List.flatMap_cons,List.flatMap_nil,List.append_nil,Text.words,
    String.toList_ofList,Text.wordsChars_trimChars,Text.wordsChars_intercalate]

/-- The list of the fixture shell is classified as its candidates, unless the pattern for the line
    after it is too big. -/
theorem classifyList_fixture (fixture : prompt.IsFixture keyspace) (plain : ∀ w ∈ candidates, Plain w)
    (shows : ∃ w ∈ candidates, ∃ c ∈ w, ¬Text.isBlank c = true) (keys : Plain keyspace.toList) (typed : Printable input.toList) :
    ∃ refusal, prompt.RefusesRedraw input refusal ∧
      classifyList (String.ofList (fixtureListing keyspace candidates input)) input prompt =
        if Fits (encodeChars (Prompt.fixtureText keyspace ++ input.toList)) then .ok (fixtureList candidates)
        else .error refusal := by
  obtain ⟨e,refusal,spells,refuses,redraw⟩ := Prompt.redraw_eq (Prompt.written_fixture keyspace) fixture.source input
  refine ⟨refusal,refuses,?_⟩
  unfold classifyList
  dsimp only
  rw [lines_fixtureListing plain keys typed]
  show (prompt.redraw input >>= _) = _
  rw [redraw]
  by_cases fits : Fits (encodeChars (Prompt.fixtureText keyspace ++ input.toList))
  · rw [if_pos fits,if_pos fits]
    have begins : Begins true (encodeChars (Prompt.fixtureText keyspace ++ input.toList)) := fun _ => ⟨_,_,rfl,by decide⟩
    have found : Pattern.isFoundIn ⟨prompt.redrawSource input,true,e⟩
        (Utf8.encode (String.ofList (Prompt.fixtureText keyspace ++ input.toList))) = true := by
      rw [Utf8.encode,String.toList_ofList]
      have place := (find?_eq_some_iff (p:=⟨prompt.redrawSource input,true,e⟩) spells begins).mpr
        ⟨.start (List.prefix_refl _),rfl⟩
      rw [Pattern.isFoundIn,place]
      rfl
    exact (if_pos found).trans (congrArg Except.ok (ofLines_fixture shows))
  · rw [if_neg fits,if_neg fits]
    rfl

end TabCompletion
