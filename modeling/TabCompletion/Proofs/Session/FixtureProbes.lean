import TabCompletion.Proofs.FixtureShell.Listing
import TabCompletion.Proofs.FixtureShell.Terminal
import TabCompletion.Proofs.Probe
import TabCompletion.Proofs.Text.WellFormed

/-!
# Probes of the fixture shell

A probe of the fixture shell observes what TAB does on its input and nothing else (`Shows`), and leaves
nothing withheld and nothing unread (`run_probed`). Only what was inserted stays on the line.
-/
namespace TabCompletion

open Pattern FixtureShell Utf8 Simulated

variable {keyspace : String}

/-- What comes after the echo of the input, where the two make no erase pair. -/
theorem stripEcho_append {p : Probe} {rest : Bytes} (absent : ¬erasePair <:+: Utf8.encode p.input ++ rest) :
    p.stripEcho (Utf8.encode p.input ++ rest) = .ok (rest.filter (· != bell)) := by
  unfold Probe.stripEcho
  dsimp only
  rw [Text.removeAll,Text.substitute_eq_self absent,Text.dropStart?_append]

/-- Where TAB only rings the bell, nothing comes after the echo. -/
theorem stripEcho_bell {p : Probe} (typed : Printable p.input.toList) :
    p.stripEcho (Utf8.encode p.input ++ [bell]) = .ok [] := by
  have echo : backspace ∉ Utf8.encode p.input := not_mem_encodeChars_of_plain typed.plain (by decide)
  refine stripEcho_append fun inside => ?_
  rcases List.mem_append.mp (inside.subset (by decide : backspace ∈ erasePair)) with here | there
  · exact echo here
  · exact absurd (List.mem_singleton.mp there) (by decide)

/-- What TAB prints for a longer word is what comes after the echo. -/
theorem stripEcho_retyped {p : Probe} (typed : Printable p.input.toList) {head last word : List Char}
    (whole : head ++ last = p.input.toList) (noSpace : ' ' ∉ last) (plain : Plain word) :
    p.stripEcho (Utf8.encode p.input ++ encodeChars (retyped last word)) = .ok (encodeChars (retyped last word)) := by
  rw [stripEcho_append (no_erasePair typed whole noSpace plain),List.filter_eq_self.mpr]
  rintro b member
  have silent : b ≠ bell := by
    rintro rfl
    exact bell_not_mem_retyped plain member
  simpa using silent

/-- What a probe observes where TAB completes the line like this. -/
inductive Shows : FixtureShell.Completion → CompletionResult → Prop where
  /-- The text that is inserted. -/
  | insert (text : String) (line : List Char) : Shows (.insert (Utf8.encode text) line) (.immediate text)
  /-- One line with the candidates, and their words. -/
  | ambiguous (candidates : List (List Char)) : Shows (.ambiguous candidates) (fixtureList candidates)
  | nothing : Shows .nothing .empty

/-- What comes of a probe of the fixture shell: what TAB shows, except that a list is not recognised
    if the pattern for the line after it is too big. -/
inductive Probed (prompt : Prompt) (keyspace input : String) : HarnessResult CompletionResult → Prop where
  | observed {observed : CompletionResult} (shows : Shows (complete input.toList keyspace.toList) observed)
      (fits : ∀ candidates, complete input.toList keyspace.toList = .ambiguous candidates →
        Fits (encodeChars (Prompt.fixtureText keyspace ++ input.toList))) : Probed prompt keyspace input (.ok observed)
  | tooBig {candidates : List (List Char)} {e : HarnessError}
      (ambiguous : complete input.toList keyspace.toList = .ambiguous candidates)
      (big : ¬Fits (encodeChars (Prompt.fixtureText keyspace ++ input.toList))) (refuses : prompt.RefusesRedraw input e) :
      Probed prompt keyspace input (.error e)

section

variable {p : Probe}

/-- A probe up to the end of the echo. -/
theorem run_echoed (printable : Printable p.input.toList) {output rest : Bytes} {after : FixtureShell}
    (pressed : FixtureShell.pressTab ⟨keyspace.toList,p.input.toList,none⟩ = (output, after))
    (strips : p.stripEcho (Utf8.encode p.input ++ output) = .ok rest) : p.run.run (atPrompt keyspace) =
      (if rest = [] then (p.listing : Dialogue Simulated CompletionResult)
        else do return .immediate (← Dialogue.ofResult (p.encoding.decode rest))).run ⟨after,[],false⟩ := by
  rw [p.run_eq,Dialogue.run_bind_ok (run_input printable),Dialogue.run_bind_ok (run_tab pressed _),
    Dialogue.run_bind_ok (run_readUntilQuiet _ _ _),strips]
  rfl

/-- A probe from its second TAB on. -/
theorem run_listing (fixture : p.prompt.IsFixture keyspace) {withheld still : Option (List (List Char))}
    {shown : List Char}
    (pressed : FixtureShell.pressTab ⟨keyspace.toList,p.input.toList,withheld⟩ =
      (encodeChars shown, ⟨keyspace.toList,p.input.toList,still⟩)) :
    p.listing.run (⟨⟨keyspace.toList,p.input.toList,withheld⟩,[],false⟩ : Simulated) =
      (classifyList (String.ofList (if encodeChars shown = [bell] then [] else shown)) p.input p.prompt,
        atPrompt keyspace) := by
  have text : p.encoding.decode (if encodeChars shown = [bell] then [] else encodeChars shown) =
      .ok (String.ofList (if encodeChars shown = [bell] then [] else shown)) := by
    split
    · exact decode_encodeChars p.encoding []
    · exact decode_encodeChars p.encoding shown
  unfold Probe.listing
  rw [Dialogue.run_bind_ok (run_tab pressed []),List.nil_append,Dialogue.run_bind_ok (run_readUntilQuiet _ _ _),
    Dialogue.run_bind_ok (run_ctrlC _ _),Dialogue.run_bind_ok (resync_fixture fixture p.config),text]
  rfl

/-- Where there is nothing to complete, both TABs ring the bell. -/
theorem run_nothing (fixture : p.prompt.IsFixture keyspace) (printable : Printable p.input.toList)
    (completes : complete p.input.toList keyspace.toList = .nothing) :
    p.run.run (atPrompt keyspace) = (.ok .empty, atPrompt keyspace) := by
  have pressed : FixtureShell.pressTab ⟨keyspace.toList,p.input.toList,none⟩ =
      (encodeChars ['\x07'], ⟨keyspace.toList,p.input.toList,none⟩) := by
    unfold FixtureShell.pressTab
    rw [completes]
    rfl
  rw [run_echoed printable pressed (stripEcho_bell printable),if_pos rfl,run_listing fixture pressed]
  rfl

/-- A word that TAB inserts is observed at once, and stays on the line. -/
theorem run_insert (printable : Printable p.input.toList) {head last word : List Char}
    (completes : complete p.input.toList keyspace.toList = .insert (encodeChars (retyped last word)) (head ++ word))
    (whole : head ++ last = p.input.toList) (noSpace : ' ' ∉ last) (longer : last.length < word.length) (plain : Plain word) :
    p.run.run (atPrompt keyspace) =
      (.ok (.immediate (String.ofList (retyped last word))), ⟨⟨keyspace.toList,head ++ word,none⟩,[],false⟩) := by
  have pressed : FixtureShell.pressTab ⟨keyspace.toList,p.input.toList,none⟩ =
      (encodeChars (retyped last word), ⟨keyspace.toList,head ++ word,none⟩) := by
    unfold FixtureShell.pressTab
    rw [completes]
  have nonempty : encodeChars (retyped last word) ≠ [] := fun empty => retyped_ne_nil longer (encodeChars_inj.mp empty)
  rw [run_echoed printable pressed (stripEcho_retyped printable whole noSpace plain),if_neg nonempty,
    decode_encodeChars]
  rfl

/-- Candidates are withheld by the first TAB and listed by the second one. -/
theorem run_ambiguous (fixture : p.prompt.IsFixture keyspace) (printable : Printable p.input.toList)
    {candidates : List (List Char)} (completes : complete p.input.toList keyspace.toList = .ambiguous candidates)
    (plain : ∀ w ∈ candidates, Plain w) (shows : ∃ w ∈ candidates, ∃ c ∈ w, ¬Text.isBlank c = true)
    (keys : Plain keyspace.toList) : ∃ refusal, p.prompt.RefusesRedraw p.input refusal ∧ p.run.run (atPrompt keyspace) =
      (if Fits (encodeChars (Prompt.fixtureText keyspace ++ p.input.toList)) then .ok (fixtureList candidates)
        else .error refusal, atPrompt keyspace) := by
  have first : FixtureShell.pressTab ⟨keyspace.toList,p.input.toList,none⟩ =
      ([bell], ⟨keyspace.toList,p.input.toList,some candidates⟩) := by
    unfold FixtureShell.pressTab
    rw [completes]
    rfl
  have second : FixtureShell.pressTab ⟨keyspace.toList,p.input.toList,some candidates⟩ =
      (encodeChars (fixtureListing keyspace candidates p.input), ⟨keyspace.toList,p.input.toList,none⟩) := rfl
  have listing : encodeChars (fixtureListing keyspace candidates p.input) ≠ [bell] := by
    show _ ≠ encodeChars ['\x07']
    intro alone
    exact absurd (List.cons.inj (encodeChars_inj.mp alone)).1 (by decide)
  obtain ⟨refusal,refuses,classified⟩ := classifyList_fixture fixture plain shows keys printable
  refine ⟨refusal,refuses,?_⟩
  rw [run_echoed printable first (stripEcho_bell printable),if_pos rfl,run_listing fixture second,if_neg listing,classified]

/-- A probe comes out as what TAB shows, and leaves nothing unread. -/
theorem run_probed (fixture : p.prompt.IsFixture keyspace) (printable : Printable p.input.toList)
    (keys : Plain keyspace.toList) : ∃ outcome line, Probed p.prompt keyspace p.input outcome ∧
      p.run.run (atPrompt keyspace) = (outcome, ⟨⟨keyspace.toList,line,none⟩,[],false⟩) := by
  have completed := complete_completed printable keys
  generalize completes : complete p.input.toList keyspace.toList = completion at completed
  cases completed with
  | nothing =>
    have shows : Shows (complete p.input.toList keyspace.toList) .empty := completes ▸ .nothing
    exact ⟨_,[],.observed shows (by simp [completes]),run_nothing fixture printable completes⟩
  | @insert head last word whole noSpace longer plain =>
    have typed : Printable last := (printable_append.mp (whole.symm ▸ printable)).2
    have inserts := completes.trans (replaceWord_eq typed)
    have text : encodeChars (retyped last word) = Utf8.encode (String.ofList (retyped last word)) := by
      rw [Utf8.encode,String.toList_ofList]
    have shows : Shows (complete p.input.toList keyspace.toList) (.immediate (String.ofList (retyped last word))) := by
      rw [inserts,text]
      exact .insert _ _
    exact ⟨_,head ++ word,.observed shows (by simp [inserts]),run_insert printable inserts whole noSpace longer plain⟩
  | @ambiguous candidates plain candidatesShow =>
    obtain ⟨refusal,refuses,ran⟩ := run_ambiguous fixture printable completes plain candidatesShow keys
    refine ⟨_,[],?_,ran⟩
    split
    next fits =>
      have shows : Shows (complete p.input.toList keyspace.toList) (fixtureList candidates) := completes ▸ .ambiguous _
      exact .observed shows fun _ _ => fits
    next big => exact .tooBig completes big refuses

end

end TabCompletion
