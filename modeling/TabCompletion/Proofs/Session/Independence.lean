import Mathlib.Data.List.Forall2
import TabCompletion.Proofs.Session.CallDiscipline
import TabCompletion.Proofs.Session.FixtureProbes

/-!
# Probes of the fixture shell, one after the other

Every call of `tryCompletions` finds the fixture shell at a prompt and leaves it there, so what it
observes does not depend on the calls before it (`fixture_probes_exact`). A call may still fail: in a
keyspace with a very long name the pattern for the line after a list is too big.
-/
namespace TabCompletion

open Pattern FixtureShell Utf8 Simulated

variable {keyspace : String}

/-- Calls one after the other on a terminal: the outcome of each one, and the terminal after it. -/
def Session.tryAll {σ : Type} [Transport σ] (s : Session) :
    List (String × Expectation) → σ → List (HarnessResult ProbeVerdict × σ)
  | [], _ => []
  | (input, expected) :: calls, t =>
    let tried := (s.tryCompletions input expected).run t
    tried :: s.tryAll calls tried.2

/-- A call observes what TAB does on its input, with the name of the keyspace filled in, and leaves the
    shell at a prompt. -/
structure Exact (s : Session) (keyspace : String) (call : String × Expectation)
    (tried : HarnessResult ProbeVerdict × Simulated) : Prop where
  outcome : ∃ probed, Probed s.prompt keyspace (fillContext (some keyspace) call.1) probed ∧
    tried.1 = verdictOf (fillContext (some keyspace) call.1) (call.2.withContext (some keyspace)) probed (.ok ())
  terminal : tried.2 = atPrompt keyspace

theorem tryCompletions_exact {s : Session} (fixture : s.prompt.IsFixture keyspace) (keys : Plain keyspace.toList)
    (call : String × Expectation) (printable : Printable (fillContext (some keyspace) call.1).toList) :
    Exact s keyspace call ((s.tryCompletions call.1 call.2).run (atPrompt keyspace)) := by
  have context : s.context = some keyspace := fixture.context
  obtain ⟨probed,line,shows,ran⟩ := run_probed (p:=s.probe (fillContext (some keyspace) call.1)) fixture printable keys
  have tried : (s.tryCompletions call.1 call.2).run (atPrompt keyspace) =
      (verdictOf (fillContext (some keyspace) call.1) (call.2.withContext (some keyspace)) probed (.ok ()),
        atPrompt keyspace) := by
    have recovered := cancelAndResync_fixture fixture s.config line none
    unfold Session.tryCompletions Session.getCompletions
    rw [context]
    dsimp only
    rw [Dialogue.run_bind_ok (Dialogue.run_attempt_eq ran),Dialogue.run_bind_ok (Dialogue.run_attempt_eq recovered)]
    cases probed <;> rfl
  exact ⟨⟨probed,shows,by rw [tried]⟩,by rw [tried]⟩

/-- Every call finds the shell at a prompt and leaves it there. -/
theorem tryAll_exact {s : Session} (fixture : s.prompt.IsFixture keyspace) (keys : Plain keyspace.toList)
    (calls : List (String × Expectation))
    (printable : ∀ call ∈ calls, Printable (fillContext (some keyspace) call.1).toList) :
    List.Forall₂ (Exact s keyspace) calls (s.tryAll calls (atPrompt keyspace)) := by
  induction calls with
  | nil => exact .nil
  | cons call calls ih =>
    obtain ⟨first,others⟩ := List.forall_mem_cons.mp printable
    have tried := tryCompletions_exact (s:=s) fixture keys call first
    have next := ih others
    rw [← tried.terminal] at next
    exact .cons tried next

/-- A session for the fixture shell exists in each keyspace whose prompt is not too long for a pattern.
    After the first prompt, each of its calls observes what TAB does on the input and leaves the shell
    at a prompt. -/
theorem fixture_probes_exact (id : Identifier) (shell : SessionConfig) (config : HarnessConfig) (keyspace : String)
    (valid : config.validate = .ok ()) (template : shell.prompt = fixturePrompt)
    (context : shell.context = some keyspace) (keys : Plain keyspace.toList) (calls : List (String × Expectation))
    (printable : ∀ call ∈ calls, Printable (fillContext (some keyspace) call.1).toList) :
    ((∃ s, Session.ofShell id shell config = .ok s) ↔ Fits (encodeChars ('\n' :: Prompt.fixtureText keyspace))) ∧
    ∀ s, Session.ofShell id shell config = .ok s → ∃ started : Simulated,
      s.awaitStartup.run (Simulated.ofShell ⟨keyspace.toList,[],none⟩) = (.ok (), started) ∧
      started = atPrompt keyspace ∧ List.Forall₂ (Exact s keyspace) calls (s.tryAll calls started) := by
  constructor
  · rw [← Prompt.ofTemplate_fixture]
    constructor
    · rintro ⟨s,made⟩
      obtain ⟨-,p,prompts,-⟩ := Session.ofShell_eq_ok.mp made
      rw [template,context] at prompts
      exact ⟨p,prompts⟩
    · rintro ⟨p,prompts⟩
      rw [← template,← context] at prompts
      exact ⟨_,Session.ofShell_eq_ok.mpr ⟨valid,p,prompts,rfl⟩⟩
  · intro s made
    obtain ⟨-,p,prompts,rfl⟩ := Session.ofShell_eq_ok.mp made
    rw [template,context] at prompts
    have fixture := Prompt.isFixture prompts
    exact ⟨_,awaitStartup_fixture fixture,rfl,tryAll_exact fixture keys calls printable⟩

/-- Inputs of each kind: a word with one completion, one with several, and one with none. -/
def someCalls : List (String × Expectation) :=
  [("SEL", .immediate "ECT "),("DROP ", .choices (TokenSet.ofList ["INDEX","KEYSPACE","TABLE"]) false),
    ("use \x7bcontext\x7dx", .noChoices)]

theorem fixture_probes_exact_ks : ∃ s started, Session.ofShell ⟨0⟩ (fixtureShellConfig "fake" "ks") {} = .ok s ∧
    s.awaitStartup.run (Simulated.ofShell ⟨"ks".toList,[],none⟩) = (.ok (), started) ∧ started = atPrompt "ks" ∧
    List.Forall₂ (Exact s "ks") someCalls (s.tryAll someCalls started) := by
  obtain ⟨sessions,probes⟩ := fixture_probes_exact ⟨0⟩ (fixtureShellConfig "fake" "ks") {} "ks" rfl rfl rfl (by decide)
    someCalls (by decide)
  obtain ⟨s,made⟩ := sessions.mpr (by decide)
  obtain ⟨started,probed⟩ := probes s made
  exact ⟨s,started,made,probed⟩

/-! ## Long keyspaces -/

/-- A keyspace of any length. -/
def longKeyspace (n : Nat) : String := String.ofList (List.replicate n 'k')

/-- An input of any length with candidates. -/
def wideInput (n : Nat) : String := String.ofList ("DROP".toList ++ List.replicate n ' ')

section

variable {n : Nat}

theorem toList_longKeyspace : (longKeyspace n).toList = List.replicate n 'k' := String.toList_ofList

theorem toList_wideInput : (wideInput n).toList = "DROP".toList ++ List.replicate n ' ' := String.toList_ofList

theorem printable_longKeyspace : Printable (longKeyspace n).toList := by
  rw [toList_longKeyspace]
  exact fun c member => List.eq_of_mem_replicate member ▸ by decide

theorem printable_longText : Printable (Prompt.fixtureText (longKeyspace n)) := by
  have before : Printable "fake:".toList := by decide
  have after : Printable "> ".toList := by decide
  exact printable_append.mpr ⟨printable_append.mpr ⟨before,printable_longKeyspace⟩,after⟩

theorem length_longText : (Prompt.fixtureText (longKeyspace n)).length = n + 7 := by
  have keyspace : (longKeyspace n).toList.length = n := by rw [toList_longKeyspace,List.length_replicate]
  show ("fake:".toList ++ (longKeyspace n).toList ++ "> ".toList).length = _
  rw [List.length_append,List.length_append,keyspace,Nat.add_comm _ n]
  rfl

theorem printable_wideInput : Printable (wideInput n).toList := by
  rw [toList_wideInput]
  have word : Printable "DROP".toList := by decide
  have spaces : Printable (List.replicate n ' ') := fun c member => List.eq_of_mem_replicate member ▸ by decide
  exact printable_append.mpr ⟨word,spaces⟩

theorem fillContext_wideInput (keyspace : String) : fillContext (some keyspace) (wideInput n) = wideInput n := by
  have absent : ¬contextPlaceholder.toList <:+: (wideInput n).toList := by
    intro inside
    have brace : '\x7b' ∈ (wideInput n).toList := inside.subset (by decide)
    rw [toList_wideInput] at brace
    rcases List.mem_append.mp brace with word | space
    · exact absurd word (by decide)
    · exact absurd (List.eq_of_mem_replicate space) (by decide)
  rw [fillContext,Text.replace,Text.substitute_eq_self absent,String.ofList_toList]

/-- After spaces nothing of the last word was typed. -/
theorem splitLine_spaces (word : List Char) :
    splitLine (word ++ List.replicate (n + 1) ' ') = (word ++ List.replicate (n + 1) ' ', []) := by
  rw [List.replicate_succ',← List.append_assoc]
  simp [splitLine]

theorem complete_wideInput (keyspace : List Char) :
    complete (wideInput (n + 1)).toList keyspace = .ambiguous (wordList ["INDEX","KEYSPACE","TABLE"]) := by
  have blanks : ∀ c ∈ List.replicate (n + 1) ' ', Text.isBlank c = true := fun c member =>
    List.eq_of_mem_replicate member ▸ by decide
  have words : Text.wordsChars ("DROP".toList ++ List.replicate (n + 1) ' ') = Text.wordsChars "DROP".toList :=
    Text.wordsChars_append_blanks blanks
  unfold complete
  rw [toList_wideInput,splitLine_spaces]
  dsimp only
  rw [words]
  rfl

/-- In a long keyspace there is a session, but a call on it may fail: the candidates are listed, and the
    pattern for the line after them is too big. -/
theorem tryCompletions_tooBig {m : Nat} (fits : stateSize * (n + 8) + Expr.frameSize .forward false ≤ Expr.sizeLimit)
    (big : Expr.sizeLimit < stateSize * (n + m + 12) + Expr.frameSize .forward false) :
    ∃ s e, Session.ofShell ⟨0⟩ (fixtureShellConfig "fake" (longKeyspace n)) {} = .ok s ∧
      s.awaitStartup.run (Simulated.ofShell ⟨(longKeyspace n).toList,[],none⟩) = (.ok (), atPrompt (longKeyspace n)) ∧
      ((s.tryCompletions (wideInput (m + 1)) .noChoices).run (atPrompt (longKeyspace n))).1 = .error e ∧
      s.prompt.RefusesRedraw (wideInput (m + 1)) e := by
  have stream : Fits (encodeChars ('\n' :: Prompt.fixtureText (longKeyspace n))) := by
    have length : (encodeChars ('\n' :: Prompt.fixtureText (longKeyspace n))).length = n + 8 := by
      rw [encodeChars_cons,List.length_append,length_encodeChars printable_longText,length_longText]
      exact Nat.add_comm 1 (n + 7)
    rwa [Fits,length]
  have redraw : ¬Fits (encodeChars (Prompt.fixtureText (longKeyspace n) ++ (wideInput (m + 1)).toList)) := by
    have input : (wideInput (m + 1)).toList.length = 4 + (m + 1) := by
      rw [toList_wideInput,List.length_append,List.length_replicate]
      rfl
    have length : (encodeChars (Prompt.fixtureText (longKeyspace n) ++ (wideInput (m + 1)).toList)).length = n + m + 12 := by
      rw [length_encodeChars (printable_append.mpr ⟨printable_longText,printable_wideInput⟩),List.length_append,
        length_longText,input]
      omega
    rwa [Fits,length,Nat.not_le]
  obtain ⟨p,prompts⟩ := Prompt.ofTemplate_fixture.mpr stream
  have fixture := Prompt.isFixture prompts
  have printable : Printable (fillContext (some (longKeyspace n)) (wideInput (m + 1))).toList := by
    rw [fillContext_wideInput]
    exact printable_wideInput
  obtain ⟨probed,shows,outcome⟩ := (tryCompletions_exact (s:=⟨⟨0⟩,p,.strict,{}⟩) fixture printable_longKeyspace.plain
    (wideInput (m + 1), .noChoices) printable).outcome
  rw [fillContext_wideInput] at shows outcome
  cases shows with
  | observed shows fits => exact absurd (fits _ (complete_wideInput _)) redraw
  | tooBig _ _ refuses =>
    exact ⟨_,_,Session.ofShell_eq_ok.mpr ⟨rfl,p,prompts,rfl⟩,awaitStartup_fixture fixture,outcome,refuses⟩

end

theorem fixture_probes_not_always_ok : ¬∀ (id : Identifier) (shell : SessionConfig) (config : HarnessConfig)
    (keyspace input : String) (expected : Expectation) (s : Session), config.validate = .ok () →
    shell.prompt = fixturePrompt → shell.context = some keyspace → Plain keyspace.toList →
    Printable (fillContext (some keyspace) input).toList → Session.ofShell id shell config = .ok s →
    ∃ verdict, ((s.tryCompletions input expected).run
      (s.awaitStartup.run (Simulated.ofShell ⟨keyspace.toList,[],none⟩)).2).1 = .ok verdict := by
  intro all
  obtain ⟨s,e,made,started,fails,-⟩ := tryCompletions_tooBig (n:=327560) (m:=199) (by decide) (by decide)
  have printable : Printable (fillContext (some (longKeyspace 327560)) (wideInput 200)).toList := by
    rw [fillContext_wideInput]
    exact printable_wideInput
  obtain ⟨verdict,ok⟩ := all ⟨0⟩ (fixtureShellConfig "fake" (longKeyspace 327560)) {} (longKeyspace 327560) (wideInput 200)
    .noChoices s rfl rfl rfl printable_longKeyspace.plain printable made
  rw [started] at ok
  cases fails.symm.trans ok

end TabCompletion
