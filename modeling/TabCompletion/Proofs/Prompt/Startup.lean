import TabCompletion.Proofs.Construction
import TabCompletion.Proofs.Dialogue
import TabCompletion.Proofs.Prompt
import TabCompletion.Proofs.Prompt.Leading
import TabCompletion.Proofs.Transport.Awaiting
import TabCompletion.Session

/-!
# Prompts at the start of a session

The first prompt is looked for without the white space at the start of its pattern. What is left of a
pattern is one as well, unless it begins with a sign of repetition that had white space to repeat
(`LeavesRepetition`) or is too big (`LeavesTooMuch`), and it is found wherever the whole pattern is
(`lineStart_no_stricter`).
-/
namespace TabCompletion.Prompt

open Pattern Pattern.Parse

variable {source template : String} {context : Option String} {stream : Pattern} {s' : Syntax}

/-- Without the white space at its start the pattern begins with a sign of repetition. -/
def LeavesRepetition (source : String) : Prop := ∃ c ∈ (trimLeading source).toList.head?, c ∈ repeats

/-- Without the white space at its start the pattern is too big. It may be although the whole pattern is not:
    alternatives that begin alike are smaller. -/
def LeavesTooMuch (source : String) : Prop := Pattern.compile false (trimLeading source) = .error .tooBig

theorem parse_trimLeading_of_leaves (leaves : LeavesRepetition source) :
    parse (trimLeading source) = .error .nothingToRepeat := by
  obtain ⟨c,first,sign⟩ := leaves
  unfold parse
  cases left : (trimLeading source).toList with
  | nil => rw [left] at first; cases first
  | cons d rest =>
    rw [left] at first
    cases first
    exact bind_eq_error.mpr (.inl (body_repeats sign))

/-- What is left of a pattern is read as it was after the white space. -/
theorem parse_trimLeading (parsed : parse source = .ok s') (apart : ¬LeavesRepetition source) :
    ∃ old s, (∀ part ∈ old, Blank part) ∧ parse (trimLeading source) = .ok s ∧ Leads old s s' := by
  obtain ⟨⟨left,read⟩,shallow⟩ := parse_eq_ok_iff.mp parsed
  obtain ⟨old,blanks,n,length,same⟩ := reads_of_trims (trims_trimBlank source.toList) []
  have rest : (trimLeading source).toList = trimBlank source.toList := String.toList_ofList
  -- The moves for the white space leave fuel for what is left of the text, as each of them takes a character.
  obtain ⟨fuel,enough⟩ := Nat.exists_eq_add_of_le
    (show n + (trimBlank source.toList).length + 2 ≤ source.toList.length + 2 by omega)
  rw [enough,Nat.add_assoc,Nat.add_assoc,same,List.append_nil] at read
  have starts : Apart [] ⟨trimBlank source.toList,false,[]⟩ := by
    refine .inr ⟨rfl,fun c first sign => apart ⟨c,?_,sign⟩⟩
    rw [rest]
    exact first
  obtain ⟨s,read,leads⟩ := body_leads starts read
  refine ⟨old,s,blanks,parse_eq_ok_iff.mpr ⟨⟨left,?_⟩,Nat.le_trans (depth_le_of_leads leads) shallow⟩,leads⟩
  rw [rest]
  exact body_enough read (by simp)

/-- What is left of a pattern means what comes after the white space, and is refused only for its size. -/
theorem compile_trimLeading (compiled : Pattern.compile false source = .ok stream) (apart : ¬LeavesRepetition source) :
    ∃ e ws, Expr.Leads ws e stream.expr ∧ stream.text = false ∧ Pattern.compile false (trimLeading source) =
      if e.isTooBig = true then .error .tooBig else .ok ⟨trimLeading source,false,e⟩ := by
  obtain ⟨s',e',parsed,made,-,rfl⟩ := compile_eq_ok.mp compiled
  obtain ⟨old,s,blanks,parsed,leads⟩ := parse_trimLeading parsed apart
  obtain ⟨⟨e',f⟩,translated,⟨⟩⟩ := bind_eq_ok.mp made
  obtain ⟨ws,e,without,leads⟩ := translate_leads (fun part member => (blanks part member).keeps) leads translated
  exact ⟨e,ws,leads,rfl,compile_of_means parsed (bind_eq_ok.mpr ⟨_,without,rfl⟩)⟩

/-- The template is a pattern once the context is filled in, and so is what is left of it without the white space at
    its start: no sign of repetition comes first there, and it is not too big. -/
structure Accepted (template : String) (context : Option String) : Prop where
  compiles : ∃ stream, Pattern.compile false (fillTemplate template context) = .ok stream
  apart : ¬LeavesRepetition (fillTemplate template context)
  small : ¬LeavesTooMuch (fillTemplate template context)

theorem compile_trimLeading_of_leaves (leaves : LeavesRepetition source) :
    Pattern.compile false (trimLeading source) = .error .nothingToRepeat :=
  bind_eq_error.mpr (.inl (parse_trimLeading_of_leaves leaves))

theorem exists_ofTemplate_iff_accepted (template : String) (context : Option String) :
    (∃ p, ofTemplate template context = .ok p) ↔ Accepted template context := by
  constructor
  · rintro ⟨p,made⟩
    obtain ⟨stream,lineStart,streams,starts,-⟩ := ofTemplate_eq_ok.mp made
    rw [compilePart_eq_ok] at streams starts
    refine ⟨⟨stream,streams⟩,fun leaves => ?_,fun big => ?_⟩
    · cases starts.symm.trans (compile_trimLeading_of_leaves leaves)
    · cases starts.symm.trans big
  · rintro ⟨⟨stream,compiled⟩,apart,small⟩
    obtain ⟨e,ws,-,-,starts⟩ := compile_trimLeading compiled apart
    split at starts
    · exact absurd starts small
    · exact ⟨_,ofTemplate_eq_ok.mpr ⟨_,_,compilePart_eq_ok.mpr compiled,compilePart_eq_ok.mpr starts,rfl⟩⟩

/-- A template that is refused for its pattern without the white space at the start. -/
theorem ofTemplate_of_trimLeading {fault : Pattern.Fault}
    (compiled : Pattern.compile false (fillTemplate template context) = .ok stream)
    (fails : Pattern.compile false (trimLeading (fillTemplate template context)) = .error fault) :
    ∃ e, ofTemplate template context = .error e ∧ RefusesTemplate (trimLeading (fillTemplate template context)) e := by
  refine ⟨invalidTemplate (trimLeading (fillTemplate template context)) fault,?_,fault.message,rfl⟩
  refine bind_eq_error.mpr (.inr ⟨stream,compilePart_eq_ok.mpr compiled,bind_eq_error.mpr (.inl ?_)⟩)
  unfold compilePart
  rw [fails]

/-- When a template is refused: if it is no pattern or if, although it is one, without the white space at its start
    it begins with a sign of repetition or is too big; then the error names what is left of it. A suite and a
    session ask no more of the prompt of their shell but that in a suite it is not blank. -/
theorem refused_prompts (template : String) (context : Option String) :
    ((∃ p, ofTemplate template context = .ok p) ↔ Accepted template context) ∧
    (∀ stream, Pattern.compile false (fillTemplate template context) = .ok stream →
      LeavesRepetition (fillTemplate template context) ∨ LeavesTooMuch (fillTemplate template context) →
        ∃ e, ofTemplate template context = .error e ∧ RefusesTemplate (trimLeading (fillTemplate template context)) e) ∧
    (∀ s : Suite, s.shell.prompt = template → s.shell.context = context → (s.validate = .ok () ↔
      s.version = suiteVersion ∧ Text.isBlankText s.shell.command = false ∧ Text.isBlankText template = false ∧
        Accepted template context ∧ (∀ c ∈ s.config, c.validate = .ok ()) ∧ ∀ t ∈ s.tests, t.probes ≠ [])) ∧
    ∀ (id : Identifier) (shell : SessionConfig) (config : HarnessConfig), shell.prompt = template →
      shell.context = context →
        ((∃ s, Session.ofShell id shell config = .ok s) ↔ config.validate = .ok () ∧ Accepted template context) := by
  refine ⟨exists_ofTemplate_iff_accepted template context,?_,?_,?_⟩
  · rintro stream compiled (leaves | big)
    · exact ofTemplate_of_trimLeading compiled (compile_trimLeading_of_leaves leaves)
    · exact ofTemplate_of_trimLeading compiled big
  · rintro s rfl rfl
    rw [← exists_ofTemplate_iff_accepted]
    exact Suite.validate_eq_ok
  · rintro id shell config rfl rfl
    rw [← exists_ofTemplate_iff_accepted]
    constructor
    · rintro ⟨s,made⟩
      obtain ⟨valid,p,prompt,-⟩ := Session.ofShell_eq_ok.mp made
      exact ⟨valid,p,prompt⟩
    · rintro ⟨valid,p,prompt⟩
      exact ⟨_,Session.ofShell_eq_ok.mpr ⟨valid,p,prompt,rfl⟩⟩

/-- A prompt after two line breaks, which are written with a count. -/
def countedPrompt : String := "\\n\x7b2\x7d> "

theorem countedPrompt_compiles : ∃ stream, Pattern.compile false (fillTemplate countedPrompt none) = .ok stream := by
  have compiles : (Pattern.compile false (fillTemplate countedPrompt none)).isOk = true := by decide +kernel
  cases compiled : Pattern.compile false (fillTemplate countedPrompt none) with
  | error fault => rw [compiled] at compiles; cases compiles
  | ok stream => exact ⟨stream,rfl⟩

theorem trimLeading_countedPrompt : trimLeading (fillTemplate countedPrompt none) = "\x7b2\x7d> " := by decide +kernel

theorem countedPrompt_leaves : LeavesRepetition (fillTemplate countedPrompt none) :=
  ⟨'\x7b',by rw [trimLeading_countedPrompt]; rfl,by decide⟩

/-- What is left of such a prompt begins with its count. -/
theorem refused_countedPrompt : ∃ stream e, Pattern.compile false (fillTemplate countedPrompt none) = .ok stream ∧
    LeavesRepetition (fillTemplate countedPrompt none) ∧ ofTemplate countedPrompt none = .error e ∧
    RefusesTemplate "\x7b2\x7d> " e := by
  obtain ⟨stream,compiled⟩ := countedPrompt_compiles
  obtain ⟨e,refused,names⟩ := (refused_prompts countedPrompt none).2.1 stream compiled (.inl countedPrompt_leaves)
  exact ⟨stream,e,compiled,countedPrompt_leaves,refused,trimLeading_countedPrompt ▸ names⟩

/-- Not every template that is a pattern makes a prompt. -/
theorem prompt_not_always_accepted : ¬∀ template context,
    (∃ stream, Pattern.compile false (fillTemplate template context) = .ok stream) →
      ∃ p, ofTemplate template context = .ok p := by
  intro always
  have made := always countedPrompt none countedPrompt_compiles
  exact ((exists_ofTemplate_iff_accepted countedPrompt none).mp made).apart countedPrompt_leaves

/-! ## The first prompt -/

/-- The start-up is no stricter than the recovery: where the pattern for the stream is found, the one for the
    first prompt is found, and a wait for the first prompt ends if a wait for the other one would. -/
theorem lineStart_no_stricter {p : Prompt} (made : ofTemplate template context = .ok p) :
    (∀ bytes, p.stream.isFoundIn bytes = true → p.lineStart.isFoundIn bytes = true) ∧
    ∀ (session : Session) (shell : Scripted) (timeout : Nat), session.prompt = p →
      (∃ upTo left, (Transport.readUntilMatch p.stream timeout).run shell = (.ok upTo, left)) →
        ∃ left, session.awaitStartup.run shell = (.ok (), left) := by
  obtain ⟨stream,lineStart,streams,starts,rfl⟩ := ofTemplate_eq_ok.mp made
  rw [compilePart_eq_ok] at streams starts
  have apart := ((exists_ofTemplate_iff_accepted template context).mp ⟨_,made⟩).apart
  obtain ⟨e,ws,leads,forBytes,trimmed⟩ := compile_trimLeading streams apart
  obtain ⟨forBytes',rfl⟩ : lineStart.text = false ∧ e = lineStart.expr := by
    rw [trimmed] at starts
    split at starts
    · cases starts
    · cases starts; exact ⟨rfl,rfl⟩
  have wider (bytes : Bytes) : stream.isFoundIn bytes = true → lineStart.isFoundIn bytes = true :=
    isFoundIn_of_leads forBytes' forBytes leads
  refine ⟨wider,?_⟩
  rintro session shell timeout same ⟨upTo,left,awaited⟩
  obtain ⟨upTo',left',awaited⟩ := Scripted.awaitMatch_of_wider wider session.config.startupTimeout awaited
  have first : session.prompt.lineStart = lineStart := by rw [same]
  rw [← first] at awaited
  exact ⟨left',Dialogue.run_bind_ok awaited⟩

/-- A prompt with alternatives, which begins with a blank and any number of line breaks, and a terminal that
    printed it. -/
theorem lineStart_no_stricter_alternatives : ∃ (p : Prompt) (shell : Scripted) (left : Scripted),
    ofTemplate " \\n*(a|b)> |^c" none = .ok p ∧ shell.pending = Utf8.encode "x \n\nb> $" ∧
      p.stream.isFoundIn shell.pending = true ∧ p.lineStart.isFoundIn shell.pending = true ∧
      (⟨⟨0⟩,p,.strict,{}⟩ : Session).awaitStartup.run shell = (.ok (), left) := by
  let shell : Scripted := { replies := [], pending := Utf8.encode "x \n\nb> $" }
  have found : (ofTemplate " \\n*(a|b)> |^c" none).toOption.any (·.stream.isFoundIn shell.pending) = true := by
    decide +kernel
  cases made : ofTemplate " \\n*(a|b)> |^c" none with
  | error e => rw [made] at found; cases found
  | ok p =>
    rw [made] at found
    have found : p.stream.isFoundIn shell.pending = true := found
    obtain ⟨wider,startup⟩ := lineStart_no_stricter made
    have waits : ∃ upTo left, (Transport.readUntilMatch p.stream 1000).run shell = (.ok upTo, left) := by
      rw [← Scripted.isSome_splitAfter?,Option.isSome_iff_exists] at found
      obtain ⟨parts,split⟩ := found
      exact ⟨_,_,by rw [Scripted.run_readUntilMatch,Scripted.awaitMatch,split]⟩
    obtain ⟨left,started⟩ := startup ⟨⟨0⟩,p,.strict,{}⟩ shell 1000 rfl waits
    exact ⟨p,shell,left,rfl,rfl,found,wider _ found,started⟩

end TabCompletion.Prompt
