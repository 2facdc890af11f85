import TabCompletion.Proofs.Dialogue
import TabCompletion.Session
import TabCompletion.Validation

/-!
# Prompts, sessions and suites that are accepted

A prompt is made of a template if both of its patterns compile (`Prompt.ofTemplate_eq_ok`), and a
session of a shell if besides the timing is valid (`Session.ofShell_eq_ok`). Both keep the context. A
suite is valid just if it keeps all rules that `Suite.validate` checks in turn (`Suite.validate_eq_ok`).
-/
namespace TabCompletion

theorem Prompt.ofTemplate_eq_ok {template : String} {context : Option String} {p : Prompt} :
    Prompt.ofTemplate template context = .ok p ↔ ∃ stream lineStart,
      compilePart (fillTemplate template context) = .ok stream ∧
      compilePart (trimLeading (fillTemplate template context)) = .ok lineStart ∧
      p = ⟨template,context,stream,lineStart⟩ := by
  simp only [ofTemplate,bind_eq_ok,pure,Except.pure,Except.ok.injEq,eq_comm (a := p)]
  constructor
  · rintro ⟨stream,streams,lineStart,starts,made⟩; exact ⟨stream,lineStart,streams,starts,made⟩
  · rintro ⟨stream,lineStart,streams,starts,made⟩; exact ⟨stream,streams,lineStart,starts,made⟩

theorem Session.ofShell_eq_ok {id : Identifier} {shell : SessionConfig} {config : HarnessConfig}
    {s : Session} : Session.ofShell id shell config = .ok s ↔ config.validate = .ok () ∧
      ∃ prompt, Prompt.ofTemplate shell.prompt shell.context = .ok prompt ∧
        s = ⟨id,prompt,shell.encoding,config⟩ := by
  simp only [ofShell,bind_eq_ok,pure,Except.pure,Except.ok.injEq,eq_comm (a := s)]
  constructor
  · rintro ⟨⟨⟩,valid,prompt,prompts,made⟩; exact ⟨valid,prompt,prompts,made⟩
  · rintro ⟨valid,prompt,prompts,made⟩; exact ⟨(),valid,prompt,prompts,made⟩

/-- A session for a shell is in the context of the shell. -/
theorem Session.context_of_ofShell {id : Identifier} {shell : SessionConfig} {config : HarnessConfig}
    {s : Session} (made : Session.ofShell id shell config = .ok s) : s.context = shell.context := by
  obtain ⟨-,prompt,prompts,rfl⟩ := ofShell_eq_ok.mp made
  obtain ⟨stream,lineStart,-,-,rfl⟩ := Prompt.ofTemplate_eq_ok.mp prompts
  rfl

theorem Suite.validate_eq_ok {s : Suite} : s.validate = .ok () ↔
    s.version = suiteVersion ∧ Text.isBlankText s.shell.command = false ∧ Text.isBlankText s.shell.prompt = false ∧
      (∃ prompt, Prompt.ofTemplate s.shell.prompt s.shell.context = .ok prompt) ∧
      (∀ c ∈ s.config, c.validate = .ok ()) ∧ ∀ t ∈ s.tests, t.probes ≠ [] := by
  have filled : (∀ t ∈ s.tests, t.probes ≠ []) ↔ s.tests.find? (·.probes.isEmpty) = none := by simp
  rw [filled]
  unfold Suite.validate
  by_cases version : s.version = suiteVersion
  case neg => simp [version,throw,throwThe,MonadExceptOf.throw,bind,Except.bind]
  cases command : Text.isBlankText s.shell.command
  case true => simp [version,throw,throwThe,MonadExceptOf.throw,bind,Except.bind]
  cases prompt : Text.isBlankText s.shell.prompt
  case true => simp [version,throw,throwThe,MonadExceptOf.throw,bind,Except.bind]
  simp only [version,ne_eq,not_true_eq_false,Bool.false_eq_true,if_false,true_and,bind_eq_ok]
  have once (valid : HarnessResult Unit) : (∃ u, valid = .ok u) ↔ valid = .ok () :=
    ⟨fun ⟨_,is⟩ => is,fun is => ⟨(),is⟩⟩
  cases s.config with
  | none => cases s.tests.find? (·.probes.isEmpty) <;> simp [pure,Except.pure,throw,throwThe,MonadExceptOf.throw]
  | some c =>
    cases s.tests.find? (·.probes.isEmpty) with
    | none => simp [bind_eq_ok,once,pure,Except.pure]
    | some test => simp [bind_eq_ok,throw,throwThe,MonadExceptOf.throw]

end TabCompletion
