import TabCompletion.Proofs.Prompt
import TabCompletion.Proofs.Session.Recovery

/-!
# Answers that come late

The shell answers every cancel. A recovery that cancels twice waits for one prompt only, the first
that comes, so the answer to the other cancel is not taken: `cancelAndResync_leaves_answer` says that all of
it is still there for the next read. After a single cancel nothing is.
-/
namespace TabCompletion

open Pattern Scripted

/-- What the shell prints for a cancel: the mark of the cancel and, on a new line, the prompt. -/
def cancelAnswer (text : Bytes) : Bytes := [0x5E,0x43,0x0D] ++ 0x0A :: text

/-- The answers to `n` cancels. -/
def cancelAnswers (n : Nat) (text : Bytes) : Bytes := (List.replicate n (cancelAnswer text)).flatten

/-- A prompt that is a line break and a text on one line. -/
structure LinePrompt (p : Pattern) (text : Bytes) : Prop where
  spells : p.expr.Spells (0x0A :: text)
  noReturn : 0x0D ∉ text
  noNewline : 0x0A ∉ text

/-- Nothing is pending, and no output that is still to come has a byte. -/
def Scripted.Clean (s : Scripted) : Prop := s.pending = [] ∧ ∀ bytes, .output bytes ∈ s.replies → bytes = []

theorem Scripted.clean_of_nothing {s : Scripted} (nothing : s.pending ++ allBytes s.replies = []) : s.Clean := by
  obtain ⟨pending,replies⟩ := List.append_eq_nil_iff.mp nothing
  refine ⟨pending,fun bytes member => ?_⟩
  exact List.flatMap_eq_nil_iff.mp replies _ member

/-- The answers to cancels, cut anywhere, are found to begin with the first one. -/
theorem splitAfter_cancelAnswers {p : Pattern} {text bytes more upTo after : Bytes} {n : Nat} (prompt : LinePrompt p text)
    (answers : bytes ++ more = cancelAnswers (n + 1) text) (split : p.splitAfter? bytes = some (upTo, after)) :
    after ++ more = cancelAnswers n text := by
  have begins : Begins p.text (0x0A :: text) := fun _ => ⟨_,_,rfl,by decide⟩
  obtain ⟨lead,first,rfl,rfl⟩ := (splitAfter?_eq_some_iff prompt.spells begins).mp split
  have whole : cancelAnswers (n + 1) text = [0x5E,0x43,0x0D] ++ 0x0A :: text ++ cancelAnswers n text := by
    simp [cancelAnswers,cancelAnswer,List.replicate_succ]
  -- The prompt is found where the first line break is, and that is in the first answer.
  have found := first.append more
  rw [answers,whole] at found
  have length : lead.length = 3 := found.unique (FirstAt.after_other (by decide))
  rw [whole,List.append_assoc] at answers
  exact (List.append_inj answers (by simp [length]; omega)).2

/-- A recovery whose cancels are all answered, with no other output, succeeds at the first prompt. After
    one cancel it leaves nothing behind; after two it leaves the whole second answer. -/
theorem cancelAndResync_leaves_answer (prompt : Prompt) (config : HarnessConfig) (text : Bytes)
    (line : LinePrompt prompt.stream text) (replies : List Reply) (sent : Bytes) (writes : List Bytes)
    (after : Scripted) (cancels : Nat)
    (ran : (cancelAndResync prompt config).run (⟨replies,[],sent,writes,false⟩ : Scripted) = (.ok (), after))
    (sends : after.writes = writes ++ List.replicate cancels [ctrlC])
    (answered : allBytes replies = cancelAnswers cancels text) :
    (cancels = 1 ∧ after.Clean) ∨
      (cancels = 2 ∧ after.pending ++ allBytes after.replies = cancelAnswer text) := by
  have recovered := cancelAndResync_recovered prompt config (s:=⟨replies,[],sent,writes,false⟩) rfl
  rw [ran] at recovered
  cases recovered with
  | @prompted taken rest upTo left script goesOn silences first split =>
  have count : cancels = taken.count .silence + 1 := by
    have same := List.append_cancel_left sends
    have length := congrArg List.length same
    simpa [Nat.add_comm,eq_comm] using length
  subst count
  have total : allBytes taken ++ allBytes rest = cancelAnswers (taken.count .silence + 1) text := by
    rw [← allBytes_append,← script,answered]
  have leaves := splitAfter_cancelAnswers line total split
  have either : taken.count .silence = 0 ∨ taken.count .silence = 1 := by omega
  rcases either with zero | one
  · refine .inl ⟨by rw [zero],Scripted.clean_of_nothing ?_⟩
    rw [zero] at leaves
    exact leaves
  · refine .inr ⟨by rw [one],?_⟩
    rw [one] at leaves
    simpa [cancelAnswers] using leaves

/-- The text of a prompt of the fixture shell. -/
def lateText : Bytes := Utf8.encodeChars (Prompt.fixtureText "ks")

/-- A terminal on which both cancels are answered, but not before the first wait is over. -/
def lateShell : Scripted :=
  ⟨[.silence,.output (cancelAnswer lateText),.output (cancelAnswer lateText)],[],[],[],false⟩

/-- That terminal after the recovery: the second answer was not read. -/
def lateShellAfter : Scripted :=
  ⟨[.output (cancelAnswer lateText)],[],[ctrlC,ctrlC],[[ctrlC],[ctrlC]],false⟩

theorem lateShell_run : ∃ prompt : Prompt, LinePrompt prompt.stream lateText ∧
    (cancelAndResync prompt {}).run lateShell = (.ok (), lateShellAfter) := by
  have ran : (Prompt.ofTemplate fixturePrompt (some "ks")).toOption.map
      (fun prompt => ((cancelAndResync prompt {}).run lateShell).map Except.toOption id) =
        some (some (), lateShellAfter) := by decide +kernel
  obtain ⟨prompt,made,run⟩ := Option.map_eq_some_iff.mp ran
  have template : Prompt.ofTemplate fixturePrompt (some "ks") = .ok prompt := by
    cases compiled : Prompt.ofTemplate fixturePrompt (some "ks") with
    | ok p => rw [compiled] at made; cases made; rfl
    | error e => rw [compiled] at made; cases made
  refine ⟨prompt,⟨(Prompt.isFixture template).stream,by decide,by decide⟩,?_⟩
  cases result : (cancelAndResync prompt {}).run lateShell with
  | mk outcome after =>
  rw [result] at run
  cases outcome with
  | ok _ => cases run; rfl
  | error e => cases run

/-- Recovery may succeed and leave something behind, although nothing but its cancels was answered. -/
theorem recovery_not_always_clean : ¬∀ (prompt : Prompt) (config : HarnessConfig) (text : Bytes)
    (replies : List Reply) (after : Scripted) (cancels : Nat), LinePrompt prompt.stream text →
    (cancelAndResync prompt config).run (⟨replies,[],[],[],false⟩ : Scripted) = (.ok (), after) →
    after.writes = List.replicate cancels [ctrlC] → allBytes replies = cancelAnswers cancels text → after.Clean := by
  intro clean
  obtain ⟨prompt,line,ran⟩ := lateShell_run
  obtain ⟨-,unread⟩ := clean prompt {} lateText lateShell.replies lateShellAfter 2 line ran rfl (by decide)
  have := unread (cancelAnswer lateText) (by decide)
  cases this

theorem lateShell_leaves_answer : ∃ prompt : Prompt, LinePrompt prompt.stream lateText ∧
    ((2 = 1 ∧ lateShellAfter.Clean) ∨
      (2 = 2 ∧ lateShellAfter.pending ++ allBytes lateShellAfter.replies = cancelAnswer lateText)) := by
  obtain ⟨prompt,line,ran⟩ := lateShell_run
  exact ⟨prompt,line,cancelAndResync_leaves_answer prompt {} lateText line lateShell.replies [] [] lateShellAfter 2 ran rfl
    (by decide)⟩

end TabCompletion
