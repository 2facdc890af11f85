import TabCompletion.Proofs.FixtureShell.Keys
import TabCompletion.Proofs.Prompt
import TabCompletion.Proofs.Dialogue
import TabCompletion.Session
import TabCompletion.Transport.Simulated

/-!
# The terminal of the fixture shell

Between probes the fixture shell is at a prompt: its line is empty, nothing is withheld and nothing is
unread (`Simulated.atPrompt`). The first prompt is awaited and taken (`awaitStartup_fixture`), and a
recovery leads back there from any line (`cancelAndResync_fixture`).
-/
namespace TabCompletion

open Pattern FixtureShell Utf8

namespace Simulated

/-- Keys after which the shell goes on are answered at once. -/
theorem run_send {shell after : FixtureShell} {output bytes typed : Bytes}
    (pressed : shell.pressAll typed = (bytes, .goOn, after)) :
    (Transport.send typed : Dialogue Simulated Unit).run ⟨shell,output,false⟩ = (.ok (), ⟨after,output ++ bytes,false⟩) := by
  show Simulated.send typed ⟨shell,output,false⟩ = _
  simp only [Simulated.send,pressed,Bool.false_eq_true,if_false]
  rfl

theorem run_readUntilQuiet (shell : FixtureShell) (output : Bytes) (quiet : Nat) :
    (Transport.readUntilQuiet quiet : Dialogue Simulated Bytes).run ⟨shell,output,false⟩ =
      (.ok output, ⟨shell,[],false⟩) := rfl

theorem run_readUntilMatch {p : Pattern} {output upTo after : Bytes} (split : p.splitAfter? output = some (upTo, after))
    (shell : FixtureShell) (timeout : Nat) :
    (Transport.readUntilMatch p timeout : Dialogue Simulated Bytes).run ⟨shell,output,false⟩ =
      (.ok upTo, ⟨shell,after,false⟩) := by
  show Simulated.readUntilMatch p timeout ⟨shell,output,false⟩ = _
  simp only [Simulated.readUntilMatch,split]

/-- The terminal of a fixture shell at a prompt, with nothing on the line and nothing unread. -/
def atPrompt (keyspace : String) : Simulated := ⟨⟨keyspace.toList,[],none⟩,[],false⟩

end Simulated

open Simulated

variable {prompt : Prompt} {keyspace : String}

/-- What the fixture shell prints for a cancel. -/
def fixtureAnswer (keyspace : String) : Bytes :=
  encodeChars ('^' :: 'C' :: FixtureShell.newPrompt ⟨keyspace.toList,[],none⟩)

theorem fixtureAnswer_eq (keyspace : String) :
    fixtureAnswer keyspace = [0x5E,0x43,0x0D] ++ 0x0A :: encodeChars (Prompt.fixtureText keyspace) := rfl

/-- The answer of the fixture shell to a cancel ends with the prompt that is waited for. -/
theorem resync_fixture (fixture : prompt.IsFixture keyspace) (config : HarnessConfig) :
    (resync prompt config).run (⟨⟨keyspace.toList,[],none⟩,fixtureAnswer keyspace,false⟩ : Simulated) =
      (.ok (), atPrompt keyspace) := by
  have begins : Begins prompt.stream.text (encodeChars ('\n' :: Prompt.fixtureText keyspace)) :=
    fun _ => ⟨_,_,rfl,by decide⟩
  have first : FirstAt (0x0A :: encodeChars (Prompt.fixtureText keyspace)) (fixtureAnswer keyspace) 3 := by
    have found : FirstAt (0x0A :: encodeChars (Prompt.fixtureText keyspace))
      ([0x5E,0x43,0x0D] ++ 0x0A :: encodeChars (Prompt.fixtureText keyspace) ++ []) 3 := .after_other (by decide)
    rwa [List.append_nil,← fixtureAnswer_eq] at found
  have split : prompt.stream.splitAfter? (fixtureAnswer keyspace) = some (fixtureAnswer keyspace, []) :=
    (splitAfter?_eq_some_iff fixture.stream begins).mpr ⟨[0x5E,0x43,0x0D],first,fixtureAnswer_eq keyspace,by
      rw [List.append_nil]; exact fixtureAnswer_eq keyspace⟩
  have waited := run_readUntilMatch split ⟨keyspace.toList,[],none⟩ config.resyncTimeout
  unfold resync
  rw [Dialogue.run_bind_ok (Dialogue.run_attempt_eq waited)]
  rfl

theorem run_ctrlC (line : List Char) (withheld : Option (List (List Char))) :
    (Transport.send [ctrlC] : Dialogue Simulated Unit).run ⟨⟨keyspace.toList,line,withheld⟩,[],false⟩ =
      (.ok (), ⟨⟨keyspace.toList,[],none⟩,fixtureAnswer keyspace,false⟩) :=
  run_send pressAll_cancel

/-- A recovery takes the fixture shell back to a prompt, whatever is on its line. -/
theorem cancelAndResync_fixture (fixture : prompt.IsFixture keyspace) (config : HarnessConfig) (line : List Char)
    (withheld : Option (List (List Char))) :
    (cancelAndResync prompt config).run (⟨⟨keyspace.toList,line,withheld⟩,[],false⟩ : Simulated) =
      (.ok (), atPrompt keyspace) := by
  unfold cancelAndResync
  rw [Dialogue.run_bind_ok (run_ctrlC line withheld)]
  exact resync_fixture fixture config

/-- The first prompt of the fixture shell is awaited and taken. -/
theorem awaitStartup_fixture {s : Session} (fixture : s.prompt.IsFixture keyspace) :
    s.awaitStartup.run (Simulated.ofShell ⟨keyspace.toList,[],none⟩) = (.ok (), atPrompt keyspace) := by
  have begins : Begins s.prompt.lineStart.text (encodeChars (Prompt.fixtureText keyspace)) :=
    fun _ => ⟨_,_,rfl,by decide⟩
  have split : s.prompt.lineStart.splitAfter? (encodeChars (Prompt.fixtureText keyspace)) =
      some (encodeChars (Prompt.fixtureText keyspace), []) :=
    (splitAfter?_eq_some_iff fixture.lineStart begins).mpr
      ⟨[],.start (List.prefix_refl _),rfl,(List.append_nil _).symm⟩
  unfold Session.awaitStartup
  exact Dialogue.run_bind_ok (run_readUntilMatch split ⟨keyspace.toList,[],none⟩ s.config.startupTimeout)

theorem run_input {input : String} (printable : Printable input.toList) :
    (Transport.send (Utf8.encode input) : Dialogue Simulated Unit).run (atPrompt keyspace) =
      (.ok (), ⟨⟨keyspace.toList,input.toList,none⟩,Utf8.encode input,false⟩) := by
  have pressed := pressAll_printable (s:=⟨keyspace.toList,[],none⟩) printable rfl
  exact run_send pressed

/-- TAB on the line of an input. -/
theorem run_tab {input : String} {withheld : Option (List (List Char))} {bytes : Bytes} {after : FixtureShell}
    (pressed : FixtureShell.pressTab ⟨keyspace.toList,input.toList,withheld⟩ = (bytes, after)) (output : Bytes) :
    (Transport.send [tab] : Dialogue Simulated Unit).run ⟨⟨keyspace.toList,input.toList,withheld⟩,output,false⟩ =
      (.ok (), ⟨after,output ++ bytes,false⟩) := by
  have all := pressAll_tab (s:=⟨keyspace.toList,input.toList,withheld⟩)
  rw [pressed] at all
  exact run_send all

end TabCompletion
