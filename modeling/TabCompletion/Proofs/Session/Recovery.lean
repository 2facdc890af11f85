import TabCompletion.Probe
import TabCompletion.Proofs.Dialogue
import TabCompletion.Proofs.Transport.Awaiting

/-!
# Recovery on scripted terminals

A recovery waits for the prompt twice, with one silence in between. `Recovered` says which replies it
takes and how many cancels it sends, and `cancelAndResync_recovered` says it of every recovery on a
terminal that is open. `cancelAndResync_scripted` states from it when a recovery succeeds, by the
prefixes of the script: the first one that reaches the prompt is what is taken.
-/
namespace TabCompletion

open Scripted

/-- The terminal after `n` more cancels. -/
def Scripted.cancelled (n : Nat) (s : Scripted) : Scripted :=
  { s with sent := s.sent ++ List.replicate n ctrlC, writes := s.writes ++ List.replicate n [ctrlC] }

variable {prompt : Prompt} {config : HarnessConfig} {s t u : Scripted} {p : Pattern} {e e' : HarnessError}
  {bytes : Bytes}

theorem Scripted.send_ctrlC (opened : s.closed = false) :
    Scripted.send [ctrlC] s = (.ok (), s.cancelled 1) := send_open [ctrlC] opened

theorem cancelAndResync_run (opened : s.closed = false) :
    (cancelAndResync prompt config).run s = (resync prompt config).run (s.cancelled 1) := by
  unfold cancelAndResync
  rw [Dialogue.run_bind,run_send,send_ctrlC opened]

theorem resync_run_ok (found : s.awaitMatch prompt.stream config.resyncTimeout s.pending s.replies = (.ok bytes, t)) :
    (resync prompt config).run s = (.ok (), t) := by
  unfold resync
  rw [Dialogue.run_bind,Dialogue.run_attempt,run_readUntilMatch,found]
  rfl

theorem resync_run_broken (broken : s.awaitMatch prompt.stream config.resyncTimeout s.pending s.replies = (.error e, t))
    (other : e.isTimeout = false) : (resync prompt config).run s = (.error e, t) := by
  unfold resync
  rw [Dialogue.run_bind,Dialogue.run_attempt,run_readUntilMatch,broken]
  simp [other]

/-- After a first wait in vain a recovery cancels again and waits once more. -/
theorem resync_run_late (late : s.awaitMatch prompt.stream config.resyncTimeout s.pending s.replies = (.error e, t))
    (timeout : e.isTimeout = true) (opened : t.closed = false) : (resync prompt config).run s =
      match (t.cancelled 1).awaitMatch prompt.stream config.resyncRetryTimeout t.pending t.replies with
      | (.ok _, u) => (.ok (), u)
      | (.error e', u) => (.error (if e'.isTimeout then noPromptAfterCancels config e' else e'), u) := by
  unfold resync
  rw [Dialogue.run_bind,Dialogue.run_attempt,run_readUntilMatch,late]
  simp only [timeout,Bool.not_true,Bool.false_eq_true,if_false]
  rw [Dialogue.run_bind,run_send,send_ctrlC opened]
  dsimp only
  rw [Dialogue.run_bind,Dialogue.run_attempt,run_readUntilMatch]
  dsimp only [Scripted.cancelled]
  generalize awaitMatch _ _ _ _ _ = second
  obtain ⟨e' | bytes,u⟩ := second <;> rfl

/-! ## The replies that are taken -/

/-- How a recovery on a terminal ends, by the replies of its script. -/
inductive Recovered (p : Pattern) (s : Scripted) : HarnessResult Unit × Scripted → Prop where
  /-- The prompt was found in the replies that were taken, and not before the last of them. -/
  | prompted (taken rest : List Reply) {upTo after : Bytes} (script : s.replies = taken ++ rest)
      (goesOn : .closed ∉ taken) (silences : taken.count .silence ≤ 1)
      (first : UnmatchedBefore p s.pending taken)
      (split : p.splitAfter? (s.pending ++ allBytes taken) = some (upTo, after)) :
      Recovered p s (.ok (),
        { s.cancelled (1 + taken.count .silence) with pending := after, replies := rest })
  /-- The terminal ended. -/
  | ended (taken rest : List Reply) (e : HarnessError) (script : s.replies = taken ++ .closed :: rest)
      (goesOn : .closed ∉ taken) (silences : taken.count .silence ≤ 1)
      (unmatched : Unmatched p s.pending taken) (code : e.code = .streamClosed) :
      Recovered p s (.error e,
        { s.cancelled (1 + taken.count .silence) with pending := [], replies := rest, closed := true })
  /-- The prompt did not come, and either the script or the patience is at an end. -/
  | lost (taken rest : List Reply) (e : HarnessError) (script : s.replies = taken ++ rest)
      (goesOn : .closed ∉ taken) (unmatched : Unmatched p s.pending taken)
      (spent : rest = [] ∨ 1 < taken.count .silence) (code : e.code = .timeout) :
      Recovered p s (.error e,
        { s.cancelled 2 with pending := s.pending ++ allBytes taken, replies := rest })

theorem outputs_goOn {taken : List Reply} (outputs : ∀ r ∈ taken, IsOutput r) :
    .closed ∉ taken ∧ taken.count .silence = 0 := by
  constructor
  · intro member
    obtain ⟨bytes,is⟩ := outputs _ member
    cases is
  · refine List.count_eq_zero.mpr fun member => ?_
    obtain ⟨bytes,is⟩ := outputs _ member
    cases is

theorem Scripted.cancelled_late (x : Bytes) (rest : List Reply) :
    ({ s.cancelled 1 with pending := x, replies := rest } : Scripted).cancelled 1 =
      { s.cancelled 2 with pending := x, replies := rest } := by
  simp [Scripted.cancelled]

/-- What is not found in replies is not found after a silence either. -/
theorem unmatched_silence {received : Bytes} {taken : List Reply} (unmatched : Unmatched p received taken) :
    Unmatched p received (taken ++ [.silence]) := by
  have last := unmatched taken (List.prefix_refl taken)
  exact unmatched_append.mpr ⟨unmatched,unmatched_cons.mpr ⟨last,by simpa [bytesOf,unmatched_nil] using last⟩⟩

/-- What comes of a second wait. -/
def secondOutcome (config : HarnessConfig) : HarnessResult Bytes × Scripted → HarnessResult Unit × Scripted
  | (.ok _, u) => (.ok (), u)
  | (.error e, u) => (.error (if e.isTimeout then noPromptAfterCancels config e else e), u)

/-- The second wait goes on where the first one gave up: after a silence, or at the end of the script. -/
theorem Recovered.of_second {taken rest : List Reply} {timeout : Nat} {outcome : HarnessResult Bytes × Scripted}
    (config : HarnessConfig) (script : s.replies = taken ++ rest) (goesOn : .closed ∉ taken)
    (gaveUp : taken.count .silence = 1 ∨ rest = []) (unmatched : Unmatched p s.pending taken)
    (awaited : Awaited p timeout
      { s.cancelled 2 with pending := s.pending ++ allBytes taken, replies := rest }
      (s.pending ++ allBytes taken) rest outcome) : Recovered p s (secondOutcome config outcome) := by
  -- At the end of the script there is nothing more to take.
  have silence {r : Reply} {more others : List Reply} (left : rest = more ++ r :: others) :
      taken.count .silence = 1 := gaveUp.resolve_right (by simp [left])
  cases awaited with
  | found more rest outputs before split =>
    obtain ⟨goes,noSilence⟩ := outputs_goOn outputs
    have one : taken.count .silence = 1 := by
      refine gaveUp.resolve_right fun empty => ?_
      obtain ⟨rfl,rfl⟩ := List.append_eq_nil_iff.mp empty
      rw [allBytes_nil,List.append_nil,unmatched taken (List.prefix_refl taken)] at split
      cases split
    rw [List.append_assoc,← allBytes_append] at split
    simpa [secondOutcome,one,noSilence] using Recovered.prompted (taken ++ more) rest (by simp [script])
      (by simp [goesOn,goes]) (by simp [one,noSilence]) (.append unmatched before) split
  | closed more rest outputs unmatched' =>
    obtain ⟨goes,noSilence⟩ := outputs_goOn outputs
    have one := silence rfl
    show Recovered p s (.error (Transport.closedBeforePrompt (s.pending ++ allBytes taken ++ allBytes more)), _)
    simpa [one,noSilence] using Recovered.ended (taken ++ more) rest _ (by simp [script]) (by simp [goesOn,goes])
      (by simp [one,noSilence]) (unmatched_append.mpr ⟨unmatched,unmatched'⟩) rfl
  | silent more rest outputs unmatched' =>
    obtain ⟨goes,noSilence⟩ := outputs_goOn outputs
    have one := silence rfl
    have lost := Recovered.lost (p:=p) (s:=s) (taken ++ (more ++ [.silence])) rest
      (noPromptAfterCancels config (Transport.noPromptInTime p timeout (s.pending ++ allBytes taken ++ allBytes more)))
      (by simp [script]) (by simp [goesOn,goes])
      (unmatched_append.mpr ⟨unmatched,unmatched_silence unmatched'⟩) (.inr (by simp [one])) rfl
    have same : s.pending ++ allBytes (taken ++ (more ++ [.silence])) = s.pending ++ allBytes taken ++ allBytes more := by
      simp [bytesOf]
    rw [same] at lost
    exact lost
  | exhausted more outputs unmatched' =>
    obtain ⟨goes,noSilence⟩ := outputs_goOn outputs
    have lost := Recovered.lost (p:=p) (s:=s) (taken ++ rest) []
      (noPromptAfterCancels config (Transport.noPromptInTime p timeout (s.pending ++ allBytes taken ++ allBytes rest)))
      (by simp [script]) (by simp [goesOn,goes]) (unmatched_append.mpr ⟨unmatched,unmatched'⟩) (.inl rfl) rfl
    rw [allBytes_append,← List.append_assoc] at lost
    exact lost

/-- Every recovery on an open terminal ends in one of these ways. -/
theorem cancelAndResync_recovered (prompt : Prompt) (config : HarnessConfig) (opened : s.closed = false) :
    Recovered prompt.stream s ((cancelAndResync prompt config).run s) := by
  rw [cancelAndResync_run opened]
  have awaited := awaitMatch_awaited prompt.stream config.resyncTimeout (s.cancelled 1) s.pending s.replies
  cases first : (s.cancelled 1).awaitMatch prompt.stream config.resyncTimeout s.pending s.replies with
  | mk outcome t =>
  rw [first] at awaited
  generalize script : s.replies = replies at awaited
  cases awaited with
  | found taken rest outputs before split =>
    obtain ⟨goesOn,noSilence⟩ := outputs_goOn outputs
    rw [resync_run_ok first]
    simpa [noSilence] using Recovered.prompted taken rest script goesOn (by omega) before split
  | closed taken rest outputs unmatched =>
    obtain ⟨goesOn,noSilence⟩ := outputs_goOn outputs
    rw [resync_run_broken first rfl]
    simpa [noSilence] using Recovered.ended taken rest _ script goesOn (by omega) unmatched rfl
  | exhausted taken outputs unmatched =>
    obtain ⟨goesOn,noSilence⟩ := outputs_goOn outputs
    rw [resync_run_late first rfl opened,Scripted.cancelled_late]
    have last := awaitMatch_awaited prompt.stream config.resyncRetryTimeout
      { s.cancelled 2 with pending := s.pending ++ allBytes replies, replies := [] }
      (s.pending ++ allBytes replies) []
    exact Recovered.of_second config (by simp [script]) goesOn (.inr rfl) unmatched last
  | silent taken rest outputs unmatched =>
    obtain ⟨goesOn,noSilence⟩ := outputs_goOn outputs
    rw [resync_run_late first rfl opened,Scripted.cancelled_late]
    have last := awaitMatch_awaited prompt.stream config.resyncRetryTimeout
      { s.cancelled 2 with pending := s.pending ++ allBytes taken, replies := rest }
      (s.pending ++ allBytes taken) rest
    have same : allBytes (taken ++ [.silence]) = allBytes taken := by simp [bytesOf]
    rw [← same] at last ⊢
    exact Recovered.of_second config (by simp [script]) (by simp [goesOn]) (.inl (by simp [noSilence]))
      (unmatched_silence unmatched) last

/-! ## By the prefixes of the script -/

/-- The prompt is in the pending bytes and the outputs of these replies, without an end and with at
    most one silence among them. -/
structure Reaches (p : Pattern) (pending : Bytes) (taken : List Reply) : Prop where
  goesOn : .closed ∉ taken
  silences : taken.count .silence ≤ 1
  found : (p.find? (pending ++ allBytes taken)).isSome

/-- The first end in a script has at most one silence before it. -/
structure ClosesAfter (replies earlier rest : List Reply) : Prop where
  script : replies = earlier ++ .closed :: rest
  first : .closed ∉ earlier
  silences : earlier.count .silence ≤ 1

/-- What a recovery does on a terminal, by the prefixes of its script. -/
structure RecoversBy (p : Pattern) (s : Scripted) (outcome : HarnessResult Unit) (after : Scripted) :
    Prop where
  succeeds : outcome = .ok () ↔ ∃ taken, taken <+: s.replies ∧ Reaches p s.pending taken
  takes : outcome = .ok () → ∃ taken rest start last, s.replies = taken ++ rest ∧
    Reaches p s.pending taken ∧
    (∀ earlier, earlier <+: taken → earlier ≠ taken → ¬Reaches p s.pending earlier) ∧
    p.find? (s.pending ++ allBytes taken) = some (start, last) ∧
    after = { s.cancelled (if .silence ∈ taken then 2 else 1) with
      pending := (s.pending ++ allBytes taken).drop last, replies := rest }
  closes : ∀ e, outcome = .error e → ∀ earlier rest, ClosesAfter s.replies earlier rest →
    e.code = .streamClosed ∧ after.writes = (s.cancelled (earlier.count .silence + 1)).writes
  timesOut : ∀ e, outcome = .error e → (∀ earlier rest, ¬ClosesAfter s.replies earlier rest) →
    e.code = .timeout ∧ after.writes = (s.cancelled 2).writes

theorem not_reaches_of_unfound {pending : Bytes} {taken : List Reply}
    (unfound : p.splitAfter? (pending ++ allBytes taken) = none) : ¬Reaches p pending taken := by
  intro reaches
  have found := reaches.found
  rw [Option.map_eq_none_iff.mp unfound] at found
  cases found

/-- Replies without an end do not go past the first one. -/
theorem prefix_of_goesOn {taken rest earlier : List Reply} (inside : earlier <+: taken ++ .closed :: rest)
    (goesOn : .closed ∉ earlier) : earlier <+: taken := by
  rcases List.prefix_or_prefix_of_prefix inside (List.prefix_append taken _) with within | ⟨more,rfl⟩
  · exact within
  rcases List.prefix_cons_iff.mp ((List.prefix_append_right_inj taken).mp inside) with rfl | ⟨_,rfl,-⟩
  · simp
  · simp at goesOn

/-- Replies with at most one silence do not go past those after which the patience is at an end. -/
theorem prefix_of_spent {taken rest earlier : List Reply} (inside : earlier <+: taken ++ rest)
    (spent : rest = [] ∨ 1 < taken.count .silence) (silences : earlier.count .silence ≤ 1) : earlier <+: taken := by
  rcases spent with rfl | many
  · simpa using inside
  rcases List.prefix_or_prefix_of_prefix inside (List.prefix_append taken _) with within | beyond
  · exact within
  · have := beyond.sublist.count_le .silence
    omega

theorem ClosesAfter.unique {replies taken rest earlier others : List Reply} (closes : ClosesAfter replies taken rest)
    (closes' : ClosesAfter replies earlier others) : earlier = taken := by
  have inside : earlier <+: taken ++ .closed :: rest := by rw [← closes.script,closes'.script]; simp
  have inside' : taken <+: earlier ++ .closed :: others := by rw [← closes'.script,closes.script]; simp
  exact (prefix_of_goesOn inside closes'.first).eq_of_length_le (prefix_of_goesOn inside' closes.first).length_le

theorem silences_eq {taken : List Reply} (silences : taken.count .silence ≤ 1) :
    1 + taken.count .silence = if .silence ∈ taken then 2 else 1 := by
  split
  · have := List.count_pos_iff.mpr ‹Reply.silence ∈ taken›
    omega
  · rw [List.count_eq_zero.mpr ‹_›]

theorem Recovered.by_script {outcome : HarnessResult Unit} {after : Scripted}
    (recovered : Recovered p s (outcome, after)) : RecoversBy p s outcome after := by
  cases recovered with
  | @prompted taken rest upTo left script goesOn silences first split =>
    obtain ⟨⟨start,last⟩,found,parts⟩ := Option.map_eq_some_iff.mp split
    cases parts
    have reaches : Reaches p s.pending taken := ⟨goesOn,silences,by simp [found]⟩
    refine ⟨⟨fun _ => ⟨taken,⟨rest,script.symm⟩,reaches⟩,fun _ => rfl⟩,fun _ => ?_,nofun,nofun⟩
    refine ⟨taken,rest,start,last,script,reaches,fun earlier inside other => ?_,found,?_⟩
    · exact not_reaches_of_unfound (first earlier inside other)
    · rw [silences_eq silences]
  | ended taken rest e script goesOn silences unmatched code =>
    have closes : ClosesAfter s.replies taken rest := ⟨script,goesOn,silences⟩
    refine ⟨⟨nofun,?_⟩,nofun,?_,?_⟩
    · rintro ⟨earlier,inside,reaches⟩
      have within := prefix_of_goesOn (script ▸ inside) reaches.goesOn
      exact absurd reaches (not_reaches_of_unfound (unmatched earlier within))
    · rintro _ ⟨⟩ earlier others closes'
      rw [closes.unique closes',Nat.add_comm]
      exact ⟨code,rfl⟩
    · rintro _ ⟨⟩ never
      exact absurd closes (never taken rest)
  | lost taken rest e script goesOn unmatched spent code =>
    refine ⟨⟨nofun,?_⟩,nofun,?_,?_⟩
    · rintro ⟨earlier,inside,reaches⟩
      have within := prefix_of_spent (script ▸ inside) spent reaches.silences
      exact absurd reaches (not_reaches_of_unfound (unmatched earlier within))
    · rintro _ ⟨⟩ earlier others closes
      -- The first end would be among the replies that were taken.
      have inside : earlier ++ [.closed] <+: taken ++ rest := ⟨others,by simp [← script,closes.script]⟩
      have within := prefix_of_spent inside spent (by simpa using closes.silences)
      exact absurd (within.subset (by simp)) goesOn
    · rintro _ ⟨⟩ -
      exact ⟨code,rfl⟩

/-- A recovery on an open terminal succeeds just if some first replies reach the prompt; it takes the
    fewest of them and cancels once more after a silence. Otherwise the terminal ended or was late. -/
theorem cancelAndResync_scripted (prompt : Prompt) (config : HarnessConfig) (replies : List Reply)
    (pending sent : Bytes) (writes : List Bytes) :
    let s : Scripted := ⟨replies,pending,sent,writes,false⟩
    let (outcome, after) := (cancelAndResync prompt config).run s
    RecoversBy prompt.stream s outcome after :=
  (cancelAndResync_recovered prompt config rfl).by_script

end TabCompletion
