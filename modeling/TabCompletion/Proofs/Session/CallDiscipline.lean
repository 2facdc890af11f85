import TabCompletion.Proofs.Probe
import TabCompletion.Proofs.Transport.Exchange
import TabCompletion.Session

/-!
# The calls of a probe and its recovery

Which calls `Session.tryCompletions` makes is a small grammar over the exchanges: `ResyncCalls`,
`RecoveryCalls`, `ListingCalls` and `ProbeCalls` say what is called next after each answer, and what
comes of it in the end. `tryCompletions_calls` says that on every transport the exchanges are those
of a probe followed by those of a recovery, and what can be read off the grammar: how many keys are
pressed and how many reads are made, which failures the probe survives, and that a verdict is only
given at a prompt.
-/
namespace TabCompletion

/-- The wait for the prompt after a cancelled line. -/
def firstWait (prompt : Prompt) (config : HarnessConfig) : Call :=
  .readUntilMatch prompt.stream.source config.resyncTimeout

/-- The wait for the prompt after the line was cancelled once more. -/
def secondWait (prompt : Prompt) (config : HarnessConfig) : Call :=
  .readUntilMatch prompt.stream.source config.resyncRetryTimeout

/-- The exchanges of a wait for the prompt after a cancel. Only a wait in vain is made good by another
    cancel and another wait. -/
inductive ResyncCalls (prompt : Prompt) (config : HarnessConfig) :
    List Exchange → HarnessResult Unit → Prop where
  | found (bytes : Bytes) : ResyncCalls prompt config [⟨firstWait prompt config,.ok bytes⟩] (.ok ())
  | broken (e : HarnessError) (other : e.code ≠ .timeout) :
      ResyncCalls prompt config [⟨firstWait prompt config,.error e⟩] (.error e)
  | uncancelled (e e' : HarnessError) (late : e.code = .timeout) :
      ResyncCalls prompt config [⟨firstWait prompt config,.error e⟩,⟨.send [ctrlC],.error e'⟩]
        (.error e')
  | foundLate (e : HarnessError) (late : e.code = .timeout) (bytes : Bytes) :
      ResyncCalls prompt config [⟨firstWait prompt config,.error e⟩,⟨.send [ctrlC],.ok []⟩,
        ⟨secondWait prompt config,.ok bytes⟩] (.ok ())
  | lost (e e' : HarnessError) (late : e.code = .timeout) :
      ResyncCalls prompt config [⟨firstWait prompt config,.error e⟩,⟨.send [ctrlC],.ok []⟩,
        ⟨secondWait prompt config,.error e'⟩]
        (.error (if e'.isTimeout then noPromptAfterCancels config e' else e'))

/-- The exchanges of a recovery: a cancel, and the wait for the prompt if it could be sent. -/
inductive RecoveryCalls (prompt : Prompt) (config : HarnessConfig) :
    List Exchange → HarnessResult Unit → Prop where
  | uncancelled (e : HarnessError) :
      RecoveryCalls prompt config [⟨.send [ctrlC],.error e⟩] (.error e)
  | cancelled (made : List Exchange) (r : HarnessResult Unit) (resync : ResyncCalls prompt config made r) :
      RecoveryCalls prompt config (⟨.send [ctrlC],.ok []⟩ :: made) r

/-- The exchanges of a probe from its second TAB on. -/
inductive ListingCalls (p : Probe) : List Exchange → HarnessResult CompletionResult → Prop where
  | unasked (e : HarnessError) : ListingCalls p [⟨.send [tab],.error e⟩] (.error e)
  | unread (e : HarnessError) :
      ListingCalls p [⟨.send [tab],.ok []⟩,⟨.readUntilQuiet p.config.responseBudget,.error e⟩]
        (.error e)
  | uncancelled (capture : Bytes) (e : HarnessError) :
      ListingCalls p [⟨.send [tab],.ok []⟩,⟨.readUntilQuiet p.config.responseBudget,.ok capture⟩,
        ⟨.send [ctrlC],.error e⟩] (.error e)
  | unsynced (capture : Bytes) (e : HarnessError) (made : List Exchange)
      (resync : ResyncCalls p.prompt p.config made (.error e)) :
      ListingCalls p (⟨.send [tab],.ok []⟩ ::
        ⟨.readUntilQuiet p.config.responseBudget,.ok capture⟩ :: ⟨.send [ctrlC],.ok []⟩ :: made)
        (.error e)
  | listed (capture : Bytes) (made : List Exchange)
      (resync : ResyncCalls p.prompt p.config made (.ok ())) :
      ListingCalls p (⟨.send [tab],.ok []⟩ ::
        ⟨.readUntilQuiet p.config.responseBudget,.ok capture⟩ :: ⟨.send [ctrlC],.ok []⟩ :: made)
        (p.encoding.decode (if capture = [bell] then [] else capture) >>= fun text =>
          classifyList text p.input p.prompt)

/-- The exchanges of a probe. The second TAB is sent just if the capture after the first one is the
    echo of the input with nothing after it. -/
inductive ProbeCalls (p : Probe) : List Exchange → HarnessResult CompletionResult → Prop where
  | untyped (e : HarnessError) : ProbeCalls p [⟨.send (Utf8.encode p.input),.error e⟩] (.error e)
  | unasked (e : HarnessError) :
      ProbeCalls p [⟨.send (Utf8.encode p.input),.ok []⟩,⟨.send [tab],.error e⟩] (.error e)
  | unread (e : HarnessError) :
      ProbeCalls p [⟨.send (Utf8.encode p.input),.ok []⟩,⟨.send [tab],.ok []⟩,
        ⟨.readUntilQuiet p.config.responseBudget,.error e⟩] (.error e)
  | notEchoed (capture : Bytes) (e : HarnessError) (echo : p.stripEcho capture = .error e) :
      ProbeCalls p [⟨.send (Utf8.encode p.input),.ok []⟩,⟨.send [tab],.ok []⟩,
        ⟨.readUntilQuiet p.config.responseBudget,.ok capture⟩] (.error e)
  | inserted (capture rest : Bytes) (echo : p.stripEcho capture = .ok rest) (more : rest ≠ []) :
      ProbeCalls p [⟨.send (Utf8.encode p.input),.ok []⟩,⟨.send [tab],.ok []⟩,
        ⟨.readUntilQuiet p.config.responseBudget,.ok capture⟩]
        ((p.encoding.decode rest).map .immediate)
  | ambiguous (capture : Bytes) (echo : p.stripEcho capture = .ok []) (made : List Exchange)
      (r : HarnessResult CompletionResult) (listing : ListingCalls p made r) :
      ProbeCalls p (⟨.send (Utf8.encode p.input),.ok []⟩ :: ⟨.send [tab],.ok []⟩ ::
        ⟨.readUntilQuiet p.config.responseBudget,.ok capture⟩ :: made) r

variable {σ : Type} [Transport σ]

theorem HarnessError.isTimeout_iff (e : HarnessError) : e.isTimeout = true ↔ e.code = .timeout := by
  simp [HarnessError.isTimeout]

/-- `resync` makes the calls of a wait for the prompt. -/
theorem resync_calls (prompt : Prompt) (config : HarnessConfig) :
    Makes (resync prompt config) (resync prompt config : Dialogue σ Unit) (ResyncCalls prompt config) := by
  unfold resync
  refine Makes.wait_bind ?_
  rintro (e | bytes)
  · by_cases late : e.code = .timeout
    · have isLate : e.isTimeout = true := e.isTimeout_iff.mpr late
      simp only [isLate,Bool.not_true,Bool.false_eq_true,if_false]
      refine Makes.send_bind (fun e' => .uncancelled e e' late) (Makes.wait_bind ?_)
      rintro (e' | bytes)
      · exact Makes.throw (.lost e e' late)
      · exact Makes.pure (.foundLate e late bytes)
    · have notLate : e.isTimeout = false := by simpa [HarnessError.isTimeout] using late
      simp only [notLate,Bool.not_false,if_true]
      exact (Makes.throw (P := fun made r => made = [] ∧ r = .error e) ⟨rfl,rfl⟩).bind
        (by rintro made e' ⟨rfl,same⟩; cases same; exact .broken e late)
        (by rintro made a ⟨-,same⟩; cases same)
  · exact Makes.pure (.found bytes)

/-- `cancelAndResync` makes the calls of a recovery. -/
theorem cancelAndResync_calls (prompt : Prompt) (config : HarnessConfig) :
    Makes (cancelAndResync prompt config) (cancelAndResync prompt config : Dialogue σ Unit)
      (RecoveryCalls prompt config) := by
  unfold cancelAndResync
  exact Makes.send_bind (fun e => .uncancelled e)
    ((resync_calls prompt config).mono fun made r resync => .cancelled made r resync)

/-- From its second TAB on a probe makes the calls of a listing. -/
theorem Probe.listing_calls (p : Probe) :
    Makes p.listing (p.listing : Dialogue σ CompletionResult) (ListingCalls p) := by
  unfold Probe.listing
  refine Makes.send_bind (fun e => .unasked e) (Makes.quiet_bind (fun e => .unread e) fun capture => ?_)
  refine Makes.send_bind (fun e => .uncancelled capture e) ?_
  refine (resync_calls p.prompt p.config).bind ?_ ?_
  · intro made e resync; exact .unsynced capture e made resync
  · rintro made ⟨⟩ resync
    have all := ListingCalls.listed (p := p) capture made resync
    refine Makes.ofResult_bind ?_ ?_
    · intro e fails; simpa [fails,bind,Except.bind] using all
    · intro text reads
      exact Makes.ofResult (by simpa [reads,bind,Except.bind] using all)

/-- A probe makes the calls of a probe. -/
theorem Probe.run_calls (p : Probe) :
    Makes p.run (p.run : Dialogue σ CompletionResult) (ProbeCalls p) := by
  rw [Probe.run_eq,Probe.run_eq]
  refine Makes.send_bind (fun e => .untyped e) (Makes.send_bind (fun e => .unasked e) ?_)
  refine Makes.quiet_bind (fun e => .unread e) fun capture => ?_
  refine Makes.ofResult_bind (fun e echo => .notEchoed capture e echo) fun rest echo => ?_
  by_cases nothing : rest = []
  · subst nothing
    simp only [if_true]
    exact p.listing_calls.mono fun made r listing => .ambiguous capture echo made r listing
  · simp only [nothing,if_false]
    exact Makes.ofResult_map (.inserted capture rest echo nothing)

/-! ## What can be read off the exchanges -/

/-- Whether a call captures what comes until silence. -/
def Call.isCapture : Call → Bool
  | .readUntilQuiet _ => true
  | _ => false

/-- Whether a call waits for a match. -/
def Call.isWait : Call → Bool
  | .readUntilMatch _ _ => true
  | _ => false

/-- Whether a call stops the shell. -/
def Call.isShutdown : Call → Bool
  | .shutdown _ => true
  | _ => false

/-- Bounds for the TABs and cancels that are sent and the captures and waits that are made; the shell
    is not stopped. -/
structure Bounded (exchanges : List Exchange) (tabs cancels captures waits : Nat) : Prop where
  tabs : exchanges.countP (·.call == .send [tab]) ≤ tabs
  cancels : exchanges.countP (·.call == .send [ctrlC]) ≤ cancels
  captures : exchanges.countP (·.call.isCapture) ≤ captures
  waits : exchanges.countP (·.call.isWait) ≤ waits
  goesOn : ∀ x ∈ exchanges, x.call.isShutdown = false

theorem Bounded.append {xs ys : List Exchange} {a b c d a' b' c' d' : Nat} (first : Bounded xs a b c d)
    (second : Bounded ys a' b' c' d') : Bounded (xs ++ ys) (a + a') (b + b') (c + c') (d + d') := by
  constructor
  · rw [List.countP_append]; exact Nat.add_le_add first.tabs second.tabs
  · rw [List.countP_append]; exact Nat.add_le_add first.cancels second.cancels
  · rw [List.countP_append]; exact Nat.add_le_add first.captures second.captures
  · rw [List.countP_append]; exact Nat.add_le_add first.waits second.waits
  · intro x member
    rcases List.mem_append.mp member with earlier | later
    · exact first.goesOn x earlier
    · exact second.goesOn x later

/-- The exchange does not end a probe: the call succeeded, or it is the wait for the prompt that is
    repeated. -/
def Exchange.Survived (prompt : Prompt) (config : HarnessConfig) (x : Exchange) : Prop :=
  (∃ bytes, x.outcome = .ok bytes) ∨
    x.call = firstWait prompt config ∧ ∃ e, x.outcome = .error e ∧ e.code = .timeout

/-- Every exchange but the last one is survived: the first failure is the end. -/
def Unbroken (prompt : Prompt) (config : HarnessConfig) (made : List Exchange) : Prop :=
  ∀ x ∈ made.dropLast, x.Survived prompt config

variable {prompt : Prompt} {config : HarnessConfig} {p : Probe} {made : List Exchange}

theorem Unbroken.last (x : Exchange) : Unbroken prompt config [x] := by simp [Unbroken]

theorem Unbroken.cons {x : Exchange} (first : x.Survived prompt config)
    (rest : Unbroken prompt config made) : Unbroken prompt config (x :: made) := by
  cases made with
  | nil => exact .last x
  | cons y more =>
    rintro z member
    rw [List.dropLast_cons_of_ne_nil (by simp),List.mem_cons] at member
    rcases member with rfl | later
    · exact first
    · exact rest z later

/-- A call that succeeds is no end. -/
theorem Unbroken.after_ok {call : Call} {bytes : Bytes} (rest : Unbroken prompt config made) :
    Unbroken prompt config (⟨call,.ok bytes⟩ :: made) := rest.cons (.inl ⟨bytes,rfl⟩)

theorem ResyncCalls.bounded {r : HarnessResult Unit} (calls : ResyncCalls prompt config made r) :
    Bounded made 0 1 0 2 := by
  cases calls <;> constructor <;> simp [firstWait,secondWait,Call.isCapture,Call.isWait,Call.isShutdown,ctrlC,tab]

theorem ResyncCalls.unbroken {r : HarnessResult Unit} (calls : ResyncCalls prompt config made r) :
    Unbroken prompt config made := by
  cases calls with
  | found bytes => exact .last _
  | broken e other => exact .last _
  | uncancelled e e' late => exact (Unbroken.last _).cons (.inr ⟨rfl,e,rfl,late⟩)
  | foundLate e late bytes => exact (Unbroken.last _).after_ok.cons (.inr ⟨rfl,e,rfl,late⟩)
  | lost e e' late => exact (Unbroken.last _).after_ok.cons (.inr ⟨rfl,e,rfl,late⟩)

/-- A wait for the prompt that succeeds ends with the prompt. -/
theorem ResyncCalls.ends_at_prompt (calls : ResyncCalls prompt config made (.ok ())) :
    ∃ before wait bytes, made = before ++ [⟨wait,.ok bytes⟩] ∧
      (wait = firstWait prompt config ∨ wait = secondWait prompt config) := by
  cases calls with
  | found bytes => exact ⟨[],_,bytes,rfl,.inl rfl⟩
  | foundLate e late bytes => exact ⟨[_,_],_,bytes,rfl,.inr rfl⟩

theorem RecoveryCalls.bounded {r : HarnessResult Unit} (calls : RecoveryCalls prompt config made r) :
    Bounded made 0 2 0 2 := by
  cases calls with
  | uncancelled e => constructor <;> simp [Call.isCapture,Call.isWait,Call.isShutdown,ctrlC,tab]
  | cancelled made r resync =>
    have cancel : Bounded [⟨.send [ctrlC],.ok []⟩] 0 1 0 0 := by
      constructor <;> simp [Call.isCapture,Call.isWait,Call.isShutdown,ctrlC,tab]
    exact cancel.append resync.bounded

theorem RecoveryCalls.ends_at_prompt (calls : RecoveryCalls prompt config made (.ok ())) :
    ∃ before wait bytes, made = before ++ [⟨wait,.ok bytes⟩] ∧
      (wait = firstWait prompt config ∨ wait = secondWait prompt config) := by
  cases calls with
  | cancelled made r resync =>
    obtain ⟨before,wait,bytes,rfl,prompts⟩ := resync.ends_at_prompt
    exact ⟨_ :: before,wait,bytes,rfl,prompts⟩

theorem ListingCalls.bounded {r : HarnessResult CompletionResult} (calls : ListingCalls p made r) :
    Bounded made 1 2 1 2 := by
  have keys : ∀ capture, Bounded [⟨.send [tab],.ok []⟩,
      ⟨.readUntilQuiet p.config.responseBudget,.ok capture⟩,⟨.send [ctrlC],.ok []⟩] 1 1 1 0 := by
    intro capture; constructor <;> simp [Call.isCapture,Call.isWait,Call.isShutdown,ctrlC,tab]
  cases calls with
  | unasked e => constructor <;> simp [Call.isCapture,Call.isWait,Call.isShutdown,ctrlC,tab]
  | unread e => constructor <;> simp [Call.isCapture,Call.isWait,Call.isShutdown,ctrlC,tab]
  | uncancelled capture e => constructor <;> simp [Call.isCapture,Call.isWait,Call.isShutdown,ctrlC,tab]
  | unsynced capture e made resync => exact (keys capture).append resync.bounded
  | listed capture made resync => exact (keys capture).append resync.bounded

theorem ListingCalls.unbroken {r : HarnessResult CompletionResult} (calls : ListingCalls p made r) :
    Unbroken p.prompt p.config made := by
  cases calls with
  | unasked e => exact .last _
  | unread e => exact (Unbroken.last _).after_ok
  | uncancelled capture e => exact (Unbroken.last _).after_ok.after_ok
  | unsynced capture e made resync => exact resync.unbroken.after_ok.after_ok.after_ok
  | listed capture made resync => exact resync.unbroken.after_ok.after_ok.after_ok

/-- After the typed input a probe presses at most two TABs and two cancels. -/
theorem ProbeCalls.bounded {r : HarnessResult CompletionResult} (calls : ProbeCalls p made r) :
    ∃ typed keys, made = ⟨.send (Utf8.encode p.input),typed⟩ :: keys ∧ Bounded keys 2 2 2 2 := by
  have asked : ∀ o, Bounded [⟨.send [tab],.ok []⟩,⟨.readUntilQuiet p.config.responseBudget,o⟩]
      1 0 1 0 := by
    intro o; constructor <;> simp [Call.isCapture,Call.isWait,Call.isShutdown,ctrlC,tab]
  have noCalls : Bounded [] 1 2 1 2 := by constructor <;> simp
  cases calls with
  | untyped e => exact ⟨_,[],rfl,by constructor <;> simp⟩
  | unasked e => exact ⟨_,_,rfl,by constructor <;> simp [Call.isCapture,Call.isWait,Call.isShutdown,ctrlC,tab]⟩
  | unread e => exact ⟨_,_,rfl,(asked _).append noCalls⟩
  | notEchoed capture e echo => exact ⟨_,_,rfl,(asked _).append noCalls⟩
  | inserted capture rest echo more => exact ⟨_,_,rfl,(asked _).append noCalls⟩
  | ambiguous capture echo made r listing => exact ⟨_,_,rfl,(asked _).append listing.bounded⟩

/-- A probe ends with its first failure. -/
theorem ProbeCalls.unbroken {r : HarnessResult CompletionResult} (calls : ProbeCalls p made r) :
    Unbroken p.prompt p.config made := by
  cases calls with
  | untyped e => exact .last _
  | unasked e => exact (Unbroken.last _).after_ok
  | unread e => exact (Unbroken.last _).after_ok.after_ok
  | notEchoed capture e echo => exact (Unbroken.last _).after_ok.after_ok
  | inserted capture rest echo more => exact (Unbroken.last _).after_ok.after_ok
  | ambiguous capture echo made r listing => exact listing.unbroken.after_ok.after_ok.after_ok

/-! ## A probe and its recovery -/

/-- What comes of a probe and its recovery: an error of the probe, else one of the recovery, else the
    comparison of what was observed with what was expected. -/
def verdictOf (typed : String) (wanted : Expectation) :
    HarnessResult CompletionResult → HarnessResult Unit → HarnessResult ProbeVerdict
  | .error e, _ => .error e
  | .ok _, .error e => .error e
  | .ok observed, .ok _ => .ok ⟨typed,observed,wanted,evaluate observed wanted⟩

/-- What the exchanges and the outcome of a probe with an expectation look like. -/
structure Disciplined (s : Session) (input : String) (expected : Expectation)
    (exchanges : List Exchange) (outcome : HarnessResult ProbeVerdict) : Prop where
  /-- The calls of a probe, which ends with its first failure, and always those of a recovery. The
      error of the probe comes before that of the recovery. -/
  parts : ∃ probe probed recovery recovered, exchanges = probe ++ recovery ∧
    ProbeCalls (s.probe (fillContext s.context input)) probe probed ∧
    Unbroken s.prompt s.config probe ∧
    RecoveryCalls s.prompt s.config recovery recovered ∧
    outcome = verdictOf (fillContext s.context input) (expected.withContext s.context) probed recovered
  /-- After the typed input at most two TABs and four cancels are sent, and at most two captures and
      four waits are made. -/
  bounds : ∃ typed keys,
    exchanges = ⟨.send (Utf8.encode (fillContext s.context input)),typed⟩ :: keys ∧
      Bounded keys 2 4 2 4
  /-- A verdict is given when the last call has just seen the prompt. -/
  atPrompt : ∀ verdict, outcome = .ok verdict → ∃ before wait bytes,
    exchanges = before ++ [⟨wait,.ok bytes⟩] ∧
      (wait = firstWait s.prompt s.config ∨ wait = secondWait s.prompt s.config)

/-- A probe followed by a recovery is disciplined. -/
theorem disciplined_of_parts {s : Session} {input : String} {expected : Expectation}
    {probe recovery : List Exchange} {probed : HarnessResult CompletionResult}
    {recovered : HarnessResult Unit}
    (probes : ProbeCalls (s.probe (fillContext s.context input)) probe probed)
    (recovers : RecoveryCalls s.prompt s.config recovery recovered) :
    Disciplined s input expected (probe ++ recovery)
      (verdictOf (fillContext s.context input) (expected.withContext s.context) probed recovered) where
  parts := ⟨probe,probed,recovery,recovered,rfl,probes,probes.unbroken,recovers,rfl⟩
  bounds := by
    obtain ⟨typed,keys,rfl,bounded⟩ := probes.bounded
    exact ⟨typed,keys ++ recovery,rfl,bounded.append recovers.bounded⟩
  atPrompt := by
    intro verdict given
    have done : recovered = .ok () := by
      cases probed with
      | error e => cases given
      | ok observed =>
        cases recovered with
        | error e => cases given
        | ok u => rfl
    subst done
    obtain ⟨before,wait,bytes,rfl,prompts⟩ := recovers.ends_at_prompt
    exact ⟨probe ++ before,wait,bytes,by simp,prompts⟩

/-- A probe does not stop the shell. -/
theorem Disciplined.goesOn {s : Session} {input : String} {expected : Expectation}
    {exchanges : List Exchange} {outcome : HarnessResult ProbeVerdict}
    (disciplined : Disciplined s input expected exchanges outcome) :
    ∀ x ∈ exchanges, x.call.isShutdown = false := by
  obtain ⟨typed,keys,rfl,bounded⟩ := disciplined.bounds
  exact List.forall_mem_cons.mpr ⟨rfl,bounded.goesOn⟩

/-- A probe with an expectation makes the calls of a probe and then those of a recovery. -/
theorem Session.tryCompletions_makes (s : Session) (input : String) (expected : Expectation) :
    Makes (s.tryCompletions input expected)
      (s.tryCompletions input expected : Dialogue σ ProbeVerdict) (Disciplined s input expected) := by
  unfold Session.tryCompletions
  refine (s.probe (fillContext s.context input)).run_calls.attempt_bind fun probe probed probes => ?_
  refine (cancelAndResync_calls s.prompt s.config).attempt_bind fun recovery recovered recovers => ?_
  have all : Disciplined s input expected _ _ := disciplined_of_parts probes recovers
  refine Makes.ofResult_bind ?_ ?_
  · rintro e rfl; simpa [verdictOf] using all
  · rintro observed rfl
    refine Makes.ofResult_bind ?_ ?_
    · rintro e rfl; simpa [verdictOf] using all
    · rintro u rfl
      exact Makes.pure (by simpa [verdictOf] using all)

/-- On every transport, the exchanges of a probe with an expectation are those of the probe and then
    those of a recovery, and observing them changes nothing. -/
theorem tryCompletions_calls (s : Session) (input : String) (expected : Expectation) (t : σ) :
    ∃ exchanges, (s.tryCompletions input expected).run (⟨t,[]⟩ : Observed σ) =
        (((s.tryCompletions input expected).run t).1,
          ⟨((s.tryCompletions input expected).run t).2,exchanges⟩) ∧
      Disciplined s input expected exchanges ((s.tryCompletions input expected).run t).1 := by
  simpa using s.tryCompletions_makes input expected ⟨t,[]⟩

end TabCompletion
