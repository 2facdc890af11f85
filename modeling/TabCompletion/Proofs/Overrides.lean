import Mathlib.Data.Nat.Digits.Defs
import TabCompletion.Config
import TabCompletion.Proofs.Dialogue

/-!
# Overridden settings

A variable overrides its setting if it is a whole number that a setting can hold (`Numeral`). `Overridden`
says which settings there are after the overrides: those whose variables are set are replaced, all others
are kept. `overrides_layered` says that the overridden settings are given just if every variable that is
set is such a number and the settings can be used then, and otherwise what the error is.
-/
namespace TabCompletion.HarnessConfig

/-- The number that decimal digits stand for. -/
def decimal (digits : List Char) : Nat := Nat.ofDigits 10 (digits.reverse.map fun c => c.toNat - '0'.toNat)

/-- A whole number as it is written: decimal digits, with a plus sign before them or without. -/
inductive Numeral (cs : List Char) : Nat → Prop where
  | written {digits : List Char} (sign : cs = digits ∨ cs = '+' :: digits) (nonempty : digits ≠ [])
      (each : ∀ c ∈ digits, c.isDigit = true) (small : decimal digits < 2 ^ 64) : Numeral cs (decimal digits)

theorem foldl_digits (digits : List Char) :
    digits.foldl (fun n c => n * 10 + (c.toNat - '0'.toNat)) 0 = decimal digits := by
  rw [decimal,Nat.ofDigits_eq_foldr,List.map_reverse,List.foldr_reverse,List.foldl_map]
  congr 1
  funext n c
  simp only [Nat.cast_id]
  omega

theorem milliseconds?_eq_some_iff {cs : List Char} {n : Nat} : milliseconds? cs = some n ↔ Numeral cs n := by
  have whole (digits : List Char) :
      (if digits.isEmpty || !digits.all Char.isDigit then none
        else
          let n := digits.foldl (fun n c => n * 10 + (c.toNat - '0'.toNat)) 0
          if n ≤ limit then some n else none) = some n ↔
      digits ≠ [] ∧ (∀ c ∈ digits, c.isDigit = true) ∧ decimal digits < 2 ^ 64 ∧ decimal digits = n := by
    have limited : decimal digits ≤ limit ↔ decimal digits < 2 ^ 64 := by rw [limit]; omega
    simp only [foldl_digits,limited]
    by_cases empty : digits = []
    · simp only [empty,List.isEmpty_nil,Bool.true_or,if_true,ne_eq,not_true_eq_false,false_and,reduceCtorEq]
    · by_cases each : ∀ c ∈ digits, c.isDigit = true <;> simp [empty,each]
  unfold milliseconds?
  dsimp only
  split
  next rest =>
    rw [whole]
    constructor
    · rintro ⟨nonempty,each,small,rfl⟩
      exact .written (.inr rfl) nonempty each small
    · rintro ⟨same | same,nonempty,each,small⟩
      · -- A plus sign is no digit.
        exact absurd (each '+' (same ▸ List.mem_cons_self)) (by decide)
      · cases same
        exact ⟨nonempty,each,small,rfl⟩
  next unsigned =>
    rw [whole]
    constructor
    · rintro ⟨nonempty,each,small,rfl⟩
      exact .written (.inl rfl) nonempty each small
    · rintro ⟨same | same,nonempty,each,small⟩
      · subst same
        exact ⟨nonempty,each,small,rfl⟩
      · exact absurd same (unsigned _)

example : milliseconds? "+0018446744073709551615".toList = some (2 ^ 64 - 1) := by decide

example : milliseconds? "18446744073709551616".toList = none := by decide

variable {lookup : String → Option String} {name raw : String} {c c' : HarnessConfig} {e : HarnessError}

/-- The variables that override a setting, in the order in which they are read. -/
def overrideVariables : List String :=
  ["TABPROBE_RESPONSE_BUDGET_MS","TABPROBE_RESYNC_TIMEOUT_MS","TABPROBE_RESYNC_RETRY_TIMEOUT_MS",
    "TABPROBE_STARTUP_TIMEOUT_MS"]

/-- The variable is a whole number within white space, if it is set. -/
def WellFormed (lookup : String → Option String) (name : String) : Prop :=
  ∀ raw, lookup name = some raw → ∃ n, Numeral (Text.trimChars raw.toList) n

/-- The variable is set, but to no whole number. -/
def Malformed (lookup : String → Option String) (name raw : String) : Prop :=
  lookup name = some raw ∧ ∀ n, ¬Numeral (Text.trimChars raw.toList) n

/-- The first variable that is set to no whole number, with its value. -/
def FirstMalformed (lookup : String → Option String) (name raw : String) : Prop :=
  ∃ before after, overrideVariables = before ++ name :: after ∧ (∀ earlier ∈ before, WellFormed lookup earlier) ∧
    Malformed lookup name raw

/-- The error that names a variable and its value. -/
def notWholeNumber (name raw : String) : HarnessError :=
  .withDetails .config (name ++ " must be a whole number of milliseconds") [("var", .str name),("value", .str raw)]

/-- A setting before and after its variable was read. -/
def Replaced (lookup : String → Option String) (name : String) (before after : Nat) : Prop :=
  match lookup name with
  | none => after = before
  | some raw => Numeral (Text.trimChars raw.toList) after

theorem WellFormed.exists_replaced (wellFormed : WellFormed lookup name) (old : Nat) :
    ∃ n, Replaced lookup name old n := by
  unfold Replaced
  cases set : lookup name with
  | none => exact ⟨old,rfl⟩
  | some raw => exact wellFormed raw set

theorem Replaced.wellFormed {old n : Nat} (replaced : Replaced lookup name old n) : WellFormed lookup name := by
  intro raw set
  rw [Replaced,set] at replaced
  exact ⟨n,replaced⟩

/-- What a variable sets is set once. -/
theorem Replaced.again {old n : Nat} (replaced : Replaced lookup name old n) : Replaced lookup name n n := by
  unfold Replaced at replaced ⊢
  cases set : lookup name with
  | none => rfl
  | some raw => rwa [set] at replaced

theorem override_eq_ok {put : Nat → HarnessConfig → HarnessConfig} {old : Nat} (kept : put old c = c) :
    override lookup c (name, put) = .ok c' ↔ ∃ n, Replaced lookup name old n ∧ put n c = c' := by
  unfold override Replaced
  dsimp only
  cases lookup name with
  | none => simp [kept]
  | some raw =>
    simp only [← milliseconds?_eq_some_iff]
    cases milliseconds? (Text.trimChars raw.toList) <;> simp

theorem override_eq_error {entry : String × (Nat → HarnessConfig → HarnessConfig)} :
    override lookup c entry = .error e ↔ ∃ raw, Malformed lookup entry.1 raw ∧ e = notWholeNumber entry.1 raw := by
  unfold override Malformed notWholeNumber
  simp only [← milliseconds?_eq_some_iff]
  cases lookup entry.1 with
  | none => simp
  | some raw =>
    cases number : milliseconds? (Text.trimChars raw.toList) with
    | none => simp [number,eq_comm]
    | some n => simp [number]

theorem wellFormed_of_override {entry : String × (Nat → HarnessConfig → HarnessConfig)}
    (read : override lookup c entry = .ok c') : WellFormed lookup entry.1 := by
  intro raw set
  by_contra none
  have fails := override_eq_error (c:=c).mpr ⟨raw,⟨set,not_exists.mp none⟩,rfl⟩
  rw [read] at fails
  cases fails

/-- The overrides fail with the first variable that is malformed. -/
theorem foldlM_override_eq_error {entries : List (String × (Nat → HarnessConfig → HarnessConfig))} :
    entries.foldlM (override lookup) c = .error e ↔
      ∃ before name after raw, entries.map (·.1) = before ++ name :: after ∧
        (∀ earlier ∈ before, WellFormed lookup earlier) ∧ Malformed lookup name raw ∧ e = notWholeNumber name raw := by
  induction entries generalizing c with
  | nil => simp [pure,Except.pure]
  | cons entry rest ih =>
    rw [List.foldlM_cons,bind_eq_error,override_eq_error,List.map_cons]
    constructor
    · rintro (⟨raw,malformed,rfl⟩ | ⟨c',read,fails⟩)
      · exact ⟨[],entry.1,_,raw,rfl,by simp,malformed,rfl⟩
      · obtain ⟨before,name,after,raw,names,earlier,malformed,rfl⟩ := ih.mp fails
        refine ⟨entry.1 :: before,name,after,raw,by rw [names]; rfl,?_,malformed,rfl⟩
        exact List.forall_mem_cons.mpr ⟨wellFormed_of_override read,earlier⟩
    · rintro ⟨before,name,after,raw,names,earlier,malformed,rfl⟩
      cases before with
      | nil =>
        obtain ⟨rfl,rfl⟩ := List.cons.inj names
        exact .inl ⟨raw,malformed,rfl⟩
      | cons first before =>
        obtain ⟨rfl,others⟩ := List.cons.inj names
        obtain ⟨first,earlier⟩ := List.forall_mem_cons.mp earlier
        cases read : override lookup c entry with
        | ok c' => exact .inr ⟨c',rfl,ih.mpr ⟨before,name,after,raw,others,earlier,malformed,rfl⟩⟩
        | error e =>
          obtain ⟨raw,⟨set,noNumber⟩,-⟩ := override_eq_error.mp read
          obtain ⟨n,number⟩ := first raw set
          exact absurd number (noNumber n)

/-! ## Settings -/

/-- The settings after the overrides: each of four is replaced if its variable is set. -/
structure Overridden (lookup : String → Option String) (c c' : HarnessConfig) : Prop where
  responseBudget : Replaced lookup "TABPROBE_RESPONSE_BUDGET_MS" c.responseBudget c'.responseBudget
  resyncTimeout : Replaced lookup "TABPROBE_RESYNC_TIMEOUT_MS" c.resyncTimeout c'.resyncTimeout
  resyncRetryTimeout :
    Replaced lookup "TABPROBE_RESYNC_RETRY_TIMEOUT_MS" c.resyncRetryTimeout c'.resyncRetryTimeout
  startupTimeout : Replaced lookup "TABPROBE_STARTUP_TIMEOUT_MS" c.startupTimeout c'.startupTimeout
  pollInterval : c'.pollInterval = c.pollInterval
  teardownGrace : c'.teardownGrace = c.teardownGrace

/-- Settings that can be used: every wait but the grace period takes time, and the second wait for a
    prompt is no shorter than the first. -/
structure Usable (c : HarnessConfig) : Prop where
  responseBudget : 0 < c.responseBudget
  resyncTimeout : 0 < c.resyncTimeout
  resyncRetryTimeout : 0 < c.resyncRetryTimeout
  startupTimeout : 0 < c.startupTimeout
  pollInterval : 0 < c.pollInterval
  ordered : c.resyncTimeout ≤ c.resyncRetryTimeout

theorem validate_eq_ok_iff : c.validate = .ok () ↔ c.Usable := by
  have positive : c.budgets.find? (·.2 == 0) = none ↔
      0 < c.responseBudget ∧ 0 < c.resyncTimeout ∧ 0 < c.resyncRetryTimeout ∧ 0 < c.startupTimeout ∧
        0 < c.pollInterval := by
    simp [budgets,fields,Nat.pos_iff_ne_zero]
  unfold validate
  constructor
  · intro valid
    split at valid
    next => cases valid
    next nonzero =>
      obtain ⟨first,second,third,fourth,fifth⟩ := positive.mp nonzero
      split at valid
      next => cases valid
      next ordered => exact ⟨first,second,third,fourth,fifth,Nat.le_of_not_lt ordered⟩
  · rintro ⟨first,second,third,fourth,fifth,ordered⟩
    rw [positive.mpr ⟨first,second,third,fourth,fifth⟩]
    exact if_neg (Nat.not_lt.mpr ordered)

theorem code_of_validate (invalid : c.validate = .error e) : e.code = .config := by
  unfold validate at invalid
  split at invalid
  · cases invalid
    rfl
  · split at invalid
    · cases invalid
      rfl
    · cases invalid

theorem Overridden.again (overridden : Overridden lookup c c') : Overridden lookup c' c' where
  responseBudget := overridden.responseBudget.again
  resyncTimeout := overridden.resyncTimeout.again
  resyncRetryTimeout := overridden.resyncRetryTimeout.again
  startupTimeout := overridden.startupTimeout.again
  pollInterval := rfl
  teardownGrace := rfl

theorem exists_overridden_iff :
    (∃ c', Overridden lookup c c') ↔ ∀ name ∈ overrideVariables, WellFormed lookup name := by
  simp only [overrideVariables,List.forall_mem_cons,List.not_mem_nil,false_imp_iff,implies_true,and_true]
  constructor
  · rintro ⟨c',overridden⟩
    exact ⟨overridden.responseBudget.wellFormed,overridden.resyncTimeout.wellFormed,
      overridden.resyncRetryTimeout.wellFormed,overridden.startupTimeout.wellFormed⟩
  · rintro ⟨first,second,third,fourth⟩
    obtain ⟨budget,responseBudget⟩ := first.exists_replaced c.responseBudget
    obtain ⟨wait,resyncTimeout⟩ := second.exists_replaced c.resyncTimeout
    obtain ⟨retry,resyncRetryTimeout⟩ := third.exists_replaced c.resyncRetryTimeout
    obtain ⟨startup,startupTimeout⟩ := fourth.exists_replaced c.startupTimeout
    exact ⟨⟨budget,wait,retry,startup,c.pollInterval,c.teardownGrace⟩,responseBudget,resyncTimeout,
      resyncRetryTimeout,startupTimeout,rfl,rfl⟩

theorem foldlM_overrides_eq_ok : overrides.foldlM (override lookup) c = .ok c' ↔ Overridden lookup c c' := by
  unfold overrides
  simp only [List.foldlM_cons,List.foldlM_nil,bind_eq_ok]
  constructor
  · rintro ⟨c₁,first,c₂,second,c₃,third,c₄,fourth,⟨⟩⟩
    obtain ⟨budget,responseBudget,rfl⟩ := (override_eq_ok rfl).mp first
    obtain ⟨wait,resyncTimeout,rfl⟩ := (override_eq_ok rfl).mp second
    obtain ⟨retry,resyncRetryTimeout,rfl⟩ := (override_eq_ok rfl).mp third
    obtain ⟨startup,startupTimeout,rfl⟩ := (override_eq_ok rfl).mp fourth
    exact ⟨responseBudget,resyncTimeout,resyncRetryTimeout,startupTimeout,rfl,rfl⟩
  · rintro ⟨responseBudget,resyncTimeout,resyncRetryTimeout,startupTimeout,poll,grace⟩
    refine ⟨_,(override_eq_ok rfl).mpr ⟨_,responseBudget,rfl⟩,_,(override_eq_ok rfl).mpr ⟨_,resyncTimeout,rfl⟩,_,
      (override_eq_ok rfl).mpr ⟨_,resyncRetryTimeout,rfl⟩,_,(override_eq_ok rfl).mpr ⟨_,startupTimeout,rfl⟩,?_⟩
    cases c'
    cases poll
    cases grace
    rfl

/-- There is one way to override settings. -/
theorem Overridden.unique {c'' : HarnessConfig} (one : Overridden lookup c c') (other : Overridden lookup c c'') :
    c' = c'' := by
  have same := foldlM_overrides_eq_ok.mpr one
  rw [foldlM_overrides_eq_ok.mpr other] at same
  exact (Except.ok.inj same).symm

theorem withOverrides_eq_ok :
    c.withOverrides lookup = .ok c' ↔ Overridden lookup c c' ∧ c'.validate = .ok () := by
  simp only [withOverrides,bind_eq_ok,foldlM_overrides_eq_ok,pure,Except.pure]
  constructor
  · rintro ⟨after,overridden,⟨⟩,valid,⟨⟩⟩
    exact ⟨overridden,valid⟩
  · rintro ⟨overridden,valid⟩
    exact ⟨c',overridden,(),valid,rfl⟩

theorem withOverrides_eq_error :
    c.withOverrides lookup = .error e ↔
      (∃ name raw, FirstMalformed lookup name raw ∧ e = notWholeNumber name raw) ∨
        ∃ c', Overridden lookup c c' ∧ c'.validate = .error e := by
  have names : overrides.map (·.1) = overrideVariables := rfl
  simp only [withOverrides,bind_eq_error,foldlM_override_eq_error,foldlM_overrides_eq_ok,names,pure,Except.pure]
  refine or_congr ?_ (exists_congr fun c' => and_congr_right fun _ => ?_)
  · constructor
    · rintro ⟨before,name,after,raw,split,earlier,malformed,rfl⟩
      exact ⟨name,raw,⟨before,after,split,earlier,malformed⟩,rfl⟩
    · rintro ⟨name,raw,⟨before,after,split,earlier,malformed⟩,rfl⟩
      exact ⟨before,name,after,raw,split,earlier,malformed,rfl⟩
  · simp

/-- Where every variable is the same whole number, every setting that a variable can replace is it. -/
theorem Overridden.of_constant {text : String} {n : Nat} (number : Numeral (Text.trimChars text.toList) n)
    (c : HarnessConfig) : Overridden (fun _ => some text) c ⟨n,n,n,n,c.pollInterval,c.teardownGrace⟩ :=
  ⟨number,number,number,number,rfl,rfl⟩

/-- The overridden settings are given just if every variable that is set is a whole number and the settings
    can be used then; they pass the check, and the overrides change nothing more in them. Otherwise the error
    names the first variable that is no whole number, or it is that of the check of the overridden settings.
    So overrides repair any settings but those that never pause, and can break any. -/
theorem overrides_layered (lookup : String → Option String) (c : HarnessConfig) :
    ((∃ c', c.withOverrides lookup = .ok c') ↔
      (∀ name ∈ overrideVariables, WellFormed lookup name) ∧ ∀ c', Overridden lookup c c' → c'.Usable) ∧
    (∀ c', c.withOverrides lookup = .ok c' →
      Overridden lookup c c' ∧ c'.validate = .ok () ∧ c'.withOverrides lookup = .ok c') ∧
    (∀ e, c.withOverrides lookup = .error e → e.code = .config ∧
      ((∃ name raw, FirstMalformed lookup name raw ∧ e = notWholeNumber name raw) ∨
        (∀ name ∈ overrideVariables, WellFormed lookup name) ∧
          ∃ c', Overridden lookup c c' ∧ c'.validate = .error e)) ∧
    ((∃ repairs c', c.withOverrides repairs = .ok c') ↔ 0 < c.pollInterval) ∧
    ∃ breaks e, (∀ name ∈ overrideVariables, WellFormed breaks name) ∧ c.withOverrides breaks = .error e := by
  have numeral (text : String) (n : Nat) (read : milliseconds? (Text.trimChars text.toList) = some n) :
      Numeral (Text.trimChars text.toList) n := milliseconds?_eq_some_iff.mp read
  refine ⟨?_,fun c' given => ?_,fun e refused => ?_,?_,?_⟩
  · simp only [withOverrides_eq_ok,validate_eq_ok_iff]
    constructor
    · rintro ⟨c',overridden,usable⟩
      refine ⟨exists_overridden_iff.mp ⟨c',overridden⟩,fun c'' other => ?_⟩
      rwa [overridden.unique other] at usable
    · rintro ⟨wellFormed,usable⟩
      obtain ⟨c',overridden⟩ := exists_overridden_iff.mpr wellFormed
      exact ⟨c',overridden,usable c' overridden⟩
  · obtain ⟨overridden,valid⟩ := withOverrides_eq_ok.mp given
    exact ⟨overridden,valid,withOverrides_eq_ok.mpr ⟨overridden.again,valid⟩⟩
  · rcases withOverrides_eq_error.mp refused with ⟨name,raw,first,rfl⟩ | ⟨c',overridden,invalid⟩
    · exact ⟨rfl,.inl ⟨name,raw,first,rfl⟩⟩
    · exact ⟨code_of_validate invalid,.inr ⟨exists_overridden_iff.mp ⟨c',overridden⟩,c',overridden,invalid⟩⟩
  · simp only [withOverrides_eq_ok,validate_eq_ok_iff]
    constructor
    · rintro ⟨repairs,c',overridden,usable⟩
      rw [← overridden.pollInterval]
      exact usable.pollInterval
    · intro pauses
      have ones := Overridden.of_constant (numeral "1" 1 (by decide)) c
      exact ⟨_,_,ones,Nat.one_pos,Nat.one_pos,Nat.one_pos,Nat.one_pos,pauses,Nat.le_refl 1⟩
  · have zeros := Overridden.of_constant (numeral "0" 0 (by decide)) c
    refine ⟨_,_,exists_overridden_iff.mp ⟨_,zeros⟩,withOverrides_eq_error.mpr (.inr ⟨_,zeros,rfl⟩)⟩

end TabCompletion.HarnessConfig
