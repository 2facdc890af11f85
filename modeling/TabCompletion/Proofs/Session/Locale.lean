import TabCompletion.Proofs.Keys
import TabCompletion.Station

/-!
# The locale of a shell

A shell gets the variables of the machine with those of `childEnv` on top (`lookup_startVariables`). The
first locale variable that is set decides about the encoding (`localeIsUtf8_eq`), and `childEnv` sets the
second of them at most. So a machine whose first variable names another encoding hands that on to the shell,
and every other machine gives it UTF-8 (`shell_locale`).
-/
namespace TabCompletion

variable {m : Machine} {shell : SessionConfig} {config : HarnessConfig}
variable {lookup : String → Option String} {vars : List (String × String)}

/-- The value of a variable, where some variables are set on top of others. -/
def overlaid (lookup : String → Option String) (vars : List (String × String)) (name : String) : Option String :=
  (vars.lookup name).or (lookup name)

theorem lookup_filter (keep : String → Bool) (name : String) :
    (vars.filter fun v => keep v.1).lookup name = if keep name then vars.lookup name else none := by
  induction vars with
  | nil => simp
  | cons v rest ih =>
    obtain ⟨n,value⟩ := v
    rw [List.filter_cons,lookup_cons_eq]
    by_cases same : name = n
    · subst same
      by_cases kept : keep name = true <;> simp [kept,ih]
    · by_cases kept : keep n = true <;> simp [kept,ih,lookup_cons_eq,same]

theorem any_eq_isSome_lookup (name : String) : vars.any (·.1 == name) = (vars.lookup name).isSome := by
  induction vars with
  | nil => rfl
  | cons v rest ih =>
    rw [List.any_cons,ih,lookup_cons_eq]
    by_cases same : name = v.1
    · simp [same]
    · simp [same,Ne.symm same]

/-- A shell starts with its own variables on top of those of the machine. -/
theorem lookup_startVariables (name : String) :
    (Pty.startVariables m vars).lookup name = overlaid m.lookup vars name := by
  show ((m.environment.filter fun v => !vars.any (·.1 == v.1)) ++ vars).lookup name = _
  rw [List.lookup_append,lookup_filter fun n => !vars.any (·.1 == n),any_eq_isSome_lookup]
  unfold overlaid Machine.lookup
  cases vars.lookup name with
  | none => simp
  | some value => rfl

/-- The value of a variable that is not empty. -/
def set? (lookup : String → Option String) (name : String) : Option String := (lookup name).filter (· != "")

/-- The first locale variable that is set decides. -/
theorem localeIsUtf8_eq (lookup : String → Option String) : localeIsUtf8 lookup =
    ((set? lookup "LC_ALL").or ((set? lookup "LC_CTYPE").or (set? lookup "LANG"))).any namesUtf8 := by
  have first (names : List String) : (names.filterMap lookup).find? (· != "") = names.findSome? (set? lookup) := by
    induction names with
    | nil => rfl
    | cons name rest ih =>
      rw [List.findSome?_cons,List.filterMap_cons]
      cases given : lookup name with
      | none => simpa [set?,given] using ih
      | some value =>
        by_cases empty : value = ""
        · have unset : set? lookup name = none := by simp [set?,given,empty,Option.filter]
          rw [unset]
          simpa [empty] using ih
        · have set : set? lookup name = some value := by simp [set?,given,empty,Option.filter]
          rw [set]
          simp [empty]
  unfold localeIsUtf8 localeVariables
  rw [first]
  simp only [List.findSome?_cons,List.findSome?_nil]
  cases set? lookup "LC_ALL" <;> cases set? lookup "LC_CTYPE" <;> cases set? lookup "LANG" <;> rfl

theorem namesUtf8_fallback : namesUtf8 fallbackLocale = true := by decide

/-- Of the locale variables `childEnv` sets the second at most, unless the shell has one of its own. -/
theorem lookup_childEnv {name : String} (own : ∀ name ∈ localeVariables, name ∉ shell.env.map (·.1))
    (locale : name ∈ localeVariables) : (childEnv shell lookup).lookup name =
      if name = "LC_CTYPE" ∧ localeIsUtf8 lookup = false then some fallbackLocale else none := by
  have unset : shell.env.reverse.lookup name = none := by
    refine List.lookup_eq_none_iff.mpr fun v member => bne_iff_ne.mpr ?_
    rintro rfl
    exact own _ locale (List.mem_map_of_mem (List.mem_reverse.mp member))
  have columns : name ≠ "COLUMNS" := by
    rintro rfl
    revert locale
    decide
  unfold childEnv
  rw [sortedVariables,lookup_putAll,List.lookup_nil,Option.or_none,List.reverse_append,List.lookup_append,unset,
    Option.none_or]
  cases localeIsUtf8 lookup <;> simp [lookup_cons_eq,columns]

/-- The value of a variable in the environment that the shell of a session starts with. -/
def shellVariable (m : Machine) (shell : SessionConfig) (config : HarnessConfig) (name : String) : Option String :=
  (Pty.startVariables m (Station.launchOf m shell config).env).lookup name

theorem shellVariable_eq (name : String) :
    shellVariable m shell config name = overlaid m.lookup (childEnv shell m.lookup) name := lookup_startVariables name

/-- The shell sets no locale variable itself. -/
def NoLocale (shell : SessionConfig) : Prop := ∀ name ∈ localeVariables, name ∉ shell.env.map (·.1)

section NoLocale

variable (own : NoLocale shell)
include own

theorem set?_shellVariable {name : String} (locale : name ∈ localeVariables)
    (other : name = "LC_CTYPE" → localeIsUtf8 m.lookup = true) :
    set? (shellVariable m shell config) name = set? m.lookup name := by
  unfold set?
  rw [shellVariable_eq,overlaid,lookup_childEnv own locale,if_neg,Option.none_or]
  rintro ⟨second,notUtf8⟩
  rw [other second] at notUtf8
  cases notUtf8

theorem set?_shellVariable_first :
    set? (shellVariable m shell config) "LC_ALL" = set? m.lookup "LC_ALL" :=
  set?_shellVariable own (by decide) fun same => absurd same (by decide)

/-- A locale that is UTF-8 is handed on. -/
theorem shellLocale_of_utf8 (utf8 : localeIsUtf8 m.lookup = true) :
    localeIsUtf8 (shellVariable m shell config) = true := by
  have second : set? (shellVariable m shell config) "LC_CTYPE" = set? m.lookup "LC_CTYPE" :=
    set?_shellVariable own (by decide) fun _ => utf8
  have third : set? (shellVariable m shell config) "LANG" = set? m.lookup "LANG" :=
    set?_shellVariable own (by decide) fun same => absurd same (by decide)
  rw [localeIsUtf8_eq,set?_shellVariable_first own,second,third,← localeIsUtf8_eq]
  exact utf8

/-- The first variable decides for the shell as it does for the machine. -/
theorem shellLocale_of_set {value : String} (first : set? m.lookup "LC_ALL" = some value) :
    localeIsUtf8 (shellVariable m shell config) = localeIsUtf8 m.lookup := by
  rw [localeIsUtf8_eq,localeIsUtf8_eq m.lookup,set?_shellVariable_first own,first]
  rfl

/-- Where the first variable decides nothing, the shell gets UTF-8. -/
theorem shellLocale_of_unset (first : set? m.lookup "LC_ALL" = none) :
    localeIsUtf8 (shellVariable m shell config) = true := by
  by_cases utf8 : localeIsUtf8 m.lookup = true
  · exact shellLocale_of_utf8 own utf8
  · have notUtf8 : localeIsUtf8 m.lookup = false := Bool.not_eq_true _ ▸ utf8
    have second : set? (shellVariable m shell config) "LC_CTYPE" = some fallbackLocale := by
      unfold set?
      rw [shellVariable_eq,overlaid,lookup_childEnv own (by decide),if_pos ⟨rfl,notUtf8⟩]
      rfl
    rw [localeIsUtf8_eq,set?_shellVariable_first own,first,second]
    exact namesUtf8_fallback

end NoLocale

/-- The locale of a shell that sets no locale variable itself. It is UTF-8 where that of the machine is, and also
    where it is not, unless the first variable is set on the machine: that one decides for the shell as well. -/
theorem shell_locale (m : Machine) (shell : SessionConfig) (config : HarnessConfig) (own : NoLocale shell) :
    (∀ name, shellVariable m shell config name = overlaid m.lookup (childEnv shell m.lookup) name) ∧
      (localeIsUtf8 (shellVariable m shell config) = true ↔
        localeIsUtf8 m.lookup = true ∨ m.lookup "LC_ALL" = none ∨ m.lookup "LC_ALL" = some "") := by
  refine ⟨fun _ => shellVariable_eq _,?_⟩
  cases first : set? m.lookup "LC_ALL" with
  | none =>
    have unset : m.lookup "LC_ALL" = none ∨ m.lookup "LC_ALL" = some "" := by
      cases given : m.lookup "LC_ALL" with
      | none => exact .inl rfl
      | some value => simpa [set?,given,Option.filter] using first
    exact ⟨fun _ => .inr unset,fun _ => shellLocale_of_unset own first⟩
  | some value =>
    have set : ¬(m.lookup "LC_ALL" = none ∨ m.lookup "LC_ALL" = some "") := by
      rintro (given | given) <;> simp [set?,given] at first
    rw [shellLocale_of_set own first]
    simp [set]

/-- A machine with nothing but an environment. -/
def machineWith (environment : List (String × String)) : Machine := ⟨fun _ => none,{},[],environment,0⟩

/-- A shell that sets a variable of its own. -/
def dumbShell : SessionConfig := { command := "sh", env := [("TERM", "dumb")], prompt := "> " }

theorem dumbShell_noLocale : NoLocale dumbShell := by
  unfold NoLocale
  decide

/-- Where the first variable is empty and the last one names another encoding, the shell gets UTF-8. -/
theorem shell_locale_emptyFirst : NoLocale dumbShell ∧
    localeIsUtf8 (machineWith [("LANG", "C"),("LC_ALL", "")]).lookup = false ∧
      localeIsUtf8 (shellVariable (machineWith [("LANG", "C"),("LC_ALL", "")]) dumbShell {}) = true :=
  ⟨dumbShell_noLocale,by decide,(shell_locale _ dumbShell {} dumbShell_noLocale).2.mpr (.inr (.inr rfl))⟩

/-- Not every shell that sets no locale variable gets UTF-8. -/
theorem shell_not_always_utf8 : ¬∀ (m : Machine) (shell : SessionConfig) (config : HarnessConfig), NoLocale shell →
    localeIsUtf8 (shellVariable m shell config) = true := by
  intro always
  have utf8 := always (machineWith [("LC_ALL", "C")]) dumbShell {} dumbShell_noLocale
  have first : set? (machineWith [("LC_ALL", "C")]).lookup "LC_ALL" = some "C" := rfl
  rw [shellLocale_of_set dumbShell_noLocale first] at utf8
  revert utf8
  decide

end TabCompletion
