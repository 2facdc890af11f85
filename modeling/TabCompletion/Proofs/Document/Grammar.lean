import TabCompletion.Proofs.Document.Entries
import TabCompletion.Proofs.Document.Expectations

/-!
# The grammar of expectations

Which objects are expectations, and which ones: `Spec.Given` says what the six fields are, `Spec.Breaks` which rules they
break, and `Spec.Means` which expectation they are of. `expectation_grammar` says that just those objects are read
whose fields are given and break no rule, as what they mean, and that others are refused for the first broken rule.
-/
namespace TabCompletion

/-- A value that is written by `write`, or is left out or null. -/
inductive Optionally {β : Type} (write : β → Json) : Option Json → Option β → Prop where
  | absent : Optionally write none none
  | null : Optionally write (some .null) none
  | value (b : β) : Optionally write (some (write b)) (some b)

/-- A flag that is false if it is left out. -/
inductive Flag : Option Json → Bool → Prop where
  | absent : Flag none false
  | value (b : Bool) : Flag (some (.bool b)) b

/-- The reader reads what `write` writes and nothing else. -/
def Exactly {β : Type} (read : Node → Reading β) (write : β → Json) : Prop :=
  ∀ j b, read (.ofJson j) = .ok b ↔ j = write b

/-- The reader refuses for the form only. -/
def OnForm {β : Type} (read : Node → Reading β) : Prop :=
  ∀ n e, read n = .error e → ∃ expected, e = .malformed expected

section Values

variable {β : Type} {read : Node → Reading β} {write : β → Json}

theorem exactly_string : Exactly Node.readString .str := by
  intro j s
  cases j <;> simp [Node.ofJson,Node.readString]

theorem exactly_bool : Exactly Node.readBool .bool := by
  intro j b
  cases j <;> simp [Node.ofJson,Node.readBool]

theorem readItems_cons (n : Node) (rest : List Node) : Node.readItems read (n :: rest) =
    read n >>= fun b => Node.readItems read rest >>= fun bs => .ok (b :: bs) := by
  rw [Node.readItems]
  cases read n with
  | error e => rfl
  | ok b => cases Node.readItems read rest <;> rfl

theorem readItems_eq_ok (exactly : Exactly read write) (items : List Json) (values : List β) :
    Node.readItems read (items.map Node.ofJson) = .ok values ↔ items = values.map write := by
  induction items generalizing values with
  | nil => cases values <;> simp [Node.readItems]
  | cons item rest ih =>
    simp only [List.map_cons,readItems_cons,bind_eq_ok,ih,exactly item _]
    constructor
    · rintro ⟨b,first,bs,others,same⟩
      cases same
      rw [first,others,List.map_cons]
    · intro same
      cases values with
      | nil => cases same
      | cons b bs =>
        obtain ⟨first,others⟩ := List.cons_eq_cons.mp same
        exact ⟨b,first,bs,others,rfl⟩

theorem exactly_strings : Exactly (Node.readList Node.readString) .strs := by
  intro j texts
  cases j with
  | arr items =>
    have each := readItems_eq_ok exactly_string items texts
    rw [Json.strs,Json.arr.injEq,← each,Node.ofJson,Node.readList,Node.ofItems_eq_map]
    cases Node.readItems Node.readString (items.map Node.ofJson) <;> simp
  | _ => simp [Node.ofJson,Node.readList,Node.isBlankScalar,Json.strs]

/-- What is read of a value that may be left out is what the value is, or nothing. -/
theorem ends_option (exactly : Exactly read write) (there : ∀ b, write b ≠ .null) (found : Option Json) (b : Option β) :
    Ends (Node.readOption read) none found b ↔ Optionally write found b := by
  have plain : ∀ j : Json, j ≠ .null → Node.readOption read (.ofJson j) = (read (.ofJson j)).map some := by
    intro j present
    cases j <;> first | rfl | exact absurd rfl present
  constructor
  · intro ends
    cases found with
    | none =>
      obtain rfl : b = none := ends
      exact .absent
    | some j =>
      by_cases null : j = .null
      · subst null
        cases ends
        exact .null
      · have reads : (read (.ofJson j)).map some = .ok b := (plain j null).symm.trans ends
        cases value : read (.ofJson j) with
        | error e =>
          rw [value] at reads
          cases reads
        | ok a =>
          rw [value] at reads
          cases reads
          rw [(exactly j a).mp value]
          exact .value a
  · rintro (_ | _ | a)
    · rfl
    · rfl
    · show Node.readOption read (.ofJson (write a)) = .ok (some a)
      rw [plain _ (there a),(exactly _ a).mpr rfl]
      rfl

theorem ends_text (found : Option Json) (b : Option String) :
    Ends (Node.readOption Node.readString) none found b ↔ Optionally .str found b :=
  ends_option exactly_string (fun _ => by simp) found b

theorem ends_texts (found : Option Json) (b : Option (List String)) :
    Ends (Node.readOption (Node.readList Node.readString)) none found b ↔ Optionally .strs found b :=
  ends_option exactly_strings (fun _ => by simp [Json.strs]) found b

theorem ends_flag (found : Option Json) (b : Bool) : Ends Node.readBool false found b ↔ Flag found b := by
  constructor
  · intro ends
    cases found with
    | none =>
      obtain rfl : b = false := ends
      exact .absent
    | some j =>
      rw [(exactly_bool j b).mp ends]
      exact .value b
  · rintro (_ | b)
    · rfl
    · rfl

theorem onForm_string : OnForm Node.readString := by
  intro n e fails
  cases n <;> cases fails <;> exact ⟨_,rfl⟩

theorem onForm_bool : OnForm Node.readBool := by
  intro n e fails
  cases n with
  | text content form tag =>
    rw [Node.readBool] at fails
    split_ifs at fails <;> cases fails <;> exact ⟨_,rfl⟩
  | _ => cases fails <;> exact ⟨_,rfl⟩

theorem readItems_onForm (onForm : OnForm read) {nodes : List Node} {e : Refusal}
    (fails : Node.readItems read nodes = .error e) : ∃ expected, e = .malformed expected := by
  induction nodes with
  | nil => cases fails
  | cons n rest ih =>
    rw [readItems_cons] at fails
    rcases bind_eq_error.mp fails with first | ⟨b,-,later⟩
    · exact onForm n e first
    · rcases bind_eq_error.mp later with others | ⟨bs,-,failed⟩
      · exact ih others
      · cases failed

theorem onForm_list (onForm : OnForm read) : OnForm (Node.readList read) := by
  intro n e fails
  cases n with
  | list positional items ended =>
    rw [Node.readList] at fails
    split at fails
    · next _ failed =>
      cases fails
      exact readItems_onForm onForm failed
    · split_ifs at fails
      cases fails
      exact ⟨_,rfl⟩
  | void => cases fails
  | _ =>
    simp only [Node.readList] at fails
    split_ifs at fails
    all_goals cases fails; exact ⟨_,rfl⟩

theorem onForm_option (onForm : OnForm read) : OnForm (Node.readOption read) := by
  intro n e fails
  unfold Node.readOption at fails
  split at fails
  · cases fails
  split at fails
  · cases fails
    exact ⟨_,rfl⟩
  · cases value : read n with
    | error refusal =>
      rw [value] at fails
      cases fails
      exact onForm n _ value
    | ok b =>
      rw [value] at fails
      cases fails

end Values

/-! ## The rules -/

/-- The rules in the order in which they are checked. -/
def GrammarRule.order : List GrammarRule := [oneGroup,choicesFlag,linesFlag,emptyImmediate]

namespace TokenSet

theorem nodup_toList (s : TokenSet) : s.toList.Nodup := s.ascending.imp fun below => String.ne_of_lt below

/-- Sets are the same if they have the same elements. -/
theorem eq_of_mem_iff {s t : TokenSet} (same : ∀ x, x ∈ s ↔ x ∈ t) : s = t := by
  have kept : s.toList.Perm t.toList := (List.perm_ext_iff_of_nodup s.nodup_toList t.nodup_toList).mpr same
  have lists : s.toList = t.toList := by
    refine List.Perm.eq_of_pairwise ?_ s.ascending t.ascending kept
    intro a b _ _ below above
    exact absurd above (String.lt_asymm below)
  rw [← ofList_toList s,← ofList_toList t,lists]

theorem ofList_eq_iff {xs ys : List String} : ofList xs = ofList ys ↔ ∀ x, x ∈ xs ↔ x ∈ ys := by
  constructor
  · intro same x
    rw [← mem_ofList,same,mem_ofList]
  · intro same
    refine eq_of_mem_iff fun x => ?_
    rw [mem_ofList,mem_ofList,same]

end TokenSet

namespace Expectation

namespace Spec

/-- An object has these six fields and no others, each at most once. -/
structure Given (s : Spec) (fields : List (String × Json)) : Prop where
  known : ∀ f ∈ fields, f.1 ∈ ["immediate","choices","other_choices_ok","lines","other_lines_ok","no_choices"]
  once : (fields.map (·.1)).Nodup
  immediate : Optionally .str (fields.lookup "immediate") s.immediate
  choices : Optionally .strs (fields.lookup "choices") s.choices
  otherChoicesOk : Flag (fields.lookup "other_choices_ok") s.otherChoicesOk
  lines : Optionally .strs (fields.lookup "lines") s.lines
  otherLinesOk : Flag (fields.lookup "other_lines_ok") s.otherLinesOk
  noChoices : Flag (fields.lookup "no_choices") s.noChoices

/-- The fields break a rule. -/
def Breaks (s : Spec) : GrammarRule → Prop
  | .oneGroup => [s.immediate.isSome,s.choices.isSome,s.lines.isSome,s.noChoices].count true ≠ 1
  | .choicesFlag => s.otherChoicesOk = true ∧ s.choices = none
  | .linesFlag => s.otherLinesOk = true ∧ s.lines = none
  | .emptyImmediate => s.immediate = some ""

/-- The rule is the first one among these that the fields break. -/
inductive BreaksFirst (s : Spec) : List GrammarRule → GrammarRule → Prop where
  | here {rule : GrammarRule} {rest : List GrammarRule} (breaks : s.Breaks rule) : BreaksFirst s (rule :: rest) rule
  | later {other rule : GrammarRule} {rest : List GrammarRule} (keeps : ¬s.Breaks other)
      (first : BreaksFirst s rest rule) : BreaksFirst s (other :: rest) rule

/-- The expectation that the group that is set names. -/
inductive Means (s : Spec) : Expectation → Prop where
  | immediate {text : String} (set : s.immediate = some text) : Means s (.immediate text)
  | choices {texts : List String} {tokens : TokenSet} (set : s.choices = some texts)
      (same : ∀ token, token ∈ tokens ↔ token ∈ texts) : Means s (.choices tokens s.otherChoicesOk)
  | lines {ls : List String} (set : s.lines = some ls) : Means s (.lines ls s.otherLinesOk)
  | noChoices (set : s.noChoices = true) : Means s .noChoices

variable {s : Spec} {rule : GrammarRule}

theorem groups_eq (s : Spec) :
    s.groups = [s.immediate.isSome,s.choices.isSome,s.lines.isSome,s.noChoices].count true := by
  rw [groups]
  cases s.immediate.isSome <;> cases s.choices.isSome <;> cases s.lines.isSome <;> cases s.noChoices <;> rfl

theorem exists_breaksFirst {rules : List GrammarRule} (listed : rule ∈ rules) (breaks : s.Breaks rule) :
    ∃ first, s.BreaksFirst rules first := by
  induction rules with
  | nil => cases listed
  | cons other rest ih =>
    by_cases here : s.Breaks other
    · exact ⟨other,.here here⟩
    · rcases List.mem_cons.mp listed with rfl | among
      · exact absurd breaks here
      · obtain ⟨first,is⟩ := ih among
        exact ⟨first,.later here is⟩

theorem breaks_oneGroup : s.Breaks .oneGroup ↔ s.groups ≠ 1 := by
  rw [groups_eq]
  rfl

/-- The expectation of the first group that is set. -/
def named (s : Spec) : Expectation :=
  match s.immediate, s.choices, s.lines with
  | some text, _, _ => .immediate text
  | none, some texts, _ => .choices (TokenSet.ofList texts) s.otherChoicesOk
  | none, none, some ls => .lines ls s.otherLinesOk
  | none, none, none => .noChoices

theorem ofSpec_breaks (first : s.BreaksFirst GrammarRule.order rule) : ofSpec s = .error (.rule rule) := by
  -- One case for each rule: those before it are kept, so their checks are passed.
  rcases first with one | ⟨one,choicesFlag | ⟨choicesFlag,linesFlag | ⟨linesFlag,empty | ⟨_,⟨⟩⟩⟩⟩⟩
  · exact if_pos (breaks_oneGroup.mp one)
  · rw [ofSpec,if_neg (one ∘ breaks_oneGroup.mpr)]
    exact if_pos choicesFlag
  · rw [ofSpec,if_neg (one ∘ breaks_oneGroup.mpr)]
    exact (if_neg choicesFlag).trans (if_pos linesFlag)
  · have is : s.immediate = some "" := empty
    rw [ofSpec,if_neg (one ∘ breaks_oneGroup.mpr)]
    refine (if_neg choicesFlag).trans ((if_neg linesFlag).trans ?_)
    rw [is]
    exact if_pos rfl

theorem ofSpec_keeps (keeps : ∀ rule, ¬s.Breaks rule) : ofSpec s = .ok s.named := by
  have one : ¬s.groups ≠ 1 := fun breaks => keeps .oneGroup (breaks_oneGroup.mpr breaks)
  have choicesFlag : ¬(s.otherChoicesOk = true ∧ s.choices = none) := keeps .choicesFlag
  have linesFlag : ¬(s.otherLinesOk = true ∧ s.lines = none) := keeps .linesFlag
  have nonempty : s.immediate ≠ some "" := keeps .emptyImmediate
  rw [ofSpec,if_neg one,if_neg choicesFlag,if_neg linesFlag,named]
  -- Of the checks only the one on the text is left, and only if there is one.
  cases immediate : s.immediate with
  | some text =>
    have filled : text ≠ "" := by
      rintro rfl
      exact nonempty immediate
    exact if_neg filled
  | none => cases s.choices <;> cases s.lines <;> rfl

section One

variable (one : s.groups = 1)
include one

theorem immediate_eq_none (other : s.choices.isSome = true ∨ s.lines.isSome = true ∨ s.noChoices = true) :
    s.immediate = none := by
  rw [groups] at one
  cases immediate : s.immediate with
  | none => rfl
  | some text =>
    rcases other with set | set | set
    all_goals
      simp only [immediate,set,Option.isSome_some,Bool.toNat_true] at one
      omega

theorem choices_eq_none (other : s.lines.isSome = true ∨ s.noChoices = true) : s.choices = none := by
  rw [groups] at one
  cases choices : s.choices with
  | none => rfl
  | some texts =>
    rcases other with set | set
    all_goals
      simp only [choices,set,Option.isSome_some,Bool.toNat_true] at one
      omega

theorem lines_eq_none (other : s.noChoices = true) : s.lines = none := by
  rw [groups] at one
  cases lines : s.lines with
  | none => rfl
  | some ls =>
    simp only [lines,other,Option.isSome_some,Bool.toNat_true] at one
    omega

/-- With one group that is set, the expectation is the one it names. -/
theorem means_iff {e : Expectation} : s.Means e ↔ e = s.named := by
  constructor
  · intro means
    cases means with
    | immediate set => simp [named,set]
    | @choices texts tokens set same =>
      have first := immediate_eq_none one (.inl (by rw [set]; rfl))
      have tokens_eq : tokens = TokenSet.ofList texts := by
        refine TokenSet.eq_of_mem_iff fun token => ?_
        rw [TokenSet.mem_ofList,same]
      simp [named,first,set,tokens_eq]
    | lines set =>
      have there : s.lines.isSome = true := by rw [set]; rfl
      have first := immediate_eq_none one (.inr (.inl there))
      have second := choices_eq_none one (.inl there)
      simp [named,first,second,set]
    | noChoices set =>
      have first := immediate_eq_none one (.inr (.inr set))
      have second := choices_eq_none one (.inr set)
      have third := lines_eq_none one set
      simp [named,first,second,third]
  · rintro rfl
    rw [groups] at one
    rw [named]
    cases immediate : s.immediate with
    | some text => exact .immediate immediate
    | none =>
      cases choices : s.choices with
      | some texts => exact .choices choices fun token => TokenSet.mem_ofList
      | none =>
        cases lines : s.lines with
        | some ls => exact .lines lines
        | none => cases noChoices : s.noChoices with
          | true => exact .noChoices noChoices
          | false => simp [immediate,choices,lines,noChoices] at one

end One

theorem ofSpec_eq_ok {e : Expectation} : ofSpec s = .ok e ↔ (∀ rule, ¬s.Breaks rule) ∧ s.Means e := by
  by_cases keeps : ∀ rule, ¬s.Breaks rule
  · have one : s.groups = 1 := not_not.mp (keeps .oneGroup ∘ breaks_oneGroup.mpr)
    rw [ofSpec_keeps keeps,means_iff one,Except.ok.injEq]
    simp [keeps,eq_comm]
  · obtain ⟨rule,breaks⟩ := not_forall_not.mp keeps
    obtain ⟨first,is⟩ := exists_breaksFirst (by cases rule <;> decide : rule ∈ GrammarRule.order) breaks
    rw [ofSpec_breaks is]
    simp [keeps]

theorem ofSpec_eq_error {e : Refusal} :
    ofSpec s = .error e ↔ ∃ rule, s.BreaksFirst GrammarRule.order rule ∧ e = .rule rule := by
  constructor
  · intro fails
    have breaks : ∃ rule, s.Breaks rule := by
      by_contra none
      rw [ofSpec_keeps (not_exists.mp none)] at fails
      cases fails
    obtain ⟨rule,breaks⟩ := breaks
    obtain ⟨first,is⟩ := exists_breaksFirst (by cases rule <;> decide : rule ∈ GrammarRule.order) breaks
    rw [ofSpec_breaks is] at fails
    cases fails
    exact ⟨first,is,rfl⟩
  · rintro ⟨rule,first,rfl⟩
    exact ofSpec_breaks first

end Spec

/-! ## Reading the six fields -/

/-- A field of this name changes no other component. -/
structure Kept (name : String) (p q : Spec) : Prop where
  immediate : name ≠ "immediate" → q.immediate = p.immediate
  choices : name ≠ "choices" → q.choices = p.choices
  otherChoicesOk : name ≠ "other_choices_ok" → q.otherChoicesOk = p.otherChoicesOk
  lines : name ≠ "lines" → q.lines = p.lines
  otherLinesOk : name ≠ "other_lines_ok" → q.otherLinesOk = p.otherLinesOk
  noChoices : name ≠ "no_choices" → q.noChoices = p.noChoices

theorem put_kept {name : String} {n : Node} {p q : Spec} (known : name ∈ record.names)
    (put : record.put name n p = .ok q) : Kept name p q := by
  simp only [record,List.mem_cons,List.not_mem_nil,or_false] at known
  rcases known with rfl | rfl | rfl | rfl | rfl | rfl
  all_goals
    obtain ⟨v,-,same⟩ := bind_eq_ok.mp put
    cases same
    constructor <;> simp

theorem part_immediate : record.Part "immediate" (Node.readOption Node.readString) Spec.immediate :=
  .of_put (fun _ _ => rfl) (fun _ _ => rfl) fun _ known differs _ _ _ put => (put_kept known put).immediate differs

theorem part_choices : record.Part "choices" (Node.readOption (Node.readList Node.readString)) Spec.choices :=
  .of_put (fun _ _ => rfl) (fun _ _ => rfl) fun _ known differs _ _ _ put => (put_kept known put).choices differs

theorem part_otherChoicesOk : record.Part "other_choices_ok" Node.readBool Spec.otherChoicesOk :=
  .of_put (fun _ _ => rfl) (fun _ _ => rfl) fun _ known differs _ _ _ put => (put_kept known put).otherChoicesOk differs

theorem part_lines : record.Part "lines" (Node.readOption (Node.readList Node.readString)) Spec.lines :=
  .of_put (fun _ _ => rfl) (fun _ _ => rfl) fun _ known differs _ _ _ put => (put_kept known put).lines differs

theorem part_otherLinesOk : record.Part "other_lines_ok" Node.readBool Spec.otherLinesOk :=
  .of_put (fun _ _ => rfl) (fun _ _ => rfl) fun _ known differs _ _ _ put => (put_kept known put).otherLinesOk differs

theorem part_noChoices : record.Part "no_choices" Node.readBool Spec.noChoices :=
  .of_put (fun _ _ => rfl) (fun _ _ => rfl) fun _ known differs _ _ _ put => (put_kept known put).noChoices differs

/-- The value of a field of an expectation is refused for its form only. -/
theorem put_onForm {f : String × Json} {p : Spec} {e : Refusal} (known : f.1 ∈ record.names)
    (fails : record.put f.1 (.ofJson f.2) p = .error e) : ∃ expected, e = .malformed expected := by
  obtain ⟨name,value⟩ := f
  simp only [record,List.mem_cons,List.not_mem_nil,or_false] at known
  rcases known with rfl | rfl | rfl | rfl | rfl | rfl
  · exact onForm_option onForm_string _ _ (part_immediate.put_error fails)
  · exact onForm_option (onForm_list onForm_string) _ _ (part_choices.put_error fails)
  · exact onForm_bool _ _ (part_otherChoicesOk.put_error fails)
  · exact onForm_option (onForm_list onForm_string) _ _ (part_lines.put_error fails)
  · exact onForm_bool _ _ (part_otherLinesOk.put_error fails)
  · exact onForm_bool _ _ (part_noChoices.put_error fails)

variable {fields : List (String × Json)} {s t : Spec}

theorem given_of_read (reads : record.readEntries [] (fields.map Record.entry) record.start = .ok s) : s.Given fields := by
  obtain ⟨known,once,put⟩ := (Record.readEntries_eq_ok rfl).mp reads
  have names : ∀ f ∈ fields, f.1 ∈ record.names := fun f member => (known f member).1
  exact {
    known := names
    once := once
    immediate := (ends_text _ _).mp (part_immediate.ends names once put)
    choices := (ends_texts _ _).mp (part_choices.ends names once put)
    otherChoicesOk := (ends_flag _ _).mp (part_otherChoicesOk.ends names once put)
    lines := (ends_texts _ _).mp (part_lines.ends names once put)
    otherLinesOk := (ends_flag _ _).mp (part_otherLinesOk.ends names once put)
    noChoices := (ends_flag _ _).mp (part_noChoices.ends names once put) }

theorem ends_unique {β : Type} {read : Node → Reading β} {before a b : β} {found : Option Json}
    (first : Ends read before found a) (second : Ends read before found b) : a = b := by
  cases found with
  | none => exact first.trans second.symm
  | some j => exact Except.ok.inj (first.symm.trans second)

theorem Spec.Given.unique (first : s.Given fields) (second : t.Given fields) : s = t := by
  have immediate := ends_unique ((ends_text _ _).mpr first.immediate) ((ends_text _ _).mpr second.immediate)
  have choices := ends_unique ((ends_texts _ _).mpr first.choices) ((ends_texts _ _).mpr second.choices)
  have otherChoicesOk := ends_unique ((ends_flag _ _).mpr first.otherChoicesOk) ((ends_flag _ _).mpr second.otherChoicesOk)
  have lines := ends_unique ((ends_texts _ _).mpr first.lines) ((ends_texts _ _).mpr second.lines)
  have otherLinesOk := ends_unique ((ends_flag _ _).mpr first.otherLinesOk) ((ends_flag _ _).mpr second.otherLinesOk)
  have noChoices := ends_unique ((ends_flag _ _).mpr first.noChoices) ((ends_flag _ _).mpr second.noChoices)
  cases s
  cases t
  simp_all

/-- Given fields are read: each of them is, and what is read of all is given. -/
theorem read_of_given (given : s.Given fields) :
    record.readEntries [] (fields.map Record.entry) record.start = .ok s := by
  have found : ∀ f ∈ fields, fields.lookup f.1 = some f.2 := fun f member => lookup_of_mem given.once member
  have each : ∀ f ∈ fields, ∀ p, ∃ q, record.put f.1 (.ofJson f.2) p = .ok q := by
    intro f member p
    have here := found f member
    have known := given.known f member
    obtain ⟨name,value⟩ := f
    simp only [List.mem_cons,List.not_mem_nil,or_false] at known
    rcases known with rfl | rfl | rfl | rfl | rfl | rfl
    · exact part_immediate.put_found ((ends_text _ _).mpr given.immediate) here p
    · exact part_choices.put_found ((ends_texts _ _).mpr given.choices) here p
    · exact part_otherChoicesOk.put_found ((ends_flag _ _).mpr given.otherChoicesOk) here p
    · exact part_lines.put_found ((ends_texts _ _).mpr given.lines) here p
    · exact part_otherLinesOk.put_found ((ends_flag _ _).mpr given.otherLinesOk) here p
    · exact part_noChoices.put_found ((ends_flag _ _).mpr given.noChoices) here p
  -- What is read of all fields is given as well, and there is one way only to give them.
  obtain ⟨q,put⟩ := Record.exists_putFields each record.start
  have known : ∀ f ∈ fields, f.1 ∈ record.names ∧ f.1 ∉ [] := fun f member => ⟨given.known f member,List.not_mem_nil⟩
  have reads := (Record.readEntries_eq_ok rfl).mpr ⟨known,given.once,put⟩
  rwa [(given_of_read reads).unique given] at reads

theorem read_given (given : s.Given fields) : read (.ofJson (.obj fields)) = ofSpec s := by
  rw [read,Record.read_obj,read_of_given given]
  rfl

theorem read_eq_ok {e : Expectation} :
    read (.ofJson (.obj fields)) = .ok e ↔ ∃ s : Spec, s.Given fields ∧ (∀ rule, ¬s.Breaks rule) ∧ s.Means e := by
  constructor
  · intro reads
    rw [read,Record.read_obj] at reads
    obtain ⟨s,entries,made⟩ := bind_eq_ok.mp reads
    exact ⟨s,given_of_read entries,Spec.ofSpec_eq_ok.mp made⟩
  · rintro ⟨s,given,accepted⟩
    rw [read_given given]
    exact Spec.ofSpec_eq_ok.mpr accepted

/-- An object with choices that is read is the set of these, with its flag. -/
theorem Spec.read_choices {e : Expectation} {xs : List String} (given : s.Given fields) (set : s.choices = some xs)
    (reads : read (.ofJson (.obj fields)) = .ok e) : e = .choices (TokenSet.ofList xs) s.otherChoicesOk := by
  rw [read_given given] at reads
  obtain ⟨keeps,means⟩ := ofSpec_eq_ok.mp reads
  have one : s.groups = 1 := not_not.mp (keeps .oneGroup ∘ breaks_oneGroup.mpr)
  have first := immediate_eq_none one (.inl (by rw [set]; rfl))
  rw [(means_iff one).mp means]
  simp [named,first,set]

theorem read_not_given (notGiven : ¬∃ s : Spec, s.Given fields) :
    ∃ expected, read (.ofJson (.obj fields)) = .error (.malformed expected) := by
  cases entries : record.readEntries [] (fields.map Record.entry) record.start with
  | ok s => exact absurd ⟨s,given_of_read entries⟩ notGiven
  | error e =>
    have malformed : ∃ expected, e = .malformed expected := by
      rcases Record.readEntries_error rfl entries with form | ⟨f,-,known,before,refused⟩
      · exact form
      · exact put_onForm known refused
    obtain ⟨expected,rfl⟩ := malformed
    refine ⟨expected,?_⟩
    rw [read,Record.read_obj,entries]
    rfl

end Expectation

open Expectation in
/-- The grammar of expectations. An object is read if its fields are given and break no rule, as the expectation of
    the group that is set; given fields are refused for the first rule they break, other ones for their form. What was
    read is read again when it is written, in whatever order its fields are kept. Two objects with choices are the same
    expectation if they have the same choices, in any order, and the same flag. -/
theorem expectation_grammar (fields : List (String × Json)) :
    (∀ e, read (.ofJson (.obj fields)) = .ok e ↔ ∃ s : Spec, s.Given fields ∧ (∀ rule, ¬s.Breaks rule) ∧ s.Means e) ∧
    (∀ s : Spec, s.Given fields → ∀ e, read (.ofJson (.obj fields)) = .error e ↔
      ∃ rule, s.BreaksFirst GrammarRule.order rule ∧ e = .rule rule) ∧
    ((¬∃ s : Spec, s.Given fields) → ∃ expected, read (.ofJson (.obj fields)) = .error (.malformed expected)) ∧
    (∀ e, read (.ofJson (.obj fields)) = .ok e → Reads read e.toJson (.ok e)) ∧
    ∀ (others : List (String × Json)) (s t : Spec) (e f : Expectation) (xs ys : List String),
      s.Given fields → t.Given others → s.choices = some xs → t.choices = some ys →
      read (.ofJson (.obj fields)) = .ok e → read (.ofJson (.obj others)) = .ok f →
      (e = f ↔ (∀ token, token ∈ xs ↔ token ∈ ys) ∧ s.otherChoicesOk = t.otherChoicesOk) := by
  refine ⟨fun e => read_eq_ok,fun s given e => ?_,read_not_given,fun e reads => ?_,?_⟩
  · rw [read_given given]
    exact Spec.ofSpec_eq_error
  · refine reads_toJson ?_
    rintro rfl
    obtain ⟨s,-,keeps,means⟩ := read_eq_ok.mp reads
    cases means with
    | immediate set => exact keeps .emptyImmediate set
  · intro others s t e f xs ys given other choices otherChoices reads otherReads
    have named := Spec.read_choices given choices reads
    have otherNamed := Spec.read_choices other otherChoices otherReads
    rw [named,otherNamed,Expectation.choices.injEq,TokenSet.ofList_eq_iff]

/-- Fields with choices that are not the only ones, and with lines left null. -/
def choicesFields (texts : List String) : List (String × Json) :=
  [("lines", .null),("other_choices_ok", .bool true),("choices", .strs texts)]

theorem choicesFields_given (texts : List String) :
    Expectation.Spec.Given { choices := some texts, otherChoicesOk := true } (choicesFields texts) where
  known := by simp [choicesFields]
  once := by simp [choicesFields]
  immediate := .absent
  choices := .value texts
  otherChoicesOk := .value true
  lines := .null
  otherLinesOk := .absent
  noChoices := .absent

theorem choicesFields_accepted (texts : List String) :
    Expectation.read (.ofJson (.obj (choicesFields texts))) = .ok (.choices (TokenSet.ofList texts) true) := by
  refine Expectation.read_eq_ok.mpr ⟨_,choicesFields_given texts,fun rule => ?_,.choices rfl fun _ => TokenSet.mem_ofList⟩
  cases rule <;> simp [Expectation.Spec.Breaks]

/-- Choices in another order, and one of them twice, make the same expectation. -/
theorem choicesFields_same :
    Expectation.Spec.Given { choices := some ["b","a"], otherChoicesOk := true } (choicesFields ["b","a"]) ∧
    Expectation.Spec.Given { choices := some ["a","b","a"], otherChoicesOk := true } (choicesFields ["a","b","a"]) ∧
    Expectation.read (.ofJson (.obj (choicesFields ["b","a"]))) = .ok (.choices (TokenSet.ofList ["b","a"]) true) ∧
    Expectation.read (.ofJson (.obj (choicesFields ["a","b","a"]))) = .ok (.choices (TokenSet.ofList ["a","b","a"]) true) ∧
    Expectation.choices (TokenSet.ofList ["b","a"]) true = .choices (TokenSet.ofList ["a","b","a"]) true := by
  have given := choicesFields_given ["b","a"]
  have other := choicesFields_given ["a","b","a"]
  have reads := choicesFields_accepted ["b","a"]
  have otherReads := choicesFields_accepted ["a","b","a"]
  obtain ⟨-,-,-,-,same⟩ := expectation_grammar (choicesFields ["b","a"])
  have iff := same _ _ _ _ _ _ _ given other rfl rfl reads otherReads
  exact ⟨given,other,reads,otherReads,iff.mpr ⟨fun token => by simp [or_comm],rfl⟩⟩

end TabCompletion
