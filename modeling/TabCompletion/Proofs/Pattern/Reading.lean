import TabCompletion.Proofs.Pattern.Reader

/-!
# What a pattern says

The reader of a pattern makes one move after the other (`body_succ`). A move takes a character, so the length
of the text is fuel enough (`body_enough`). What was read of the first alternative beforehand is not looked at
again, unless a sign of repetition follows it: the rest of the text says the same after it, with those parts at
the start of the alternative (`body_leads`).
-/
namespace TabCompletion.Pattern.Parse

/-- What the reader of a pattern does at once. -/
inductive Move where
  /-- It comes to the end of the pattern. -/
  | finish
  /-- It comes to the next alternative. -/
  | next
  /-- It has read these parts of the alternative. -/
  | parts (parts : List Syntax)
  /-- It goes into a group, and knows whether blanks are ignored after it. -/
  | inside (captures : Bool) (change : FlagChange) (outer : Bool)

/-- The move at the next character, if there is one, after the parts. -/
def moveAt (inGroup : Bool) (parts : List Syntax) : Option Char → Parse Move
  | none => if inGroup then throw .unclosedGroup else return .finish
  | some ')' => do
    if inGroup then
      bump
      return .finish
    else throw .unopenedGroup
  | some '|' => do
    bump
    return .next
  | some '(' => do
    match ← opening with
    | .change change =>
      match change.lookup .ignoreWhitespace with
      | some v => modify fun r => { r with verbose := v }
      | none => pure ()
      return .parts (.flags change :: parts)
    | .group captures change =>
      let outer := (← get).verbose
      modify fun r => { r with verbose := (change.lookup .ignoreWhitespace).getD outer }
      return .inside captures change outer
  | some '[' => do
    let (negated, set) ← bracketed ((← rest).length + 1)
    return .parts (.bracketed negated set :: parts)
  | some '?' => return .parts (← operator 0 (some 1) parts)
  | some '*' => return .parts (← operator 0 none parts)
  | some '+' => return .parts (← operator 1 none parts)
  | some '\x7b' => return .parts (← counted parts)
  | some _ => return .parts ((← primitive) :: parts)

/-- The move after the parts. -/
def move (inGroup : Bool) (parts : List Syntax) : Parse Move := do
  skip
  moveAt inGroup parts (← peek?)

/-- The pattern after a move. -/
def follow (fuel : Nat) (inGroup : Bool) (before parts : List Syntax) : Move → Parse Syntax
  | .finish => return alternationOf before parts
  | .next => body fuel inGroup (concatOf parts :: before) []
  | .parts parts => body fuel inGroup before parts
  | .inside captures change outer => do
    let inner ← body fuel true [] []
    modify fun r => { r with verbose := outer }
    body fuel inGroup before (.group captures change inner :: parts)

variable {fuel fuel' : Nat} {inGroup : Bool} {before parts old : List Syntax} {r r' : Reader} {s : Syntax}
  {text : List Char}

/-- The reader makes one move after the other. -/
theorem body_succ : body (fuel + 1) inGroup before parts = move inGroup parts >>= follow fuel inGroup before parts := by
  unfold body move
  simp only [bind_assoc]
  refine bind_congr fun _ => bind_congr fun next => ?_
  unfold moveAt
  split
  · cases inGroup <;> rfl
  · cases inGroup
    · rfl
    · simp [follow]
  · simp [follow]
  · show _ = (opening >>= _) >>= _
    rw [bind_assoc]
    refine bind_congr fun o => ?_
    cases o with
    | change change =>
      dsimp only
      cases change.lookup .ignoreWhitespace <;> simp [follow]
    | group captures change => simp [follow]
  all_goals simp [follow]

/-- What is read is one move and what follows it. -/
theorem body_succ_eq_ok : (body (fuel + 1) inGroup before parts).run r = .ok (s, r') ↔ ∃ m here,
    (move inGroup parts).run r = .ok (m, here) ∧ (follow fuel inGroup before parts m).run here = .ok (s, r') := by
  rw [body_succ,run_bind_eq_ok]

/-- A move is made at the next character that is not ignored. -/
theorem move_eq_ok {m : Move} : (move inGroup parts).run r = .ok (m, r') ↔ ∃ here, skip.run r = .ok ((), here) ∧
    (moveAt inGroup parts here.rest.head?).run here = .ok (m, r') := by
  unfold move
  simp only [run_bind_eq_ok]
  constructor
  · rintro ⟨_,here,skipped,_,_,⟨⟩,moved⟩
    exact ⟨here,skipped,moved⟩
  · rintro ⟨here,skipped,moved⟩
    exact ⟨(),here,skipped,_,_,rfl,moved⟩

/-- After a move into a group come what is read in it and what is read after it. -/
theorem follow_inside_eq_ok {captures outer : Bool} {change : FlagChange} :
    (follow fuel inGroup before parts (.inside captures change outer)).run r = .ok (s, r') ↔ ∃ inner there,
      (body fuel true [] []).run r = .ok (inner, there) ∧
        (body fuel inGroup before (.group captures change inner :: parts)).run { there with verbose := outer } =
          .ok (s, r') := by
  rw [follow,run_bind_eq_ok]
  rfl

/-! ## Fuel -/

/-- At a character every move takes it. -/
theorem moveAt_takes (c : Char) : Takes text (moveAt inGroup parts (some c)) := by
  unfold moveAt
  split
  next atEnd => cases atEnd
  · split
    · exact .bind bump_takes fun _ => .pure _
    · exact .throw _
  · exact .bind bump_takes fun _ => .pure _
  · refine .bind opening_takes fun o => ?_
    cases o with
    | change change =>
      dsimp only
      cases change.lookup .ignoreWhitespace with
      | some v => exact .bind (.modify fun _ inside => inside) fun _ => .pure _
      | none => exact .pure _
    | group captures change => exact .get_bind fun _ _ => .bind (.modify fun _ inside => inside) fun _ => .pure _
  · exact .after (fun r _ _ ran => by cases ran; rfl) fun _ => .bind (bracketed_takes _) fun _ => .pure _
  · exact .bind (operator_takes _ _ _) fun _ => .pure _
  · exact .bind (operator_takes _ _ _) fun _ => .pure _
  · exact .bind (operator_takes _ _ _) fun _ => .pure _
  · exact .bind (counted_takes _) fun _ => .pure _
  · exact .bind primitive_takes fun _ => .pure _

/-- A move leaves less of the text, unless the pattern is at its end. -/
theorem move_shortens {m : Move} (moved : (move inGroup parts).run r = .ok (m, r')) :
    r'.rest <:+ r.rest ∧ (m ≠ .finish → r'.rest.length < r.rest.length) := by
  obtain ⟨here,skipped,met⟩ := move_eq_ok.mp moved
  have skips : here.rest <:+ r.rest := skip_staysIn r _ here skipped (List.suffix_refl _)
  cases left : here.rest with
  | nil =>
    rw [left,List.head?_nil] at met
    unfold moveAt at met
    cases inGroup
    · cases met
      exact ⟨skips,fun further => absurd rfl further⟩
    · cases met
  | cons c more =>
    rw [left,List.head?_cons] at met
    have takes : r'.rest <:+ more := moveAt_takes c here m r' met (by rw [left]; exact List.suffix_refl _)
    rw [left] at skips
    refine ⟨takes.trans ((List.suffix_cons c more).trans skips),fun _ => ?_⟩
    have shorter := takes.length_le
    have longer := skips.length_le
    rw [List.length_cons] at longer
    omega

theorem body_staysIn : StaysIn text (body fuel inGroup before parts) := by
  induction fuel generalizing inGroup before parts with
  | zero => exact .throw _
  | succ fuel ih =>
    rw [body_succ]
    refine .bind (fun r m r' moved inside => (move_shortens moved).1.trans inside) fun m => ?_
    cases m with
    | finish => exact .pure _
    | next => exact ih
    | parts parts => exact ih
    | inside captures change outer => exact .bind ih fun _ => .bind (.modify fun _ inside => inside) fun _ => ih

/-- More fuel than there are characters is enough: all that can be read with any fuel can be read with that. -/
theorem body_enough (read : (body fuel inGroup before parts).run r = .ok (s, r')) (enough : r.rest.length < fuel') :
    (body fuel' inGroup before parts).run r = .ok (s, r') := by
  induction fuel generalizing fuel' inGroup before parts r s r' with
  | zero => cases read
  | succ fuel ih =>
    obtain ⟨fuel',rfl⟩ := Nat.exists_eq_add_one_of_ne_zero (Nat.ne_zero_of_lt enough)
    rw [body_succ_eq_ok] at read ⊢
    obtain ⟨m,here,moved,read⟩ := read
    refine ⟨m,here,moved,?_⟩
    -- Each move that is not the last leaves fewer characters than the fuel that is left.
    have shorter (further : m ≠ .finish) : here.rest.length < fuel' :=
      Nat.lt_of_lt_of_le ((move_shortens moved).2 further) (Nat.le_of_lt_succ enough)
    cases m with
    | finish => exact read
    | next => exact ih read (shorter nofun)
    | parts parts => exact ih read (shorter nofun)
    | inside captures change outer =>
      rw [follow_inside_eq_ok] at read ⊢
      obtain ⟨inner,there,within,read⟩ := read
      have inside : there.rest.length ≤ here.rest.length :=
        (body_staysIn here inner there within (List.suffix_refl _)).length_le
      exact ⟨inner,there,ih within (shorter nofun),ih read (Nat.lt_of_le_of_lt inside (shorter nofun))⟩

/-- The alternatives before stay in front of those that are read. -/
theorem body_before (read : (body fuel inGroup before parts).run r = .ok (s, r')) : ∃ more last,
    ∀ before, (body fuel inGroup before parts).run r = .ok (alternationOf (more ++ before) last, r') := by
  induction fuel generalizing before parts r with
  | zero => cases read
  | succ fuel ih =>
    obtain ⟨m,here,moved,read⟩ := body_succ_eq_ok.mp read
    simp only [body_succ_eq_ok]
    cases m with
    | finish =>
      cases read
      exact ⟨[],parts,fun before => ⟨_,_,moved,rfl⟩⟩
    | next =>
      -- The parts so far are one more alternative before those to come.
      obtain ⟨more,last,all⟩ := ih read
      refine ⟨more ++ [concatOf parts],last,fun before => ⟨_,_,moved,?_⟩⟩
      rw [List.append_assoc]
      exact all _
    | parts parts =>
      obtain ⟨more,last,all⟩ := ih read
      exact ⟨more,last,fun before => ⟨_,_,moved,all before⟩⟩
    | inside captures change outer =>
      obtain ⟨inner,there,within,read⟩ := follow_inside_eq_ok.mp read
      obtain ⟨more,last,all⟩ := ih read
      exact ⟨more,last,fun before => ⟨_,_,moved,follow_inside_eq_ok.mpr ⟨inner,there,within,all before⟩⟩⟩

/-- The characters that say how often the part before them is repeated. -/
def repeats : List Char := ['?','*','+','\x7b']

/-- The move after more parts at the start. -/
def Move.onto (old : List Syntax) : Move → Move
  | .parts parts => .parts (parts ++ old)
  | m => m

theorem repeated_append (behind : parts ≠ []) :
    repeated (parts ++ old) = (fun last => (last.1, last.2 ++ old)) <$> repeated parts := by
  cases parts with
  | nil => exact absurd rfl behind
  | cons part rest => cases part <;> rfl

theorem operator_append (behind : parts ≠ []) (least : Nat) (greatest : Option Nat) :
    operator least greatest (parts ++ old) = (· ++ old) <$> operator least greatest parts := by
  unfold operator
  rw [repeated_append behind,bind_map_left,map_bind]
  refine bind_congr fun last => ?_
  simp only [map_bind,map_pure,List.cons_append]

theorem counted_append (behind : parts ≠ []) : counted (parts ++ old) = (· ++ old) <$> counted parts := by
  unfold counted
  rw [repeated_append behind,bind_map_left,map_bind]
  refine bind_congr fun last => ?_
  simp only [map_bind,map_pure,List.cons_append,apply_ite ((· ++ old) <$> ·)]

/-- More parts at the start change no move, unless the last of them is what is repeated. -/
theorem moveAt_append {next : Option Char} (apart : parts ≠ [] ∨ ∀ c ∈ next, c ∉ repeats) :
    moveAt inGroup (parts ++ old) next = Move.onto old <$> moveAt inGroup parts next := by
  -- Only a sign of repetition looks at the parts before it.
  have behind {c : Char} (is : next = some c) (sign : c ∈ repeats) : parts ≠ [] :=
    apart.resolve_right fun unsigned => unsigned c is sign
  unfold moveAt
  split
  · cases inGroup <;> rfl
  · cases inGroup
    · rfl
    · simp only [if_true,map_bind,map_pure,Move.onto]
  · simp only [map_bind,map_pure,Move.onto]
  · dsimp only
    rw [map_bind]
    refine bind_congr fun o => ?_
    cases o with
    | change change =>
      dsimp only
      cases change.lookup .ignoreWhitespace <;> simp only [map_bind,map_pure,Move.onto,List.cons_append]
    | group captures change => simp only [map_bind,map_pure,Move.onto]
  · simp only [map_bind,map_pure,Move.onto,List.cons_append]
  · simp only [operator_append (behind rfl (by decide)),bind_map_left,map_bind,map_pure,Move.onto]
  · simp only [operator_append (behind rfl (by decide)),bind_map_left,map_bind,map_pure,Move.onto]
  · simp only [operator_append (behind rfl (by decide)),bind_map_left,map_bind,map_pure,Move.onto]
  · simp only [counted_append (behind rfl (by decide)),bind_map_left,map_bind,map_pure,Move.onto]
  · simp only [map_bind,map_pure,Move.onto,List.cons_append]

/-- Every result of a step is such. -/
def Yields {α : Type} (P : α → Prop) (x : Parse α) : Prop := ∀ r a r', x.run r = .ok (a, r') → P a

namespace Yields

variable {α β : Type} {P : β → Prop} {Q : α → Prop} {x : Parse α} {f : α → Parse β}

theorem pure {b : β} (holds : P b) : Yields P (Pure.pure b) := by
  rintro r a r' ⟨⟩
  exact holds

theorem bind (first : Yields Q x) (rest : ∀ a, Q a → Yields P (f a)) : Yields P (x >>= f) := by
  intro r b r' ran
  obtain ⟨a,m,here,there⟩ := run_bind_eq_ok.mp ran
  exact rest a (first r a m here) m b r' there

/-- Only the last step matters. -/
theorem after (rest : ∀ a, Yields P (f a)) : Yields P (x >>= f) :=
  .bind (Q:=fun _ => True) (fun _ _ _ _ => trivial) fun a _ => rest a

theorem ite {c : Prop} [Decidable c] {x y : Parse β} (yes : Yields P x) (no : Yields P y) :
    Yields P (if c then x else y) := by
  split
  · exact yes
  · exact no

end Yields

theorem operator_ne_nil (least : Nat) (greatest : Option Nat) : Yields (· ≠ []) (operator least greatest parts) :=
  .after fun _ => .after fun _ => .after fun _ => .pure nofun

theorem counted_ne_nil : Yields (· ≠ []) (counted parts) := by
  refine .after fun _ => .after fun _ => .after fun _ => .after fun first => ?_
  extract_lets required andThen
  have more (counts : Nat × Option Nat) : Yields (· ≠ []) (andThen counts) := by
    refine .after fun _ => .ite (.after fun _ => ?_) ?_
    all_goals exact .after fun _ => .after fun _ => .ite (.after fun _ => .pure nofun) (.pure nofun)
  refine .after fun c => .ite (.after fun _ => .after fun _ => .ite ?_ ?_) ?_
  · exact .after fun _ => .after more
  · exact .after fun _ => .after fun _ => .after more
  · exact .after fun _ => .after more

/-- What a move reads is one part at least. -/
theorem moveAt_ne_nil (next : Option Char) : Yields (· ≠ .parts []) (moveAt inGroup parts next) := by
  have read {x : Parse (List Syntax)} (nonempty : Yields (· ≠ []) x) :
      Yields (· ≠ Move.parts []) (x >>= fun parts => pure (Move.parts parts)) :=
    .bind nonempty fun parts behind => .pure fun same => behind (Move.parts.inj same)
  unfold moveAt
  split
  · exact .ite nofun (.pure nofun)
  · exact .ite (.after fun _ => .pure nofun) nofun
  · exact .after fun _ => .pure nofun
  · refine .after fun o => ?_
    cases o with
    | change change =>
      dsimp only
      cases change.lookup .ignoreWhitespace
      · exact .pure nofun
      · exact .after fun _ => .pure nofun
    | group captures change => exact .after fun _ => .after fun _ => .pure nofun
  · exact .after fun _ => .after fun _ => .pure nofun
  · exact read (operator_ne_nil _ _)
  · exact read (operator_ne_nil _ _)
  · exact read (operator_ne_nil _ _)
  · exact read counted_ne_nil
  · exact .after fun _ => .pure nofun

/-- A pattern with the parts of its first alternative, in reverse order, and the pattern with more parts at
    the start of that alternative. -/
inductive Leads (old : List Syntax) : Syntax → Syntax → Prop where
  | concat (parts : List Syntax) : Leads old (concatOf parts) (concatOf (parts ++ old))
  | alternation (parts others : List Syntax) :
      Leads old (.alternation (concatOf parts :: others)) (.alternation (concatOf (parts ++ old) :: others))

/-- Nothing stands where it would be repeated: a part was read, or no sign of repetition comes next. -/
def Apart (parts : List Syntax) (r : Reader) : Prop :=
  parts ≠ [] ∨ r.verbose = false ∧ ∀ c ∈ r.rest.head?, c ∉ repeats

theorem move_append {m : Move} (apart : Apart parts r) (moved : (move inGroup (parts ++ old)).run r = .ok (m, r')) :
    ∃ m', (move inGroup parts).run r = .ok (m', r') ∧ m = m'.onto old ∧ m' ≠ .parts [] := by
  obtain ⟨here,skipped,met⟩ := move_eq_ok.mp moved
  have apart : parts ≠ [] ∨ ∀ c ∈ here.rest.head?, c ∉ repeats := by
    rcases apart with behind | ⟨plain,sign⟩
    · exact .inl behind
    · obtain ⟨cs,verbose,names⟩ := r
      cases plain
      cases skipped
      exact .inr sign
  rw [moveAt_append apart,StateT.run_map,map_eq_pure_bind,bind_eq_ok] at met
  obtain ⟨⟨m',last⟩,met,same⟩ := met
  cases same
  exact ⟨m',move_eq_ok.mpr ⟨here,skipped,met⟩,rfl,moveAt_ne_nil _ here m' _ met⟩

theorem alternationOf_last (more : List Syntax) (first : Syntax) (last : List Syntax) :
    alternationOf (more ++ [first]) last = .alternation (first :: (concatOf last :: more).reverse) := by
  unfold alternationOf
  split
  next empty => simp at empty
  next => simp

/-- What is read after more parts is what is read without them, with those parts at the start. -/
theorem body_leads (apart : Apart parts r) (read : (body fuel inGroup [] (parts ++ old)).run r = .ok (s, r')) :
    ∃ s', (body fuel inGroup [] parts).run r = .ok (s', r') ∧ Leads old s' s := by
  induction fuel generalizing parts r with
  | zero => cases read
  | succ fuel ih =>
    obtain ⟨_,here,moves,read⟩ := body_succ_eq_ok.mp read
    obtain ⟨m,moved,rfl,behind⟩ := move_append apart moves
    simp only [body_succ_eq_ok]
    cases m with
    | finish =>
      cases read
      exact ⟨_,⟨_,_,moved,rfl⟩,.concat parts⟩
    | next =>
      -- From here on the parts at the start are in an alternative that is only kept.
      obtain ⟨more,last,all⟩ := body_before read
      have given := (all [concatOf (parts ++ old)]).symm.trans read
      cases given
      refine ⟨_,⟨_,_,moved,all [concatOf parts]⟩,?_⟩
      rw [alternationOf_last,alternationOf_last]
      exact .alternation parts _
    | parts parts =>
      obtain ⟨s',read,leads⟩ := ih (.inl fun empty => behind (empty ▸ rfl)) read
      exact ⟨s',⟨_,_,moved,read⟩,leads⟩
    | inside captures change outer =>
      obtain ⟨inner,there,within,read⟩ := follow_inside_eq_ok.mp read
      have behind : Apart (.group captures change inner :: parts) { there with verbose := outer } := .inl nofun
      obtain ⟨s',read,leads⟩ := ih behind read
      exact ⟨s',⟨_,_,moved,follow_inside_eq_ok.mpr ⟨inner,there,within,read⟩⟩,leads⟩

/-- A sign of repetition has nothing to repeat at the start of an alternative. -/
theorem body_repeats {c : Char} {rest : List Char} {names : List String} (sign : c ∈ repeats) :
    (body (fuel + 1) inGroup before []).run ⟨c :: rest,false,names⟩ = .error .nothingToRepeat := by
  have met : (moveAt inGroup [] (some c)).run ⟨c :: rest,false,names⟩ = .error .nothingToRepeat := by
    simp only [repeats,List.mem_cons,List.not_mem_nil,or_false] at sign
    rcases sign with rfl | rfl | rfl | rfl <;> rfl
  rw [body_succ,StateT.run_bind]
  exact bind_eq_error.mpr (.inl met)

end TabCompletion.Pattern.Parse
