import TabCompletion.Proofs.Pattern.Literals
import TabCompletion.Proofs.Text.Words

/-!
# The reader goes on

What the reader has left of a text is an end of the text, and each of its steps leaves an end of what was
left before it (`StaysIn`). A step that reads a part of a pattern takes at least one character (`Takes`).
-/
namespace TabCompletion.Pattern.Parse

/-- Two steps have a result if the first one has one and the second one goes on from there. -/
theorem run_bind_eq_ok {α β : Type} {x : Parse α} {f : α → Parse β} {r r' : Reader} {b : β} :
    (x >>= f).run r = .ok (b, r') ↔ ∃ a m, x.run r = .ok (a, m) ∧ (f a).run m = .ok (b, r') := by
  rw [StateT.run_bind,bind_eq_ok,Prod.exists]

/-- Where an end of the text is left before a step, an end of the text is left after it. -/
def StaysIn {α : Type} (text : List Char) (x : Parse α) : Prop :=
  ∀ r a r', x.run r = .ok (a, r') → r.rest <:+ text → r'.rest <:+ text

/-- Where an end of the text is left after the next character, an end of the text is left after the step. -/
def Takes {α : Type} (text : List Char) (x : Parse α) : Prop :=
  ∀ r a r', x.run r = .ok (a, r') → r.rest.tail <:+ text → r'.rest <:+ text

variable {text : List Char}

theorem Takes.staysIn {α : Type} {x : Parse α} (takes : Takes text x) : StaysIn text x :=
  fun r a r' ran inside => takes r a r' ran ((List.tail_suffix r.rest).trans inside)

namespace StaysIn

variable {α β : Type} {x : Parse α} {f : α → Parse β}

theorem pure (a : α) : StaysIn text (Pure.pure a) := by
  rintro r b r' ⟨⟩ inside
  exact inside

theorem throw (fault : Fault) : StaysIn text (MonadExcept.throw fault : Parse α) := nofun

theorem bind (first : StaysIn text x) (rest : ∀ a, StaysIn text (f a)) : StaysIn text (x >>= f) := by
  intro r b r' ran inside
  obtain ⟨a,m,here,there⟩ := run_bind_eq_ok.mp ran
  exact rest a m b r' there (first r a m here inside)

theorem modify {f : Reader → Reader} (goesOn : ∀ r, r.rest <:+ text → (f r).rest <:+ text) :
    StaysIn text (modify f : Parse PUnit) := by
  rintro r b r' ⟨⟩ inside
  exact goesOn r inside

theorem get_bind {f : Reader → Parse β} (more : ∀ r, r.rest <:+ text → StaysIn text (f r)) :
    StaysIn text (get >>= f) := fun r b r' ran inside => more r inside r b r' ran inside

/-- What is left is an end of the text. -/
theorem rest_bind {f : List Char → Parse β} (more : ∀ cs, cs <:+ text → StaysIn text (f cs)) :
    StaysIn text (rest >>= f) := fun r b r' ran inside => more r.rest inside r b r' ran inside

theorem ite {c : Prop} [Decidable c] {x y : Parse α} (yes : StaysIn text x) (no : StaysIn text y) :
    StaysIn text (if c then x else y) := by
  split
  · exact yes
  · exact no

/-- A check before what comes next. -/
theorem guard {c : Prop} [Decidable c] {fault : Fault} {next : PUnit → Parse β} (more : ∀ u, StaysIn text (next u)) :
    StaysIn text (if c then (MonadExcept.throw fault : Parse PUnit) >>= next else next ⟨⟩) :=
  .ite (.bind (.throw fault) more) (more ⟨⟩)

end StaysIn

namespace Takes

variable {α β : Type} {x : Parse α} {f : α → Parse β}

theorem throw (fault : Fault) : Takes text (MonadExcept.throw fault : Parse α) := nofun

/-- A step that takes a character, and further steps. -/
theorem bind (first : Takes text x) (rest : ∀ a, StaysIn text (f a)) : Takes text (x >>= f) := by
  intro r b r' ran inside
  obtain ⟨a,m,here,there⟩ := run_bind_eq_ok.mp ran
  exact rest a m b r' there (first r a m here inside)

/-- A step that changes nothing, and one that takes a character. -/
theorem after (stays : ∀ r a r', x.run r = .ok (a, r') → r' = r) (rest : ∀ a, Takes text (f a)) :
    Takes text (x >>= f) := by
  intro r b r' ran inside
  obtain ⟨a,m,here,there⟩ := run_bind_eq_ok.mp ran
  cases stays r a m here
  exact rest a _ b r' there inside

end Takes

/-! ## Single steps -/

theorem goTo_staysIn {cs : List Char} (inside : cs <:+ text) : StaysIn text (goTo cs) := .modify fun _ _ => inside

theorem peek?_staysIn : StaysIn text peek? := .rest_bind fun _ _ => .pure _

theorem bump_takes : Takes text bump := by
  rintro r a r' ⟨⟩ inside
  exact inside

theorem bump_staysIn : StaysIn text bump := bump_takes.staysIn

theorem skipFrom_suffix (inComment : Bool) (cs : List Char) : skipFrom inComment cs <:+ cs := by
  induction cs generalizing inComment with
  | nil => exact List.suffix_refl []
  | cons c rest ih =>
    have further (inComment : Bool) : skipFrom inComment rest <:+ c :: rest :=
      (ih inComment).trans (List.suffix_cons c rest)
    rw [skipFrom]
    split
    · exact further _
    split
    · exact further _
    split
    · exact further _
    · exact List.suffix_refl _

theorem skip_staysIn : StaysIn text skip := by
  refine .modify fun r inside => ?_
  split
  · exact (skipFrom_suffix false r.rest).trans inside
  · exact inside

theorem bumpSkip_takes : Takes text bumpSkip := .bind bump_takes fun _ => skip_staysIn

theorem bumpSkip_staysIn : StaysIn text bumpSkip := bumpSkip_takes.staysIn

/-- The next character is not taken. -/
theorem need_stays {fault : Fault} (r : Reader) (c : Char) (r' : Reader)
    (ran : (need fault).run r = .ok (c, r')) : r' = r := by
  obtain ⟨cs,verbose,names⟩ := r
  cases cs with
  | nil => cases ran
  | cons c rest => cases ran; rfl

theorem need_staysIn (fault : Fault) : StaysIn text (need fault) :=
  fun r c r' ran inside => need_stays r c r' ran ▸ inside

theorem dropStart?_suffix {start cs left : List Char} (dropped : Text.dropStart? start cs = some left) : left <:+ cs :=
  ⟨start,Text.dropStart?_eq_some_iff.mp dropped⟩

theorem take?_staysIn (s : String) : StaysIn text (take? s) := by
  refine .rest_bind fun cs inside => ?_
  cases dropped : Text.dropStart? s.toList cs with
  | some left => exact .bind (goTo_staysIn ((dropStart?_suffix dropped).trans inside)) fun _ => .pure _
  | none => exact .pure _

/-- Takes a character and goes on, as long as there is fuel. -/
theorem step_staysIn {α β : Type} {x : Parse β} {f : β → α} (taken : StaysIn text x) :
    StaysIn text (bumpSkip >>= fun _ => x >>= fun a => Pure.pure (f a)) :=
  .bind bumpSkip_staysIn fun _ => .bind taken fun _ => .pure _

/-- Takes characters with a property. -/
def spanning (p : Char → Bool) : Nat → Parse (List Char)
  | 0 => return []
  | fuel + 1 => do
    match ← peek? with
    | some c =>
      if p c then
        bumpSkip
        return c :: (← spanning p fuel)
      else return []
    | none => return []

theorem spanning_staysIn (p : Char → Bool) (fuel : Nat) : StaysIn text (spanning p fuel) := by
  induction fuel with
  | zero => exact .pure _
  | succ fuel ih =>
    refine .bind peek?_staysIn fun next => ?_
    cases next with
    | none => exact .pure _
    | some c => exact .ite (step_staysIn ih) (.pure _)

theorem digits_eq (fuel : Nat) : digits fuel = spanning Char.isDigit fuel := by
  induction fuel with
  | zero => rfl
  | succ fuel ih =>
    rw [digits,ih]
    rfl

theorem digits_staysIn (fuel : Nat) : StaysIn text (digits fuel) := digits_eq fuel ▸ spanning_staysIn _ fuel

theorem blanks_staysIn : StaysIn text blanks :=
  .rest_bind fun _ inside => goTo_staysIn ((List.dropWhile_suffix _).trans inside)

/-- Ignores blanks after the digits that were taken, and gives their number. -/
def numberOf (ds : List Char) : Parse (Option Nat) := do
  goTo ((← rest).dropWhile Text.isBlank)
  if ds.isEmpty then return none
  match Node.digitsValue? 10 ds with
  | some n => if n < 4294967296 then return some n else throw .invalidRepetition
  | none => throw .invalidRepetition

theorem numberOf_staysIn (ds : List Char) : StaysIn text (numberOf ds) := by
  refine .rest_bind fun cs inside => .bind (goTo_staysIn ((List.dropWhile_suffix _).trans inside)) fun _ => ?_
  refine .ite (.pure _) ?_
  cases Node.digitsValue? 10 ds with
  | some n => exact .ite (.pure _) (.throw _)
  | none => exact .throw _

theorem decimal_eq : decimal = blanks >>= fun _ => rest >>= fun cs => digits cs.length >>= numberOf := rfl

theorem decimal_staysIn : StaysIn text decimal :=
  .bind blanks_staysIn fun _ => .rest_bind fun _ _ => .bind (digits_staysIn _) numberOf_staysIn

theorem count_staysIn (fault : Fault) : StaysIn text (count fault) := by
  refine .bind decimal_staysIn fun n => ?_
  cases n with
  | some n => exact .pure n
  | none => exact .throw fault

theorem flags_staysIn (fuel : Nat) (cleared dangling : Bool) (soFar : FlagChange) :
    StaysIn text (flags fuel cleared dangling soFar) := by
  induction fuel generalizing cleared dangling soFar with
  | zero => exact .throw _
  | succ fuel ih =>
    unfold flags
    refine .bind (need_staysIn _) fun c => .ite (.ite (.throw _) (.pure _)) (.ite ?_ ?_)
    · exact .guard fun _ => .bind bump_staysIn fun _ => ih _ _ _
    · cases flag? c with
      | none => exact .throw _
      | some f => exact .guard fun _ => .bind bump_staysIn fun _ => ih _ _ _

theorem groupName_staysIn : StaysIn text groupName := by
  refine .rest_bind fun cs inside => .guard fun _ => .get_bind fun r _ => .guard fun _ => .modify fun r _ => ?_
  exact (List.drop_suffix _ cs).trans inside

theorem opening_takes : Takes text opening := by
  refine .bind bump_takes fun _ => .bind skip_staysIn fun _ => ?_
  refine .bind (take?_staysIn _) fun _ => .bind (take?_staysIn _) fun _ => .bind (take?_staysIn _) fun _ =>
    .bind (take?_staysIn _) fun _ => .guard fun _ => ?_
  refine .bind (take?_staysIn _) fun _ => .bind (take?_staysIn _) fun _ => .ite ?_ ?_
  · exact .bind groupName_staysIn fun _ => .pure _
  refine .bind (take?_staysIn _) fun _ => .ite ?_ (.pure _)
  refine .rest_bind fun _ _ => .guard fun _ => .bind peek?_staysIn fun _ => .rest_bind fun _ _ => ?_
  refine .bind (flags_staysIn _ _ _ _) fun change => .bind (need_staysIn _) fun last => .bind bump_staysIn fun _ => ?_
  exact .ite (.guard fun _ => .pure _) (.pure _)

theorem codePoint_staysIn (n : Nat) : StaysIn text (codePoint n) := .ite (.pure _) (.throw _)

theorem hexDigits_staysIn (n : Nat) : StaysIn text (hexDigits n) := by
  induction n with
  | zero => exact .pure _
  | succ n ih => exact .bind (need_staysIn _) fun c => .guard fun _ => step_staysIn ih

theorem hexUntilBrace_staysIn (fuel : Nat) : StaysIn text (hexUntilBrace fuel) := by
  induction fuel with
  | zero => exact .throw _
  | succ fuel ih => exact .bind (need_staysIn _) fun c => .ite (.pure _) (.guard fun _ => step_staysIn ih)

theorem hex_staysIn (size : Nat) : StaysIn text (hex size) := by
  refine .bind bumpSkip_staysIn fun _ => .bind (need_staysIn _) fun c => .ite (.bind bumpSkip_staysIn fun _ => ?_) ?_
  · refine .rest_bind fun _ _ => .bind (hexUntilBrace_staysIn _) fun ds => .bind bumpSkip_staysIn fun _ => ?_
    cases Node.digitsValue? 16 ds with
    | some n => exact .bind (codePoint_staysIn n) fun _ => .pure _
    | none => exact .throw _
  · refine .bind (hexDigits_staysIn size) fun ds => ?_
    cases Node.digitsValue? 16 ds with
    | some n => exact .bind (codePoint_staysIn n) fun _ => .pure _
    | none => exact .throw _

theorem untilBrace_staysIn (fuel : Nat) : StaysIn text (untilBrace fuel) := by
  induction fuel with
  | zero => exact .throw _
  | succ fuel ih => exact .bind (need_staysIn _) fun c => .ite (.pure _) (step_staysIn ih)

theorem property_staysIn (negated : Bool) : StaysIn text (property negated) := by
  refine .bind bumpSkip_staysIn fun _ => .bind (need_staysIn _) fun c => .ite ?_ (.ite (.throw _) ?_)
  · exact .bind bumpSkip_staysIn fun _ => .rest_bind fun _ _ => .bind (untilBrace_staysIn _) fun cs =>
      .bind bump_staysIn fun _ => .pure _
  · exact .bind bumpSkip_staysIn fun _ => .pure _

theorem boundaryName_eq (fuel : Nat) : boundaryName fuel = spanning (fun c => c.isAlpha || c == '-') fuel := by
  induction fuel with
  | zero => rfl
  | succ fuel ih =>
    rw [boundaryName,ih]
    rfl

theorem boundaryName_staysIn (fuel : Nat) : StaysIn text (boundaryName fuel) := boundaryName_eq fuel ▸ spanning_staysIn _ fuel

theorem boundary_staysIn : StaysIn text boundary := by
  refine .rest_bind fun before inside => ?_
  dsimp only
  split
  next more =>
    refine .bind bumpSkip_staysIn fun _ => .bind (need_staysIn _) fun c => .ite ?_ ?_
    · exact .bind (goTo_staysIn inside) fun _ => .pure _
    refine .rest_bind fun _ _ => .bind (boundaryName_staysIn _) fun name => .bind peek?_staysIn fun next => ?_
    refine .guard fun _ => .bind bump_staysIn fun _ => ?_
    cases boundaries.lookup (String.ofList name) with
    | some a => exact .pure a
    | none => exact .throw _
  next => exact .pure _

theorem escaped_takes : Takes text escaped := by
  refine .bind bump_takes fun _ => .bind (need_staysIn _) fun c => ?_
  split
  iterate 3 exact .bind (hex_staysIn _) fun _ => .pure _
  iterate 2 exact .bind (property_staysIn _) fun _ => .pure _
  refine .bind bump_staysIn fun _ => .ite (.throw _) ?_
  split
  iterate 14 exact .pure _
  · exact .bind boundary_staysIn fun _ => .pure _
  iterate 3 exact .pure _
  · exact .ite (.pure _) (.throw _)

/-! ## Classes -/

theorem asciiClass?_staysIn : StaysIn text asciiClass? := by
  refine .rest_bind fun cs inside => ?_
  dsimp only
  split
  next more =>
    split
    next after cls closed _ =>
      have name : ':' :: ']' :: after <:+ _ := closed ▸ List.dropWhile_suffix _
      have left := (List.suffix_cons ']' after).trans ((List.suffix_cons ':' _).trans name)
      have left : after <:+ more := by
        split at left
        · exact left.trans (List.suffix_cons _ _)
        · exact left
      have more : more <:+ text := ((List.suffix_cons _ _).trans (List.suffix_cons _ _)).trans inside
      exact .bind (goTo_staysIn (left.trans more)) fun _ => .pure _
    next => exact .pure _
  next => exact .pure _

theorem classItem_staysIn : StaysIn text classItem := by
  refine .bind (need_staysIn _) fun c => ?_
  split
  · exact escaped_takes.staysIn
  · exact .bind bump_staysIn fun _ => .pure _

theorem classOf_staysIn (item : Primitive) : StaysIn text (classOf item) := by
  cases item with
  | assertion a => exact .throw _
  | _ => exact .pure _

theorem literalOf_staysIn (item : Primitive) : StaysIn text (literalOf item) := by
  cases item with
  | literal l => exact .pure l
  | _ => exact .throw _

theorem classRange_staysIn : StaysIn text classRange := by
  refine .bind classItem_staysIn fun first => .bind skip_staysIn fun _ => .bind (need_staysIn _) fun c => ?_
  refine .get_bind fun _ _ => .rest_bind fun _ _ => .ite (classOf_staysIn first) ?_
  refine .bind bumpSkip_staysIn fun _ => .rest_bind fun _ _ => .guard fun _ => .bind classItem_staysIn fun last => ?_
  exact .bind (literalOf_staysIn first) fun a => .bind (literalOf_staysIn last) fun b => .ite (.pure _) (.throw _)

theorem hyphens_staysIn (fuel : Nat) : StaysIn text (hyphens fuel) := by
  induction fuel with
  | zero => exact .throw _
  | succ fuel ih => exact .bind (need_staysIn _) fun c => .ite (step_staysIn ih) (.pure _)

mutual

theorem bracketed_takes (fuel : Nat) : Takes text (bracketed fuel) := by
  cases fuel with
  | zero => exact .throw _
  | succ fuel =>
    unfold bracketed
    refine .bind bumpSkip_takes fun _ => .bind (need_staysIn _) fun c => ?_
    extract_lets andThen
    have more (negated : Bool) : StaysIn text (andThen negated) := by
      refine .rest_bind fun _ _ => .bind (hyphens_staysIn _) fun first => .bind (need_staysIn _) fun c => ?_
      extract_lets andThen
      have more (first : List ClassSet) : StaysIn text (andThen first) :=
        .bind (classBody_staysIn fuel _ _) fun _ => .pure _
      refine .ite ?_ (.bind (.pure _) more)
      exact .bind bumpSkip_staysIn fun _ => .bind (need_staysIn _) fun _ => .bind (.pure _) more
    exact .ite (.bind bumpSkip_staysIn fun _ => .bind (.pure _) more) (.bind (.pure _) more)

theorem classBody_staysIn (fuel : Nat) (pending : Pending) (soFar : List ClassSet) :
    StaysIn text (classBody fuel pending soFar) := by
  cases fuel with
  | zero => exact .throw _
  | succ fuel =>
    unfold classBody
    have operation (op : ClassOp) : StaysIn text (bump >>= fun _ => bump >>= fun _ =>
        classBody fuel (some (combine pending soFar, op)) []) :=
      .bind bump_staysIn fun _ => .bind bump_staysIn fun _ => classBody_staysIn fuel _ _
    refine .bind skip_staysIn fun _ => .bind (need_staysIn _) fun c => .rest_bind fun _ _ => .ite ?_ (.ite ?_ ?_)
    · refine .bind asciiClass?_staysIn fun named => ?_
      cases named with
      | some cls => exact classBody_staysIn fuel _ _
      | none => exact .bind (bracketed_takes fuel).staysIn fun _ => classBody_staysIn fuel _ _
    · exact .bind bump_staysIn fun _ => .pure _
    · exact .ite (operation _) (.ite (operation _) (.ite (operation _)
        (.bind classRange_staysIn fun _ => classBody_staysIn fuel _ _)))

end

/-- What is repeated was read before. -/
theorem repeated_stays {parts : List Syntax} (r : Reader) (last : Syntax × List Syntax) (r' : Reader)
    (ran : (repeated parts).run r = .ok (last, r')) : r' = r := by
  unfold repeated at ran
  split at ran
  all_goals cases ran
  rfl

theorem greed_staysIn : StaysIn text greed :=
  .bind peek?_staysIn fun _ => .ite (.bind bump_staysIn fun _ => .pure _) (.pure _)

theorem operator_takes (least : Nat) (greatest : Option Nat) (parts : List Syntax) :
    Takes text (operator least greatest parts) :=
  .after repeated_stays fun _ => .bind bump_takes fun _ => .bind greed_staysIn fun _ => .pure _

theorem counted_takes (parts : List Syntax) : Takes text (counted parts) := by
  refine .after repeated_stays fun _ => .bind bumpSkip_takes fun _ => .bind (need_staysIn _) fun _ => ?_
  refine .bind decimal_staysIn fun first => ?_
  extract_lets required andThen
  have given : StaysIn text (required first) := by
    cases first with
    | some n => exact .pure n
    | none => exact .throw _
  have more (counts : Nat × Option Nat) : StaysIn text (andThen counts) := by
    refine .bind peek?_staysIn fun _ => .guard fun _ => .bind bumpSkip_staysIn fun _ => .bind greed_staysIn fun _ => ?_
    exact .guard fun _ => .pure _
  refine .bind (need_staysIn _) fun c => .ite ?_ (.bind given fun _ => .bind (.pure _) more)
  refine .bind bumpSkip_staysIn fun _ => .bind (need_staysIn _) fun _ => .ite ?_ ?_
  · exact .bind given fun _ => .bind (.pure _) more
  · exact .bind given fun _ => .bind (count_staysIn _) fun _ => .bind (.pure _) more

theorem primitive_takes : Takes text primitive := by
  refine .after need_stays fun c => ?_
  split
  · refine .bind escaped_takes fun item => ?_
    cases item <;> exact .pure _
  iterate 4 exact .bind bump_takes fun _ => .pure _

end TabCompletion.Pattern.Parse
