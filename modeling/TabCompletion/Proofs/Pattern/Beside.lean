import TabCompletion.Proofs.Pattern.Reader

/-!
# The same pattern before more text

A pattern is read alone, and with a closing parenthesis and an input after it. As long as both readings
succeed they read the same, at the same place of the pattern (`Agree`). Only an open comment can make the
second one go on where the first one is at its end, and then it is between characters of the input
(`Further.lost`).
-/
namespace TabCompletion.Pattern.Parse

/-- What is left of a pattern alone, and with a closing parenthesis and the input after it. -/
inductive Further (input : String) : List Char → List Char → Prop where
  | same (cs : List Char) : Further input cs (cs ++ ')' :: (escape input).toList)
  /-- A comment at the end of the pattern has hidden the parenthesis. -/
  | lost {source text : List Char} (written : Written source text) : Further input [] source

/-- Two readers at the same place of the pattern. -/
structure Beside (input : String) (r s : Reader) : Prop where
  rest : Further input r.rest s.rest
  verbose : s.verbose = r.verbose
  groupNames : s.groupNames = r.groupNames

variable {input : String} {cs ds : List Char} {c : Char} {r s r' s' : Reader}

theorem Further.of_cons (further : Further input (c :: cs) ds) : ds = c :: (cs ++ ')' :: (escape input).toList) := by
  cases further
  rfl

/-- A sign that is neither the parenthesis nor the mark of an escape is next in both texts or in neither. -/
theorem Further.head?_iff (further : Further input cs ds) (special : c ∈ metaCharacters) (other : c ≠ ')') (bare : c ≠ '\\') :
    cs.head? = some c ↔ ds.head? = some c := by
  cases further with
  | same =>
    cases cs with
    | nil => simp [Ne.symm other]
    | cons d rest => rfl
  | lost written =>
    cases written with
    | nil => rfl
    | plain plain rest =>
      refine iff_of_false nofun fun next => ?_
      cases next
      exact plain special
    | escaped escaped rest => simp [Ne.symm bare]

theorem written_skipFrom {source text : List Char} (written : Written source text) (inComment : Bool) :
    ∃ text', Written (skipFrom inComment source) text' := by
  induction written generalizing inComment with
  | nil => exact ⟨[],.nil⟩
  | @plain c source text plain rest ih =>
    rw [skipFrom]
    split
    · exact ih _
    split
    · exact ih _
    split
    next sign => exact absurd (beq_iff_eq.mp sign ▸ by decide) plain
    · exact ⟨_,.plain plain rest⟩
  | @escaped c source text special rest ih =>
    cases inComment with
    | true =>
      have inLine : (c != '\n') = true := by
        rw [bne_iff_ne]
        rintro rfl
        exact absurd special (by decide)
      have skipped : skipFrom true ('\\' :: c :: source) = skipFrom (c != '\n') source := rfl
      rw [skipped,inLine]
      exact ih true
    | false => exact ⟨_,.escaped special rest⟩

theorem further_skipFrom (further : Further input cs ds) : Further input (skipFrom false cs) (skipFrom false ds) := by
  cases further with
  | lost written =>
    obtain ⟨text,written⟩ := written_skipFrom written false
    exact .lost written
  | same =>
    have both (inComment : Bool) :
        Further input (skipFrom inComment cs) (skipFrom inComment (cs ++ ')' :: (escape input).toList)) := by
      induction cs generalizing inComment with
      | nil =>
        cases inComment with
        | false => exact .same []
        | true =>
          obtain ⟨text,written⟩ := written_skipFrom (written_escape input) true
          rw [List.nil_append,skipFrom,skipFrom,if_pos rfl,show (')' != '\n') = true by decide]
          exact .lost written
      | cons c rest ih =>
        rw [List.cons_append,skipFrom,skipFrom]
        split
        · exact ih _
        split
        · exact ih _
        split
        · exact ih _
        · exact .same (c :: rest)
    exact both false

/-- The parenthesis is not blank. -/
theorem dropWhile_isBlank_closing (cs after : List Char) :
    (cs ++ ')' :: after).dropWhile Text.isBlank = cs.dropWhile Text.isBlank ++ ')' :: after := by
  induction cs with
  | nil => rfl
  | cons c rest ih =>
    rw [List.cons_append,List.dropWhile_cons,List.dropWhile_cons]
    split
    · exact ih
    · rfl

theorem further_dropWhile_isBlank (further : Further input cs ds) :
    Further input (cs.dropWhile Text.isBlank) (ds.dropWhile Text.isBlank) := by
  cases further with
  | same =>
    rw [dropWhile_isBlank_closing]
    exact .same _
  | lost written =>
    induction written with
    | nil => exact .lost .nil
    | plain plain rest ih =>
      rw [List.dropWhile_cons]
      split
      · exact ih
      · exact .lost (.plain plain rest)
    | escaped special rest => exact .lost (.escaped special rest)

/-! ## Steps that agree -/

/-- Where both steps succeed from the same place with `P`, they have the same result and are at the same place
    with `Q`. -/
def Agree {α : Type} (input : String) (P : List Char → Prop) (x y : Parse α) (Q : List Char → Prop) : Prop :=
  ∀ r s a r' b s', Beside input r s → P r.rest → x.run r = .ok (a, r') → y.run s = .ok (b, s') →
    b = a ∧ Beside input r' s' ∧ Q r'.rest

/-- Any place. -/
def Anywhere (_ : List Char) : Prop := True

/-- A place before a character of the pattern. -/
def Before (cs : List Char) : Prop := cs ≠ []

namespace Agree

variable {α β : Type} {P P' Q Q' R : List Char → Prop} {x y : Parse α} {f g : α → Parse β}

theorem weaken (agree : Agree input P' x y Q') (before : ∀ cs, P cs → P' cs) (after : ∀ cs, Q' cs → Q cs) :
    Agree input P x y Q := by
  intro r s a r' b s' beside here left right
  obtain ⟨same,there,after'⟩ := agree r s a r' b s' beside (before _ here) left right
  exact ⟨same,there,after _ after'⟩

theorem anyAfter (agree : Agree input P x y Q) : Agree input P x y Anywhere :=
  agree.weaken (fun _ before => before) fun _ _ => trivial

/-- Where the text is looked at before it is read, what holds of it is known. -/
theorem here (before : P cs) (agree : Agree input P x y Q) : Agree input (· = cs) x y Q :=
  agree.weaken (fun _ same => same ▸ before) fun _ after => after

theorem pure (a : α) : Agree input P (Pure.pure a) (Pure.pure a) P := by
  rintro r s _ _ _ _ beside here ⟨⟩ ⟨⟩
  exact ⟨rfl,beside,here⟩

theorem throw (fault : Fault) : Agree input P (MonadExcept.throw fault : Parse α) y Q := nofun

theorem throwAfter (fault : Fault) : Agree input P x (MonadExcept.throw fault : Parse α) Q := nofun

theorem bind (first : Agree input P x y R) (rest : ∀ a, Agree input R (f a) (g a) Q) :
    Agree input P (x >>= f) (y >>= g) Q := by
  intro r s b r' d s' beside here left right
  obtain ⟨a,m,first',left⟩ := run_bind_eq_ok.mp left
  obtain ⟨a',m',second',right⟩ := run_bind_eq_ok.mp right
  obtain ⟨rfl,beside,here⟩ := first r s a m a' m' beside here first' second'
  exact rest _ m m' b r' d s' beside here left right

theorem modify {f g : Reader → Reader}
    (goesOn : ∀ r s, Beside input r s → P r.rest → Beside input (f r) (g s) ∧ Q (f r).rest) :
    Agree input P (modify f : Parse PUnit) (modify g) Q := by
  rintro r s _ _ _ _ beside here ⟨⟩ ⟨⟩
  exact ⟨rfl,goesOn r s beside here⟩

theorem get_bind {f g : Reader → Parse β}
    (more : ∀ r s, Beside input r s → P r.rest → Agree input (· = r.rest) (f r) (g s) Q) :
    Agree input P (get >>= f) (get >>= g) Q :=
  fun r s b r' d s' beside here left right => more r s beside here r s b r' d s' beside rfl left right

theorem rest_bind {f g : List Char → Parse β}
    (more : ∀ cs ds, Further input cs ds → P cs → Agree input (· = cs) (f cs) (g ds) Q) :
    Agree input P (rest >>= f) (rest >>= g) Q :=
  fun r s b r' d s' beside here left right => more r.rest s.rest beside.rest here r s b r' d s' beside rfl left right

/-- The next character is the same where there is one. -/
theorem peek?_bind {f g : Option Char → Parse β} (more : ∀ c, Agree input Before (f (some c)) (g (some c)) Q) :
    Agree input Before (peek? >>= f) (peek? >>= g) Q := by
  rintro ⟨_ | ⟨c,rest⟩,verbose,names⟩ ⟨ds,verbose',names'⟩ b r' d s' beside here left right
  · exact absurd rfl here
  · cases beside.rest.of_cons
    exact more c _ _ b r' d s' beside here left right

/-- What needs a next character needs the same one. -/
theorem need_bind {fault : Fault} {f g : Char → Parse β} (more : ∀ c, Agree input Before (f c) (g c) Q) :
    Agree input P (need fault >>= f) (need fault >>= g) Q := by
  rintro ⟨_ | ⟨c,rest⟩,verbose,names⟩ ⟨ds,verbose',names'⟩ b r' d s' beside here left right
  · cases left
  · cases beside.rest.of_cons
    exact more c _ _ b r' d s' beside (List.cons_ne_nil c rest) left right

theorem ite {c d : Prop} [Decidable c] [Decidable d] {x x' y y' : Parse α} (same : c ↔ d) (yes : c → Agree input P x y Q)
    (no : ¬c → Agree input P x' y' Q) : Agree input P (if c then x else x') (if d then y else y') Q := by
  by_cases holds : c
  · rw [if_pos holds,if_pos (same.mp holds)]
    exact yes holds
  · rw [if_neg holds,if_neg fun other => holds (same.mpr other)]
    exact no holds

/-- A check before what comes next; both readings pass it. -/
theorem guard {c d : Prop} [Decidable c] [Decidable d] {fault : Fault} {next next' : PUnit → Parse β}
    (more : ¬c → Agree input P (next ⟨⟩) (next' ⟨⟩) Q) :
    Agree input P (if c then (MonadExcept.throw fault : Parse PUnit) >>= next else next ⟨⟩)
      (if d then (MonadExcept.throw fault : Parse PUnit) >>= next' else next' ⟨⟩) Q := by
  intro r s b r' e s' beside here left right
  by_cases failed : c
  · rw [if_pos failed] at left
    cases left
  by_cases failed' : d
  · rw [if_pos failed'] at right
    cases right
  rw [if_neg failed] at left
  rw [if_neg failed'] at right
  exact more failed r s b r' e s' beside here left right

end Agree

variable {P Q : List Char → Prop}

theorem goTo_agree (further : Further input cs ds) : Agree input P (goTo cs) (goTo ds) (· = cs) :=
  .modify fun _ _ beside _ => ⟨⟨further,beside.verbose,beside.groupNames⟩,rfl⟩

theorem bump_agree_tail : Agree input (fun cs => Before cs ∧ P cs.tail) bump bump P := by
  refine .modify fun r s beside here => ⟨⟨?_,beside.verbose,beside.groupNames⟩,here.2⟩
  obtain ⟨c,rest,left⟩ := List.exists_cons_of_ne_nil here.1
  have further := beside.rest
  rw [left] at further ⊢
  rw [further.of_cons]
  exact .same rest

theorem bump_agree : Agree input Before bump bump Anywhere :=
  bump_agree_tail.weaken (fun _ before => ⟨before,trivial⟩) fun _ after => after

theorem skip_agree : Agree input P skip skip Anywhere := by
  refine .modify fun r s beside _ => ⟨?_,trivial⟩
  obtain ⟨cs,verbose,names⟩ := r
  obtain ⟨ds,_,_⟩ := s
  obtain ⟨further,rfl,rfl⟩ := beside
  dsimp only
  split
  · exact ⟨further_skipFrom further,rfl,rfl⟩
  · exact ⟨further,rfl,rfl⟩

theorem bumpSkip_agree : Agree input Before bumpSkip bumpSkip Anywhere := .bind bump_agree fun _ => skip_agree

/-- Takes a character and goes on. -/
theorem step_agree {α β : Type} {x y : Parse β} {f : β → α} (agree : Agree input Anywhere x y Q) :
    Agree input Before (bumpSkip >>= fun _ => x >>= fun a => pure (f a)) (bumpSkip >>= fun _ => y >>= fun a => pure (f a)) Q :=
  .bind bumpSkip_agree fun _ => .bind agree fun a => .pure (f a)

theorem dropStart?_closing {start after : List Char} (plain : ')' ∉ start) (cs : List Char) :
    Text.dropStart? start (cs ++ ')' :: after) = (Text.dropStart? start cs).map (· ++ ')' :: after) := by
  induction start generalizing cs with
  | nil => rfl
  | cons c start ih =>
    obtain ⟨other,others⟩ := not_or.mp (mt List.mem_cons.mpr plain)
    cases cs with
    | nil => simp [Text.dropStart?,Ne.symm other]
    | cons d rest =>
      simp only [List.cons_append,Text.dropStart?]
      split
      · exact ih others rest
      · rfl

/-- A text that begins with a question mark is next in both readings or in neither. -/
theorem take?_agree {text : String} {start : List Char} (sign : text.toList = '?' :: start) (plain : ')' ∉ start) :
    Agree input P (take? text) (take? text) Anywhere := by
  refine .rest_bind fun cs ds further _ => ?_
  rw [sign]
  cases further with
  | same =>
    rw [dropStart?_closing (mt List.mem_cons.mp (not_or.mpr ⟨by decide,plain⟩))]
    cases Text.dropStart? ('?' :: start) cs with
    | some left => exact .bind (goTo_agree (.same left)) fun _ => (Agree.pure true).anyAfter
    | none => exact (Agree.pure false).anyAfter
  | lost written =>
    -- Between characters of the input there is no question mark without its escape.
    have further : Further input [] ds := .lost written
    have other : ¬ds.head? = some '?' := mt (further.head?_iff (by decide) (by decide) (by decide)).mpr nofun
    have absent : Text.dropStart? ('?' :: start) ds = none := by
      cases ds with
      | nil => rfl
      | cons c rest =>
        have different : '?' ≠ c := fun same => other (congrArg some same.symm)
        simp [Text.dropStart?,different]
    rw [absent]
    exact (Agree.pure false).anyAfter

end TabCompletion.Pattern.Parse
