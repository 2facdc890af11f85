import TabCompletion.Proofs.Pattern.Beside

/-!
# Every step of the reader agrees

Each step that reads a part of a pattern reads the same where more text follows the pattern. The fuel of the
two readings may differ. Digits and names of boundaries go on as long as there are characters for them, so
they agree where another character of the pattern stops them (`Stops`).
-/
namespace TabCompletion.Pattern.Parse

variable {input : String} {cs ds : List Char} {c : Char} {r s r' s' : Reader} {P Q : List Char → Prop}

/-- Where the first step stops before another character of the pattern, both have the same result and are at
    the same place. -/
def Stops {α : Type} (input : String) (x y : Parse α) : Prop :=
  ∀ r s a r' b s', Beside input r s → x.run r = .ok (a, r') → Before r'.rest → y.run s = .ok (b, s') →
    b = a ∧ Beside input r' s'

/-- A step that has a result only before a character. -/
def Sees {α : Type} (x : Parse α) : Prop := ∀ r a r', x.run r = .ok (a, r') → Before r.rest

section Stops

variable {α β : Type} {x y : Parse α} {f g : α → Parse β}

theorem Agree.stops (agree : Agree input Anywhere x y Q) : Stops input x y := by
  intro r s a r' b s' beside left _ right
  obtain ⟨same,there,-⟩ := agree r s a r' b s' beside trivial left right
  exact ⟨same,there⟩

theorem Agree.bind_stops (first : Agree input Anywhere x y Q) (rest : ∀ a, Stops input (f a) (g a)) :
    Stops input (x >>= f) (y >>= g) := by
  intro r s b r' d s' beside left before right
  obtain ⟨a,m,first',left⟩ := run_bind_eq_ok.mp left
  obtain ⟨a',m',second',right⟩ := run_bind_eq_ok.mp right
  obtain ⟨rfl,beside,-⟩ := first r s a m a' m' beside trivial first' second'
  exact rest _ m m' b r' d s' beside left before right

/-- What comes after the first step leaves an end of what the first step leaves. -/
theorem Stops.bind_stops (first : Stops input x y) (goesOn : ∀ a text, StaysIn text (f a))
    (rest : ∀ a, Stops input (f a) (g a)) : Stops input (x >>= f) (y >>= g) := by
  intro r s b r' d s' beside left before right
  obtain ⟨a,m,first',left⟩ := run_bind_eq_ok.mp left
  obtain ⟨a',m',second',right⟩ := run_bind_eq_ok.mp right
  have before' : Before m.rest := by
    intro empty
    have ends : r'.rest <:+ [] := goesOn a [] m b r' left (empty ▸ List.suffix_refl _)
    exact before (List.suffix_nil.mp ends)
  obtain ⟨rfl,beside⟩ := first r s a m a' m' beside first' before' second'
  exact rest _ m m' b r' d s' beside left before right

theorem Stops.bind (first : Stops input x y) (sees : ∀ a, Sees (f a)) (rest : ∀ a, Agree input Before (f a) (g a) Q) :
    Agree input P (x >>= f) (y >>= g) Q := by
  intro r s b r' d s' beside _ left right
  obtain ⟨a,m,first',left⟩ := run_bind_eq_ok.mp left
  obtain ⟨a',m',second',right⟩ := run_bind_eq_ok.mp right
  have before : Before m.rest := sees a m b r' left
  obtain ⟨rfl,beside⟩ := first r s a m a' m' beside first' before second'
  exact rest _ m m' b r' d s' beside before left right

theorem need_sees (fault : Fault) (f : Char → Parse β) : Sees (need fault >>= f) := by
  rintro ⟨_ | ⟨c,rest⟩,verbose,names⟩ a r' ran
  · cases ran
  · exact List.cons_ne_nil c rest

/-- A closing brace that must be next is next. -/
theorem brace_sees {fault : Fault} {f : PUnit → Parse β} : Sees (peek? >>= fun next =>
    if (next != some '\x7d') = true then (throw fault : Parse PUnit) >>= f else f ⟨⟩) := by
  rintro ⟨_ | ⟨c,rest⟩,verbose,names⟩ a r' ran
  · cases ran
  · exact List.cons_ne_nil c rest

end Stops

theorem spanning_agree {p : Char → Bool} {fuel fuel' : Nat} {as bs : List Char} (beside : Beside input r s)
    (enough : r.rest.length ≤ fuel) (enough' : s.rest.length ≤ fuel') (left : (spanning p fuel).run r = .ok (as, r'))
    (before : Before r'.rest) (right : (spanning p fuel').run s = .ok (bs, s')) : bs = as ∧ Beside input r' s' := by
  induction fuel generalizing fuel' r s as bs with
  | zero =>
    cases left
    exact absurd (List.eq_nil_of_length_eq_zero (Nat.le_zero.mp enough)) before
  | succ fuel ih =>
    obtain ⟨_ | ⟨c,rest⟩,verbose,names⟩ := r
    · cases left
      exact absurd rfl before
    obtain ⟨ds,verbose',names'⟩ := s
    cases beside.rest.of_cons
    cases fuel' with
    | zero => cases enough'
    | succ fuel' =>
      have here : (spanning p (fuel + 1)).run ⟨c :: rest,verbose,names⟩ =
          (if p c then bumpSkip >>= fun _ => spanning p fuel >>= fun more => pure (c :: more) else pure []).run
            ⟨c :: rest,verbose,names⟩ := rfl
      have there : (spanning p (fuel' + 1)).run ⟨c :: (rest ++ ')' :: (escape input).toList),verbose',names'⟩ =
          (if p c then bumpSkip >>= fun _ => spanning p fuel' >>= fun more => pure (c :: more) else pure []).run
            ⟨c :: (rest ++ ')' :: (escape input).toList),verbose',names'⟩ := rfl
      rw [here] at left
      rw [there] at right
      by_cases holds : p c = true
      · rw [if_pos holds,run_bind_eq_ok] at left right
        obtain ⟨_,m,first,left⟩ := left
        obtain ⟨_,m',first',right⟩ := right
        have shorter : m.rest <:+ rest := bumpSkip_takes _ _ m first (List.suffix_refl _)
        have shorter' : m'.rest <:+ rest ++ ')' :: (escape input).toList := bumpSkip_takes _ _ m' first' (List.suffix_refl _)
        obtain ⟨-,beside,-⟩ := bumpSkip_agree _ _ _ m _ m' beside (List.cons_ne_nil c rest) first first'
        obtain ⟨more,_,left,⟨⟩⟩ := run_bind_eq_ok.mp left
        obtain ⟨more',_,right,⟨⟩⟩ := run_bind_eq_ok.mp right
        obtain ⟨rfl,there⟩ := ih beside (Nat.le_trans shorter.length_le (Nat.le_of_succ_le_succ enough))
          (Nat.le_trans shorter'.length_le (Nat.le_of_succ_le_succ enough')) left right
        exact ⟨rfl,there⟩
      · rw [if_neg holds] at left right
        cases left
        cases right
        exact ⟨rfl,beside⟩

theorem spanning_stops (p : Char → Bool) :
    Stops input (rest >>= fun cs => spanning p cs.length) (rest >>= fun cs => spanning p cs.length) :=
  fun _ _ _ _ _ _ beside left before right => spanning_agree beside (Nat.le_refl _) (Nat.le_refl _) left before right

theorem blanks_agree : Agree input P blanks blanks Anywhere :=
  .rest_bind fun _ _ further _ => (goTo_agree (further_dropWhile_isBlank further)).anyAfter

theorem numberOf_agree (digits : List Char) : Agree input P (numberOf digits) (numberOf digits) Anywhere := by
  refine .rest_bind fun cs ds further _ => .bind (goTo_agree (further_dropWhile_isBlank further)) fun _ => ?_
  refine .ite Iff.rfl (fun _ => (Agree.pure _).anyAfter) fun _ => ?_
  cases Node.digitsValue? 10 digits with
  | some n => exact .ite Iff.rfl (fun _ => (Agree.pure _).anyAfter) fun _ => .throw _
  | none => exact .throw _

theorem decimal_stops : Stops input decimal decimal := by
  rw [decimal_eq]
  refine blanks_agree.bind_stops fun _ => ?_
  simp only [digits_eq]
  rw [← bind_assoc]
  exact (spanning_stops Char.isDigit).bind_stops (fun ds _ => numberOf_staysIn ds) fun ds => (numberOf_agree ds).stops

theorem count_stops (fault : Fault) : Stops input (count fault) (count fault) := by
  refine decimal_stops.bind_stops (fun n? text => ?_) fun n? => ?_
  · cases n? with
    | some n => exact .pure n
    | none => exact .throw fault
  · cases n? with
    | some n => exact (Agree.pure n).stops
    | none => exact (Agree.throw (Q:=Anywhere) fault).stops

theorem flags_agree (fuel fuel' : Nat) (cleared dangling : Bool) (soFar : FlagChange) :
    Agree input P (flags fuel cleared dangling soFar) (flags fuel' cleared dangling soFar) Before := by
  induction fuel generalizing fuel' cleared dangling soFar P with
  | zero => exact .throw _
  | succ fuel ih =>
    cases fuel' with
    | zero => exact .throwAfter _
    | succ fuel' =>
      unfold flags
      refine .need_bind fun c => .ite Iff.rfl (fun _ => .ite Iff.rfl (fun _ => .throw _) fun _ => .pure _) fun _ => ?_
      refine .ite Iff.rfl (fun _ => .guard fun _ => .bind bump_agree fun _ => ih _ _ _ _) fun _ => ?_
      cases flag? c with
      | none => exact .throw _
      | some f => exact .guard fun _ => .bind bump_agree fun _ => ih _ _ _ _

theorem takeWhile_append_of_stops {p : Char → Bool} {more : List Char} (stops : cs.drop (cs.takeWhile p).length ≠ []) :
    (cs ++ more).takeWhile p = cs.takeWhile p := by
  rw [List.takeWhile_append,if_neg]
  intro whole
  rw [whole,List.drop_length] at stops
  exact stops rfl

theorem groupName_agree : Agree input P groupName groupName Anywhere := by
  refine .rest_bind fun cs ds further _ => .guard fun valid => ?_
  rw [Bool.or_eq_true,not_or] at valid
  obtain ⟨valid,closed⟩ := valid
  have closed : cs.drop (cs.takeWhile (· != '>')).length ≠ [] := fun empty => closed (List.isEmpty_iff.mpr empty)
  cases further with
  | lost => exact absurd rfl closed
  | same =>
    have name : (cs ++ ')' :: (escape input).toList).takeWhile (· != '>') = cs.takeWhile (· != '>') :=
      takeWhile_append_of_stops closed
    have inside : (cs.takeWhile (· != '>')).length + 1 ≤ cs.length := by
      by_contra beyond
      exact closed (List.drop_eq_nil_of_le (by omega))
    dsimp only
    rw [name]
    refine .get_bind fun r s beside _ => .guard fun _ => .modify fun r s beside _ => ⟨⟨?_,beside.verbose,?_⟩,trivial⟩
    · dsimp only
      rw [List.drop_append_of_le_length inside]
      exact .same _
    · dsimp only
      rw [beside.groupNames]

theorem opening_agree : Agree input Before opening opening Anywhere := by
  refine .bind bump_agree fun _ => .bind skip_agree fun _ => ?_
  refine .bind (take?_agree rfl (by decide)) fun _ => .bind (take?_agree rfl (by decide)) fun _ =>
    .bind (take?_agree rfl (by decide)) fun _ => .bind (take?_agree rfl (by decide)) fun _ => .guard fun _ => ?_
  refine .bind (take?_agree rfl (by decide)) fun _ => .bind (take?_agree rfl (by decide)) fun _ => .ite Iff.rfl ?_ fun _ => ?_
  · exact fun _ => .bind groupName_agree fun _ => .pure _
  refine .bind (take?_agree rfl (by decide)) fun _ => .ite Iff.rfl (fun _ => ?_) fun _ => .pure _
  refine .rest_bind fun cs ds further _ => .guard fun nonempty => ?_
  have before : Before cs := fun empty => nonempty (List.isEmpty_iff.mpr empty)
  refine .here before (.peek?_bind fun c => .rest_bind fun _ _ _ _ => ?_)
  refine .bind (flags_agree _ _ _ _ _) fun change => .need_bind fun last => .bind bump_agree fun _ => ?_
  exact .ite Iff.rfl (fun _ => .guard fun _ => .pure _) fun _ => .pure _

/-! ## Escapes -/

theorem codePoint_agree (n : Nat) : Agree input P (codePoint n) (codePoint n) P :=
  .ite Iff.rfl (fun _ => .pure _) fun _ => .throw _

theorem hexDigits_agree (n : Nat) : Agree input P (hexDigits n) (hexDigits n) Anywhere := by
  induction n generalizing P with
  | zero => exact (Agree.pure []).anyAfter
  | succ n ih => exact .need_bind fun c => .guard fun _ => step_agree ih

theorem hexUntilBrace_agree (fuel fuel' : Nat) : Agree input P (hexUntilBrace fuel) (hexUntilBrace fuel') Before := by
  induction fuel generalizing fuel' P with
  | zero => exact .throw _
  | succ fuel ih =>
    cases fuel' with
    | zero => exact .throwAfter _
    | succ fuel' => exact .need_bind fun c => .ite Iff.rfl (fun _ => .pure _) fun _ => .guard fun _ => step_agree (ih fuel')

theorem hex_agree (size : Nat) : Agree input Before (hex size) (hex size) Anywhere := by
  refine .bind bumpSkip_agree fun _ => .need_bind fun c => .ite Iff.rfl (fun _ => ?_) fun _ => ?_
  · refine .bind bumpSkip_agree fun _ => .rest_bind fun _ _ _ _ => .bind (hexUntilBrace_agree _ _) fun ds => ?_
    refine .bind bumpSkip_agree fun _ => ?_
    cases Node.digitsValue? 16 ds with
    | some n => exact .bind (codePoint_agree n) fun _ => .pure _
    | none => exact .throw _
  · refine .bind (hexDigits_agree size) fun ds => ?_
    cases Node.digitsValue? 16 ds with
    | some n => exact .bind (codePoint_agree n) fun _ => .pure _
    | none => exact .throw _

theorem untilBrace_agree (fuel fuel' : Nat) : Agree input P (untilBrace fuel) (untilBrace fuel') Before := by
  induction fuel generalizing fuel' P with
  | zero => exact .throw _
  | succ fuel ih =>
    cases fuel' with
    | zero => exact .throwAfter _
    | succ fuel' => exact .need_bind fun c => .ite Iff.rfl (fun _ => .pure _) fun _ => step_agree (ih fuel')

theorem property_agree (negated : Bool) : Agree input Before (property negated) (property negated) Anywhere := by
  refine .bind bumpSkip_agree fun _ => .need_bind fun c => .ite Iff.rfl (fun _ => ?_) fun _ => ?_
  · exact .bind bumpSkip_agree fun _ => .rest_bind fun _ _ _ _ => .bind (untilBrace_agree _ _) fun cs =>
      .bind bump_agree fun _ => .pure _
  · exact .ite Iff.rfl (fun _ => .throw _) fun _ => .bind bumpSkip_agree fun _ => .pure _

theorem boundary_agree : Agree input P boundary boundary Anywhere := by
  refine .rest_bind fun cs ds further _ => ?_
  have brace := further.head?_iff (c := '\x7b') (by decide) (by decide) (by decide)
  dsimp only
  split
  next more =>
    cases further.of_cons
    refine .here (P:=Before) (List.cons_ne_nil _ _) (.bind bumpSkip_agree fun _ => .need_bind fun c => ?_)
    refine .ite Iff.rfl (fun _ => .bind (goTo_agree further) fun _ => (Agree.pure _).anyAfter) fun _ => ?_
    simp only [boundaryName_eq]
    rw [← bind_assoc]
    refine (spanning_stops _).bind (fun name => brace_sees) fun name => .peek?_bind fun next => .guard fun _ => ?_
    refine .bind bump_agree fun _ => ?_
    cases boundaries.lookup (String.ofList name) with
    | some a => exact .pure a
    | none => exact .throw _
  next other =>
    split
    next more =>
      obtain ⟨more,same⟩ := List.head?_eq_some_iff.mp (brace.mpr rfl)
      exact absurd same (other more)
    next => exact (Agree.pure _).anyAfter

theorem escaped_agree : Agree input Before escaped escaped Anywhere := by
  refine .bind bump_agree fun _ => .need_bind fun c => ?_
  split
  iterate 3 exact .bind (hex_agree _) fun _ => .pure _
  iterate 2 exact .bind (property_agree _) fun _ => .pure _
  refine .bind bump_agree fun _ => .ite Iff.rfl (fun _ => .throw _) fun _ => ?_
  split
  iterate 14 exact .pure _
  · exact .bind boundary_agree fun _ => .pure _
  iterate 3 exact .pure _
  · exact .ite Iff.rfl (fun _ => .pure _) fun _ => .throw _

/-! ## Classes -/

/-- The hyphen makes a range or not by the same character, or by the parenthesis after the pattern. -/
theorem decider?_closing (verbose : Bool) (cs after : List Char) :
    decider? verbose (cs ++ ')' :: after) = (decider? verbose cs).or (some ')') := by
  have head (cs : List Char) : (cs ++ ')' :: after).head? = cs.head?.or (some ')') := by cases cs <;> rfl
  cases verbose with
  | false => exact head cs
  | true =>
    simp only [decider?,if_true,dropWhile_isBlank_closing]
    cases cs.dropWhile Text.isBlank with
    | nil => rfl
    | cons c rest =>
      by_cases comment : c = '#'
      · subst comment
        simp only [List.cons_append,dropWhile_isBlank_closing,head]
      · have other (rest : List Char) : ∀ more, c :: rest ≠ '#' :: more := fun _ same => comment (List.cons_eq_cons.mp same).1
        rw [List.cons_append]
        split
        next same => exact absurd same (other _ _)
        next =>
          split
          next same => exact absurd same (other _ _)
          next => rfl

/-- A class with a name before a colon and a bracket. -/
def namedClass (negated : Bool) (cs : List Char) : Parse (Option ClassSet) :=
  match cs.dropWhile (· != ':'), AsciiClass.all.find? (·.name == String.ofList (cs.takeWhile (· != ':'))) with
  | ':' :: ']' :: after, some cls => do
    goTo after
    return some (.ascii cls negated)
  | _, _ => return none

/-- The text of a class without the sign that negates it. -/
def unsigned (cs : List Char) : List Char := if cs.head? = some '^' then cs.tail else cs

theorem asciiClass?_eq : asciiClass? = rest >>= fun cs =>
    (Text.dropStart? ['[',':'] cs).elim (pure none) fun more => namedClass (more.head? == some '^') (unsigned more) := by
  refine bind_congr fun cs => ?_
  dsimp only
  cases opening : Text.dropStart? ['[',':'] cs with
  | none =>
    -- The other reading would begin with the two characters.
    split
    next more => cases (Text.dropStart?_append ['[',':'] more).symm.trans opening
    next => rfl
  | some more =>
    obtain rfl := Text.dropStart?_eq_some_iff.mp opening
    cases more with
    | nil => rfl
    | cons c more =>
      by_cases negated : c = '^'
      · subst negated
        rfl
      · have positive : ((c :: more).head? == some '^') = false := by simpa using negated
        have unchanged : unsigned (c :: more) = c :: more := if_neg (by simpa using negated)
        simp only [Option.elim_some,positive,unchanged,List.cons_append,List.nil_append,List.cons.injEq,negated,false_and,
          imp_false,not_false_eq_true,implies_true]
        rfl

theorem span_colon {name : List Char} (free : ':' ∉ name) (more : List Char) :
    (name ++ ':' :: more).takeWhile (· != ':') = name ∧ (name ++ ':' :: more).dropWhile (· != ':') = ':' :: more := by
  have others : ∀ c ∈ name, (c != ':') = true := fun c member => by
    rw [bne_iff_ne]
    rintro rfl
    exact free member
  constructor
  · rw [List.takeWhile_append_of_pos others]
    simp
  · rw [List.dropWhile_append_of_pos others]
    simp

/-- No class has a name with the parenthesis after the pattern. -/
theorem find?_closing {name : List Char} (closing : ')' ∈ name) :
    AsciiClass.all.find? (·.name == String.ofList name) = none := by
  have free : ∀ cls ∈ AsciiClass.all, ')' ∉ cls.name.toList := by decide
  rw [List.find?_eq_none]
  intro cls member same
  have same : cls.name = String.ofList name := beq_iff_eq.mp same
  refine free cls member ?_
  rw [same,String.toList_ofList]
  exact closing

theorem namedClass_eq_none {negated : Bool} (other : ∀ after, cs.dropWhile (· != ':') = ':' :: ']' :: after →
    AsciiClass.all.find? (·.name == String.ofList (cs.takeWhile (· != ':'))) = none) : namedClass negated cs = pure none := by
  unfold namedClass
  split
  next after cls closed found =>
    rw [other _ closed] at found
    cases found
  next => rfl

theorem namedClass_agree (negated : Bool) (cs : List Char) :
    Agree input P (namedClass negated cs) (namedClass negated (cs ++ ')' :: (escape input).toList)) Anywhere := by
  -- It is enough that the first reading takes no class where the second one takes none.
  have neither (other : ∀ after, cs.dropWhile (· != ':') = ':' :: ']' :: after →
        AsciiClass.all.find? (·.name == String.ofList (cs.takeWhile (· != ':'))) = none)
      (other' : ∀ after, (cs ++ ')' :: (escape input).toList).dropWhile (· != ':') = ':' :: ']' :: after →
        AsciiClass.all.find? (·.name == String.ofList ((cs ++ ')' :: (escape input).toList).takeWhile (· != ':'))) = none) :
      Agree input P (namedClass negated cs) (namedClass negated (cs ++ ')' :: (escape input).toList)) Anywhere := by
    rw [namedClass_eq_none other,namedClass_eq_none other']
    exact (Agree.pure none).anyAfter
  by_cases colon : ':' ∈ cs
  · obtain ⟨name,left,rfl,free⟩ := List.eq_append_cons_of_mem colon
    rw [List.append_assoc,List.cons_append] at neither ⊢
    simp only [(span_colon free _).1,(span_colon free _).2,List.cons_eq_cons,true_and] at neither
    cases found : AsciiClass.all.find? (·.name == String.ofList name) with
    | none => exact neither (fun _ _ => found) fun _ _ => found
    | some cls =>
      cases left with
      | nil => exact neither (fun after same => by cases same) fun after same => absurd (List.cons_eq_cons.mp same).1 (by decide)
      | cons c after =>
        by_cases bracket : c = ']'
        · subst bracket
          unfold namedClass
          rw [(span_colon free _).1,(span_colon free _).2,(span_colon free _).1,(span_colon free _).2,found]
          exact .bind (goTo_agree (.same after)) fun _ => (Agree.pure _).anyAfter
        · exact neither (fun _ same => absurd (List.cons_eq_cons.mp same).1 bracket)
            fun _ same => absurd (List.cons_eq_cons.mp same).1 bracket
  · have others : ∀ c ∈ cs, (c != ':') = true := fun c member => by
      rw [bne_iff_ne]
      rintro rfl
      exact colon member
    refine neither (fun after same => ?_) fun after _ => find?_closing ?_
    · rw [← List.append_nil cs,List.dropWhile_append_of_pos others] at same
      cases same
    · rw [List.takeWhile_append_of_pos others]
      exact List.mem_append_right _ List.mem_cons_self

theorem unsigned_closing (cs after : List Char) : unsigned (cs ++ ')' :: after) = unsigned cs ++ ')' :: after := by
  cases cs with
  | nil => rfl
  | cons c cs =>
    unfold unsigned
    rw [List.cons_append,List.head?_cons,List.head?_cons]
    split <;> rfl

theorem asciiClass?_agree : Agree input Before asciiClass? asciiClass? Anywhere := by
  rw [asciiClass?_eq]
  refine .rest_bind fun cs ds further before => ?_
  obtain ⟨c,rest,rfl⟩ := List.exists_cons_of_ne_nil before
  cases further.of_cons
  rw [← List.cons_append,dropStart?_closing (by decide)]
  cases Text.dropStart? ['[',':'] (c :: rest) with
  | none => exact (Agree.pure none).anyAfter
  | some more =>
    have sign : ((more ++ ')' :: (escape input).toList).head? == some '^') = (more.head? == some '^') := by
      cases more <;> rfl
    simp only [Option.map_some,Option.elim_some,sign,unsigned_closing]
    exact namedClass_agree _ _

theorem asciiClass?_stays {r r' : Reader} (ran : asciiClass?.run r = .ok (none, r')) : r' = r := by
  rw [asciiClass?_eq] at ran
  obtain ⟨_,_,⟨⟩,ran⟩ := run_bind_eq_ok.mp ran
  cases opening : Text.dropStart? ['[',':'] r.rest with
  | none =>
    rw [opening] at ran
    cases ran
    rfl
  | some more =>
    rw [opening] at ran
    simp only [Option.elim_some,namedClass] at ran
    split at ran
    next => cases ran
    next => cases ran; rfl

/-- Where there is no class with a name, nothing was taken. -/
theorem asciiClass?_bind {α : Type} {f g : Option ClassSet → Parse α}
    (found : ∀ cls, Agree input Anywhere (f (some cls)) (g (some cls)) Q)
    (absent : Agree input Before (f none) (g none) Q) : Agree input Before (asciiClass? >>= f) (asciiClass? >>= g) Q := by
  intro r s b r' d s' beside here left right
  obtain ⟨named,m,first,left⟩ := run_bind_eq_ok.mp left
  obtain ⟨named',m',first',right⟩ := run_bind_eq_ok.mp right
  obtain ⟨rfl,there,-⟩ := asciiClass?_agree r s named m named' m' beside here first first'
  cases named' with
  | some cls => exact found cls m m' b r' d s' there trivial left right
  | none => exact absent m m' b r' d s' there (asciiClass?_stays first ▸ here) left right

theorem classItem_agree : Agree input P classItem classItem Anywhere := by
  refine .need_bind fun c => ?_
  split
  · exact escaped_agree
  · exact .bind bump_agree fun _ => .pure _

theorem classOf_agree (item : Primitive) : Agree input P (classOf item) (classOf item) P := by
  cases item with
  | assertion a => exact .throw _
  | _ => exact .pure _

theorem literalOf_agree (item : Primitive) : Agree input P (literalOf item) (literalOf item) P := by
  cases item with
  | literal l => exact .pure l
  | _ => exact .throw _

theorem classRange_agree : Agree input P classRange classRange Anywhere := by
  refine .bind classItem_agree fun first => .bind skip_agree fun _ => .need_bind fun c => ?_
  refine .get_bind fun r s beside before => .rest_bind fun cs ds further same => ?_
  have before : Before cs := same ▸ before
  obtain ⟨d,rest,rfl⟩ := List.exists_cons_of_ne_nil before
  have tail : decider? s.verbose ds.tail = (decider? r.verbose rest).or (some ')') := by
    rw [further.of_cons,beside.verbose]
    exact decider?_closing _ _ _
  have decides (c : Char) (other : c ≠ ')') : (decider? r.verbose rest == some c) = (decider? s.verbose ds.tail == some c) := by
    rw [tail]
    cases decider? r.verbose rest with
    | none => simp [Ne.symm other]
    | some d => rfl
  refine .here before (.ite ?_ (fun _ => (classOf_agree first).anyAfter) fun _ => ?_)
  · rw [List.tail_cons,decides ']' (by decide),decides '-' (by decide)]
  refine .bind bumpSkip_agree fun _ => .rest_bind fun _ _ _ _ => .guard fun _ => .bind classItem_agree fun last => ?_
  refine .bind (literalOf_agree first) fun a => .bind (literalOf_agree last) fun b => ?_
  exact .ite Iff.rfl (fun _ => .pure _) fun _ => .throw _

theorem hyphens_agree (fuel fuel' : Nat) : Agree input P (hyphens fuel) (hyphens fuel') Anywhere := by
  induction fuel generalizing fuel' P with
  | zero => exact .throw _
  | succ fuel ih =>
    cases fuel' with
    | zero => exact .throwAfter _
    | succ fuel' => exact .need_bind fun c => .ite Iff.rfl (fun _ => step_agree (ih fuel')) fun _ => (Agree.pure _).anyAfter

mutual

theorem bracketed_agree (fuel fuel' : Nat) : Agree input Before (bracketed fuel) (bracketed fuel') Anywhere := by
  cases fuel with
  | zero => exact .throw _
  | succ fuel =>
    cases fuel' with
    | zero => exact .throwAfter _
    | succ fuel' =>
      unfold bracketed
      refine .bind bumpSkip_agree fun _ => .need_bind fun c => ?_
      extract_lets andThen andThen'
      have more (negated : Bool) : Agree input Anywhere (andThen negated) (andThen' negated) Anywhere := by
        refine .rest_bind fun _ _ _ _ => .bind (hyphens_agree _ _) fun first => .need_bind fun c => ?_
        extract_lets andThen andThen'
        have more (first : List ClassSet) : Agree input Anywhere (andThen first) (andThen' first) Anywhere :=
          .bind (classBody_agree fuel fuel' _ _) fun _ => .pure _
        refine .ite Iff.rfl (fun _ => ?_) fun _ => .bind (Agree.pure _).anyAfter more
        exact .bind bumpSkip_agree fun _ => .need_bind fun _ => .bind (Agree.pure _).anyAfter more
      exact .ite Iff.rfl (fun _ => .bind bumpSkip_agree fun _ => .bind (.pure _) more) fun _ => .bind (Agree.pure _).anyAfter more

theorem classBody_agree (fuel fuel' : Nat) (pending : Pending) (soFar : List ClassSet) :
    Agree input Anywhere (classBody fuel pending soFar) (classBody fuel' pending soFar) Anywhere := by
  cases fuel with
  | zero => exact .throw _
  | succ fuel =>
    cases fuel' with
    | zero => exact .throwAfter _
    | succ fuel' =>
      unfold classBody
      refine .bind skip_agree fun _ => .need_bind fun c => .rest_bind fun cs ds further before => ?_
      obtain ⟨b,rest,rfl⟩ := List.exists_cons_of_ne_nil before
      cases further.of_cons
      have next (sign : Char) (other : sign ≠ ')') : (rest.head? == some sign) =
          ((rest ++ ')' :: (escape input).toList).head? == some sign) := by
        cases rest with
        | nil => simp [Ne.symm other]
        | cons d rest => rfl
      have operation {sign : Char} (op : ClassOp) (signs : (c == sign && rest.head? == some sign) = true) :
          Agree input (· = b :: rest) (bump >>= fun _ => bump >>= fun _ => classBody fuel (some (combine pending soFar, op)) [])
            (bump >>= fun _ => bump >>= fun _ => classBody fuel' (some (combine pending soFar, op)) []) Anywhere := by
        have two : Before rest := by
          rintro rfl
          simp at signs
        refine .bind (R:=Before) (.here ⟨before,two⟩ bump_agree_tail) fun _ => ?_
        exact .bind bump_agree fun _ => classBody_agree fuel fuel' _ _
      refine .ite Iff.rfl (fun _ => ?_) fun _ => .ite Iff.rfl (fun _ => ?_) fun _ => ?_
      · exact .here before (asciiClass?_bind (fun cls => classBody_agree fuel fuel' _ _)
          (.bind (bracketed_agree fuel fuel') fun _ => classBody_agree fuel fuel' _ _))
      · exact .here before (.bind bump_agree fun _ => .pure _)
      refine .ite (by rw [List.tail_cons,next '&' (by decide)]; rfl) (operation _) fun _ => ?_
      refine .ite (by rw [List.tail_cons,next '-' (by decide)]; rfl) (operation _) fun _ => ?_
      refine .ite (by rw [List.tail_cons,next '~' (by decide)]; rfl) (operation _) fun _ => ?_
      exact .here before (.bind classRange_agree fun _ => classBody_agree fuel fuel' _ _)

end

theorem repeated_agree (parts : List Syntax) : Agree input P (repeated parts) (repeated parts) P := by
  unfold repeated
  split
  · exact .throw _
  · exact .throw _
  · exact .pure _
  · exact .throw _

theorem greed_agree : Agree input P greed greed Anywhere := by
  unfold greed peek?
  simp only [bind_assoc,pure_bind]
  refine .rest_bind fun cs ds further _ => .ite ?_ (fun sign => ?_) fun _ => (Agree.pure true).anyAfter
  · rw [beq_iff_eq,beq_iff_eq]
    exact further.head?_iff (by decide) (by decide) (by decide)
  · have before : Before cs := by
      rintro rfl
      cases sign
    exact .here before (.bind bump_agree fun _ => .pure false)

theorem operator_agree (least : Nat) (greatest : Option Nat) (parts : List Syntax) :
    Agree input Before (operator least greatest parts) (operator least greatest parts) Anywhere :=
  .bind (repeated_agree parts) fun _ => .bind bump_agree fun _ => .bind greed_agree fun _ => .pure _

theorem counted_agree (parts : List Syntax) : Agree input Before (counted parts) (counted parts) Anywhere := by
  refine .bind (repeated_agree parts) fun _ => .bind bumpSkip_agree fun _ => .need_bind fun _ => ?_
  refine decimal_stops.bind (fun first => need_sees _ _) fun first => ?_
  extract_lets required andThen
  have given : Agree input Before (required first) (required first) Before := by
    cases first with
    | some n => exact .pure n
    | none => exact .throw _
  have more (counts : Nat × Option Nat) : Agree input Before (andThen counts) (andThen counts) Anywhere := by
    refine .peek?_bind fun _ => .guard fun _ => .bind bumpSkip_agree fun _ => .bind greed_agree fun _ => ?_
    exact .guard fun _ => .pure _
  refine .need_bind fun c => .ite Iff.rfl (fun _ => ?_) fun _ => .bind given fun _ => .bind (.pure _) more
  refine .bind bumpSkip_agree fun _ => .need_bind fun _ => .ite Iff.rfl (fun _ => ?_) fun _ => ?_
  · exact .bind given fun _ => .bind (.pure _) more
  · exact .bind given fun _ => (count_stops _).bind (fun _ => by rw [pure_bind]; exact brace_sees) fun _ => .bind (.pure _) more

theorem primitive_agree : Agree input P primitive primitive Anywhere := by
  refine .need_bind fun c => ?_
  split
  · refine .bind escaped_agree fun item => ?_
    cases item <;> exact .pure _
  iterate 4 exact .bind bump_agree fun _ => .pure _

end TabCompletion.Pattern.Parse
