import TabCompletion.Proofs.Pattern.Agreement
import TabCompletion.Proofs.Pattern.Leading
import TabCompletion.Proofs.Pattern.Texts

/-!
# A pattern in a group before an input

A pattern that can be read alone says the same in a group, and the input after the group is read character
by character (`parse_grouped`). So the two are found only where the input is (`infix_of_grouped`).
-/
namespace TabCompletion.Pattern.Parse

variable {input : String} {fuel fuel' : Nat} {inGroup : Bool} {before parts : List Syntax} {r s r' s' : Reader}
  {t t' : Syntax} {c : Char}

/-- At a character of the pattern both readings make the same move. -/
theorem moveAt_agree (parts : List Syntax) (c : Char) :
    Agree input Before (moveAt inGroup parts (some c)) (moveAt true parts (some c)) Anywhere := by
  unfold moveAt
  split
  next atEnd => cases atEnd
  next =>
    cases inGroup with
    | true => exact .bind bump_agree fun _ => .pure _
    | false => exact .throw _
  next => exact .bind bump_agree fun _ => .pure _
  next =>
    refine .bind opening_agree fun o => ?_
    cases o with
    | change change =>
      dsimp only
      cases change.lookup .ignoreWhitespace with
      | some v => exact .bind (.modify fun _ _ beside _ => ⟨⟨beside.rest,rfl,beside.groupNames⟩,trivial⟩) fun _ => .pure _
      | none => exact .pure _
    | group captures change =>
      refine .get_bind fun r s beside _ => ?_
      rw [beside.verbose]
      exact .bind (.modify fun _ _ beside _ => ⟨⟨beside.rest,rfl,beside.groupNames⟩,trivial⟩) fun _ => .pure _
  next =>
    refine .rest_bind fun _ _ _ before => ?_
    exact .here before (.bind (bracketed_agree _ _) fun _ => .pure _)
  next => exact .bind (operator_agree _ _ _) fun _ => .pure _
  next => exact .bind (operator_agree _ _ _) fun _ => .pure _
  next => exact .bind (operator_agree _ _ _) fun _ => .pure _
  next => exact .bind (counted_agree _) fun _ => .pure _
  next => exact .bind primitive_agree fun _ => .pure _

/-- Only a parenthesis ends a group before the end of the text. -/
theorem moveAt_finish (other : c ≠ ')') : Yields (· ≠ .finish) (moveAt inGroup parts (some c)) := by
  unfold moveAt
  split
  next atEnd => cases atEnd
  next closing => exact absurd (Option.some.inj closing) other
  next => exact .after fun _ => .pure nofun
  next =>
    refine .after fun o => ?_
    cases o with
    | change change =>
      dsimp only
      cases change.lookup .ignoreWhitespace
      · exact .pure nofun
      · exact .after fun _ => .pure nofun
    | group captures change => exact .after fun _ => .after fun _ => .pure nofun
  next => exact .after fun _ => .after fun _ => .pure nofun
  all_goals exact .after fun _ => .pure nofun

/-- Between characters of the input a move reads one more of them. -/
theorem move_written {source text : List Char} {m : Move} (written : Written source text) (here : r.rest = source)
    (moved : (moveAt true parts source.head?).run r = .ok (m, r')) :
    (∃ part, m = .parts (part :: parts)) ∧ ∃ text', Written r'.rest text' := by
  obtain ⟨_,verbose,names⟩ := r
  cases here
  cases written with
  | nil => cases moved
  | @plain c source text plain rest =>
    have read : (moveAt true parts (some c)).run ⟨c :: source,verbose,names⟩ =
        .ok (.parts (.literal ⟨c,false⟩ :: parts), ⟨source,verbose,names⟩) := by
      unfold moveAt
      split
      case h_10 => rw [StateT.run_bind,primitive_plain plain]; rfl
      all_goals rename_i same; cases same
      all_goals exact absurd (by decide) plain
    cases read.symm.trans moved
    exact ⟨⟨_,rfl⟩,_,rest⟩
  | @escaped c source text special rest =>
    have read : (moveAt true parts (some '\\')).run ⟨'\\' :: c :: source,verbose,names⟩ =
        .ok (.parts (.literal ⟨c,false⟩ :: parts), ⟨source,verbose,names⟩) := by
      show (primitive >>= _).run _ = _
      rw [StateT.run_bind,primitive_escaped special]
      rfl
    cases read.symm.trans moved
    exact ⟨⟨_,rfl⟩,_,rest⟩

/-- A group whose parenthesis was lost is not closed: every parenthesis of the input has an escape. -/
theorem body_lost (written : ∃ text, Written r.rest text) : (body fuel true before parts).run r ≠ .ok (t, r') := by
  induction fuel generalizing r parts with
  | zero => nofun
  | succ fuel ih =>
    intro read
    obtain ⟨m,there,moved,read⟩ := body_succ_eq_ok.mp read
    obtain ⟨here,skipped,moved⟩ := move_eq_ok.mp moved
    have skips : ∃ text, Written here.rest text := by
      obtain ⟨text,written⟩ := written
      cases skipped
      dsimp only
      split
      · exact written_skipFrom written false
      · exact ⟨text,written⟩
    obtain ⟨text,written⟩ := skips
    obtain ⟨⟨part,rfl⟩,written⟩ := move_written written rfl moved
    exact ih written read

/-! ## The pattern in the group -/

/-- Where the pattern alone ends, the group is closed right there: its parenthesis cannot have been lost. -/
theorem closes_at_end {m : Move} (further : Further input [] s.rest)
    (moved : (moveAt true parts s.rest.head?).run s = .ok (m, r))
    (read : (follow fuel true before parts m).run r = .ok (t, r')) :
    t = alternationOf before parts ∧ r'.rest = (escape input).toList := by
  obtain ⟨ds,verbose,names⟩ := s
  have further : Further input [] ds := further
  cases further with
  | same =>
    generalize (escape input).toList = spelling at moved ⊢
    cases moved
    cases read
    exact ⟨rfl,rfl⟩
  | lost written =>
    obtain ⟨⟨part,rfl⟩,written⟩ := move_written written rfl moved
    exact absurd read (body_lost written)

/-- Both readings of the pattern read the same. The one in the group ends after the parenthesis, where the other
    one is at the end of the text. -/
theorem body_agree (beside : Beside input r s) (left : (body fuel inGroup before parts).run r = .ok (t, r'))
    (right : (body fuel' true before parts).run s = .ok (t', s')) :
    t' = t ∧ if inGroup then Beside input r' s' else s'.rest = (escape input).toList := by
  induction fuel generalizing fuel' inGroup before parts r s t t' r' s' with
  | zero => cases left
  | succ fuel ih =>
    cases fuel' with
    | zero => cases right
    | succ fuel' =>
    obtain ⟨m,there,moved,left⟩ := body_succ_eq_ok.mp left
    obtain ⟨m',there',moved',right⟩ := body_succ_eq_ok.mp right
    obtain ⟨here,skipped,moved⟩ := move_eq_ok.mp moved
    obtain ⟨here',skipped',moved'⟩ := move_eq_ok.mp moved'
    obtain ⟨-,beside,-⟩ := skip_agree (P:=Anywhere) r s _ here _ here' beside trivial skipped skipped'
    cases ended : here.rest with
    | nil =>
      have further := beside.rest
      rw [ended] at further moved
      cases inGroup with
      | true => cases moved
      | false =>
        cases moved
        cases left
        exact closes_at_end further moved' right
    | cons c rest =>
      have head : here'.rest.head? = some c := by
        have further := beside.rest
        rw [ended] at further
        rw [further.of_cons]
        rfl
      rw [ended,List.head?_cons] at moved
      rw [head] at moved'
      have before : Before here.rest := by
        rw [ended]
        exact List.cons_ne_nil c rest
      obtain ⟨rfl,beside,-⟩ := moveAt_agree parts c here here' m there _ there' beside before moved moved'
      cases m' with
      | finish =>
        have closing : c = ')' := by_contra fun other => moveAt_finish other here _ there moved rfl
        subst closing
        cases inGroup with
        | false => cases moved
        | true =>
          cases left
          cases right
          exact ⟨rfl,beside⟩
      | next => exact ih beside left right
      | parts parts => exact ih beside left right
      | inside captures change outer =>
        obtain ⟨inner,after,within,left⟩ := follow_inside_eq_ok.mp left
        obtain ⟨inner',after',within',right⟩ := follow_inside_eq_ok.mp right
        obtain ⟨rfl,beside⟩ := ih beside within within'
        have beside : Beside input after after' := beside
        exact ih (r:={ after with verbose := outer }) (s:={ after' with verbose := outer })
          ⟨beside.rest,rfl,beside.groupNames⟩ left right

end TabCompletion.Pattern.Parse

namespace TabCompletion.Pattern

open Parse

variable {source input : String} {t t' : Syntax}

/-- A pattern that can be read alone is read as one part in a group, and then the characters of the input are. -/
theorem parse_grouped (alone : parse source = .ok t) (grouped : parse ("(?:" ++ source ++ ")" ++ escape input) = .ok t') :
    t' = concatOf (.group false [] t :: literals input.toList).reverse := by
  obtain ⟨⟨left,read⟩,-⟩ := parse_eq_ok_iff.mp alone
  obtain ⟨⟨left',read'⟩,-⟩ := parse_eq_ok_iff.mp grouped
  have whole : ("(?:" ++ source ++ ")" ++ escape input).toList =
      '(' :: '?' :: ':' :: (source.toList ++ ')' :: (escape input).toList) := by
    simp
  rw [whole] at read'
  obtain ⟨m,there,moved,read'⟩ := body_succ_eq_ok.mp read'
  have opens : (move false []).run { rest := '(' :: '?' :: ':' :: (source.toList ++ ')' :: (escape input).toList) } =
    .ok (.inside false [] false, ⟨source.toList ++ ')' :: (escape input).toList,false,[]⟩) := rfl
  cases opens.symm.trans moved
  obtain ⟨inner,⟨rest,verbose,names⟩,within,read'⟩ := follow_inside_eq_ok.mp read'
  have beside : Beside input { rest := source.toList } { rest := source.toList ++ ')' :: (escape input).toList } :=
    ⟨.same source.toList,rfl,rfl⟩
  obtain ⟨rfl,ends⟩ := body_agree beside read within
  obtain rfl : rest = (escape input).toList := ends
  have written := written_escape input
  -- How the input is spelled does not matter any more.
  generalize (escape input).toList = spelling at read' written
  have enough : spelling.length < input.toList.length + (spelling.length + 1) := by omega
  have spelled : (body (input.toList.length + (spelling.length + 1)) false [] [.group false [] inner]).run
      ⟨spelling ++ [],false,names⟩ = _ := body_written written
  rw [List.append_nil,body_end] at spelled
  cases spelled.symm.trans (body_enough read' enough)
  rw [List.reverse_cons]
  rfl

/-- What the group and the characters of the input after it mean. -/
theorem translate_grouped {forText : Bool} {f f' : Flags} {e : Expr} (unicode : f.unicode = true)
    (caseMatters : f.caseInsensitive = false)
    (made : Expr.translate forText f (concatOf (.group false [] t :: literals input.toList).reverse) = .ok (e, f')) :
    ∃ alone es, e = .seqAll (alone :: es) ∧ (Expr.seqAll es).Spells (Utf8.encodeChars input.toList) := by
  obtain ⟨_,all,rfl⟩ := translate_concatOf.mp made
  rw [List.reverse_reverse] at all
  obtain ⟨alone,f₁,es,first,others,rfl⟩ := translateAll_cons.mp all
  -- The flags of the group are in force only inside it.
  obtain rfl : f₁ = f := by
    rw [Expr.translate,bind_eq_ok] at first
    obtain ⟨_,-,⟨⟩⟩ := first
    rfl
  have means : List.Forall₂ (Syntax.Means forText f₁) _ _ := means_literals unicode caseMatters input.toList
  obtain ⟨es',made',spell⟩ := translateAll_means means
  cases made'.symm.trans others
  have word := Expr.Spells.seqAll spell
  rw [← List.flatMap_def] at word
  exact ⟨alone,_,rfl,word⟩

/-- The pattern in the group with the input after it is found only in lines that contain the input. -/
theorem infix_of_grouped {forText : Bool} {alone grouped : Pattern} {line : List Char}
    (compiled : compile forText source = .ok alone)
    (compiled' : compile true ("(?:" ++ source ++ ")" ++ escape input) = .ok grouped)
    (found : grouped.isFoundIn (Utf8.encodeChars line) = true) : input.toList <:+: line := by
  obtain ⟨t,-,parsed,-⟩ := compile_eq_ok.mp compiled
  obtain ⟨t',e,parsed',made,-,rfl⟩ := compile_eq_ok.mp compiled'
  cases parse_grouped parsed parsed'
  obtain ⟨⟨_,f⟩,made,⟨⟩⟩ := bind_eq_ok.mp made
  obtain ⟨alone,es,rfl,spells⟩ := translate_grouped rfl rfl made
  -- A match of the group, and then one of the input after it.
  have finds : ((Expr.seqAll (alone :: es)).findFrom true (Utf8.encodeChars line)
      (.start (Utf8.encodeChars line))).isSome = true := by
    rw [isFoundIn,find?] at found
    split at found
    · exact found
    · cases found
  obtain ⟨n,d,member⟩ := Expr.exists_end_of_findFrom (c:=.start _) rfl finds
  obtain ⟨m,first,path⟩ := Expr.path_cons.mp (Expr.mem_ends_seqAll.mp member)
  obtain ⟨k,rfl⟩ := Expr.reaches_of_mem_ends first
  have ends := Expr.mem_ends_seqAll.mpr path
  rw [spells.ends] at ends
  split at ends
  next here =>
    rw [Cursor.after_advance,Cursor.after_advance] at here
    rw [← Utf8.encodeChars_infix_iff]
    exact here.isInfix.trans ((List.drop_suffix _ _).isInfix.trans (List.drop_suffix _ _).isInfix)
  next => cases ends

end TabCompletion.Pattern
