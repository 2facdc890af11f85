import TabCompletion.Proofs.Pattern.Matches
import TabCompletion.Proofs.Pattern.Reading

/-!
# Parts at the start of a pattern

More parts at the start of the first alternative of a pattern come before the match (`Expr.Leads.reaches`).
If they change no flag, the syntax without them means the expression without them
(`translate_leads`).
-/
namespace TabCompletion.Pattern

namespace Expr

variable {e e' : Expr} {es ws others : List Expr} {c d : Cursor}

theorem needsBefore_suffix (e : Expr) (after : Bytes) : after <:+ e.needsBefore after := by
  induction e generalizing after with
  | byte b => exact List.suffix_cons b after
  | group captures body ih => exact ih after
  | seq first second ihFirst ihSecond => exact (ihSecond after).trans (ihFirst _)
  | «repeat» body least greatest greedy ih =>
    rw [needsBefore]
    split
    · exact List.suffix_refl _
    · exact ih after
  | _ => exact List.suffix_refl _

theorem needsBefore_foldl (e : Expr) (es : List Expr) (after : Bytes) :
    (es.foldl seq e).needsBefore after = e.needsBefore (es.foldr needsBefore after) := by
  induction es generalizing e with
  | nil => rfl
  | cons next es ih => rw [List.foldl_cons,ih]; rfl

theorem needs_seqAll (es : List Expr) : (seqAll es).needs = es.foldr needsBefore [] := by
  cases es with
  | nil => rfl
  | cons e es => rw [seqAll,needs,needsBefore_foldl]; rfl

/-- Of several alternatives none needs to be there. -/
theorem needs_altAll (first : e.needs <:+ e'.needs) : (altAll (e :: others)).needs <:+ (altAll (e' :: others)).needs := by
  cases others with
  | nil => exact first
  | cons next more => exact List.suffix_refl _

/-- The second expression is the first one with more at the start of its first alternative. -/
def Leads (ws : List Expr) (e e' : Expr) : Prop :=
  ∃ es others, e = altAll (seqAll es :: others) ∧ e' = altAll (seqAll (ws ++ es) :: others)

/-- What matches with more at the start matches later without it, and ends where it ended. -/
theorem Leads.reaches (leads : Leads ws e e') (member : d ∈ e'.ends c) : ∃ m, c.Reaches m ∧ d ∈ e.ends m := by
  obtain ⟨es,others,rfl,rfl⟩ := leads
  rw [mem_ends_altAll] at member
  obtain ⟨a,among,ends⟩ := member
  rcases List.mem_cons.mp among with rfl | other
  · obtain ⟨m,blank,path⟩ := path_append.mp (mem_ends_seqAll.mp ends)
    exact ⟨m,blank.reaches,mem_ends_altAll.mpr ⟨_,List.mem_cons_self,mem_ends_seqAll.mpr path⟩⟩
  · exact ⟨c,.refl c,mem_ends_altAll.mpr ⟨a,List.mem_cons_of_mem _ other,ends⟩⟩

theorem Leads.needs_suffix (leads : Leads ws e e') : e.needs <:+ e'.needs := by
  obtain ⟨es,others,rfl,rfl⟩ := leads
  refine needs_altAll ?_
  rw [needs_seqAll,needs_seqAll,List.foldr_append]
  induction ws with
  | nil => exact List.suffix_refl _
  | cons w ws ih => exact ih.trans (needsBefore_suffix w _)

end Expr

/-- A pattern for bytes is found wherever it is found with more at its start. -/
theorem isFoundIn_of_leads {p p' : Pattern} {ws : List Expr} {bytes : Bytes} (forBytes : p.text = false)
    (forBytes' : p'.text = false) (leads : Expr.Leads ws p.expr p'.expr) (found : p'.isFoundIn bytes = true) :
    p.isFoundIn bytes = true := by
  obtain ⟨needed,n,d,ends⟩ := (isFoundIn_bytes_iff forBytes').mp found
  obtain ⟨m,⟨k,rfl⟩,ends⟩ := leads.reaches ends
  refine (isFoundIn_bytes_iff forBytes).mpr ⟨leads.needs_suffix.sublist.trans needed,n + k,d,?_⟩
  rwa [Cursor.advance_add]

/-! ## From the syntax -/

section Syntax

variable {forText : Bool} {f f' : Flags} {parts more old : List Syntax} {s s' : Syntax} {e e' : Expr}

theorem translateAll_cons {part : Syntax} {es : List Expr} : Expr.translateAll forText f (part :: parts) = .ok (es, f') ↔
    ∃ e f₁ es', Expr.translate forText f part = .ok (e, f₁) ∧ Expr.translateAll forText f₁ parts = .ok (es', f') ∧
      es = e :: es' := by
  rw [Expr.translateAll,bind_eq_ok]
  simp only [bind_eq_ok]
  constructor
  · rintro ⟨⟨e,f₁⟩,first,⟨es',_⟩,others,⟨⟩⟩
    exact ⟨e,f₁,es',first,others,rfl⟩
  · rintro ⟨e,f₁,es',first,others,rfl⟩
    exact ⟨_,first,_,others,rfl⟩

theorem translateAll_append {es : List Expr} : Expr.translateAll forText f (parts ++ more) = .ok (es, f') ↔
    ∃ es₁ f₁ es₂, Expr.translateAll forText f parts = .ok (es₁, f₁) ∧ Expr.translateAll forText f₁ more = .ok (es₂, f') ∧
      es = es₁ ++ es₂ := by
  induction parts generalizing f es with
  | nil =>
    constructor
    · intro made
      exact ⟨[],f,es,rfl,made,rfl⟩
    · rintro ⟨es₁,f₁,es₂,⟨⟩,made,rfl⟩
      exact made
  | cons part parts ih =>
    simp only [List.cons_append,translateAll_cons,ih]
    constructor
    · rintro ⟨e,f₁,_,first,⟨es₁,f₂,es₂,others,made,rfl⟩,rfl⟩
      exact ⟨_,f₂,es₂,⟨e,f₁,es₁,first,others,rfl⟩,made,rfl⟩
    · rintro ⟨_,f₂,es₂,⟨e,f₁,es₁,first,others,rfl⟩,made,rfl⟩
      exact ⟨e,f₁,_,first,⟨es₁,f₂,es₂,others,made,rfl⟩,rfl⟩

/-- The parts of an alternative are translated one after the other. -/
theorem translate_concatOf : Expr.translate forText f (Parse.concatOf parts) = .ok (e, f') ↔
    ∃ es, Expr.translateAll forText f parts.reverse = .ok (es, f') ∧ e = .seqAll es := by
  obtain ⟨inOrder,rfl⟩ : ∃ inOrder : List Syntax, parts = inOrder.reverse := ⟨_,(List.reverse_reverse parts).symm⟩
  rw [concatOf_reverse,List.reverse_reverse]
  split
  · constructor
    · rintro ⟨⟩
      exact ⟨[],rfl,rfl⟩
    · rintro ⟨_,⟨⟩,rfl⟩
      rfl
  · simp only [translateAll_cons]
    constructor
    · intro made
      exact ⟨[e],⟨e,f',[],made,rfl,rfl⟩,rfl⟩
    · rintro ⟨_,⟨e',_,_,made,⟨⟩,rfl⟩,rfl⟩
      exact made
  · rw [Expr.translate,bind_eq_ok]
    constructor
    · rintro ⟨⟨es,_⟩,made,⟨⟩⟩
      exact ⟨es,made,rfl⟩
    · rintro ⟨es,made,rfl⟩
      exact ⟨_,made,rfl⟩

/-- The alternatives are translated one after the other. -/
theorem translate_alternation : Expr.translate forText f (.alternation (s :: parts)) = .ok (e, f') ↔
    ∃ first f₁ others, Expr.translate forText f s = .ok (first, f₁) ∧
      Expr.translateAll forText f₁ parts = .ok (others, f') ∧ e = .altAll (first :: others) := by
  rw [Expr.translate,bind_eq_ok]
  constructor
  · rintro ⟨⟨_,f₂⟩,all,⟨⟩⟩
    obtain ⟨first,f₁,others,made,more,rfl⟩ := translateAll_cons.mp all
    exact ⟨first,f₁,others,made,more,rfl⟩
  · rintro ⟨first,f₁,others,made,more,rfl⟩
    exact ⟨_,translateAll_cons.mpr ⟨first,f₁,others,made,more,rfl⟩,rfl⟩

theorem depthOfParts_le_iff {limit : Nat} : Syntax.depthOfParts parts ≤ limit ↔ ∀ part ∈ parts, part.depth ≤ limit := by
  induction parts with
  | nil => simp [Syntax.depthOfParts]
  | cons part parts ih => rw [Syntax.depthOfParts,Nat.max_le,ih,List.forall_mem_cons]

theorem depth_le_concatOf {part : Syntax} (member : part ∈ parts) : part.depth ≤ (Parse.concatOf parts).depth := by
  obtain ⟨inOrder,rfl⟩ : ∃ inOrder : List Syntax, parts = inOrder.reverse := ⟨_,(List.reverse_reverse parts).symm⟩
  rw [List.mem_reverse] at member
  rw [concatOf_reverse]
  split
  · cases member
  · exact Nat.le_of_eq (congrArg Syntax.depth (List.mem_singleton.mp member))
  · rw [Syntax.depth]
    exact Nat.le_succ_of_le (depthOfParts_le_iff.mp (Nat.le_refl _) part member)

/-- The pattern without the parts at its start is nested no deeper. -/
theorem depth_le_of_leads (leads : Parse.Leads old s s') : s.depth ≤ s'.depth := by
  have first (parts : List Syntax) : (Parse.concatOf parts).depth ≤ (Parse.concatOf (parts ++ old)).depth := by
    rcases parts with _ | ⟨part,_ | ⟨next,more⟩⟩
    · exact Nat.zero_le _
    · exact depth_le_concatOf (List.mem_append_left old List.mem_cons_self)
    · have among : ∀ p ∈ (part :: next :: more).reverse,
          p.depth ≤ Syntax.depthOfParts (part :: next :: more ++ old).reverse := fun p member =>
        depthOfParts_le_iff.mp (Nat.le_refl _) p (by simp at member ⊢; tauto)
      exact Nat.succ_le_succ (depthOfParts_le_iff.mpr among)
  cases leads with
  | concat parts => exact first parts
  | alternation parts others =>
    have first := first parts
    simp only [Syntax.depth,Syntax.depthOfParts]
    omega

/-- Under the flags in force the part means something and changes no flag. -/
def Syntax.Keeps (forText : Bool) (f : Flags) (s : Syntax) : Prop := ∃ e, Expr.translate forText f s = .ok (e, f)

theorem translateAll_keeps (keeps : ∀ w ∈ parts, w.Keeps forText f) :
    ∃ ws, Expr.translateAll forText f parts = .ok (ws, f) := by
  induction parts with
  | nil => exact ⟨[],rfl⟩
  | cons part parts ih =>
    obtain ⟨⟨e,made⟩,others⟩ := List.forall_mem_cons.mp keeps
    obtain ⟨ws,more⟩ := ih others
    exact ⟨e :: ws,translateAll_cons.mpr ⟨e,f,ws,made,more,rfl⟩⟩

/-- Parts at the start that keep the flags can be left out: what is left means the expression without theirs. -/
theorem translate_leads (keeps : ∀ w ∈ old, w.Keeps forText f) (leads : Parse.Leads old s s')
    (made : Expr.translate forText f s' = .ok (e', f')) :
    ∃ ws e, Expr.translate forText f s = .ok (e, f') ∧ Expr.Leads ws e e' := by
  have inOrder : ∀ w ∈ old.reverse, w.Keeps forText f := fun w member => keeps w (List.mem_reverse.mp member)
  obtain ⟨ws,blank⟩ := translateAll_keeps inOrder
  -- The parts at the start come first and leave the flags for the other parts of the first alternative.
  have first {parts : List Syntax} {e' : Expr} {f' : Flags}
      (whole : Expr.translate forText f (Parse.concatOf (parts ++ old)) = .ok (e', f')) :
      ∃ es, e' = .seqAll (ws ++ es) ∧ Expr.translate forText f (Parse.concatOf parts) = .ok (.seqAll es, f') := by
    obtain ⟨_,all,rfl⟩ := translate_concatOf.mp whole
    rw [List.reverse_append,translateAll_append] at all
    obtain ⟨_,f₁,es,blank',made,rfl⟩ := all
    cases blank.symm.trans blank'
    exact ⟨es,rfl,translate_concatOf.mpr ⟨es,made,rfl⟩⟩
  cases leads with
  | concat parts =>
    obtain ⟨es,rfl,without⟩ := first made
    exact ⟨ws,_,without,es,[],rfl,rfl⟩
  | alternation parts others =>
    obtain ⟨_,f₁,others',whole,more,rfl⟩ := translate_alternation.mp made
    obtain ⟨es,rfl,without⟩ := first whole
    exact ⟨ws,_,translate_alternation.mpr ⟨_,f₁,others',without,more,rfl⟩,es,others',rfl,rfl⟩

end Syntax

end TabCompletion.Pattern
