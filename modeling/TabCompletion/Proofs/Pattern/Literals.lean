import TabCompletion.Proofs.Dialogue
import TabCompletion.Proofs.Pattern.Spelling

/-!
# Reading literal text

A text is written in a pattern with an escape before every character that has a meaning of its own
(`Written`). The reader takes one character of the text at a time (`body_written`), so such a pattern
spells the text in UTF-8, and compiles unless its automaton is too big (`compile_written`).
-/
namespace TabCompletion.Pattern

/-- What stands in a pattern for a text. -/
inductive Written : List Char → List Char → Prop where
  | nil : Written [] []
  | plain {c : Char} {source text : List Char} (plain : c ∉ metaCharacters) (rest : Written source text) :
      Written (c :: source) (c :: text)
  | escaped {c : Char} {source text : List Char} (special : c ∈ metaCharacters) (rest : Written source text) :
      Written ('\\' :: c :: source) (c :: text)

variable {source source' text text' : List Char}

theorem Written.append (first : Written source text) (second : Written source' text') :
    Written (source ++ source') (text ++ text') := by
  induction first with
  | nil => exact second
  | plain other _ ih => exact .plain other ih
  | escaped special _ ih => exact .escaped special ih

theorem written_of_plain (plain : text.all (!metaCharacters.contains ·)) : Written text text := by
  induction text with
  | nil => exact .nil
  | cons c rest ih =>
    obtain ⟨first,others⟩ := Bool.and_eq_true_iff.mp plain
    exact .plain (by simpa using first) (ih others)

theorem written_escape (s : String) : Written (escape s).toList s.toList := by
  unfold escape
  rw [String.toList_ofList]
  induction s.toList with
  | nil => exact .nil
  | cons c rest ih =>
    rw [List.flatMap_cons]
    by_cases special : c ∈ metaCharacters
    · simpa [special] using Written.escaped special ih
    · simpa [special] using Written.plain special ih

theorem Written.length_le (written : Written source text) : text.length ≤ source.length := by
  induction written with
  | nil => exact Nat.le_refl 0
  | plain _ _ ih => simpa using ih
  | escaped _ _ ih => simp only [List.length_cons]; omega

/-- The syntax of a text, character by character. -/
def literals (text : List Char) : List Syntax := text.map fun c => .literal ⟨c,false⟩

/-! ## The reader -/

section Reader

variable {fuel : Nat} {inGroup verbose : Bool} {before parts : List Syntax} {c : Char} {rest : List Char} {names : List String}

theorem run_need (fault : Fault) :
    (Parse.need fault).run ⟨c :: rest,verbose,names⟩ = .ok (c, ⟨c :: rest,verbose,names⟩) := rfl

theorem run_bump : Parse.bump.run ⟨c :: rest,verbose,names⟩ = .ok ((), ⟨rest,verbose,names⟩) := rfl

theorem run_skip : Parse.skip.run ⟨rest,false,names⟩ = .ok ((), ⟨rest,false,names⟩) := rfl

theorem run_peek? : Parse.peek?.run ⟨rest,verbose,names⟩ = .ok (rest.head?, ⟨rest,verbose,names⟩) := rfl

theorem ok_bind {α β : Type} (a : α) (f : α → Except Fault β) : (Except.ok a >>= f) = f a := rfl

theorem primitive_plain (plain : c ∉ metaCharacters) :
    Parse.primitive.run ⟨c :: rest,verbose,names⟩ = .ok (.literal ⟨c,false⟩, ⟨rest,verbose,names⟩) := by
  unfold Parse.primitive
  simp only [StateT.run_bind,run_need,ok_bind]
  split
  case h_5 => rfl
  all_goals exact absurd (by decide) plain

theorem escaped_special (special : c ∈ metaCharacters) :
    Parse.escaped.run ⟨'\\' :: c :: rest,verbose,names⟩ = .ok (.literal ⟨c,false⟩, ⟨rest,verbose,names⟩) := by
  unfold Parse.escaped
  rw [StateT.run_bind,run_bump,ok_bind,StateT.run_bind,run_need,ok_bind]
  simp only [metaCharacters,List.mem_cons,List.not_mem_nil,or_false] at special
  rcases special with rfl | rfl | rfl | rfl | rfl | rfl | rfl | rfl | rfl | rfl | rfl | rfl | rfl |
    rfl | rfl | rfl | rfl | rfl <;> rfl

theorem primitive_escaped (special : c ∈ metaCharacters) :
    Parse.primitive.run ⟨'\\' :: c :: rest,verbose,names⟩ = .ok (.literal ⟨c,false⟩, ⟨rest,verbose,names⟩) := by
  unfold Parse.primitive
  rw [StateT.run_bind,run_need,ok_bind]
  show (Parse.escaped >>= _).run _ = _
  rw [StateT.run_bind,escaped_special special,ok_bind]
  rfl

/-- A character without a meaning of its own is read as one more part. -/
theorem body_plain (plain : c ∉ metaCharacters) :
    (Parse.body (fuel + 1) inGroup before parts).run ⟨c :: rest,false,names⟩ =
      (Parse.body fuel inGroup before (.literal ⟨c,false⟩ :: parts)).run ⟨rest,false,names⟩ := by
  rw [Parse.body,StateT.run_bind,run_skip,ok_bind]
  dsimp only
  rw [StateT.run_bind,run_peek?,ok_bind]
  dsimp only [List.head?_cons]
  split
  case h_10 => rw [StateT.run_bind,primitive_plain plain,ok_bind]
  all_goals rename_i same; cases same
  all_goals exact absurd (by decide) plain

/-- An escaped character is read as one more part. -/
theorem body_escaped (special : c ∈ metaCharacters) :
    (Parse.body (fuel + 1) inGroup before parts).run ⟨'\\' :: c :: rest,false,names⟩ =
      (Parse.body fuel inGroup before (.literal ⟨c,false⟩ :: parts)).run ⟨rest,false,names⟩ := by
  rw [Parse.body,StateT.run_bind,run_skip,ok_bind]
  dsimp only
  rw [StateT.run_bind,run_peek?,ok_bind]
  show (Parse.primitive >>= _).run _ = _
  rw [StateT.run_bind,primitive_escaped special,ok_bind]

/-- A text is read character by character. -/
theorem body_written (written : Written source text) :
    (Parse.body (text.length + fuel) inGroup before parts).run ⟨source ++ rest,false,names⟩ =
      (Parse.body fuel inGroup before ((literals text).reverse ++ parts)).run ⟨rest,false,names⟩ := by
  induction written generalizing parts with
  | nil => simp [literals]
  | plain other _ ih =>
    rw [List.length_cons,Nat.add_right_comm,List.cons_append,body_plain other,ih]
    simp [literals]
  | escaped special _ ih =>
    rw [List.length_cons,Nat.add_right_comm,List.cons_append,List.cons_append,body_escaped special,ih]
    simp [literals]

theorem body_end : (Parse.body (fuel + 1) false before parts).run ⟨[],false,names⟩ =
    .ok (Parse.alternationOf before parts, ⟨[],false,names⟩) := rfl

theorem body_close : (Parse.body (fuel + 1) true before parts).run ⟨')' :: rest,false,names⟩ =
    .ok (Parse.alternationOf before parts, ⟨rest,false,names⟩) := rfl

theorem opening_group : Parse.opening.run ⟨'(' :: '?' :: ':' :: rest,false,names⟩ =
    .ok (.group false [], ⟨rest,false,names⟩) := rfl

/-- A group around a text is read as one more part. -/
theorem body_group (written : Written source text) (enough : text.length < fuel) :
    (Parse.body (fuel + 1) inGroup before parts).run ⟨'(' :: '?' :: ':' :: (source ++ ')' :: rest),false,names⟩ =
      (Parse.body fuel inGroup before (.group false [] (Parse.concatOf (literals text).reverse) :: parts)).run
        ⟨rest,false,names⟩ := by
  rw [Parse.body,StateT.run_bind,run_skip,ok_bind]
  dsimp only
  rw [StateT.run_bind,run_peek?,ok_bind]
  show (Parse.opening >>= _).run _ = _
  rw [StateT.run_bind,opening_group,ok_bind]
  have inner : (Parse.body fuel true [] []).run ⟨source ++ ')' :: rest,false,names⟩ =
      .ok (Parse.concatOf (literals text).reverse, ⟨rest,false,names⟩) := by
    obtain ⟨more,rfl⟩ := Nat.exists_eq_add_of_lt enough
    rw [Nat.add_assoc,body_written written,body_close,List.append_nil]
    rfl
  simp only [StateT.run_bind,StateT.run_get,StateT.run_modify,pure_bind,List.lookup_nil,Option.getD_none]
  rw [inner,ok_bind]

end Reader

/-- A pattern is what is read of the whole text, if it is not nested too deep. -/
theorem parse_eq_ok_iff {source : String} {s : Syntax} : parse source = .ok s ↔
    (∃ left, (Parse.body (source.toList.length + 2) false [] []).run { rest := source.toList } = .ok (s, left)) ∧
      s.depth ≤ depthLimit := by
  unfold parse
  constructor
  · intro parsed
    obtain ⟨⟨result,left⟩,read,checked⟩ := bind_eq_ok.mp parsed
    by_cases deep : depthLimit < result.depth
    · simp [deep,throw,throwThe,MonadExceptOf.throw,Functor.map,Except.map] at checked
    · simp [deep,pure,Except.pure] at checked
      subst checked
      exact ⟨⟨left,read⟩,Nat.not_lt.mp deep⟩
  · rintro ⟨⟨left,read⟩,shallow⟩
    dsimp only
    rw [read,ok_bind]
    simp [Nat.not_lt.mpr shallow,pure,Except.pure]

theorem depthOfParts_literals (text : List Char) : Syntax.depthOfParts (literals text) = 0 := by
  induction text with
  | nil => rfl
  | cons c rest ih => simpa [literals,Syntax.depthOfParts,Syntax.depth] using ih

theorem concatOf_reverse (parts : List Syntax) : Parse.concatOf parts.reverse =
    match parts with
    | [] => .empty
    | [part] => part
    | parts => .concat parts := by
  rcases parts with _ | ⟨part,_ | ⟨next,parts⟩⟩
  · rfl
  · rfl
  · have two : 2 ≤ (part :: next :: parts).reverse.length := by simp
    unfold Parse.concatOf
    split
    next empty => simp [empty] at two
    next one => simp [one] at two
    next => rw [List.reverse_reverse]

theorem depth_concatOf (parts : List Syntax) :
    (Parse.concatOf parts.reverse).depth ≤ Syntax.depthOfParts parts + 1 := by
  rw [concatOf_reverse]
  split
  · simp [Syntax.depth]
  · simp [Syntax.depthOfParts]
  · simp [Syntax.depth]

theorem parse_written {s : String} (written : Written s.toList text) :
    parse s = .ok (Parse.concatOf (literals text).reverse) := by
  have length := written.length_le
  obtain ⟨more,enough⟩ := Nat.exists_eq_add_of_le length
  have read : (Parse.body (text.length + (more + 2)) false [] []).run ⟨s.toList ++ [],false,[]⟩ = _ := body_written written
  rw [body_end,List.append_nil,List.append_nil,← Nat.add_assoc,← enough] at read
  have shallow := depth_concatOf (literals text)
  rw [depthOfParts_literals] at shallow
  exact parse_eq_ok_iff.mpr ⟨⟨_,read⟩,Nat.le_trans shallow (by decide)⟩

/-- A group around a text and a text after it. -/
theorem parse_group {s : String} (written : Written source text) (written' : Written source' text')
    (whole : s.toList = '(' :: '?' :: ':' :: (source ++ ')' :: source')) : parse s =
      .ok (Parse.concatOf (.group false [] (Parse.concatOf (literals text).reverse) :: literals text').reverse) := by
  have length := written.length_le
  have length' := written'.length_le
  have total : s.toList.length = source.length + source'.length + 4 := by
    rw [whole]; simp only [List.length_cons,List.length_append]; omega
  obtain ⟨more,enough⟩ := Nat.exists_eq_add_of_le (show text.length + text'.length + 4 ≤ s.toList.length by omega)
  have read : (Parse.body (text'.length + (text.length + more + 4 + 1) + 1) false [] []).run
      ⟨'(' :: '?' :: ':' :: (source ++ ')' :: source'),false,[]⟩ = _ := body_group written (by omega)
  have after : (Parse.body (text'.length + (text.length + more + 4 + 1)) false []
      [.group false [] (Parse.concatOf (literals text).reverse)]).run ⟨source' ++ [],false,[]⟩ = _ :=
    body_written written'
  rw [List.append_nil,body_end] at after
  rw [after,← whole,show text'.length + (text.length + more + 4 + 1) + 1 = s.toList.length + 2 by omega] at read
  have shallow := depth_concatOf (.group false [] (Parse.concatOf (literals text).reverse) :: literals text')
  have inner := depth_concatOf (literals text)
  simp only [Syntax.depthOfParts,depthOfParts_literals,Syntax.depth] at shallow inner
  rw [List.reverse_cons]
  refine parse_eq_ok_iff.mpr ⟨⟨_,read⟩,Nat.le_trans ?_ (show 3 ≤ depthLimit by decide)⟩
  rw [List.reverse_cons] at shallow
  omega

/-! ## What a text matches -/

/-- Under these flags the syntax is the word and changes nothing after it. -/
def Syntax.Means (forText : Bool) (f : Flags) (s : Syntax) (word : Bytes) : Prop :=
  ∃ e, Expr.translate forText f s = .ok (e, f) ∧ e.Spells word

variable {forText : Bool} {f : Flags} {word : Bytes}

theorem means_literal (unicode : f.unicode = true) (caseMatters : f.caseInsensitive = false) (c : Char) :
    (Syntax.literal ⟨c,false⟩).Means forText f (Utf8.encodeChar c) :=
  ⟨.ofBytes (Utf8.encodeChar c),by simp [Expr.translate,Expr.ofLiteral,unicode,caseMatters,bind,Except.bind,pure,Except.pure],
    Expr.spells_ofBytes _⟩

theorem translateAll_means {parts : List Syntax} {words : List Bytes}
    (all : List.Forall₂ (Syntax.Means forText f) parts words) :
    ∃ es, Expr.translateAll forText f parts = .ok (es, f) ∧ List.Forall₂ Expr.Spells es words := by
  induction all with
  | nil => exact ⟨[],rfl,.nil⟩
  | cons first _ ih =>
    obtain ⟨e,made,spells⟩ := first
    obtain ⟨es,others,spell⟩ := ih
    exact ⟨e :: es,by rw [Expr.translateAll,made,ok_bind]; dsimp only; rw [others]; rfl,.cons spells spell⟩

theorem means_concatOf {parts : List Syntax} {words : List Bytes}
    (all : List.Forall₂ (Syntax.Means forText f) parts words) :
    (Parse.concatOf parts.reverse).Means forText f words.flatten := by
  rw [concatOf_reverse]
  split
  next => cases all; exact ⟨.empty,rfl,.empty⟩
  next =>
    obtain _ | ⟨only,⟨⟩⟩ := all
    simpa using only
  next =>
    obtain ⟨es,made,spell⟩ := translateAll_means all
    exact ⟨.seqAll es,by rw [Expr.translate,made]; rfl,.seqAll spell⟩

theorem means_literals (unicode : f.unicode = true) (caseMatters : f.caseInsensitive = false) (text : List Char) :
    List.Forall₂ (Syntax.Means forText f) (literals text) (text.map Utf8.encodeChar) :=
  List.forall₂_map_left_iff.mpr (List.forall₂_map_right_iff.mpr
    (List.forall₂_same.mpr fun c _ => means_literal unicode caseMatters c))

theorem means_text (unicode : f.unicode = true) (caseMatters : f.caseInsensitive = false) (text : List Char) :
    (Parse.concatOf (literals text).reverse).Means forText f (Utf8.encodeChars text) :=
  means_concatOf (means_literals unicode caseMatters text)

theorem means_group {body : Syntax} (means : body.Means forText f word) : (Syntax.group false [] body).Means forText f word := by
  obtain ⟨e,made,spells⟩ := means
  exact ⟨.group false e,by rw [Expr.translate,show f.apply [] = f from rfl,made]; rfl,.group spells⟩

/-- The automaton of a word is not too big. -/
def Fits (word : Bytes) : Prop := stateSize * word.length + Expr.frameSize .forward false ≤ Expr.sizeLimit

instance (word : Bytes) : Decidable (Fits word) := by unfold Fits; infer_instance

theorem Fits.of_length_le {shorter : Bytes} (fits : Fits word) (length : shorter.length ≤ word.length) : Fits shorter := by
  unfold Fits stateSize at *
  omega

theorem Shape.prependWord_append (x y : Bytes) (after : List Shape) :
    prependWord x (prependWord y after) = prependWord (x ++ y) after := by
  cases x with
  | nil => rfl
  | cons b x =>
    cases y with
    | nil => rw [List.append_nil]; rfl
    | cons c y =>
      rcases after with _ | ⟨first,after⟩
      · rfl
      · cases first with
        | word more => simp [prependWord]
        | _ => rfl

namespace Expr.Spells

variable {e : Expr}

/-- What spells a word is one word before other parts. -/
theorem onto (spells : e.Spells word) (after : List Shape) : e.onto after = Shape.prependWord word after := by
  induction spells generalizing after with
  | empty => rfl
  | byte b => rfl
  | group _ ih => exact ih after
  | seq _ _ ihLeft ihRight => rw [Expr.onto,ihRight,ihLeft,Shape.prependWord_append]

theorem shape (spells : e.Spells word) : e.shape = if word = [] then .empty else .word word := by
  rw [Expr.shape,spells.onto]
  cases word <;> rfl

theorem isAnchored (spells : e.Spells word) (d : Direction) : e.isAnchored d = false := by
  induction spells with
  | empty => rfl
  | byte b => rfl
  | group _ ih => exact ih
  | seq _ _ ihLeft ihRight => cases d <;> simp [Expr.isAnchored,ihLeft,ihRight]

/-- Each byte of a word is a state. -/
theorem isTooBig_iff (spells : e.Spells word) : e.isTooBig = true ↔ ¬Fits word := by
  have frames : frameSize .backward false ≤ frameSize .forward false := by decide
  cases word with
  | nil =>
    have small : e.isTooBig = false := by
      simp only [Expr.isTooBig,spells.shape,spells.isAnchored]
      decide
    exact ⟨fun big => absurd (small.symm.trans big) nofun,fun big => absurd (show Fits [] by decide) big⟩
  | cons b rest =>
    unfold Fits
    simp only [Expr.isTooBig,spells.shape,spells.isAnchored,reduceCtorEq,if_false,Shape.hasAutomaton,Shape.size,
      List.any_cons,List.any_nil,Bool.true_and,Bool.or_false,Bool.or_eq_true,decide_eq_true_eq]
    omega

end Expr.Spells

/-- A pattern that can be read and means something is refused only for its size. -/
theorem compile_of_means {source : String} {s : Syntax} {e : Expr} (parsed : parse source = .ok s)
    (means : Expr.ofSyntax forText s = .ok e) :
    compile forText source = if e.isTooBig = true then .error .tooBig else .ok ⟨source,forText,e⟩ := by
  have shallow := Nat.not_lt.mpr (parse_eq_ok_iff.mp parsed).2
  unfold compile
  rw [parsed,ok_bind,if_neg shallow]
  show (Expr.ofSyntax forText s >>= _) = _
  rw [means,ok_bind]
  cases e.isTooBig <;> rfl

/-- A pattern that says a word compiles to one that spells it, if it is not too big. -/
theorem compile_of_parse {source : String} {s : Syntax} (parsed : parse source = .ok s) (means : s.Means forText {} word) :
    ∃ e, e.Spells word ∧
      compile forText source = if Fits word then .ok ⟨source,forText,e⟩ else .error .tooBig := by
  obtain ⟨e,made,spells⟩ := means
  refine ⟨e,spells,?_⟩
  rw [compile_of_means parsed (bind_eq_ok.mpr ⟨_,made,rfl⟩)]
  by_cases fits : Fits word
  · rw [if_neg fun big => spells.isTooBig_iff.mp big fits,if_pos fits]
  · rw [if_pos (spells.isTooBig_iff.mpr fits),if_neg fits]

/-- A text as it is written in a pattern compiles to its bytes. -/
theorem compile_written (forText : Bool) {s : String} (written : Written s.toList text) :
    ∃ e, e.Spells (Utf8.encodeChars text) ∧
      compile forText s = if Fits (Utf8.encodeChars text) then .ok ⟨s,forText,e⟩ else .error .tooBig :=
  compile_of_parse (parse_written written) (means_text rfl rfl text)

/-- A group around a text and a text after it compile to the bytes of both. -/
theorem compile_group (forText : Bool) {s : String} (written : Written source text) (written' : Written source' text')
    (whole : s.toList = '(' :: '?' :: ':' :: (source ++ ')' :: source')) :
    ∃ e, e.Spells (Utf8.encodeChars (text ++ text')) ∧
      compile forText s = if Fits (Utf8.encodeChars (text ++ text')) then .ok ⟨s,forText,e⟩ else .error .tooBig := by
  have means : (Parse.concatOf (.group false [] (Parse.concatOf (literals text).reverse) :: literals text').reverse).Means
      forText {} (Utf8.encodeChars (text ++ text')) := by
    have group : (Syntax.group false [] (Parse.concatOf (literals text).reverse)).Means forText {} (Utf8.encodeChars text) :=
      means_group (means_text rfl rfl text)
    have both := means_concatOf (.cons group (means_literals rfl rfl text'))
    simpa [Utf8.encodeChars,List.flatMap_def] using both
  exact compile_of_parse (parse_group written written' whole) means

end TabCompletion.Pattern
