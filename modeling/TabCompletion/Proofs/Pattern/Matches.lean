import TabCompletion.Proofs.Pattern.Literals

/-!
# Where matches end

A match goes forward from where it begins (`Expr.reaches_of_mem_ends`). So it does not matter that of the
ends at one position only the first is kept: the ends of a sequence are those of its parts one after the
other (`Expr.mem_ends_seqAll`), and the ends of alternatives are those of each (`Expr.mem_ends_altAll`).
A pattern for bytes is found if there is an end from some place on (`isFoundIn_bytes_iff`).
-/
namespace TabCompletion.Pattern

namespace Cursor

variable {c d e : Cursor}

/-- The second place is the first or comes after it. -/
def Reaches (c d : Cursor) : Prop := ∃ n, d = c.advance n

theorem Reaches.refl (c : Cursor) : c.Reaches c := ⟨0,rfl⟩

theorem Reaches.trans (first : c.Reaches d) (second : d.Reaches e) : c.Reaches e := by
  obtain ⟨m,rfl⟩ := first
  obtain ⟨n,rfl⟩ := second
  exact ⟨m + n,(advance_add c m n).symm⟩

theorem reaches_of_next? {b : UInt8} (next : c.next? = some (b, d)) : c.Reaches d := by
  refine ⟨1,?_⟩
  rw [advance,next]
  rfl

/-- After all bytes there is no further place. -/
theorem advance_of_length_le {n : Nat} (beyond : c.after.length ≤ n) : c.advance n = c.advance c.after.length := by
  obtain ⟨more,rfl⟩ := Nat.exists_eq_add_of_le beyond
  have ended : (c.advance c.after.length).next? = none := by
    unfold next?
    rw [after_advance,List.drop_length]
  rw [advance_add]
  cases more with
  | zero => rfl
  | succ k => rw [advance,ended]

/-- After a place there is one place at each position. -/
theorem Reaches.eq_of_position (first : c.Reaches d) (second : c.Reaches e) (same : d.position = e.position) : d = e := by
  have within {d : Cursor} (reached : c.Reaches d) : ∃ n ≤ c.after.length, d = c.advance n := by
    obtain ⟨n,rfl⟩ := reached
    by_cases inside : n ≤ c.after.length
    · exact ⟨n,inside,rfl⟩
    · exact ⟨_,Nat.le_refl _,advance_of_length_le (Nat.le_of_not_le inside)⟩
  obtain ⟨m,inside,rfl⟩ := within first
  obtain ⟨n,inside',rfl⟩ := within second
  rw [position_advance inside,position_advance inside'] at same
  rw [Nat.add_left_cancel same]

end Cursor

section Distinct

variable {m : Marks} {cs : List Cursor} {c d : Cursor}

theorem mem_of_mem_distinctFrom (member : d ∈ distinctFrom m cs) : d ∈ cs := by
  induction cs generalizing m with
  | nil => cases member
  | cons c rest ih =>
    rw [distinctFrom] at member
    split at member
    · exact List.mem_cons_of_mem c (ih member)
    · rcases List.mem_cons.mp member with rfl | later
      · exact List.mem_cons_self
      · exact List.mem_cons_of_mem c (ih later)

theorem mem_of_mem_distinct (member : d ∈ distinct cs) : d ∈ cs := by
  unfold distinct at member
  split at member
  · exact member
  · exact member
  · exact mem_of_mem_distinctFrom member

theorem Marks.has_put (m : Marks) (k n : Nat) : (m.put k).has n = (m.has n || decide (k = n)) := by
  unfold Marks.has Marks.put
  rw [Nat.testBit_or,Nat.one_shiftLeft,Nat.testBit_two_pow]

/-- At the position of each place one is kept, unless the position was marked. -/
theorem exists_mem_distinctFrom (member : d ∈ cs) :
    m.has d.position = true ∨ ∃ kept ∈ distinctFrom m cs, kept.position = d.position := by
  induction cs generalizing m with
  | nil => cases member
  | cons c rest ih =>
    rw [distinctFrom]
    rcases List.mem_cons.mp member with rfl | later
    · split
      next marked => exact .inl marked
      next => exact .inr ⟨d,List.mem_cons_self,rfl⟩
    · split
      · exact ih later
      · rcases ih (m:=m.put c.position) later with marked | ⟨kept,inside,same⟩
        · rw [Marks.has_put,Bool.or_eq_true,decide_eq_true_eq] at marked
          rcases marked with marked | here
          · exact .inl marked
          · exact .inr ⟨c,List.mem_cons_self,here⟩
        · exact .inr ⟨kept,List.mem_cons_of_mem c inside,same⟩

/-- Of places after one place only repeated ones are dropped. -/
theorem mem_distinct (after : ∀ d ∈ cs, c.Reaches d) : d ∈ distinct cs ↔ d ∈ cs := by
  refine ⟨mem_of_mem_distinct,fun member => ?_⟩
  unfold distinct
  split
  · exact member
  · exact member
  · rcases exists_mem_distinctFrom (m:=0) member with marked | ⟨kept,inside,same⟩
    · simp [Marks.has] at marked
    · have whole := after kept (mem_of_mem_distinctFrom inside)
      rwa [← whole.eq_of_position (after d member) same]

end Distinct

/-! ## Repetitions -/

section Repetition

variable {step : Cursor → List Cursor} {S : Cursor → Prop} {greedy : Bool} {c d : Cursor} {cs : List Cursor}

/-- The place of a task. -/
def Task.place : Task → Cursor
  | .pass _ c => c
  | .stop c => c

theorem place_after (left : Option Nat) (c : Cursor) : (Task.after left c).place = c := by
  obtain _ | _ | n := left <;> rfl

/-! A set of places that no step leaves holds every end of a repetition that begins in it. -/

theorem repeatFrom_inside (closed : ∀ c, S c → ∀ d ∈ step c, S d) {stride fuel : Nat} {begun stopped : Marks}
    {tasks : List Task} (inside : ∀ t ∈ tasks, S t.place) :
    ∀ d ∈ repeatFrom step greedy stride fuel begun stopped tasks, S d := by
  induction fuel generalizing begun stopped tasks with
  | zero => rw [repeatFrom]; nofun
  | succ fuel ih =>
    obtain _ | ⟨task,rest⟩ := tasks
    · rw [repeatFrom.eq_def]; nofun
    obtain ⟨here,later⟩ := List.forall_mem_cons.mp inside
    cases task with
    | stop c =>
      rw [repeatFrom]
      split
      · exact ih later
      · exact List.forall_mem_cons.mpr ⟨here,ih later⟩
    | pass left c =>
      rw [repeatFrom]
      dsimp only
      split
      · exact ih later
      · refine ih fun t member => ?_
        have more : ∀ t ∈ (step c).map (Task.after left), S t.place := by
          intro t among
          obtain ⟨d,stepped,rfl⟩ := List.mem_map.mp among
          rw [place_after]
          exact closed c here d stepped
        have stop : S (Task.stop c).place := here
        rcases List.mem_append.mp member with among | among
        · split at among
          · exact (List.mem_append.mp among).elim (more t) fun last => List.mem_singleton.mp last ▸ stop
          · exact (List.mem_cons.mp among).elim (fun first => first ▸ stop) (more t)
        · exact later t among

theorem onceOrMore_inside (closed : ∀ c, S c → ∀ d ∈ step c, S d) (here : S c) : ∀ d ∈ onceOrMore step greedy c, S d := by
  refine repeatFrom_inside closed fun t member => ?_
  obtain ⟨d,stepped,rfl⟩ := List.mem_map.mp member
  have there := closed c here d stepped
  split <;> exact there

theorem anyNumber_inside (closed : ∀ c, S c → ∀ d ∈ step c, S d) (here : S c) : ∀ d ∈ anyNumber step greedy c, S d := by
  intro d member
  have among := mem_of_mem_distinct member
  have begun : ∀ d ∈ onceOrMore step greedy c, S d := onceOrMore_inside closed here
  split at among
  · exact (List.mem_append.mp among).elim (begun d) fun last => List.mem_singleton.mp last ▸ here
  · exact (List.mem_cons.mp among).elim (fun first => first ▸ here) (begun d)

theorem atMost_inside (closed : ∀ c, S c → ∀ d ∈ step c, S d) (limit : Nat) (here : S c) :
    ∀ d ∈ atMost step greedy limit c, S d := by
  cases limit with
  | zero => exact List.forall_mem_singleton.mpr here
  | succ n => exact repeatFrom_inside closed (List.forall_mem_singleton.mpr here)

theorem exactly_inside (closed : ∀ c, S c → ∀ d ∈ step c, S d) (n : Nat) (inside : ∀ c ∈ cs, S c) :
    ∀ d ∈ exactly step n cs, S d := by
  induction n generalizing cs with
  | zero => rw [exactly]; exact inside
  | succ n ih =>
    cases cs with
    | nil => rw [exactly.eq_def]; nofun
    | cons c rest =>
      rw [exactly]
      · refine ih fun d member => ?_
        obtain ⟨c,among,stepped⟩ := List.mem_flatMap.mp (mem_of_mem_distinct member)
        exact closed c (inside c among) d stepped
      · nofun

theorem chain_inside (closed : ∀ c, S c → ∀ d ∈ step c, S d) (limit : Nat) (here : S c) (inside : ∀ c ∈ cs, S c) :
    ∀ d ∈ chain step limit c cs, S d := by
  induction limit generalizing c cs with
  | zero => exact List.forall_mem_cons.mpr ⟨here,inside⟩
  | succ limit ih =>
    rw [chain]
    split
    next d others stepped =>
      have there : S d := closed c here d (by rw [stepped]; exact List.mem_cons_self)
      exact ih there (List.forall_mem_cons.mpr ⟨here,inside⟩)
    next => exact List.forall_mem_cons.mpr ⟨here,inside⟩

theorem inTurn_inside (closed : ∀ c, S c → ∀ d ∈ step c, S d) (limit : Nat) (here : S c) :
    ∀ d ∈ inTurn step greedy limit c, S d := by
  intro d member
  have all := chain_inside closed limit here (List.forall_mem_nil S)
  unfold inTurn at member
  dsimp only at member
  split at member
  · exact all d member
  · exact all d (List.mem_reverse.mp member)

end Repetition

/-! ## Expressions -/

namespace Expr

variable {e first second : Expr} {es : List Expr} {c d : Cursor}

/-- A set of places that no match of the body leaves holds every end of a repetition of it that begins in the
    set, however the body is repeated. -/
theorem ends_repeat_inside {body : Expr} {least : Nat} {greatest : Option Nat} {greedy : Bool} {S : Cursor → Prop}
    (closed : ∀ c, S c → ∀ d ∈ body.ends c, S d) (here : S c) :
    ∀ d ∈ (Expr.repeat body least greatest greedy).ends c, S d := by
  intro d member
  have passed : ∀ n, ∀ m ∈ exactly body.ends n [c], S m := fun n =>
    exactly_inside closed n (List.forall_mem_singleton.mpr here)
  rw [ends.eq_def] at member
  dsimp only at member
  split at member
  next single =>
    obtain ⟨m,least,more⟩ := List.mem_flatMap.mp member
    exact inTurn_inside closed _ (passed _ m least) d more
  next several =>
    split at member
    next bounded =>
      obtain ⟨m,least,more⟩ := List.mem_flatMap.mp (mem_of_mem_distinct member)
      exact atMost_inside closed _ (passed _ m least) d more
    next any => exact anyNumber_inside closed here d member
    next once =>
      obtain ⟨m,least,more⟩ := List.mem_flatMap.mp (mem_of_mem_distinct member)
      exact onceOrMore_inside closed (passed _ m least) d more

/-- A match ends where it begins or later. -/
theorem reaches_of_mem_ends (member : d ∈ e.ends c) : c.Reaches d := by
  induction e generalizing c d with
  | empty => rw [List.mem_singleton.mp member]; exact .refl c
  | byte b | byteOf set =>
    rw [ends] at member
    split at member
    next next =>
      split at member
      · rw [List.mem_singleton.mp member]; exact Cursor.reaches_of_next? next
      · cases member
    next => cases member
  | charOf set =>
    rw [ends] at member
    split at member
    next =>
      split at member
      · exact ⟨_,List.mem_singleton.mp member⟩
      · cases member
    next => cases member
  | look l =>
    rw [ends] at member
    split at member
    · rw [List.mem_singleton.mp member]; exact .refl c
    · cases member
  | group captures body ih => exact ih member
  | seq first second ihFirst ihSecond =>
    obtain ⟨m,here,there⟩ := List.mem_flatMap.mp (mem_of_mem_distinct member)
    exact (ihFirst here).trans (ihSecond there)
  | alt first second ihFirst ihSecond =>
    rcases List.mem_append.mp (mem_of_mem_distinct member) with here | here
    · exact ihFirst here
    · exact ihSecond here
  | «repeat» body least greatest greedy ih =>
    have closed : ∀ m, c.Reaches m → ∀ d ∈ body.ends m, c.Reaches d := fun m reached d stepped => reached.trans (ih stepped)
    exact ends_repeat_inside closed (.refl c) d member

theorem mem_ends_seq : d ∈ (seq first second).ends c ↔ ∃ m ∈ first.ends c, d ∈ second.ends m := by
  have after : ∀ d ∈ (first.ends c).flatMap second.ends, c.Reaches d := by
    intro d member
    obtain ⟨m,here,there⟩ := List.mem_flatMap.mp member
    exact (reaches_of_mem_ends here).trans (reaches_of_mem_ends there)
  rw [ends,mem_distinct after,List.mem_flatMap]

theorem mem_ends_alt : d ∈ (alt first second).ends c ↔ d ∈ first.ends c ∨ d ∈ second.ends c := by
  have after : ∀ d ∈ first.ends c ++ second.ends c, c.Reaches d := by
    intro d member
    rcases List.mem_append.mp member with here | here <;> exact reaches_of_mem_ends here
  rw [ends,mem_distinct after,List.mem_append]

/-- The places from one to another by matches of the expressions one after the other. -/
inductive Path : List Expr → Cursor → Cursor → Prop where
  | nil (c : Cursor) : Path [] c c
  | cons {e : Expr} {es : List Expr} {c m d : Cursor} (here : m ∈ e.ends c) (rest : Path es m d) : Path (e :: es) c d

theorem path_cons : Path (e :: es) c d ↔ ∃ m ∈ e.ends c, Path es m d := by
  constructor
  · rintro (_ | ⟨here,rest⟩)
    exact ⟨_,here,rest⟩
  · rintro ⟨m,here,rest⟩
    exact .cons here rest

theorem path_append {more : List Expr} : Path (es ++ more) c d ↔ ∃ m, Path es c m ∧ Path more m d := by
  induction es generalizing c with
  | nil =>
    constructor
    · intro rest; exact ⟨c,.nil c,rest⟩
    · rintro ⟨m,⟨⟩,rest⟩; exact rest
  | cons e es ih =>
    simp only [List.cons_append,path_cons,ih]
    constructor
    · rintro ⟨k,here,m,first,rest⟩; exact ⟨m,⟨k,here,first⟩,rest⟩
    · rintro ⟨m,⟨k,here,first⟩,rest⟩; exact ⟨k,here,m,first,rest⟩

theorem Path.reaches (path : Path es c d) : c.Reaches d := by
  induction path with
  | nil c => exact .refl c
  | cons here _ ih => exact (reaches_of_mem_ends here).trans ih

theorem mem_ends_foldl : d ∈ (es.foldl seq e).ends c ↔ ∃ m ∈ e.ends c, Path es m d := by
  induction es generalizing e with
  | nil =>
    constructor
    · intro member; exact ⟨d,member,.nil d⟩
    · rintro ⟨m,member,⟨⟩⟩; exact member
  | cons next es ih =>
    rw [List.foldl_cons,ih]
    simp only [mem_ends_seq,path_cons]
    constructor
    · rintro ⟨k,⟨m,here,there⟩,rest⟩; exact ⟨m,here,k,there,rest⟩
    · rintro ⟨m,here,k,there,rest⟩; exact ⟨k,⟨m,here,there⟩,rest⟩

/-- A sequence ends where its parts do, one after the other. -/
theorem mem_ends_seqAll : d ∈ (seqAll es).ends c ↔ Path es c d := by
  cases es with
  | nil =>
    constructor
    · intro member; rw [List.mem_singleton.mp member]; exact .nil c
    · rintro ⟨⟩; exact List.mem_singleton_self c
  | cons e rest => rw [seqAll,mem_ends_foldl,path_cons]

/-- Alternatives end where one of them does. -/
theorem mem_ends_altAll : d ∈ (altAll es).ends c ↔ ∃ e ∈ es, d ∈ e.ends c := by
  induction es with
  | nil =>
    have nothing : (altAll []).ends c = [] := by
      rw [altAll,ends]
      cases c.charAfter? <;> simp [CharSet.contains]
    rw [nothing]
    simp
  | cons e rest ih =>
    cases rest with
    | nil => simp [altAll]
    | cons next more =>
      rw [altAll,mem_ends_alt,ih]
      · simp only [List.mem_cons,exists_eq_or_imp]
      · exact List.cons_ne_nil next more

/-! ## Searches -/

theorem advance_one {b : UInt8} {rest : Bytes} (after : c.after = b :: rest) :
    c.advance 1 = ⟨c.position + 1,b :: c.before,rest⟩ := by
  simp [Cursor.advance,Cursor.next?,after]

/-- What a search finds is a match from some place on. -/
theorem exists_end_of_findFrom {text : Bool} {bytes : Bytes} (after : c.after = bytes)
    (finds : (e.findFrom text bytes c).isSome = true) : ∃ n d, d ∈ e.ends (c.advance n) := by
  -- A match at the place itself, wherever one is looked for.
  have here {c d : Cursor} (found : (if text && !c.isBoundary then none else (e.ends c).head?) = some d) :
      ∃ n d, d ∈ e.ends (c.advance n) := by
    split at found
    · cases found
    · exact ⟨0,d,List.mem_of_head? found⟩
  induction bytes generalizing c with
  | nil =>
    rw [findFrom] at finds
    split at finds
    next d found => exact here found
    next => cases finds
  | cons b rest ih =>
    rw [findFrom] at finds
    split at finds
    next d found => exact here found
    next =>
      obtain ⟨n,d,member⟩ := ih rfl finds
      refine ⟨1 + n,d,?_⟩
      rw [Cursor.advance_add,advance_one after]
      exact member

/-- A search through bytes finds a match just if there is one from some place on. -/
theorem findFrom_isSome_iff {bytes : Bytes} (after : c.after = bytes) :
    (e.findFrom false bytes c).isSome = true ↔ ∃ n d, d ∈ e.ends (c.advance n) := by
  refine ⟨exists_end_of_findFrom after,?_⟩
  rintro ⟨n,d,member⟩
  induction bytes generalizing c n with
  | nil =>
    rw [Cursor.advance_of_length_le (show c.after.length ≤ n by simp [after]),after] at member
    rw [findFrom]
    cases found : e.ends c with
    | nil =>
      rw [show c.advance ([] : Bytes).length = c from rfl,found] at member
      cases member
    | cons d others => rfl
  | cons b rest ih =>
    rw [findFrom]
    cases found : e.ends c with
    | cons d others => rfl
    | nil =>
      cases n with
      | zero => rw [Cursor.advance,found] at member; cases member
      | succ k =>
        rw [Nat.add_comm,Cursor.advance_add,advance_one after] at member
        exact ih rfl k member

end Expr

/-- A pattern for bytes is found if the bytes that it needs are there and a match ends somewhere. -/
theorem isFoundIn_bytes_iff {p : Pattern} {bytes : Bytes} (forBytes : p.text = false) : p.isFoundIn bytes = true ↔
    p.expr.needs.Sublist bytes ∧ ∃ n d, d ∈ p.expr.ends ((Cursor.start bytes).advance n) := by
  rw [← Expr.findFrom_isSome_iff (c:=.start bytes) rfl,isFoundIn,find?,forBytes]
  by_cases needed : p.expr.needs.isSublist bytes = true
  · rw [if_pos needed]
    exact ⟨fun found => ⟨List.isSublist_iff_sublist.mp needed,found⟩,fun found => found.2⟩
  · rw [if_neg needed]
    exact ⟨nofun,fun found => absurd (List.isSublist_iff_sublist.mpr found.1) needed⟩

/-- A pattern compiles if it can be read, means something and is not too big. -/
theorem compile_eq_ok {forText : Bool} {source : String} {p : Pattern} : compile forText source = .ok p ↔
    ∃ s e, parse source = .ok s ∧ Expr.ofSyntax forText s = .ok e ∧ e.isTooBig = false ∧ p = ⟨source,forText,e⟩ := by
  constructor
  · intro compiled
    have compiled' := compiled
    unfold compile at compiled'
    obtain ⟨s,parsed,checked⟩ := bind_eq_ok.mp compiled'
    rw [if_neg (Nat.not_lt.mpr (parse_eq_ok_iff.mp parsed).2)] at checked
    obtain ⟨e,means,-⟩ : ∃ e, Expr.ofSyntax forText s = .ok e ∧ _ := bind_eq_ok.mp checked
    rw [compile_of_means parsed means] at compiled
    cases big : e.isTooBig with
    | true => rw [big] at compiled; cases compiled
    | false => rw [big] at compiled; cases compiled; exact ⟨s,e,parsed,means,big,rfl⟩
  · rintro ⟨s,e,parsed,means,small,rfl⟩
    rw [compile_of_means parsed means,if_neg (by simp [small])]

end TabCompletion.Pattern
