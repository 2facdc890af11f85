import TabCompletion.Proofs.Pattern.Leading
import TabCompletion.Proofs.Prompt.Trimming

/-!
# White space at the start of a pattern, read

What `Prompt.trimBlank` takes off a pattern is read as parts for white space (`Blank`) at the start of its
first alternative (`reads_of_trims`), and none of them changes a flag (`Blank.keeps`).
-/
namespace TabCompletion.Prompt

open Pattern Pattern.Parse

/-- The syntax of white space: a blank character, the class of blanks, or a repetition of such a part. -/
inductive Blank : Syntax → Prop where
  | literal {c : Char} (blank : Text.isBlank c = true) : Blank (.literal ⟨c,false⟩)
  | shorthand : Blank (.shorthand .space false)
  | repetition {part : Syntax} {least : Nat} {greatest : Option Nat} {greedy : Bool} (blank : Blank part) :
      Blank (.repetition part least greatest greedy)

/-- From one text after the parts the reader comes to the other text after the other parts, with a move for
    a character or more. -/
def Reads (parts : List Syntax) (cs : List Char) (parts' : List Syntax) (cs' : List Char) : Prop :=
  ∃ n, n + cs'.length ≤ cs.length ∧ ∀ fuel,
    (body (n + fuel) false [] parts).run ⟨cs,false,[]⟩ = (body fuel false [] parts').run ⟨cs',false,[]⟩

variable {parts parts' parts'' : List Syntax} {c : Char} {cs cs' cs'' rest : List Char} {part : Syntax}

theorem Reads.refl (parts : List Syntax) (cs : List Char) : Reads parts cs parts cs :=
  ⟨0,by simp,fun fuel => by rw [Nat.zero_add]⟩

theorem Reads.trans (first : Reads parts cs parts' cs') (second : Reads parts' cs' parts'' cs'') :
    Reads parts cs parts'' cs'' := by
  obtain ⟨m,length,same⟩ := first
  obtain ⟨n,length',same'⟩ := second
  exact ⟨m + n,by omega,fun fuel => by rw [Nat.add_assoc,same,same']⟩

/-- A move that reads parts. -/
theorem reads_of_moveAt
    (moved : (moveAt false parts (some c)).run ⟨c :: rest,false,[]⟩ = .ok (.parts parts', ⟨cs,false,[]⟩))
    (shorter : cs.length ≤ rest.length) : Reads parts (c :: rest) parts' cs := by
  refine ⟨1,by rw [List.length_cons]; omega,fun fuel => ?_⟩
  have moves : (move false parts).run ⟨c :: rest,false,[]⟩ = .ok (.parts parts', ⟨cs,false,[]⟩) := moved
  rw [Nat.add_comm,body_succ,StateT.run_bind,moves]
  rfl

theorem reads_blank (blank : Text.isBlank c = true) (parts : List Syntax) (rest : List Char) :
    Reads parts (c :: rest) (.literal ⟨c,false⟩ :: parts) rest := by
  have plain : c ∉ metaCharacters := fun special => by simp [not_isBlank_of_meta special] at blank
  exact ⟨1,by simp [Nat.add_comm],fun fuel => by rw [Nat.add_comm,body_plain plain]⟩

theorem reads_letter {letter : Char} (white : letter ∈ blankEscapes) (parts : List Syntax) (rest : List Char) :
    ∃ part, Blank part ∧ Reads parts ('\\' :: letter :: rest) (part :: parts) rest := by
  have read {part : Syntax} (moved : (moveAt false parts (some '\\')).run ⟨'\\' :: letter :: rest,false,[]⟩ =
      .ok (.parts (part :: parts), ⟨rest,false,[]⟩)) : Reads parts ('\\' :: letter :: rest) (part :: parts) rest :=
    reads_of_moveAt moved (by simp)
  simp only [blankEscapes,List.mem_cons,List.not_mem_nil,or_false] at white
  rcases white with rfl | rfl | rfl | rfl
  · exact ⟨.literal ⟨'\n',false⟩,.literal rfl,read rfl⟩
  · exact ⟨.literal ⟨'\r',false⟩,.literal rfl,read rfl⟩
  · exact ⟨.literal ⟨'\t',false⟩,.literal rfl,read rfl⟩
  · exact ⟨.shorthand .space false,.shorthand,read rfl⟩

/-- A question mark after a sign of repetition belongs to it. -/
theorem run_greed (cs : List Char) (names : List String) : ∃ greedy left,
    greed.run ⟨cs,false,names⟩ = .ok (greedy, ⟨left,false,names⟩) ∧ (left = cs ∨ cs = '?' :: left) := by
  obtain _ | ⟨c,rest⟩ := cs
  · exact ⟨true,[],rfl,.inl rfl⟩
  by_cases mark : c = '?'
  · subst mark
    exact ⟨false,rest,rfl,.inr rfl⟩
  · refine ⟨true,c :: rest,?_,.inl rfl⟩
    have other : (some c == some '?') = false := by simpa using mark
    unfold greed
    simp only [StateT.run_bind,run_peek?,ok_bind,List.head?_cons,other]
    rfl

theorem repeated_blank (blank : Blank part) (parts : List Syntax) : repeated (part :: parts) = pure (part, parts) := by
  cases blank <;> rfl

theorem reads_sign (blank : Blank part) (sign : c ∈ repetitionSigns) (parts : List Syntax) (rest : List Char) :
    ∃ part' left, Blank part' ∧ Reads (part :: parts) (c :: rest) (part' :: parts) left ∧
      (left = rest ∨ rest = '?' :: left) := by
  obtain ⟨greedy,left,greeds,lefts⟩ := run_greed rest []
  have shorter : left.length ≤ rest.length := by
    rcases lefts with rfl | rfl
    · exact Nat.le_refl _
    · simp
  have read (least : Nat) (greatest : Option Nat) (moved : moveAt false (part :: parts) (some c) =
      operator least greatest (part :: parts) >>= fun parts => pure (.parts parts)) :
      Reads (part :: parts) (c :: rest) (.repetition part least greatest greedy :: parts) left := by
    refine reads_of_moveAt ?_ shorter
    rw [moved]
    unfold operator
    rw [repeated_blank blank]
    simp only [pure_bind,bind_assoc,StateT.run_bind,run_bump,ok_bind,greeds]
    rfl
  simp only [repetitionSigns,List.mem_cons,List.not_mem_nil,or_false] at sign
  rcases sign with rfl | rfl | rfl
  · exact ⟨_,left,.repetition blank,read 0 none rfl,lefts⟩
  · exact ⟨_,left,.repetition blank,read 1 none rfl,lefts⟩
  · exact ⟨_,left,.repetition blank,read 0 (some 1) rfl,lefts⟩

/-- All signs of repetition after white space repeat it. -/
theorem reads_signs (blank : Blank part) (parts : List Syntax) (cs : List Char) :
    ∃ part', Blank part' ∧ Reads (part :: parts) cs (part' :: parts) (cs.dropWhile repetitionSigns.contains) := by
  induction size : cs.length using Nat.strongRecOn generalizing cs part with
  | ind bound ih =>
    obtain _ | ⟨c,rest⟩ := cs
    · exact ⟨part,blank,.refl _ _⟩
    by_cases sign : c ∈ repetitionSigns
    -- A sign takes a question mark after it along, so the induction is on the length.
    · obtain ⟨part',left,blank',read,lefts⟩ := reads_sign blank sign parts rest
      have shorter : left.length < bound := by
        rw [← size]
        rcases lefts with rfl | rfl <;> simp only [List.length_cons] <;> omega
      obtain ⟨part'',blank'',further⟩ := ih left.length shorter blank' left rfl
      have same : (c :: rest).dropWhile repetitionSigns.contains = left.dropWhile repetitionSigns.contains := by
        rw [List.dropWhile_cons_of_pos (List.contains_iff_mem.mpr sign)]
        rcases lefts with rfl | rfl
        · rfl
        · exact List.dropWhile_cons_of_pos (by decide)
      exact ⟨part'',blank'',same ▸ read.trans further⟩
    · rw [List.dropWhile_cons_of_neg fun among => sign (List.contains_iff_mem.mp among)]
      exact ⟨part,blank,.refl _ _⟩

/-- What is taken off the start is read as parts for white space. -/
theorem reads_of_trims (trims : Trims cs rest) (parts : List Syntax) :
    ∃ old, (∀ part ∈ old, Blank part) ∧ Reads parts cs (old ++ parts) rest := by
  -- One more part for white space under those that are read after it.
  have under {part : Syntax} {parts : List Syntax} {cs cs' rest : List Char} (blank : Blank part)
      (read : Reads parts cs (part :: parts) cs')
      (more : ∃ old, (∀ part ∈ old, Blank part) ∧ Reads (part :: parts) cs' (old ++ part :: parts) rest) :
      ∃ old, (∀ part ∈ old, Blank part) ∧ Reads parts cs (old ++ parts) rest := by
    obtain ⟨old,blanks,further⟩ := more
    refine ⟨old ++ [part],List.forall_mem_append.mpr ⟨blanks,List.forall_mem_singleton.mpr blank⟩,?_⟩
    rw [List.append_assoc]
    exact read.trans further
  induction trims generalizing parts with
  | done _ => exact ⟨[],nofun,.refl _ _⟩
  | blank blank _ ih => exact under (.literal blank) (reads_blank blank parts _) (ih _)
  | escape white _ ih =>
    obtain ⟨part,blank,letter⟩ := reads_letter white parts _
    obtain ⟨part',blank',signs⟩ := reads_signs blank parts _
    exact under blank' (letter.trans signs) (ih _)

/-- Under the flags that a pattern begins with, white space changes no flag. -/
theorem Blank.keeps {part : Syntax} (blank : Blank part) : part.Keeps false {} := by
  induction blank with
  | literal => exact ⟨_,rfl⟩
  | shorthand => exact ⟨_,rfl⟩
  | @repetition part least greatest greedy _ ih =>
    obtain ⟨e,made⟩ := ih
    exact ⟨_,by rw [Expr.translate,made]; rfl⟩

end TabCompletion.Prompt
