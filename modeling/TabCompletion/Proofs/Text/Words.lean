import Mathlib.Data.List.DropRight
import Mathlib.Data.List.Infix
import TabCompletion.Text.Lines

/-!
# Words and lines of text

Blank characters separate words wherever they are, so the words of texts that are joined by blanks are
the words of each (`wordsChars_intercalate`), and the blanks at both ends do not count
(`wordsChars_trimChars`). A line break ends the line before it (`linesChars_append_break`).
-/
namespace TabCompletion.Text

variable {c b : Char} {cs xs ys : List Char}

-- Unfolding `isBlank` into its ranges is what makes the generated equations of `wordsChars` slow.
attribute [local irreducible] isBlank in
theorem wordsChars_cons (c : Char) (rest : List Char) : wordsChars (c :: rest) =
    if isBlank c then wordsChars rest
    else
      match rest with
      | [] => [[c]]
      | d :: more =>
        if isBlank d then [c] :: wordsChars (d :: more)
        else
          match wordsChars (d :: more) with
          | [] => [[c]]
          | w :: ws => (c :: w) :: ws := by
  cases rest <;> rfl

theorem wordsChars_blank (blank : isBlank b = true) : wordsChars (b :: ys) = wordsChars ys := by
  rw [wordsChars_cons,if_pos blank]

theorem wordsChars_single (other : ¬isBlank c = true) : wordsChars [c] = [[c]] := by
  rw [wordsChars_cons,if_neg other]

/-- A blank ends a word of one character. -/
theorem wordsChars_before_blank (other : ¬isBlank c = true) (blank : isBlank b = true) :
    wordsChars (c :: b :: ys) = [c] :: wordsChars (b :: ys) := by
  rw [wordsChars_cons,if_neg other]
  exact if_pos blank

/-- Two characters that are not blank are in one word. -/
theorem wordsChars_in_word (other : ¬isBlank c = true) (next : ¬isBlank b = true) {w : List Char} {ws : List (List Char)}
    (rest : wordsChars (b :: ys) = w :: ws) : wordsChars (c :: b :: ys) = (c :: w) :: ws := by
  rw [wordsChars_cons,if_neg other]
  dsimp only
  rw [if_neg next,rest]

theorem wordsChars_ne_nil (other : ¬isBlank c = true) : wordsChars (c :: cs) ≠ [] := by
  cases cs with
  | nil => rw [wordsChars_single other]; exact List.cons_ne_nil _ _
  | cons d more =>
    by_cases next : isBlank d = true
    · rw [wordsChars_before_blank other next]; exact List.cons_ne_nil _ _
    · rw [wordsChars_cons,if_neg other]
      dsimp only
      rw [if_neg next]
      split <;> exact List.cons_ne_nil _ _

/-- A blank separates the words before it from the words after it. -/
theorem wordsChars_append_blank (blank : isBlank b = true) : wordsChars (xs ++ b :: ys) = wordsChars xs ++ wordsChars ys := by
  induction xs using wordsChars.induct with
  | case1 => exact wordsChars_blank blank
  | case2 c rest first ih => rw [List.cons_append,wordsChars_blank first,wordsChars_blank first,ih]
  | case3 c other =>
    rw [List.singleton_append,wordsChars_before_blank other blank,wordsChars_blank blank,wordsChars_single other]
    rfl
  | case4 c other d more next ih =>
    rw [List.cons_append,List.cons_append,wordsChars_before_blank other next,wordsChars_before_blank other next,
      ← List.cons_append,ih]
    rfl
  | case5 c other d more next noWords => exact absurd noWords (wordsChars_ne_nil next)
  | case6 c other d more next w ws split ih =>
    rw [split] at ih
    rw [wordsChars_in_word other next split]
    exact wordsChars_in_word other next ih

/-- The words of a text are made of its characters. -/
theorem of_mem_wordsChars {w : List Char} (word : w ∈ wordsChars cs) (member : c ∈ w) : c ∈ cs := by
  induction cs using wordsChars.induct generalizing w with
  | case1 => cases word
  | case2 b rest first ih =>
    rw [wordsChars_blank first] at word
    exact List.mem_cons_of_mem _ (ih word member)
  | case3 b other =>
    rw [wordsChars_single other] at word
    rw [List.mem_singleton.mp word] at member
    exact member
  | case4 b other d more next ih =>
    rw [wordsChars_before_blank other next] at word
    rcases List.mem_cons.mp word with rfl | word
    · exact List.mem_cons.mpr (.inl (List.mem_singleton.mp member))
    · exact List.mem_cons_of_mem _ (ih word member)
  | case5 b other d more next noWords => exact absurd noWords (wordsChars_ne_nil next)
  | case6 b other d more next v vs split ih =>
    rw [split] at ih
    rw [wordsChars_in_word other next split] at word
    rcases List.mem_cons.mp word with rfl | word
    · rcases List.mem_cons.mp member with rfl | member
      · exact List.mem_cons_self
      · exact List.mem_cons_of_mem _ (ih List.mem_cons_self member)
    · exact List.mem_cons_of_mem _ (ih (List.mem_cons_of_mem _ word) member)

theorem wordsChars_trimStartChars : wordsChars (trimStartChars cs) = wordsChars cs := by
  induction cs with
  | nil => rfl
  | cons c rest ih =>
    by_cases blank : isBlank c = true
    · rw [wordsChars_blank blank,← ih]
      simp [trimStartChars,blank]
    · simp [trimStartChars,blank]

theorem wordsChars_append_blanks (blanks : ∀ c ∈ ys, isBlank c = true) : wordsChars (xs ++ ys) = wordsChars xs := by
  induction ys generalizing xs with
  | nil => rw [List.append_nil]
  | cons b rest ih =>
    obtain ⟨first,others⟩ := List.forall_mem_cons.mp blanks
    have noWords : wordsChars ([] ++ rest) = wordsChars [] := ih others
    rw [List.nil_append] at noWords
    rw [wordsChars_append_blank first,noWords]
    exact List.append_nil _

theorem wordsChars_trimEndChars : wordsChars (trimEndChars cs) = wordsChars cs := by
  have whole : trimEndChars cs ++ (cs.reverse.takeWhile isBlank).reverse = cs := by
    rw [trimEndChars,← List.reverse_append,List.takeWhile_append_dropWhile,List.reverse_reverse]
  have blanks : ∀ c ∈ (cs.reverse.takeWhile isBlank).reverse, isBlank c = true := fun c member =>
    List.all_eq_true.mp List.all_takeWhile c (List.mem_reverse.mp member)
  rw [← wordsChars_append_blanks blanks,whole]

theorem wordsChars_trimChars : wordsChars (trimChars cs) = wordsChars cs := by
  rw [trimChars,wordsChars_trimEndChars,wordsChars_trimStartChars]

theorem isBlank_of_wordsChars_eq_nil (noWords : wordsChars cs = []) (member : c ∈ cs) : isBlank c = true := by
  induction cs with
  | nil => cases member
  | cons b rest ih =>
    by_cases blank : isBlank b = true
    · rw [wordsChars_blank blank] at noWords
      rcases List.mem_cons.mp member with rfl | member
      · exact blank
      · exact ih noWords member
    · exact absurd noWords (wordsChars_ne_nil blank)

/-- What is left of a text without the blanks at its ends has all other characters. -/
theorem trimChars_ne_nil (member : c ∈ cs) (other : ¬isBlank c = true) : trimChars cs ≠ [] := by
  intro empty
  have noWords : wordsChars cs = [] := by rw [← wordsChars_trimChars,empty]; rfl
  exact other (isBlank_of_wordsChars_eq_nil noWords member)

theorem begins_trimChars : trimChars cs <+: trimStartChars cs := List.rdropWhile_prefix isBlank (trimStartChars cs)

theorem mem_of_mem_trimChars (member : c ∈ trimChars cs) : c ∈ cs :=
  (List.dropWhile_suffix isBlank).subset (begins_trimChars.subset member)

/-- Without the blanks at its ends, a text has none there. -/
theorem trimChars_trimChars : trimChars (trimChars cs) = trimChars cs := by
  have start : trimStartChars (trimChars cs) = trimChars cs := by
    refine List.dropWhile_eq_self_iff.mpr fun positive => ?_
    have first := begins_trimChars.getElem positive
    have other := List.dropWhile_eq_self_iff.mp (List.dropWhile_idempotent (p:=isBlank) (l:=cs))
    rw [first]
    exact other (Nat.lt_of_lt_of_le positive begins_trimChars.length_le)
  have ends : trimEndChars (trimChars cs) = trimChars cs := List.rdropWhile_idempotent isBlank (trimStartChars cs)
  rw [trimChars,start,ends]

theorem trimChars_eq_nil_iff : trimChars cs = [] ↔ cs.all isBlank = true := by
  constructor
  · intro empty
    rw [List.all_eq_true]
    intro c member
    by_contra other
    exact trimChars_ne_nil member other empty
  · intro blank
    rw [trimChars,trimStartChars_eq_nil blank]
    rfl

theorem trim_eq_empty_iff {s : String} : trim s = "" ↔ isBlankText s = true := by
  rw [← String.toList_eq_nil_iff,trim,String.toList_ofList]
  exact trimChars_eq_nil_iff

theorem trim_trim (s : String) : trim (trim s) = trim s := by
  rw [trim,trim,String.toList_ofList,trimChars_trimChars]

theorem words_trim (s : String) : words (trim s) = words s := by
  rw [words,trim,String.toList_ofList,wordsChars_trimChars,words]

theorem words_eq_nil {s : String} (blank : isBlankText s = true) : words s = [] := by
  rw [← words_trim,trim_eq_empty_iff.mpr blank]
  rfl

/-- A text that is not blank has a word. -/
theorem words_ne_nil {s : String} (nonblank : ¬isBlankText s = true) : words s ≠ [] := by
  intro noWords
  refine nonblank (List.all_eq_true.mpr fun c member => ?_)
  exact isBlank_of_wordsChars_eq_nil (List.map_eq_nil_iff.mp noWords) member

/-- The words of texts with blanks between them are the words of each. -/
theorem wordsChars_intercalate (texts : List (List Char)) :
    wordsChars ("  ".toList.intercalate texts) = texts.flatMap wordsChars := by
  have blank : isBlank ' ' = true := by decide
  induction texts with
  | nil => rfl
  | cons first rest ih =>
    cases rest with
    | nil => simp [List.intercalate]
    | cons next rest =>
      have joined : "  ".toList.intercalate (first :: next :: rest) =
          first ++ ' ' :: ' ' :: "  ".toList.intercalate (next :: rest) := by simp [List.intercalate]
      rw [joined,wordsChars_append_blank blank,wordsChars_blank blank,ih,List.flatMap_cons (x:=first)]

/-- The characters of texts with a separator between them are those of the separator and of the texts. -/
theorem of_mem_intercalate {sep : List Char} {texts : List (List Char)} (member : c ∈ sep.intercalate texts) :
    c ∈ sep ∨ ∃ text ∈ texts, c ∈ text := by
  induction texts with
  | nil => simp [List.intercalate] at member
  | cons first rest ih =>
    cases rest with
    | nil => exact .inr ⟨first,List.mem_cons_self,by simpa [List.intercalate] using member⟩
    | cons next rest =>
      rw [List.intercalate_cons_cons,List.mem_append,List.mem_append] at member
      rcases member with (here | between) | later
      · exact .inr ⟨first,List.mem_cons_self,here⟩
      · exact .inl between
      · exact (ih later).imp_right fun ⟨text,among,inside⟩ => ⟨text,List.mem_cons_of_mem _ among,inside⟩

theorem mem_intercalate {sep text : List Char} {texts : List (List Char)} (among : text ∈ texts) (member : c ∈ text) :
    c ∈ sep.intercalate texts := by
  induction texts with
  | nil => cases among
  | cons first rest ih =>
    cases rest with
    | nil =>
      obtain rfl := List.mem_singleton.mp among
      simpa [List.intercalate] using member
    | cons next rest =>
      rw [List.intercalate_cons_cons,List.mem_append,List.mem_append]
      rcases List.mem_cons.mp among with rfl | among
      · exact .inl (.inl member)
      · exact .inr (ih among)

/-! ## Lines -/

/-- Neither character of a line break is among them. -/
def InLine (cs : List Char) : Prop := ∀ c ∈ cs, c ≠ '\r' ∧ c ≠ '\n'

theorem linesChars_cons (notReturn : c ≠ '\r') (notFeed : c ≠ '\n') : linesChars (c :: cs) =
    match linesChars cs with
    | [] => [[c]]
    | line :: more => (c :: line) :: more :=
  linesChars.eq_5 c cs (fun _ same _ => notReturn same) notReturn notFeed

/-- What begins with a line break ends the line before it. -/
theorem linesChars_append_ends {lines : List (List Char)} (inLine : InLine cs) (ends : linesChars xs = [] :: lines) :
    linesChars (cs ++ xs) = cs :: lines := by
  induction cs with
  | nil => exact ends
  | cons c rest ih =>
    obtain ⟨⟨notReturn,notFeed⟩,others⟩ := List.forall_mem_cons.mp inLine
    rw [List.cons_append,linesChars_cons notReturn notFeed,ih others]

theorem linesChars_append_break (inLine : InLine cs) : linesChars (cs ++ '\r' :: '\n' :: xs) = cs :: linesChars xs :=
  linesChars_append_ends inLine rfl

/-- A last line needs no line break. -/
theorem linesChars_inLine (inLine : InLine cs) (nonempty : cs ≠ []) : linesChars cs = [cs] := by
  induction cs with
  | nil => exact absurd rfl nonempty
  | cons c rest ih =>
    obtain ⟨⟨notReturn,notFeed⟩,others⟩ := List.forall_mem_cons.mp inLine
    rw [linesChars_cons notReturn notFeed]
    cases rest with
    | nil => rfl
    | cons d more => rw [ih others (List.cons_ne_nil d more)]

/-- No line has a character of a line break. -/
theorem inLine_of_mem_linesChars {line : List Char} (member : line ∈ linesChars cs) : InLine line := by
  have nothing : InLine [] := fun c inside => absurd inside List.not_mem_nil
  induction cs using linesChars.induct generalizing line with
  | case1 => cases member
  | case2 rest ih =>
    rcases List.mem_cons.mp member with rfl | later
    · exact nothing
    · exact ih later
  | case3 rest notPair ih =>
    rw [linesChars.eq_3 rest notPair] at member
    rcases List.mem_cons.mp member with rfl | later
    · exact nothing
    · exact ih later
  | case4 rest ih =>
    rcases List.mem_cons.mp member with rfl | later
    · exact nothing
    · exact ih later
  | case5 c rest notPair notReturn notFeed noLines ih =>
    rw [linesChars_cons notReturn notFeed,noLines] at member
    rw [List.mem_singleton.mp member]
    exact List.forall_mem_cons.mpr ⟨⟨notReturn,notFeed⟩,nothing⟩
  | case6 c rest notPair notReturn notFeed line more split ih =>
    rw [linesChars_cons notReturn notFeed,split] at member
    rw [split] at ih
    rcases List.mem_cons.mp member with rfl | later
    · exact List.forall_mem_cons.mpr ⟨⟨notReturn,notFeed⟩,ih List.mem_cons_self⟩
    · exact ih (List.mem_cons_of_mem _ later)

/-! ## Occurrences -/

/-- Where a piece does not occur, nothing is replaced. -/
theorem substitute_eq_self {α : Type} [BEq α] [LawfulBEq α] {piece by' whole : List α} (absent : ¬piece <:+: whole) :
    substitute piece by' whole = whole := by
  unfold substitute
  split
  · rfl
  induction whole with
  | nil => rfl
  | cons a rest ih =>
    have other : piece.isPrefixOf (a :: rest) = false := by
      rw [Bool.eq_false_iff]
      exact fun here => absent (List.isPrefixOf_iff_prefix.mp here).isInfix
    rw [substituteFrom,other]
    simp only [Bool.false_eq_true,if_false]
    rw [ih fun inside => absent (inside.trans (List.suffix_cons a rest).isInfix)]

/-- A pair that occurs in two lists is in one of them, or it ends the first and begins the second. -/
theorem pair_infix_append {α : Type} {a b : α} {whole rest : List α} (inside : [a,b] <:+: whole ++ rest) :
    [a,b] <:+: whole ∨ [a,b] <:+: rest ∨ [a] <:+ whole ∧ [b] <+: rest := by
  rcases List.infix_append_iff.mp inside with here | there | ⟨l,r,both,ends,begins⟩
  · exact .inl here
  · exact .inr (.inl there)
  rcases l with _ | ⟨x,_ | ⟨y,l⟩⟩
  · rw [List.nil_append] at both
    exact .inr (.inl (both ▸ begins.isInfix))
  · obtain ⟨rfl,rfl⟩ := List.cons_eq_cons.mp both
    exact .inr (.inr ⟨ends,begins⟩)
  · obtain ⟨rfl,more⟩ := List.cons_eq_cons.mp both
    obtain ⟨rfl,ended⟩ := List.cons_eq_cons.mp more
    obtain ⟨rfl,rfl⟩ := List.append_eq_nil_iff.mp ended.symm
    exact .inl ends.isInfix

theorem dropStart?_append {α : Type} [BEq α] [LawfulBEq α] (start rest : List α) :
    dropStart? start (start ++ rest) = some rest := by
  induction start with
  | nil => cases rest <;> rfl
  | cons a start ih => simpa [dropStart?] using ih

theorem dropStart?_eq_some_iff {α : Type} [BEq α] [LawfulBEq α] {start whole rest : List α} :
    dropStart? start whole = some rest ↔ start ++ rest = whole := by
  refine ⟨fun dropped => ?_,fun same => same ▸ dropStart?_append start rest⟩
  induction start generalizing whole with
  | nil => cases dropped; rfl
  | cons a start ih =>
    cases whole with
    | nil => cases dropped
    | cons b whole =>
      rw [dropStart?] at dropped
      split at dropped
      next same => rw [← eq_of_beq same,List.cons_append,ih dropped]
      next => cases dropped

end TabCompletion.Text
