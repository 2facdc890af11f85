import Mathlib.Data.List.Basic
import Mathlib.Data.List.TakeWhile
import TabCompletion.Prompt

/-!
# White space at the start of patterns

`Prompt.trimBlank` takes a blank character or an escape for white space with its signs of repetition off
the start of a pattern, as often as there is one (`trims_trimBlank`), and nothing else (`Trims.trimBlank_eq`).
So it takes off the longest white space at the start (`Trims.exists_white`, `Trims.longest`), and white space
before a pattern makes no difference if a blank character ends it (`White.trimBlank_append`).
-/
namespace TabCompletion.Prompt

variable {c letter : Char} {cs rest : List Char}

theorem not_isBlank_of_meta (special : c ∈ Pattern.metaCharacters) : Text.isBlank c = false := by
  have each : Pattern.metaCharacters.all (!Text.isBlank ·) = true := by decide
  simpa using List.all_eq_true.mp each c special

theorem dropBlank_blank (blank : Text.isBlank c = true) (rest : List Char) : dropBlank (c :: rest) = dropBlank rest := by
  unfold dropBlank Text.trimStartChars
  rw [List.dropWhile_cons_of_pos blank]

theorem dropBlank_escape (white : letter ∈ blankEscapes) (rest : List Char) :
    dropBlank ('\\' :: letter :: rest) = rest.dropWhile repetitionSigns.contains := by
  have first : Text.trimStartChars ('\\' :: letter :: rest) = '\\' :: letter :: rest := rfl
  unfold dropBlank
  rw [first]
  exact if_pos (List.contains_iff_mem.mpr white)

theorem dropBlank_other (other : Text.isBlank c = false) (bare : c = '\\' → ∀ letter more, rest = letter :: more →
    letter ∉ blankEscapes) : dropBlank (c :: rest) = c :: rest := by
  have first : Text.trimStartChars (c :: rest) = c :: rest := by
    rw [Text.trimStartChars,List.dropWhile_cons_of_neg (by simp [other])]
  unfold dropBlank
  rw [first]
  split
  next letter more same =>
    obtain ⟨rfl,rfl⟩ := List.cons.inj same
    exact if_neg fun white => bare rfl letter more rfl (List.contains_iff_mem.mp white)
  next => rfl

/-- What stands at the start of a pattern: nothing to take off, a blank character or an escape. -/
theorem dropBlank_cases (cs : List Char) : dropBlank cs = cs ∨
    (∃ c rest, cs = c :: rest ∧ Text.isBlank c = true) ∨
    ∃ letter rest, cs = '\\' :: letter :: rest ∧ letter ∈ blankEscapes := by
  obtain _ | ⟨c,rest⟩ := cs
  · exact .inl rfl
  by_cases blank : Text.isBlank c = true
  · exact .inr (.inl ⟨c,rest,rfl,blank⟩)
  by_cases escape : c = '\\' ∧ ∃ letter more, rest = letter :: more ∧ letter ∈ blankEscapes
  · obtain ⟨rfl,letter,more,rfl,white⟩ := escape
    exact .inr (.inr ⟨letter,more,rfl,white⟩)
  · refine .inl (dropBlank_other (Bool.not_eq_true _ ▸ blank) fun slash letter more is white => ?_)
    exact escape ⟨slash,letter,more,is,white⟩

/-- A pass drops something from the start and nothing else. -/
theorem dropBlank_suffix (cs : List Char) : dropBlank cs <:+ cs := by
  induction cs with
  | nil => exact List.suffix_refl []
  | cons c rest ih =>
    rcases dropBlank_cases (c :: rest) with same | ⟨d,more,is,blank⟩ | ⟨letter,more,is,white⟩
    · simp only [same,List.suffix_refl]
    · obtain ⟨rfl,rfl⟩ := List.cons.inj is
      rw [dropBlank_blank blank]
      exact ih.trans (List.suffix_cons c rest)
    · rw [is,dropBlank_escape white]
      exact (List.dropWhile_suffix _).trans ((List.suffix_cons letter more).trans (List.suffix_cons '\\' _))

theorem trimBlank_bare (bare : dropBlank cs = cs) : trimBlank cs = cs := by
  rw [trimBlank,if_neg (by rw [bare]; exact Nat.lt_irrefl _)]

theorem trimBlank_escape (white : letter ∈ blankEscapes) (rest : List Char) :
    trimBlank ('\\' :: letter :: rest) = trimBlank (rest.dropWhile repetitionSigns.contains) := by
  have shorter := List.length_dropWhile_le repetitionSigns.contains rest
  rw [trimBlank,dropBlank_escape white,if_pos (by simp only [List.length_cons]; omega)]

theorem trimBlank_blank (blank : Text.isBlank c = true) (rest : List Char) : trimBlank (c :: rest) = trimBlank rest := by
  have shorter := (dropBlank_suffix rest).length_le
  have first : trimBlank (c :: rest) = trimBlank (dropBlank rest) := by
    rw [trimBlank,dropBlank_blank blank,if_pos (by rw [List.length_cons]; omega)]
  by_cases further : (dropBlank rest).length < rest.length
  · have again : trimBlank rest = trimBlank (dropBlank rest) := by rw [trimBlank,if_pos further]
    rw [first,again]
  · rw [first,(dropBlank_suffix rest).eq_of_length (by omega)]

/-- Taking white space off the start of a pattern, one blank character or one escape after the other. -/
inductive Trims : List Char → List Char → Prop where
  | done {cs : List Char} (bare : dropBlank cs = cs) : Trims cs cs
  | blank {c : Char} {rest cs : List Char} (blank : Text.isBlank c = true) (more : Trims rest cs) : Trims (c :: rest) cs
  | escape {letter : Char} {rest cs : List Char} (white : letter ∈ blankEscapes)
      (more : Trims (rest.dropWhile repetitionSigns.contains) cs) : Trims ('\\' :: letter :: rest) cs

theorem Trims.trimBlank_eq (trims : Trims cs rest) : trimBlank cs = rest := by
  induction trims with
  | done bare => exact trimBlank_bare bare
  | blank blank _ ih => rw [trimBlank_blank blank,ih]
  | escape white _ ih => rw [trimBlank_escape white,ih]

/-- This is what `trimBlank` does. -/
theorem trims_trimBlank (cs : List Char) : Trims cs (trimBlank cs) := by
  induction size : cs.length using Nat.strongRecOn generalizing cs with
  | ind bound ih =>
    rcases dropBlank_cases cs with bare | ⟨c,rest,rfl,blank⟩ | ⟨letter,rest,rfl,white⟩
    · rw [trimBlank_bare bare]
      exact .done bare
    · rw [trimBlank_blank blank]
      exact .blank blank (ih rest.length (by rw [← size,List.length_cons]; omega) rest rfl)
    · rw [trimBlank_escape white]
      have shorter := List.length_dropWhile_le repetitionSigns.contains rest
      exact .escape white (ih _ (by rw [← size,List.length_cons,List.length_cons]; omega) _ rfl)

/-! ## What is taken off -/

/-- White space as a pattern writes it: blank characters, and escapes with any signs of repetition. -/
inductive White : List Char → Prop where
  | nil : White []
  | blank {c : Char} {rest : List Char} (blank : Text.isBlank c = true) (more : White rest) : White (c :: rest)
  | escape {letter : Char} {signs rest : List Char} (white : letter ∈ ['n','r','t','s'])
      (repeats : ∀ sign ∈ signs, sign ∈ ['*','+','?']) (more : White rest) : White ('\\' :: letter :: (signs ++ rest))

/-- What begins neither with a blank character nor with an escape for white space. -/
structure Bare (cs : List Char) : Prop where
  noBlank : ∀ c ∈ cs.head?, Text.isBlank c = false
  noEscape : ∀ letter ∈ ['n','r','t','s'], ¬['\\',letter] <+: cs

/-- Rounds of a loop that takes white space off until a round finds none; `none` if they are not enough. -/
def trimWithin : Nat → List Char → Option (List Char)
  | 0, _ => none
  | rounds + 1, cs => if (dropBlank cs).length = cs.length then some cs else trimWithin rounds (dropBlank cs)

variable {white tail : List Char}

theorem not_isBlank_of_sign (sign : c ∈ repetitionSigns) : Text.isBlank c = false := by
  have special : repetitionSigns ⊆ Pattern.metaCharacters := by decide
  exact not_isBlank_of_meta (special sign)

theorem dropWhile_signs_append {signs : List Char} (repeats : ∀ sign ∈ signs, sign ∈ ['*','+','?']) (rest : List Char) :
    (signs ++ rest).dropWhile repetitionSigns.contains = rest.dropWhile repetitionSigns.contains :=
  List.dropWhile_append_of_pos fun sign member => List.contains_iff_mem.mpr (repeats sign member)

/-- White space does not begin with a sign of repetition. -/
theorem White.dropWhile_signs (space : White white) (nonempty : white ≠ []) (tail : List Char) :
    (white ++ tail).dropWhile repetitionSigns.contains = white ++ tail := by
  cases space with
  | nil => exact absurd rfl nonempty
  | blank blank more =>
    refine List.dropWhile_cons_of_neg fun sign => ?_
    rw [not_isBlank_of_sign (List.contains_iff_mem.mp sign)] at blank
    cases blank
  | escape => rfl

theorem White.start_dropWhile (space : White white) (tail : List Char) :
    white <+: (white ++ tail).dropWhile repetitionSigns.contains := by
  by_cases ends : white = []
  · rw [ends]
    exact List.nil_prefix
  · rw [space.dropWhile_signs ends]
    exact List.prefix_append white tail

/-- An escape does not end with a blank character. -/
theorem not_isBlank_of_escape {signs : List Char} (escape : letter ∈ ['n','r','t','s'])
    (repeats : ∀ sign ∈ signs, sign ∈ ['*','+','?']) : ∀ last ∈ ('\\' :: letter :: signs).getLast?, Text.isBlank last = false := by
  intro last ends
  have letters : ['n','r','t','s'].all (!Text.isBlank ·) = true := by decide
  rw [List.getLast?_cons_cons] at ends
  rcases List.mem_cons.mp (List.mem_of_getLast? ends) with rfl | sign
  · simpa using List.all_eq_true.mp letters last escape
  · exact not_isBlank_of_sign (repeats last sign)

/-- White space before a pattern is taken off, unless it ends with an escape that takes signs of repetition from
    the pattern. -/
theorem White.trimBlank_append (space : White white)
    (apart : (∃ sign ∈ tail.head?, sign ∈ repetitionSigns) → ∀ last ∈ white.getLast?, Text.isBlank last = true) :
    trimBlank (white ++ tail) = trimBlank tail := by
  induction space with
  | nil => rfl
  | @blank c rest blank more ih =>
    rw [List.cons_append,trimBlank_blank blank]
    refine ih fun sign last member => apart sign last ?_
    have ends : last ∈ ([c] ++ rest).getLast? := List.mem_getLast?_append_of_mem_getLast? member
    exact ends
  | @escape letter signs rest escape repeats more ih =>
    rw [List.cons_append,List.cons_append,List.append_assoc,trimBlank_escape escape,dropWhile_signs_append repeats]
    by_cases ends : rest = []
    · subst ends
      have unsigned : tail.dropWhile repetitionSigns.contains = tail := by
        cases tail with
        | nil => rfl
        | cons c tail =>
          refine List.dropWhile_cons_of_neg fun sign => ?_
          have blank := apart ⟨c,rfl,List.contains_iff_mem.mp sign⟩
          rw [List.append_nil] at blank
          have last := List.getLast?_eq_some_getLast (List.cons_ne_nil '\\' (letter :: signs))
          have other := not_isBlank_of_escape escape repeats _ last
          rw [blank _ last] at other
          cases other
      rw [List.nil_append,unsigned]
    · rw [more.dropWhile_signs ends]
      refine ih fun sign last member => apart sign last ?_
      have ends : last ∈ ('\\' :: letter :: signs ++ rest).getLast? := List.mem_getLast?_append_of_mem_getLast? member
      exact ends

theorem Trims.bare (trims : Trims cs rest) : dropBlank rest = rest := by
  induction trims with
  | done bare => exact bare
  | blank _ _ ih => exact ih
  | escape _ _ ih => exact ih

theorem Trims.exists_white (trims : Trims cs rest) : ∃ white, White white ∧ white ++ rest = cs := by
  induction trims with
  | done => exact ⟨[],.nil,rfl⟩
  | @blank c _ _ blank _ ih =>
    obtain ⟨white,space,whole⟩ := ih
    exact ⟨c :: white,.blank blank space,congrArg (c :: ·) whole⟩
  | @escape letter rest _ escape _ ih =>
    obtain ⟨white,space,whole⟩ := ih
    refine ⟨'\\' :: letter :: (rest.takeWhile repetitionSigns.contains ++ white),.escape escape ?_ space,?_⟩
    · intro sign member
      exact List.contains_iff_mem.mp (List.mem_takeWhile_imp member)
    · rw [List.cons_append,List.cons_append,List.append_assoc,whole,List.takeWhile_append_dropWhile]

theorem bare_of_dropBlank (bare : dropBlank cs = cs) : Bare cs where
  noBlank := by
    intro c first
    obtain ⟨rest,rfl⟩ := List.head?_eq_some_iff.mp first
    by_contra blank
    rw [Bool.not_eq_false] at blank
    rw [dropBlank_blank blank] at bare
    have shorter := (dropBlank_suffix rest).length_le
    rw [bare,List.length_cons] at shorter
    omega
  noEscape := by
    rintro letter escape ⟨rest,rfl⟩
    have shorter := List.length_dropWhile_le repetitionSigns.contains rest
    have same := congrArg List.length bare
    rw [List.cons_append,List.cons_append,List.nil_append,dropBlank_escape escape] at same
    simp only [List.length_cons] at same
    omega

theorem Trims.length_le (trims : Trims cs rest) : rest.length ≤ cs.length := by
  obtain ⟨white,-,rfl⟩ := trims.exists_white
  rw [List.length_append]
  omega

/-- No white space that is longer stands at the start. -/
theorem Trims.longest (trims : Trims cs rest) (space : White white) (start : white <+: cs) :
    white.length + rest.length ≤ cs.length := by
  induction trims generalizing white with
  | @done cs bare =>
    have bare := bare_of_dropBlank bare
    cases space with
    | nil => simp
    | @blank c more blank =>
      obtain ⟨after,rfl⟩ := start
      rw [bare.noBlank c rfl] at blank
      cases blank
    | @escape letter signs more escape =>
      exact absurd ((List.prefix_append _ (signs ++ more)).trans start) (bare.noEscape letter escape)
  | @blank c rest cs blank trims ih =>
    have shorter := trims.length_le
    cases space with
    | nil => simp only [List.length_nil,List.length_cons]; omega
    | blank _ more =>
      have := ih more (List.cons_prefix_cons.mp start).2
      simp only [List.length_cons]
      omega
    | escape =>
      rw [← (List.cons_prefix_cons.mp start).1] at blank
      exact absurd blank (by decide)
  | @escape letter rest cs escape trims ih =>
    cases space with
    | nil =>
      have shorter := trims.length_le
      have := List.length_dropWhile_le repetitionSigns.contains rest
      simp only [List.length_nil,List.length_cons]
      omega
    | blank blank =>
      rw [(List.cons_prefix_cons.mp start).1] at blank
      exact absurd blank (by decide)
    | @escape _ signs more _ repeats space =>
      obtain ⟨after,rfl⟩ := (List.cons_prefix_cons.mp (List.cons_prefix_cons.mp start).2).2
      rw [List.append_assoc,dropWhile_signs_append repeats] at ih
      have later := ih space (space.start_dropWhile after)
      have := List.length_dropWhile_le repetitionSigns.contains (more ++ after)
      simp only [List.length_cons,List.length_append] at later this ⊢
      omega

theorem trimWithin_eq (cs : List Char) (rounds : Nat) (enough : cs.length < rounds + (trimBlank cs).length) :
    trimWithin rounds cs = some (trimBlank cs) := by
  induction rounds generalizing cs with
  | zero =>
    have shorter := (trims_trimBlank cs).length_le
    omega
  | succ rounds ih =>
    have shorter := (dropBlank_suffix cs).length_le
    unfold trimWithin
    by_cases same : (dropBlank cs).length = cs.length
    · rw [if_pos same,trimBlank_bare ((dropBlank_suffix cs).eq_of_length same)]
    · have once : trimBlank cs = trimBlank (dropBlank cs) := by rw [trimBlank,if_pos (by omega)]
      rw [if_neg same,once]
      rw [once] at enough
      exact ih (dropBlank cs) (by omega)

/-- A backslash that is escaped begins no escape. -/
theorem trimBlank_slashes (rest : List Char) : trimBlank ('\\' :: '\\' :: rest) = '\\' :: '\\' :: rest := by
  refine trimBlank_bare (dropBlank_other rfl fun _ letter more same => ?_)
  rw [← (List.cons.inj same).1]
  decide

/-- What is taken off the start of a pattern is white space, and all that stands there: what is left begins with
    none, and there is nothing to take off it. White space that is put before a pattern is taken off with the
    pattern's own if it ends with a blank character, and up to a backslash that is escaped. -/
theorem trimming_takes_white_space :
    (∀ source : String, ∃ white : String, source = white ++ trimLeading source ∧ White white.toList ∧
      (∀ other : String, White other.toList → other.toList <+: source.toList → other.toList <+: white.toList) ∧
      Bare (trimLeading source).toList ∧
      trimLeading (trimLeading source) = trimLeading source ∧
      -- The loop ends: a round that goes on takes something off.
      ∀ rounds, white.length < rounds → trimWithin rounds source.toList = some (trimLeading source).toList) ∧
    (∀ white source : String, White white.toList → (∃ last ∈ white.toList.getLast?, Text.isBlank last = true) →
      trimLeading (white ++ source) = trimLeading source) ∧
    ∀ white source : String, White white.toList → trimLeading (white ++ "\\\\" ++ source) = "\\\\" ++ source := by
  refine ⟨fun source => ?_,fun white source space ⟨last,ends,blank⟩ => ?_,fun white source space => ?_⟩
  · have trims := trims_trimBlank source.toList
    obtain ⟨white,space,whole⟩ := trims.exists_white
    have left : (trimLeading source).toList = trimBlank source.toList := String.toList_ofList
    have length := congrArg List.length whole
    rw [List.length_append] at length
    refine ⟨String.ofList white,?_,?_,?_,?_,?_,?_⟩
    · rw [trimLeading,← String.ofList_append,whole,String.ofList_toList]
    · rwa [String.toList_ofList]
    · intro other otherSpace start
      have longest := trims.longest otherSpace start
      rw [String.toList_ofList]
      exact List.prefix_of_prefix_length_le start ⟨_,whole⟩ (by omega)
    · rw [left]
      exact bare_of_dropBlank trims.bare
    · rw [trimLeading,left,trimBlank_bare trims.bare,trimLeading]
    · intro rounds enough
      rw [left]
      refine trimWithin_eq source.toList rounds ?_
      rw [String.length_ofList] at enough
      omega
  · have apart : (∃ sign ∈ source.toList.head?, sign ∈ repetitionSigns) →
        ∀ other ∈ white.toList.getLast?, Text.isBlank other = true := by
      intro _ other same
      rw [Option.mem_unique same ends]
      exact blank
    rw [trimLeading,String.toList_append,space.trimBlank_append apart,trimLeading]
  · have apart : (∃ sign ∈ ('\\' :: '\\' :: source.toList).head?, sign ∈ repetitionSigns) →
        ∀ last ∈ white.toList.getLast?, Text.isBlank last = true := by
      rintro ⟨sign,⟨⟩,repeats⟩
      exact absurd repeats (by decide)
    have slashes : ("\\\\" ++ source).toList = '\\' :: '\\' :: source.toList := String.toList_append
    rw [trimLeading,String.append_assoc,String.toList_append,slashes,space.trimBlank_append apart,trimBlank_slashes,
      ← slashes,String.ofList_toList]

/-- The blank character after an escape keeps a sign of repetition from it. -/
theorem trimming_takes_separated :
    White "\\r?\\s*".toList ∧ "\\r?\\s*".toList <+: "\\r?\\s* fake> ".toList ∧
    (∃ white : String, "\\r?\\s* fake> " = white ++ trimLeading "\\r?\\s* fake> " ∧
      "\\r?\\s*".toList <+: white.toList ∧ white.length < white.length + 1 ∧
      trimWithin (white.length + 1) "\\r?\\s* fake> ".toList = some (trimLeading "\\r?\\s* fake> ").toList) ∧
    White "\\r?\\s* ".toList ∧ (∃ last ∈ "\\r?\\s* ".toList.getLast?, Text.isBlank last = true) ∧
    trimLeading ("\\r?\\s* " ++ "*fake> ") = trimLeading "*fake> " ∧
    trimLeading ("\\r?\\s*" ++ "\\\\" ++ "n> ") = "\\\\" ++ "n> " := by
  have escapes (rest : List Char) (space : White rest) : White ('\\' :: 'r' :: (['?'] ++ '\\' :: 's' :: (['*'] ++ rest))) :=
    .escape (by decide) (List.forall_mem_singleton.mpr (by decide))
      (.escape (by decide) (List.forall_mem_singleton.mpr (by decide)) space)
  have opened : White "\\r?\\s*".toList := escapes [] .nil
  have ended : White "\\r?\\s* ".toList := escapes [' '] (.blank (by decide) .nil)
  have start : "\\r?\\s*".toList <+: "\\r?\\s* fake> ".toList := by decide
  have last : ∃ last ∈ "\\r?\\s* ".toList.getLast?, Text.isBlank last = true := ⟨' ',by decide,by decide⟩
  obtain ⟨taken,separated,slashes⟩ := trimming_takes_white_space
  obtain ⟨white,whole,-,longest,-,-,ends⟩ := taken "\\r?\\s* fake> "
  exact ⟨opened,start,⟨white,whole,longest _ opened start,Nat.lt_succ_self _,ends _ (Nat.lt_succ_self _)⟩,ended,last,
    separated _ _ ended last,slashes _ _ opened⟩

end TabCompletion.Prompt
