import TabCompletion.Proofs.FixtureShell.Completion

/-!
# What TAB inserts is certain

TAB inserts a word only if the candidates for it leave no choice (`Inserts`): there is just one, or all of
them go on in the same way after what was typed. `complete_certain` says this of every line and keyspace,
and that nothing that was typed is lost but the case of its letters.
-/
namespace TabCompletion.FixtureShell

variable {line head typed after : List Char} {output : Bytes} {candidates : List (List Char)} {done : Completion}

/-- The last word of a line: what was typed after its last space. -/
structure LastWord (line head typed : List Char) : Prop where
  whole : head ++ typed = line
  noSpace : ' ' ∉ typed
  afterSpace : head = [] ∨ head.getLast? = some ' '

theorem exists_lastWord (line : List Char) :
    ∃ head typed, splitLine line = (head, typed) ∧ LastWord line head typed := by
  obtain ⟨head,typed,splits,whole,noSpace⟩ := splitLine_eq line
  refine ⟨head,typed,splits,whole,noSpace,?_⟩
  have last : line.reverse.takeWhile (· != ' ') = typed.reverse :=
    List.reverse_eq_iff.mp (Prod.mk.inj splits).2
  have parts : line.reverse.takeWhile (· != ' ') ++ line.reverse.dropWhile (· != ' ') = typed.reverse ++ head.reverse := by
    rw [List.takeWhile_append_dropWhile,← whole,List.reverse_append]
  have before : line.reverse.dropWhile (· != ' ') = head.reverse := by
    rw [last] at parts
    exact List.append_cancel_left parts
  have space := List.head?_dropWhile_not (· != ' ') line.reverse
  rw [before,List.head?_reverse] at space
  cases ends : head.getLast? with
  | none => exact .inl (List.getLast?_eq_none_iff.mp ends)
  | some c =>
    rw [ends] at space
    exact .inr (congrArg some (by simpa using space))

/-- A word that is inserted, and the line after it: the only candidate and a space, or the longest start of
    several candidates if it is longer than what was typed. Hints are never inserted. -/
inductive Inserts (head typed : List Char) (candidates : List (List Char)) : List Char → List Char → Prop where
  | only {word : List Char} (one : candidates = [word]) (noHint : isHint word = false) :
      Inserts head typed candidates word (head ++ word ++ [' '])
  | common {start : List Char} (several : 2 ≤ candidates.length) (noHint : ∀ w ∈ candidates, isHint w = false)
      (longest : LongestStart candidates start) (longer : typed.length < start.length) :
      Inserts head typed candidates start (head ++ start)

theorem Inserts.ne_nil {word : List Char} (inserts : Inserts head typed candidates word after) : candidates ≠ [] := by
  rintro rfl
  cases inserts with
  | only one => cases one
  | common several => exact absurd several (by decide)

/-- A hint among the candidates is a choice. -/
theorem Inserts.noHint {word : List Char} (inserts : Inserts head typed candidates word after) :
    ∀ w ∈ candidates, isHint w = false := by
  cases inserts with
  | only one noHint =>
    subst one
    exact List.forall_mem_singleton.mpr noHint
  | common several noHint => exact noHint

theorem Inserts.longer {word : List Char} (inserts : Inserts head typed candidates word after)
    (several : 1 < candidates.length) : typed.length < (commonStart candidates).length := by
  cases inserts with
  | only one =>
    subst one
    exact absurd several (Nat.lt_irrefl 1)
  | common _ _ longest longer => rwa [longest.unique (longestStart_commonStart (List.ne_nil_of_length_pos (by omega)))] at longer

/-- An inserted word is typed completely and in line with all candidates, and so is the line after it. -/
theorem Inserts.extends {word : List Char} (inserts : Inserts head typed candidates word after)
    (each : ∀ w ∈ candidates, BeginsAs w typed) :
    (head ++ typed).length < after.length ∧ BeginsAs after (head ++ typed) ∧ ∀ w ∈ candidates, BeginsAs w word := by
  cases inserts with
  | only one noHint =>
    subst one
    have begins : BeginsAs word typed := each word List.mem_cons_self
    refine ⟨?_,?_,List.forall_mem_singleton.mpr (beginsAs_of_isPrefix (List.prefix_refl word))⟩
    · have := begins.length_le
      simp only [List.length_append,List.length_singleton]
      omega
    · rw [List.append_assoc,beginsAs_append_iff]
      exact (beginsAs_of_isPrefix (List.prefix_append word [' '])).trans begins
  | common several noHint longest longer =>
    refine ⟨?_,beginsAs_append_iff.mpr ?_,longest.ofEach⟩
    · simp only [List.length_append]
      omega
    · have nonempty : candidates ≠ [] := List.ne_nil_of_length_pos (by omega)
      obtain ⟨first,others,rfl⟩ := List.exists_cons_of_ne_nil nonempty
      rw [longest.unique (longestStart_commonStart nonempty)]
      exact beginsAs_commonStart_iff.mpr each

theorem Completes.inserts (completes : Completes head typed candidates (.insert output after)) :
    ∃ word, Inserts head typed candidates word after := by
  cases completes with
  | @only word one noHint => exact ⟨word,List.append_assoc head word [' '] ▸ .only one noHint⟩
  | common several noHint longer =>
    have nonempty : candidates ≠ [] := List.ne_nil_of_length_pos (Nat.lt_of_succ_lt several)
    exact ⟨_,.common several noHint (longestStart_commonStart nonempty) longer⟩

theorem Completes.eq_nothing_iff (completes : Completes head typed candidates done) : done = .nothing ↔ candidates = [] := by
  cases completes with
  | nothing empty => exact iff_of_true rfl empty
  | only one => exact iff_of_false nofun (one ▸ List.cons_ne_nil _ _)
  | common several => exact iff_of_false nofun (List.ne_nil_of_length_pos (Nat.lt_of_succ_lt several))
  | hints hinted =>
    obtain ⟨w,among,-⟩ := hinted
    exact iff_of_false nofun (List.ne_nil_of_mem among)
  | undecided several => exact iff_of_false nofun (List.ne_nil_of_length_pos (Nat.lt_of_succ_lt several))

theorem Completes.exists_insert_iff (completes : Completes head typed candidates done) :
    (∃ output after, done = .insert output after) ↔ ∃ word after, Inserts head typed candidates word after := by
  constructor
  · rintro ⟨output,after,rfl⟩
    obtain ⟨word,inserts⟩ := completes.inserts
    exact ⟨word,after,inserts⟩
  · rintro ⟨word,after,inserts⟩
    cases completes with
    | nothing empty => exact absurd empty inserts.ne_nil
    | only => exact ⟨_,_,rfl⟩
    | common => exact ⟨_,_,rfl⟩
    | hints hinted =>
      obtain ⟨w,among,hint⟩ := hinted
      rw [inserts.noHint w among] at hint
      cases hint
    | undecided several noHint notLonger => exact absurd (inserts.longer several) notLonger

theorem Completes.eq_ambiguous_iff (completes : Completes head typed candidates done) :
    done = .ambiguous candidates ↔ candidates ≠ [] ∧ ¬∃ word after, Inserts head typed candidates word after := by
  rw [← completes.exists_insert_iff,ne_eq,← completes.eq_nothing_iff]
  cases completes <;> simp [replaceWord]

/-- On every line TAB does nothing just if there are no candidates for its last word, inserts a word just if
    they leave no choice, and otherwise has all of them to choose from. A word that it inserts makes the line
    longer and keeps what was typed but for the case of its letters, and every candidate begins with it. -/
theorem complete_certain (line keyspace : List Char) :
    ∃ head typed, LastWord line head typed ∧
      let candidates := (candidatesAfter (Text.wordsChars head) keyspace).filter (BeginsAs · typed)
      (complete line keyspace = .nothing ↔ candidates = []) ∧
      ((∃ output after, complete line keyspace = .insert output after) ↔
        ∃ word after, Inserts head typed candidates word after) ∧
      (complete line keyspace = .ambiguous candidates ↔
        candidates ≠ [] ∧ ¬∃ word after, Inserts head typed candidates word after) ∧
      ∀ output after, complete line keyspace = .insert output after →
        ∃ word, Inserts head typed candidates word after ∧ line.length < after.length ∧ BeginsAs after line ∧
          ∀ w ∈ candidates, BeginsAs w word := by
  obtain ⟨head,typed,splits,lastWord⟩ := exists_lastWord line
  have completes := complete_completes splits keyspace
  have same : candidatesFor head typed keyspace =
      (candidatesAfter (Text.wordsChars head) keyspace).filter (BeginsAs · typed) := by
    simp only [candidatesFor,← beginsIgnoringCase_iff,Bool.decide_eq_true]
  rw [same] at completes
  refine ⟨head,typed,lastWord,completes.eq_nothing_iff,completes.exists_insert_iff,completes.eq_ambiguous_iff,?_⟩
  intro output after inserted
  rw [inserted] at completes
  obtain ⟨word,inserts⟩ := completes.inserts
  have each := inserts.extends fun w member => of_decide_eq_true (List.mem_filter.mp member).2
  rw [lastWord.whole] at each
  exact ⟨word,inserts,each⟩

end TabCompletion.FixtureShell
