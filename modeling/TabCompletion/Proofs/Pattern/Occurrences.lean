import TabCompletion.Proofs.Pattern.Spelling

/-!
# Occurrences of words

A word that stands somewhere in bytes has a first place there (`exists_firstAt_iff`), so a pattern that
spells a word is found just where the bytes contain it (`isFoundIn_iff`). What is split off at the first
place is the shortest start of the bytes that ends with the word (`shortestThrough_of_split`).
-/
namespace TabCompletion.Pattern

variable {p : Pattern} {word bytes upTo after : Bytes}

/-- A word stands somewhere just if it stands somewhere first. -/
theorem exists_firstAt_iff : (∃ n, FirstAt word bytes n) ↔ word <:+: bytes := by
  induction bytes with
  | nil =>
    rw [List.infix_nil]
    constructor
    · rintro ⟨n,first⟩
      have here := first.here
      rw [List.drop_nil] at here
      exact List.prefix_nil.mp here
    · rintro rfl
      exact ⟨0,.start List.nil_prefix⟩
  | cons b rest ih =>
    rw [List.infix_cons_iff]
    by_cases here : word <+: b :: rest
    · exact ⟨fun _ => .inl here,fun _ => ⟨0,.start here⟩⟩
    constructor
    · rintro ⟨n,first⟩
      obtain ⟨k,-,later⟩ := (FirstAt.cons_iff here).mp first
      exact .inr (ih.mp ⟨k,later⟩)
    · intro somewhere
      obtain ⟨k,later⟩ := ih.mpr (somewhere.resolve_left here)
      exact ⟨k + 1,(FirstAt.cons_iff here).mpr ⟨k,rfl,later⟩⟩

/-- The bytes after a place do not matter for what stands before them. -/
theorem FirstAt.of_append {n : Nat} {more : Bytes} (first : FirstAt word (bytes ++ more) n)
    (fits : n + word.length ≤ bytes.length) : FirstAt word bytes n where
  here := by
    have here := first.here
    rw [List.drop_append_of_le_length (by omega)] at here
    exact List.prefix_of_prefix_length_le here (List.prefix_append _ _) (by rw [List.length_drop]; omega)
  first := fun m before there => by
    refine first.first m before ?_
    rw [List.drop_append_of_le_length (by omega)]
    exact there.trans (List.prefix_append _ _)

/-- A start of the bytes that ends with the word, and no shorter one does. -/
structure ShortestThrough (word bytes upTo : Bytes) : Prop where
  inside : upTo <+: bytes
  through : word <:+ upTo
  shortest : ∀ shorter, shorter <+: bytes → word <:+ shorter → upTo.length ≤ shorter.length

/-- Up to the end of its first place the bytes end with the word for the first time. -/
theorem FirstAt.shortestThrough {lead : Bytes} (first : FirstAt word bytes lead.length)
    (whole : bytes = lead ++ word ++ after) : ShortestThrough word bytes (lead ++ word) where
  inside := ⟨after,whole.symm⟩
  through := List.suffix_append lead word
  shortest := by
    rintro shorter ⟨more,rest⟩ ⟨earlier,ends⟩
    by_contra longer
    have lengths : earlier.length + word.length = shorter.length := by rw [← ends,List.length_append]
    rw [List.length_append] at longer
    have before : earlier.length < lead.length := by omega
    have there : word <+: bytes.drop earlier.length := by
      rw [← rest,← ends,List.append_assoc,List.drop_left]
      exact List.prefix_append word more
    exact first.first earlier.length before there

/-- A pattern that spells a word is found in the bytes that contain it, and nowhere else. -/
theorem isFoundIn_iff (spells : p.expr.Spells word) (begins : Begins p.text word) :
    p.isFoundIn bytes = true ↔ word <:+: bytes := by
  rw [← exists_firstAt_iff,isFoundIn,Option.isSome_iff_exists]
  constructor
  · rintro ⟨⟨i,j⟩,found⟩
    exact ⟨i,((find?_eq_some_iff spells begins).mp found).1⟩
  · rintro ⟨n,first⟩
    exact ⟨(n, n + word.length),(find?_eq_some_iff spells begins).mpr ⟨first,rfl⟩⟩

theorem splitAfter?_eq_none_iff (spells : p.expr.Spells word) (begins : Begins p.text word) :
    p.splitAfter? bytes = none ↔ ¬word <:+: bytes := by
  rw [← isFoundIn_iff spells begins,splitAfter?,Option.map_eq_none_iff,isFoundIn,Bool.not_eq_true,
    Option.isSome_eq_false_iff,Option.isNone_iff_eq_none]

/-- A split goes through the word for the first time, also with more bytes after those that were split. -/
theorem shortestThrough_of_split (spells : p.expr.Spells word) (begins : Begins p.text word)
    (split : p.splitAfter? bytes = some (upTo, after)) (more : Bytes) : ShortestThrough word (bytes ++ more) upTo := by
  obtain ⟨lead,first,rfl,whole⟩ := (splitAfter?_eq_some_iff spells begins).mp split
  have longer : bytes ++ more = lead ++ word ++ (after ++ more) := by rw [whole,List.append_assoc]
  exact (first.append more).shortestThrough longer

end TabCompletion.Pattern
