import TabCompletion.Matching
import TabCompletion.Proofs.Document.Reading

/-!
# Results and outcomes as values

A completion result, a mismatch and the outcome of a match are unions in one another. Each alternative is read from
the fields it is written with (`CompletionResult.reads_toJson`, `MismatchDetail.reads_toJson`,
`MatchOutcome.reads_toJson`); of a mismatch only the sizes have to fit their type (`MatchOutcome.Fits`).
-/
namespace TabCompletion

namespace CompletionResult

theorem immediate_filled (text : String) :
    immediateRecord.Filled (fun seen => if "text" ∈ seen then some text else none) [("text", .str text)] where
  names := by decide
  listed := List.Sublist.refl _
  start := rfl
  put := by
    intro f member seen k same
    obtain rfl := List.mem_singleton.mp member
    simp [immediateRecord,reads_string text k same]

theorem listed_filled (tokens lines : List String) :
    listedRecord.Filled (fun seen => (if "tokens" ∈ seen then some tokens else none, if "lines" ∈ seen then some lines else none))
      [("tokens", .strs tokens),("lines", .strs lines)] where
  names := by decide
  listed := List.Sublist.refl _
  start := rfl
  put := by
    intro f member seen k same
    simp only [List.mem_cons,List.not_mem_nil,or_false] at member
    rcases member with rfl | rfl
    · simp [listedRecord,reads_strings tokens k same]
    · simp [listedRecord,reads_strings lines k same]

/-- Written and read again, a result is the same. -/
theorem reads_toJson (r : CompletionResult) : Reads CompletionResult.read r.toJson (.ok r) := by
  cases r with
  | immediate text =>
    refine reads_alternative (by simp) ((immediate_filled text).reads fun seen all => ?_)
    simp [immediateRecord,all,required]
  | listed tokens lines =>
    refine reads_alternative (by simp) ((listed_filled tokens.toList lines).reads fun seen all => ?_)
    simp [listedRecord,all,required,bind,Except.bind,pure,Except.pure]
  | empty =>
    refine reads_alternative (by simp) fun k same => ?_
    obtain ⟨others,rfl,-⟩ := Json.same_fields same
    rfl

end CompletionResult

namespace MismatchDetail

/-- The sizes are not too great for their type. -/
def Fits : MismatchDetail → Prop
  | wrongKind _ _ => True
  | immediate _ observedLength _ expectedLength => observedLength ≤ sizeLimit ∧ expectedLength ≤ sizeLimit
  | tokens observedCount expectedCount _ _ _ _ => observedCount ≤ sizeLimit ∧ expectedCount ≤ sizeLimit
  | lines observedCount expectedCount _ _ => observedCount ≤ sizeLimit ∧ expectedCount ≤ sizeLimit

theorem wrongKind_filled (expected : String) (observed : CompletionResult) :
    wrongKindRecord.Filled (fun seen => (if "expected" ∈ seen then some expected else none,
      if "observed" ∈ seen then some observed else none)) [("expected", .str expected),("observed", observed.toJson)] where
  names := by decide
  listed := List.Sublist.refl _
  start := rfl
  put := by
    intro f member seen k same
    simp only [List.mem_cons,List.not_mem_nil,or_false] at member
    rcases member with rfl | rfl
    · simp [wrongKindRecord,reads_string expected k same]
    · simp [wrongKindRecord,observed.reads_toJson k same]

/-- What was read of two texts when the fields in `seen` were. -/
def textsWithin (observed : String) (observedLength : Nat) (expected : String) (expectedLength : Nat) (seen : List String) :
    Texts where
  observed := if "observed" ∈ seen then some observed else none
  observedLength := if "observed_len" ∈ seen then some observedLength else none
  expected := if "expected" ∈ seen then some expected else none
  expectedLength := if "expected_len" ∈ seen then some expectedLength else none

theorem immediate_filled {observed expected : String} {observedLength expectedLength : Nat}
    (observedFits : observedLength ≤ sizeLimit) (expectedFits : expectedLength ≤ sizeLimit) :
    immediateRecord.Filled (textsWithin observed observedLength expected expectedLength)
      [("observed", .str observed),("observed_len", .nat observedLength),("expected", .str expected),
        ("expected_len", .nat expectedLength)] where
  names := by decide
  listed := List.Sublist.refl _
  start := rfl
  put := by
    intro f member seen k same
    simp only [List.mem_cons,List.not_mem_nil,or_false] at member
    rcases member with rfl | rfl | rfl | rfl
    · simp [immediateRecord,reads_string observed k same,textsWithin]
    · simp [immediateRecord,reads_nat observedFits k same,textsWithin]
    · simp [immediateRecord,reads_string expected k same,textsWithin]
    · simp [immediateRecord,reads_nat expectedFits k same,textsWithin]

namespace Lists

/-- The fields that are there, in declared order. -/
def fields (l : Lists) : List (String × Json) :=
  Json.optional "observed_count" (l.observedCount.map .nat) ++ Json.optional "expected_count" (l.expectedCount.map .nat) ++
    Json.optional "missing" (l.missing.map .strs) ++ Json.optional "unexpected" (l.unexpected.map .strs) ++
    Json.optional "observed" (l.observed.map .strs) ++ Json.optional "expected" (l.expected.map .strs)

/-- What was read of two lists when the fields in `seen` were. -/
def within (l : Lists) (seen : List String) : Lists where
  observedCount := if "observed_count" ∈ seen then l.observedCount else none
  expectedCount := if "expected_count" ∈ seen then l.expectedCount else none
  missing := if "missing" ∈ seen then l.missing else none
  unexpected := if "unexpected" ∈ seen then l.unexpected else none
  observed := if "observed" ∈ seen then l.observed else none
  expected := if "expected" ∈ seen then l.expected else none

variable {l : Lists}

/-- Each of the fields is read into its place. -/
theorem reads_put (observedFits : ∀ n ∈ l.observedCount, n ≤ sizeLimit) (expectedFits : ∀ n ∈ l.expectedCount, n ≤ sizeLimit) :
    ∀ f ∈ l.fields, ∀ seen, Reads (fun n => put f.1 n (l.within seen)) f.2 (.ok (l.within (f.1 :: seen))) := by
  intro f member seen k same
  simp only [fields,List.mem_append,mem_optional,Option.map_eq_some_iff] at member
  rcases member with ((((⟨_,⟨n,is,rfl⟩,rfl⟩ | ⟨_,⟨n,is,rfl⟩,rfl⟩) | ⟨_,⟨xs,is,rfl⟩,rfl⟩) | ⟨_,⟨xs,is,rfl⟩,rfl⟩) |
    ⟨_,⟨xs,is,rfl⟩,rfl⟩) | ⟨_,⟨xs,is,rfl⟩,rfl⟩
  · simp [put,reads_nat (observedFits n is) k same,within,is]
  · simp [put,reads_nat (expectedFits n is) k same,within,is]
  · simp [put,reads_strings xs k same,within,is]
  · simp [put,reads_strings xs k same,within,is]
  · simp [put,reads_strings xs k same,within,is]
  · simp [put,reads_strings xs k same,within,is]

/-- With all fields that are there, all is there. -/
theorem within_all {seen : List String} (all : ∀ name, name ∈ seen ↔ name ∈ l.fields.map (·.1)) : l.within seen = l := by
  simp only [fields,List.map_append,List.mem_append,mem_names_optional] at all
  obtain ⟨observedCount,expectedCount,missing,unexpected,observed,expected⟩ := l
  cases observedCount <;> cases expectedCount <;> cases missing <;> cases unexpected <;> cases observed <;> cases expected <;>
    simp [within,all]

end Lists

/-- The two token sets of a mismatch, with their sizes. -/
def tokenLists (observedCount expectedCount : Nat) (missing unexpected observed expected : TokenSet) : Lists :=
  ⟨some observedCount,some expectedCount,some missing.toList,some unexpected.toList,some observed.toList,
    some expected.toList⟩

/-- The two lists of lines of a mismatch, with their sizes. -/
def lineLists (observedCount expectedCount : Nat) (observed expected : List String) : Lists :=
  ⟨some observedCount,some expectedCount,none,none,some observed,some expected⟩

variable {observedCount expectedCount : Nat}

theorem tokens_filled (missing unexpected observed expected : TokenSet) (observedFits : observedCount ≤ sizeLimit)
    (expectedFits : expectedCount ≤ sizeLimit) :
    tokensRecord.Filled (tokenLists observedCount expectedCount missing unexpected observed expected).within
      (tokenLists observedCount expectedCount missing unexpected observed expected).fields where
  names := by decide
  listed := List.Sublist.refl _
  start := rfl
  put := Lists.reads_put (by simpa [tokenLists] using observedFits) (by simpa [tokenLists] using expectedFits)

theorem lines_filled (observed expected : List String) (observedFits : observedCount ≤ sizeLimit)
    (expectedFits : expectedCount ≤ sizeLimit) :
    linesRecord.Filled (lineLists observedCount expectedCount observed expected).within
      (lineLists observedCount expectedCount observed expected).fields where
  names := by decide
  listed := List.Sublist.refl _
  start := rfl
  put := Lists.reads_put (by simpa [lineLists] using observedFits) (by simpa [lineLists] using expectedFits)

/-- Written and read again, a detail is the same. -/
theorem reads_toJson {d : MismatchDetail} (fits : d.Fits) : Reads MismatchDetail.read d.toJson (.ok d) := by
  cases d with
  | wrongKind expected observed =>
    refine reads_alternative (by simp) ((wrongKind_filled expected observed).reads fun seen all => ?_)
    simp [wrongKindRecord,all,required,bind,Except.bind,pure,Except.pure]
  | immediate observed observedLength expected expectedLength =>
    refine reads_alternative (by simp) ((immediate_filled fits.1 fits.2).reads fun seen all => ?_)
    simp [immediateRecord,textsWithin,all,required,bind,Except.bind,pure,Except.pure]
  | tokens observedCount expectedCount missing unexpected observed expected =>
    have filled := tokens_filled missing unexpected observed expected fits.1 fits.2
    refine reads_alternative (by simp) (filled.reads fun seen all => ?_)
    rw [Lists.within_all all]
    simp [tokensRecord,tokenLists,required,bind,Except.bind,pure,Except.pure]
  | lines observedCount expectedCount observed expected =>
    refine reads_alternative (by simp) ((lines_filled observed expected fits.1 fits.2).reads fun seen all => ?_)
    rw [Lists.within_all all]
    rfl

end MismatchDetail

namespace MatchOutcome

/-- The sizes in a mismatch are not too great for their type. -/
def Fits : MatchOutcome → Prop
  | pass => True
  | fail m => m.detail.Fits

theorem mismatch_filled {m : Mismatch} (fits : m.detail.Fits) :
    Mismatch.record.Filled (fun seen => (if "message" ∈ seen then some m.message else none,
      if "detail" ∈ seen then some m.detail else none)) [("message", .str m.message),("detail", m.detail.toJson)] where
  names := by decide
  listed := List.Sublist.refl _
  start := rfl
  put := by
    intro f member seen k same
    simp only [List.mem_cons,List.not_mem_nil,or_false] at member
    rcases member with rfl | rfl
    · simp [Mismatch.record,reads_string m.message k same]
    · simp [Mismatch.record,MismatchDetail.reads_toJson fits k same]

/-- Written and read again, an outcome is the same. -/
theorem reads_toJson {o : MatchOutcome} (fits : o.Fits) : Reads MatchOutcome.read o.toJson (.ok o) := by
  cases o with
  | pass =>
    refine reads_alternative (by simp) fun k same => ?_
    obtain ⟨others,rfl,-⟩ := Json.same_fields same
    rfl
  | fail m =>
    have mismatch : Reads Mismatch.record.read (.obj [("message", .str m.message),("detail", m.detail.toJson)]) (.ok m) := by
      refine (mismatch_filled fits).reads fun seen all => ?_
      simp [Mismatch.record,all,required,bind,Except.bind,pure,Except.pure]
    refine reads_alternative (by simp) fun k same => ?_
    show Mismatch.record.read (.ofJson k) >>= _ = _
    rw [mismatch k same]
    rfl

end MatchOutcome
end TabCompletion
