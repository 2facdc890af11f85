import TabCompletion.Proofs.Candidates
import TabCompletion.Proofs.Dialogue
import TabCompletion.Proofs.Probe.Echo
import TabCompletion.Proofs.Session.Recovery
import TabCompletion.Proofs.Text.Decoding
import TabCompletion.Proofs.Text.Words

/-!
# What a probe may answer

A probe that succeeds on a scripted terminal answers with text that was inserted, or with lines that it
took apart into candidates, and what it wrote shows which of the two. After a list it has seen the prompt
again on a terminal that was open all the time (`Scripted.WentOn`). `run_honest` says this of every run.
-/
namespace TabCompletion

namespace Scripted

/-- A terminal that went on: it is open, the pieces were written on it, and none of the replies that were
    taken is its end. -/
structure WentOn (s : Scripted) (pieces : List Bytes) (t : Scripted) : Prop where
  opened : t.closed = false
  writes : t.writes = s.writes ++ pieces
  sent : t.sent = s.sent ++ pieces.flatten
  replies : ∃ taken, s.replies = taken ++ t.replies ∧ .closed ∉ taken

variable {s t u : Scripted} {bytes : Bytes} {pieces more : List Bytes}

theorem WentOn.trans (first : s.WentOn pieces t) (later : t.WentOn more u) : s.WentOn (pieces ++ more) u := by
  obtain ⟨taken,script,goesOn⟩ := first.replies
  obtain ⟨taken',script',goesOn'⟩ := later.replies
  refine ⟨later.opened,?_,?_,taken ++ taken',?_,?_⟩
  · rw [later.writes,first.writes,List.append_assoc]
  · rw [later.sent,first.sent,List.append_assoc,List.flatten_append]
  · rw [script,script',List.append_assoc]
  · intro member
    rcases List.mem_append.mp member with here | there
    · exact goesOn here
    · exact goesOn' there

/-- Only an open terminal can be written on. -/
theorem wentOn_of_send (sends : Scripted.send bytes s = (.ok (), t)) : s.closed = false ∧ s.WentOn [bytes] t := by
  cases closed : s.closed with
  | true =>
    rw [send_closed bytes closed] at sends
    cases sends
  | false =>
    rw [send_open bytes closed] at sends
    cases sends
    exact ⟨rfl,closed,rfl,by simp,[],rfl,List.not_mem_nil⟩

/-- A read writes nothing; a terminal that is open after it has gone on. -/
theorem wentOn_of_readUntilQuiet (reads : s.readUntilQuiet = (.ok bytes, t)) :
    t.writes = s.writes ∧ t.sent = s.sent ∧ (t.closed = false → s.WentOn [] t) := by
  have goesOn (taken : List Reply) (script : s.replies = taken ++ t.replies) (others : .closed ∉ taken)
      (writes : t.writes = s.writes) (sent : t.sent = s.sent) :
      t.writes = s.writes ∧ t.sent = s.sent ∧ (t.closed = false → s.WentOn [] t) :=
    ⟨writes,sent,fun opened => ⟨opened,by simp [writes],by simp [sent],taken,script,others⟩⟩
  rw [readUntilQuiet] at reads
  split at reads
  next bytes' rest script =>
    cases reads
    exact goesOn [.output bytes'] script (by simp) rfl rfl
  next rest script =>
    cases reads
    exact goesOn [.silence] script (by simp) rfl rfl
  next =>
    cases reads
    exact goesOn [] rfl (by simp) rfl rfl
  next =>
    obtain ⟨-,rfl⟩ := Prod.mk.inj reads
    exact ⟨rfl,rfl,fun opened => by cases opened⟩

/-- A recovery that succeeds has cancelled once or twice and seen no end of the terminal. -/
theorem wentOn_of_cancelAndResync {prompt : Prompt} {config : HarnessConfig} (opened : s.closed = false)
    (ran : (cancelAndResync prompt config).run s = (.ok (), t)) :
    ∃ n, (n = 1 ∨ n = 2) ∧ s.WentOn (List.replicate n [ctrlC]) t := by
  have recovered := cancelAndResync_recovered prompt config opened
  rw [ran] at recovered
  cases recovered with
  | prompted taken rest script goesOn silences first split =>
    refine ⟨1 + taken.count .silence,by omega,opened,rfl,?_,taken,script,goesOn⟩
    simp [Scripted.cancelled]

end Scripted

/-! ## Results -/

/-- A printed line of candidates: it is in one line, and there are no blanks at its ends. -/
structure IsCandidateLine (line : String) : Prop where
  nonblank : Text.isBlankText line = false
  trimmed : Text.trim line = line
  inLine : Text.InLine line.toList

/-- The tokens and lines of a list: it has candidates, and the tokens are the words of its lines. -/
structure IsList (tokens : TokenSet) (lines : List String) : Prop where
  someLine : lines ≠ []
  each : ∀ line ∈ lines, IsCandidateLine line
  someToken : tokens.isEmpty = false
  words : ∀ x, x ∈ tokens ↔ ∃ line ∈ lines, x ∈ Text.words line

theorem isCandidateLine_trim {line : String} (inLine : Text.InLine line.toList) (nonblank : Text.isBlankText line = false) :
    IsCandidateLine (Text.trim line) := by
  refine ⟨?_,Text.trim_trim line,fun c member => ?_⟩
  · rw [Bool.eq_false_iff] at nonblank ⊢
    intro blank
    have empty : Text.trim (Text.trim line) = "" := Text.trim_eq_empty_iff.mpr blank
    rw [Text.trim_trim] at empty
    exact nonblank (Text.trim_eq_empty_iff.mp empty)
  · rw [Text.trim,String.toList_ofList] at member
    exact inLine c (Text.mem_of_mem_trimChars member)

/-- Lines without line breaks are made into a list, or they are all blank. -/
theorem ofLines_isList {lines : List String} (inLines : ∀ line ∈ lines, Text.InLine line.toList) :
    CompletionResult.ofLines lines = .empty ∨
      ∃ tokens kept, CompletionResult.ofLines lines = .listed tokens kept ∧ IsList tokens kept := by
  by_cases blank : keptLines lines = []
  · exact .inl (CompletionResult.ofLines_eq_empty blank)
  refine .inr ⟨_,_,CompletionResult.ofLines_eq_listed blank,blank,fun line member => ?_,?_,fun x => ?_⟩
  · obtain ⟨printed,among,nonblank,rfl⟩ := mem_keptLines.mp member
    exact isCandidateLine_trim (inLines printed among) nonblank
  · rw [TokenSet.isEmpty,List.isEmpty_eq_false_iff_exists_mem]
    exact exists_token blank
  · rw [tokensOf,TokenSet.mem_ofList,List.mem_flatMap]

/-- What comes after the second TAB is a list, or there is nothing in it. -/
theorem classifyList_isList {output input : String} {prompt : Prompt} {r : CompletionResult}
    (classified : classifyList output input prompt = .ok r) :
    r = .empty ∨ ∃ tokens lines, r = .listed tokens lines ∧ IsList tokens lines := by
  rw [classifyList] at classified
  split at classified
  · cases classified
    exact .inl rfl
  · obtain ⟨redraw,-,found⟩ := bind_eq_ok.mp classified
    split at found
    · cases found
      refine ofLines_isList fun line member => ?_
      obtain ⟨chars,among,rfl⟩ := List.mem_map.mp ((List.dropLast_prefix _).subset member)
      rw [String.toList_ofList]
      exact Text.inLine_of_mem_linesChars among
    · cases found

/-- What a run of a probe ends with, by the terminal before and after it. -/
inductive Honest (p : Probe) (s : Scripted) : HarnessResult CompletionResult × Scripted → Prop where
  | failed (e : HarnessError) (after : Scripted) : Honest p s (.error e, after)
  /-- Text was inserted, and there was no reason to press TAB again. -/
  | immediate (text : String) (after : Scripted) (nonempty : text ≠ "") (noBell : '\x07' ∉ text.toList)
      (writes : after.writes = s.writes ++ [Utf8.encode p.input,[tab]])
      (sent : after.sent = s.sent ++ Utf8.encode p.input ++ [tab]) : Honest p s (.ok (.immediate text), after)
  /-- Candidates were listed, and the line was cancelled. -/
  | listed (tokens : TokenSet) (lines : List String) (after : Scripted) (list : IsList tokens lines)
      (cancels : Nat) (few : cancels = 1 ∨ cancels = 2)
      (goesOn : s.WentOn ([Utf8.encode p.input,[tab],[tab]] ++ List.replicate cancels [ctrlC]) after) :
      Honest p s (.ok (.listed tokens lines), after)
  /-- There were no candidates, and the line was cancelled. -/
  | empty (after : Scripted) (cancels : Nat) (few : cancels = 1 ∨ cancels = 2)
      (goesOn : s.WentOn ([Utf8.encode p.input,[tab],[tab]] ++ List.replicate cancels [ctrlC]) after) :
      Honest p s (.ok .empty, after)

/-- In strict mode, bytes are decoded as they would be without it. -/
theorem EncodingMode.decodeLossy_of_decode {mode : EncodingMode} {bytes : Bytes} {text : String}
    (decoded : mode.decode bytes = .ok text) : Utf8.decodeLossy bytes = text := by
  cases mode with
  | lossy => exact Except.ok.inj decoded
  | strict =>
    rw [EncodingMode.decode] at decoded
    split at decoded
    next wellFormed =>
      cases decoded
      exact Utf8.decodeLossy_of_decode? wellFormed
    next => cases decoded

namespace Probe

open Scripted

variable {p : Probe} {s t : Scripted} {r : CompletionResult}

/-- What is left of a capture has no bells, so the text of it has none. -/
theorem text_of_stripped {capture left : Bytes} {text : String} (stripped : p.stripEcho capture = .ok left)
    (nonempty : left ≠ []) (decoded : p.encoding.decode left = .ok text) : text ≠ "" ∧ '\x07' ∉ text.toList := by
  have noBell : bell ∉ left := by
    rw [stripEcho] at stripped
    split at stripped
    · cases stripped
      exact fun member => absurd (List.mem_filter.mp member).2 (by simp)
    · cases stripped
  rw [← EncodingMode.decodeLossy_of_decode decoded]
  refine ⟨Utf8.decodeLossy_ne_empty nonempty,fun member => ?_⟩
  exact noBell (Utf8.mem_of_mem_decodeLossy (by decide) member)

/-- A probe that gets through its second TAB found a list or nothing, on a terminal that went on. -/
theorem listing_wentOn (ran : p.listing.run s = (.ok r, t)) :
    (r = .empty ∨ ∃ tokens lines, r = .listed tokens lines ∧ IsList tokens lines) ∧
    s.closed = false ∧ ∃ n, (n = 1 ∨ n = 2) ∧ s.WentOn ([tab] :: List.replicate n [ctrlC]) t := by
  rw [listing] at ran
  obtain ⟨⟨⟩,pressed,presses,ran⟩ := Dialogue.run_bind_eq_ok.mp ran
  obtain ⟨capture,silent,reads,ran⟩ := Dialogue.run_bind_eq_ok.mp ran
  obtain ⟨⟨⟩,cancelled,cancels,ran⟩ := Dialogue.run_bind_eq_ok.mp ran
  obtain ⟨⟨⟩,ready,prompts,ran⟩ := Dialogue.run_bind_eq_ok.mp ran
  obtain ⟨output,_,decoded,ran⟩ := Dialogue.run_bind_eq_ok.mp ran
  obtain ⟨-,rfl⟩ := Prod.mk.inj decoded
  obtain ⟨classified,rfl⟩ := Prod.mk.inj ran
  -- The cancel would fail on a terminal whose end was seen by the capture.
  obtain ⟨opened,pressing⟩ := wentOn_of_send presses
  obtain ⟨stillOpen,-⟩ := wentOn_of_send cancels
  have capturing := (wentOn_of_readUntilQuiet reads).2.2 stillOpen
  have recovers : (cancelAndResync p.prompt p.config).run silent = (.ok (), ready) := by
    rw [cancelAndResync,Dialogue.run_bind_ok cancels,prompts]
  obtain ⟨n,few,recovering⟩ := wentOn_of_cancelAndResync stillOpen recovers
  exact ⟨classifyList_isList classified,opened,n,few,(pressing.trans capturing).trans recovering⟩

/-- Every run of a probe on a scripted terminal ends in an error or with an answer that what it wrote and
    read bears out. -/
theorem run_honest (p : Probe) (s : Scripted) : Honest p s (p.run.run s) := by
  cases ran : p.run.run s with
  | mk outcome after =>
  cases outcome with
  | error e => exact .failed e after
  | ok r =>
  rw [run_eq] at ran
  obtain ⟨⟨⟩,typed,types,ran⟩ := Dialogue.run_bind_eq_ok.mp ran
  obtain ⟨⟨⟩,pressed,presses,ran⟩ := Dialogue.run_bind_eq_ok.mp ran
  obtain ⟨capture,silent,reads,ran⟩ := Dialogue.run_bind_eq_ok.mp ran
  obtain ⟨left,_,strips,ran⟩ := Dialogue.run_bind_eq_ok.mp ran
  obtain ⟨stripped,rfl⟩ := Prod.mk.inj strips
  have asking := (wentOn_of_send types).2.trans (wentOn_of_send presses).2
  obtain ⟨writes,sent,going⟩ := wentOn_of_readUntilQuiet reads
  by_cases nothing : left = []
  · rw [if_pos nothing] at ran
    obtain ⟨kind,stillOpen,n,few,listing⟩ := listing_wentOn ran
    have goesOn := (asking.trans (going stillOpen)).trans listing
    rcases kind with rfl | ⟨tokens,lines,rfl,list⟩
    · exact .empty after n few goesOn
    · exact .listed tokens lines after list n few goesOn
  · rw [if_neg nothing] at ran
    obtain ⟨text,_,decodes,ran⟩ := Dialogue.run_bind_eq_ok.mp ran
    obtain ⟨decoded,rfl⟩ := Prod.mk.inj decodes
    cases ran
    obtain ⟨nonempty,noBell⟩ := text_of_stripped stripped nothing decoded
    refine .immediate text _ nonempty noBell ?_ ?_
    · rw [writes,asking.writes]
      rfl
    · rw [sent,asking.sent]
      simp

end Probe
end TabCompletion
