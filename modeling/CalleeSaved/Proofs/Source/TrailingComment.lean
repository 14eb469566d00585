import CalleeSaved.Proofs.Source.LineGrammar
import CalleeSaved.Source.Instruction

/-!
# Comments after an instruction

A comment after an instruction does not change what the instruction means, and a comment after any
other text does not make an instruction of it.

**Writing.**  `Writing.withComment` adds a gap and a comment at the end of an instruction that has
none.  The gap becomes part of the operand field, where trimming takes it away.  So blanks of any
kind may stand in it after an operand field, and spaces and tabs where there is none.
`Writing.bare` takes the comment and the spaces before it away again.

**Results.**
* `ofText_append_gap`: the reading of an instruction line with a gap and a comment after it.
  `ofText_append_comment`: the same for a gap of spaces and tabs.
* `ofText_append_comment_iff`: an instruction with a comment after it is one without the comment.
* `comment_invisible`: what a line does, with and without a comment after it.
-/

namespace CalleeSaved
namespace Line

open Text

namespace Writing

/-- The operand part with a gap after it. -/
def widen (gap : Text) : Option (Text × Text) → Option (Text × Text)
  | none => if gap = [] then none else some (gap, [])
  | some (before, field) => some (before, field ++ gap)

/-- The gap can stand between the operand part and a comment. -/
def Widens (gap : Text) : Option (Text × Text) → Prop
  | none => Spaces gap
  | some _ => Within isBlank gap

theorem widen_valid
    {gap : Text}
    {operands : Option (Text × Text)}
    (hgap : Widens gap operands)
    (hvalid : ∀ part ∈ operands, Gap part.1 ∧ ';' ∉ part.2) :
    ∀ part ∈ widen gap operands, Gap part.1 ∧ ';' ∉ part.2 := by
  cases operands with
  | none =>
      have hspaces : Spaces gap := hgap
      by_cases hnone : gap = []
      · simp [widen, hnone]
      · simp [widen, hnone, Gap, hspaces]
  | some part =>
      obtain ⟨hbefore, hfield⟩ := hvalid part rfl
      have hblank : ';' ∉ gap := fun hmem => absurd (hgap ';' hmem) (by decide)
      simp [widen, hbefore, hfield, hblank]

theorem operandText_widen
    (gap : Text)
    (operands : Option (Text × Text)) :
    operandText (widen gap operands) = operandText operands ++ gap := by
  cases operands with
  | none =>
      by_cases hnone : gap = [] <;> simp [widen, operandText, hnone]
  | some part =>
      simp [widen, operandText]

/-- The instruction with a gap and a comment after it. -/
def withComment (w : Writing) (gap comment : Text) (hgap : Widens gap w.operands)
    (hcomment : '\n' ∉ comment) : Writing :=
  { w with
    operands := widen gap w.operands
    comment := some comment
    operands_valid := widen_valid hgap w.operands_valid
    comment_valid := by simpa using hcomment }

theorem text_withComment
    (w : Writing)
    {gap comment : Text}
    (hgap : Widens gap w.operands)
    (hcomment : '\n' ∉ comment)
    (hnone : w.comment = none) :
    (w.withComment gap comment hgap hcomment).text = w.text ++ (gap ++ ';' :: comment) := by
  simp [withComment, text, afterLabel, afterMnemonic, afterSize, operandText_widen, hnone,
    commentText]

theorem statement_withComment
    (w : Writing)
    {gap comment : Text}
    (hgap : Widens gap w.operands)
    (hcomment : '\n' ∉ comment) :
    (w.withComment gap comment hgap hcomment).statement = w.statement := by
  have hoperands : ((widen gap w.operands).map fun part => part.2.trim).getD [] =
      (w.operands.map fun part => part.2.trim).getD [] := by
    cases hpart : w.operands with
    | none =>
        by_cases hnone : gap = []
        · simp [widen, hnone]
        · simp only [widen, hnone, if_false, Option.map_some, Option.map_none]
          rfl
    | some part =>
        rw [hpart] at hgap
        simp [widen, trim_append_blanks part.2 hgap]
  simp [withComment, statement, hoperands]

theorem comment_eq_none
    (w : Writing)
    (h : ';' ∉ w.text) :
    w.comment = none := by
  cases hcomment : w.comment with
  | none =>
      rfl
  | some comment =>
      simp [text, afterLabel, afterMnemonic, afterSize, hcomment, commentText] at h

end Writing

/-- Trimming a line with a comment after it trims the code in front and the comment at its end. -/
theorem trim_append_comment
    {text : Text}
    (hcode : text.trim ≠ [])
    (gap comment : Text) :
    trim (text.trimEnd ++ (gap ++ ';' :: comment)) =
      text.trim ++ (gap ++ ';' :: comment.trimEnd) := by
  obtain ⟨lead, hlead, hcore⟩ := exists_trimEnd_eq text
  obtain ⟨tail, htail, hblank, hend⟩ := trimEndWhile_split isBlank comment
  change comment = comment.trimEnd ++ tail at htail
  have hjoin :=
    calc text.trimEnd ++ (gap ++ ';' :: comment)
        = lead ++ text.trim ++ (gap ++ ';' :: (comment.trimEnd ++ tail)) := by rw [hcore, ← htail]
      _ = lead ++ (text.trim ++ (gap ++ ';' :: comment.trimEnd)) ++ tail := by simp
  have hfront : Stops isBlank (text.trim ++ (gap ++ ';' :: comment.trimEnd)) :=
    (stops_trim text).1.append hcode _
  have hback : Stops isBlank (text.trim ++ (gap ++ ';' :: comment.trimEnd)).reverse := by
    simp only [List.reverse_append, List.reverse_cons, List.append_assoc]
    exact Stops.append_stops hend (stops_cons.mpr (by decide))
  rw [hjoin]
  exact trimWhile_eq hlead hblank hfront hback

/-- A line that starts with a semicolon is a comment. -/
theorem ofText_comment
    {comment : Text}
    (hcomment : '\n' ∉ comment) :
    ofText (';' :: comment) = .comment := by
  obtain ⟨tail, htail, hblank, hend⟩ := trimEndWhile_split isBlank comment
  change comment = comment.trimEnd ++ tail at htail
  have hback : Stops isBlank (';' :: comment.trimEnd).reverse := by
    rw [List.reverse_cons]
    exact Stops.append_stops hend (stops_cons.mpr (by decide))
  have hjoin : ';' :: comment = [] ++ (';' :: comment.trimEnd) ++ tail := congrArg (';' :: ·) htail
  have hlead : Within isBlank [] := by simp [Within]
  have htrim : trim (';' :: comment) = ';' :: comment.trimEnd := by
    rw [hjoin]
    exact trimWhile_eq hlead hblank (stops_cons.mpr (by decide)) hback
  have hline : '\n' ∉ comment.trimEnd := fun hmem => hcomment (mem_of_mem_trimEnd hmem)
  rw [ofText, htrim]
  exact ofTrimmed_eq_comment_iff.mpr ⟨rfl, by simpa using hline⟩

/-- A gap and a comment after an instruction do not change its reading. -/
theorem ofText_append_gap
    {text gap comment : Text}
    {statement : Statement}
    (h : ofText text = .instruction statement)
    (hcode : ';' ∉ text)
    (hblank : Within isBlank gap)
    (hspaces : statement.operands = [] → Spaces gap)
    (hcomment : '\n' ∉ comment) :
    ofText (text.trimEnd ++ (gap ++ ';' :: comment)) = .instruction statement := by
  obtain ⟨w, hw, rfl⟩ := ofTrimmed_eq_instruction_iff.mp h
  have hnone : w.comment = none := w.comment_eq_none fun hmem => hcode (mem_of_mem_trim (hw ▸ hmem))
  have htrim : text.trim ≠ [] := hw ▸ w.text_ne_nil
  have hend : '\n' ∉ comment.trimEnd := fun hmem => hcomment (mem_of_mem_trimEnd hmem)
  have hwidens : Writing.Widens gap w.operands := by
    cases hpart : w.operands with
    | none =>
        exact hspaces (by simp [Writing.statement, hpart])
    | some part =>
        exact hblank
  rw [ofText, trim_append_comment htrim]
  refine ofTrimmed_eq_instruction_iff.mpr ⟨w.withComment gap comment.trimEnd hwidens hend, ?_, ?_⟩
  · rw [w.text_withComment hwidens hend hnone, hw]
  · exact w.statement_withComment hwidens hend

theorem ofText_append_comment
    {text gap comment : Text}
    {statement : Statement}
    (h : ofText text = .instruction statement)
    (hcode : ';' ∉ text)
    (hgap : Spaces gap)
    (hcomment : '\n' ∉ comment) :
    ofText (text.trimEnd ++ (gap ++ ';' :: comment)) = .instruction statement :=
  ofText_append_gap h hcode hgap.within_isBlank (fun _ => hgap) hcomment

theorem Identifier.chars
    {text : Text}
    (h : Identifier text) :
    Within inIdentifier text := by
  obtain ⟨c, rest, rfl, hc, hrest⟩ := word_iff.mp h
  refine within_cons.mpr ⟨inIdentifier_iff.mpr ?_, fun d hd => inIdentifier_iff.mpr (hrest d hd)⟩
  rcases hc with hletter | hline
  · exact Or.inl hletter
  · exact Or.inr (Or.inr (Or.inl hline))

theorem Identifier.not_mem
    {text : Text}
    {c : Char}
    (h : Identifier text)
    (hc : inIdentifier c = false) :
    c ∉ text := by
  intro hmem
  rw [h.chars c hmem] at hc
  cases hc

namespace Writing

/-- The instruction up to its operand field. -/
def front (w : Writing) : Text :=
  labelText w.label ++ (w.mnemonic ++ sizeText w.size)

/-- The instruction up to its comment. -/
def code (w : Writing) : Text :=
  w.front ++ operandText w.operands

theorem text_eq_code_append
    (w : Writing) :
    w.text = w.code ++ commentText w.comment := by
  simp [text, afterLabel, afterMnemonic, afterSize, code, front]

theorem semicolon_not_mem_code
    (w : Writing) :
    ';' ∉ w.code := by
  have hname : ';' ∉ w.mnemonic ++ sizeText w.size :=
    (w.mnemonic_valid.identifier w.size_valid).not_mem (by decide)
  have hlabel : ';' ∉ labelText w.label := by
    cases hpart : w.label with
    | none =>
        simp [labelText]
    | some part =>
        obtain ⟨hidentifier, hgap⟩ := w.label_valid part hpart
        have hentry : ';' ∉ part.1 := hidentifier.not_mem (by decide)
        have hspaces : ';' ∉ part.2 := hgap.2.not_mem (by decide)
        simp [labelText, hentry, hspaces]
  have hoperands : ';' ∉ operandText w.operands := by
    cases hpart : w.operands with
    | none =>
        simp [operandText]
    | some part =>
        obtain ⟨hgap, hfield⟩ := w.operands_valid part hpart
        have hspaces : ';' ∉ part.1 := hgap.2.not_mem (by decide)
        simp [operandText, hspaces, hfield]
  rw [code, front, List.mem_append, List.mem_append]
  rintro ((h | h) | h)
  · exact hlabel h
  · exact hname h
  · exact hoperands h

/-- The instruction up to its operand field does not end with a space. -/
theorem stops_reverse_front
    (w : Writing) :
    Stops isSpace w.front.reverse := by
  have hname := (w.mnemonic_valid.identifier w.size_valid).chars
  have hne : w.mnemonic ++ sizeText w.size ≠ [] := by
    obtain ⟨c, rest, hmnemonic, -⟩ := word_iff.mp w.mnemonic_valid
    simp [hmnemonic]
  have hend : Stops isSpace (w.mnemonic ++ sizeText w.size).reverse := by
    intro c hc
    have hin := hname c (List.mem_reverse.mp (List.mem_of_mem_head? hc))
    by_contra hspace
    rcases isSpace_iff.mp (by simpa using hspace) with rfl | rfl <;> exact absurd hin (by decide)
  rw [front, List.reverse_append]
  exact hend.append (mt List.reverse_eq_nil_iff.mp hne) _

/-- The operand part without spaces at its end. -/
def narrow : Option (Text × Text) → Option (Text × Text)
  | none => none
  | some (before, field) =>
      let field := trimEndWhile isSpace field
      if field = [] then none else some (before, field)

theorem narrow_valid
    {operands : Option (Text × Text)}
    (hvalid : ∀ part ∈ operands, Gap part.1 ∧ ';' ∉ part.2) :
    ∀ part ∈ narrow operands, Gap part.1 ∧ ';' ∉ part.2 := by
  cases operands with
  | none =>
      simp [narrow]
  | some part =>
      obtain ⟨hbefore, hfield⟩ := hvalid part rfl
      obtain ⟨tail, hsplit, -⟩ := trimEndWhile_split isSpace part.2
      have hkept : ';' ∉ trimEndWhile isSpace part.2 := by
        intro hmem
        rw [hsplit] at hfield
        exact hfield (List.mem_append_left tail hmem)
      by_cases hnone : trimEndWhile isSpace part.2 = []
      · simp [narrow, hnone]
      · simp [narrow, hnone, hbefore, hkept]

/-- The instruction without its comment and the spaces before it. -/
def bare (w : Writing) : Writing :=
  { w with
    operands := narrow w.operands
    comment := none
    operands_valid := narrow_valid w.operands_valid
    comment_valid := by simp }

theorem text_bare
    (w : Writing) :
    w.bare.text = trimEndWhile isSpace w.code := by
  have hfront := w.stops_reverse_front
  have htext : w.bare.text = w.front ++ operandText (narrow w.operands) := by
    simp [bare, text, afterLabel, afterMnemonic, afterSize, front, commentText]
  rw [htext, code]
  cases hpart : w.operands with
  | none =>
      simpa [narrow, operandText] using (trimEndWhile_append (within_nil isSpace) hfront).symm
  | some part =>
      obtain ⟨before, field⟩ := part
      obtain ⟨⟨-, hbefore⟩, -⟩ := w.operands_valid _ hpart
      obtain ⟨tail, hsplit, htail, hend⟩ := trimEndWhile_split isSpace field
      by_cases hnone : trimEndWhile isSpace field = []
      · rw [hnone, List.nil_append] at hsplit
        subst hsplit
        have hspaces : Within isSpace (before ++ field) :=
          (within_isSpace_iff.mpr hbefore).append htail
        simpa [narrow, hnone, operandText] using (trimEndWhile_append hspaces hfront).symm
      · have hstop :
            Stops isSpace (w.front ++ before ++ trimEndWhile isSpace field).reverse := by
          rw [List.reverse_append]
          exact hend.append (mt List.reverse_eq_nil_iff.mp hnone) _
        have hjoin : w.front ++ (before ++ field) =
            w.front ++ before ++ trimEndWhile isSpace field ++ tail := by
          rw [List.append_assoc, ← hsplit, List.append_assoc]
        simp only [operandText, narrow, hnone, if_false]
        rw [hjoin, trimEndWhile_append htail hstop, List.append_assoc]

theorem statement_bare
    (w : Writing) :
    w.bare.statement = w.statement := by
  have hoperands : ((narrow w.operands).map fun part => part.2.trim).getD [] =
      (w.operands.map fun part => part.2.trim).getD [] := by
    cases w.operands with
    | none =>
        rfl
    | some part =>
        obtain ⟨before, field⟩ := part
        obtain ⟨tail, hsplit, htail, -⟩ := trimEndWhile_split isSpace field
        have hblank : Within isBlank tail := (within_isSpace_iff.mp htail).within_isBlank
        have htrim := trim_append_blanks (trimEndWhile isSpace field) hblank
        rw [← hsplit] at htrim
        by_cases hnone : trimEndWhile isSpace field = []
        · have hblanks : field.trim = [] := by
            rw [htrim, hnone]
            rfl
          simp [narrow, hnone, hblanks]
        · simp [narrow, hnone, htrim]
  simp [bare, statement, hoperands]

end Writing

/-- Without its comment, an instruction line is the same instruction. -/
theorem ofText_of_append_comment
    {text gap comment : Text}
    {statement : Statement}
    (hcode : ';' ∉ text)
    (hend : text.trimEnd = text)
    (hgap : Spaces gap)
    (hcomment : '\n' ∉ comment)
    (h : ofText (text ++ (gap ++ ';' :: comment)) = .instruction statement) :
    ofText text = .instruction statement := by
  by_cases hcore : text.trim = []
  · obtain ⟨lead, tail, htext, hlead, htail, -⟩ := trimWhile_split isBlank text
    have hblank : Within isBlank (text ++ gap) := by
      change text = lead ++ text.trim ++ tail at htext
      rw [htext, hcore, List.append_nil]
      exact (hlead.append htail).append hgap.within_isBlank
    rw [← List.append_assoc, ofText, trim_blanks_append hblank] at h
    rw [← ofText, ofText_comment hcomment] at h
    cases h
  · rw [ofText, ← hend, trim_append_comment hcore] at h
    obtain ⟨w, hw, rfl⟩ := ofTrimmed_eq_instruction_iff.mp h
    have hsemicolon : ';' ∉ text.trim ++ gap := by
      rw [List.mem_append]
      rintro (hmem | hmem)
      · exact hcode (mem_of_mem_trim hmem)
      · exact hgap.not_mem (by decide) hmem
    have hcomments : Stops (· != ';') (Writing.commentText w.comment) := by
      intro c hc
      simp [Writing.head_commentText hc]
    have hsplit : w.code = text.trim ++ gap :=
      calc w.code
          = (w.code ++ Writing.commentText w.comment).takeWhile (· != ';') :=
            (takeWhile_append_of_stops (within_ne_iff.mpr w.semicolon_not_mem_code) hcomments).symm
        _ = (text.trim ++ gap ++ ';' :: comment.trimEnd).takeWhile (· != ';') := by
            rw [← w.text_eq_code_append, hw, List.append_assoc]
        _ = text.trim ++ gap :=
            takeWhile_append_of_stops (within_ne_iff.mpr hsemicolon) (stops_cons.mpr (by decide))
    have hstop : Stops isSpace text.trim.reverse := (stops_trim text).2.mono isBlank_of_isSpace
    refine ofTrimmed_eq_instruction_iff.mpr ⟨w.bare, ?_, w.statement_bare⟩
    rw [w.text_bare, hsplit, trimEndWhile_append (within_isSpace_iff.mpr hgap) hstop]

/-- A comment after a text makes no difference to whether it is an instruction, and which. -/
theorem ofText_append_comment_iff
    {text gap comment : Text}
    {statement : Statement}
    (hcode : ';' ∉ text)
    (hend : text.trimEnd = text)
    (hgap : Spaces gap)
    (hcomment : '\n' ∉ comment) :
    ofText (text ++ (gap ++ ';' :: comment)) = .instruction statement ↔
      ofText text = .instruction statement := by
  constructor
  · exact ofText_of_append_comment hcode hend hgap hcomment
  · intro h
    have hcommented := ofText_append_comment h hcode hgap hcomment
    rwa [hend] at hcommented

theorem isReturn_iff
    {line : Line} :
    line.isReturn = true ↔
      ∃ statement, line = .instruction statement ∧ statement.label = none ∧
        statement.mnemonic ∈ returnMnemonics := by
  cases line <;> simp [isReturn]

end Line

namespace Instruction

open Text

theorem ofText?_eq_some_iff
    {text : Text}
    {insn : Instruction} :
    ofText? text = some insn ↔
      ∃ statement, Line.ofText text = .instruction statement ∧
        ⟨statement, statement.action⟩ = insn := by
  rw [ofText?]
  cases Line.ofText text <;> simp [ofLine?]

/-- **Comments are invisible.**  Let a text have no semicolon and no blank at its end.  With spaces,
or none, and a comment after it, it is the same instruction with the same effect on registers as
without them, or no instruction either way.  So it is a return, a bulk save or a bulk restore
exactly when it is one without them. -/
theorem comment_invisible
    (text gap comment : Text)
    (hcode : ';' ∉ text)
    (hend : text.trimEnd = text)
    (hgap : Spaces gap)
    (hcomment : '\n' ∉ comment) :
    let commented := text ++ gap ++ ';' :: comment
    ofText? commented = ofText? text ∧
      (Line.ofText commented).isReturn = (Line.ofText text).isReturn ∧
      (ofText? commented).any isSave = (ofText? text).any isSave ∧
      (ofText? commented).any isRestore = (ofText? text).any isRestore := by
  intro commented
  have hread (statement : Statement) :
      Line.ofText commented = .instruction statement ↔
        Line.ofText text = .instruction statement := by
    rw [← Line.ofText_append_comment_iff hcode hend hgap hcomment, ← List.append_assoc]
  have hinsn : ofText? commented = ofText? text := by
    refine Option.ext fun insn => ?_
    simp only [ofText?_eq_some_iff, hread]
  refine ⟨hinsn, ?_, by rw [hinsn], by rw [hinsn]⟩
  rw [Bool.eq_iff_iff, Line.isReturn_iff, Line.isReturn_iff]
  simp only [hread]

/-- A save in the comment behind a write saves nothing, and a label alone stays no instruction,
although spaces after it could start one. -/
theorem comment_invisible_save :
    let write := "\tloop: move.l (a0)+,d2".toList
    let label := "rts:".toList
    let gap := " \t".toList
    let comment := " movem.l d2,-(sp)".toList
    ofText? (write ++ gap ++ ';' :: comment) = ofText? write ∧
      (ofText? write).map written = some [.d 2] ∧
      (ofText? (write ++ gap ++ ';' :: comment)).any isSave = false ∧
      ofText? (label ++ gap ++ ';' :: comment) = ofText? label ∧
      (Line.ofText (label ++ gap ++ ';' :: comment)).isReturn = false := by
  intro write label gap comment
  obtain ⟨hwrite, -, hsave, -⟩ :=
    comment_invisible write gap comment (by decide) (by decide) (by decide) (by decide)
  obtain ⟨hlabel, hreturn, -⟩ :=
    comment_invisible label gap comment (by decide) (by decide) (by decide) (by decide)
  exact ⟨hwrite, by decide, hsave.trans (by decide), hlabel, hreturn.trans (by decide)⟩

end Instruction
end CalleeSaved
