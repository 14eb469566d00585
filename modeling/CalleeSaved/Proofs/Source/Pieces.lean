import CalleeSaved.Proofs.Source.Destination

/-!
# The two parenthesis scanners

Two scanners keep count of parentheses: one cuts an operand field at its commas, the other blanks out
what stands in parentheses.  This module shows that they agree about every text, balanced or not.

**Pieces.**  `Pieces` says how a field falls into pieces, without a scanner: each but the last ends
at depth zero before a comma, and no comma inside a piece stands at depth zero.
`pieces_piecesAt` and `Pieces.piecesAt_eq`: the scanner finds these pieces and no others.

**Blanking.**  `Pieces.splitOn_outside`: what is left of a field falls, at every comma, into what is
left of its pieces.

**Trimming.**  `Pieces.join_trim`: trimmed pieces are the pieces of the field that they make up.

**Result.**  `split_outside_agree`.
-/

namespace CalleeSaved

open Text

theorem Text.allBlank_trim
    (text : Text) :
    text.trim.allBlank = text.allBlank := by
  obtain ⟨lead, tail, htext, hlead, htail, -⟩ := trimWhile_split isBlank text
  change text = lead ++ text.trim ++ tail at htext
  have hfront : lead.all isBlank = true := List.all_eq_true.mpr hlead
  have hback : tail.all isBlank = true := List.all_eq_true.mpr htail
  calc text.trim.allBlank
      = (lead ++ text.trim ++ tail).all isBlank := by
        rw [List.all_append, List.all_append, hfront, hback, Bool.true_and, Bool.and_true]
        rfl
    _ = text.allBlank := congrArg (List.all · isBlank) htext.symm

namespace Operand

section Pieces

/-- No comma of the text stands at depth zero, when it is read from the given depth on. -/
def Whole (depth : Nat) (text : Text) : Prop :=
  ∀ i, ¬ Separator depth text i

/-- The pieces of a field. -/
inductive Pieces : Text → List Text → Prop
  | last {text : Text} (whole : Whole 0 text) : Pieces text [text]
  | more {first rest : Text} {pieces : List Text} (whole : Whole 0 first)
      (closed : first.foldl depthAfter 0 = 0) (restPieces : Pieces rest pieces) :
      Pieces (first ++ ',' :: rest) (first :: pieces)

theorem whole_nil
    (depth : Nat) :
    Whole depth [] := by
  simp [Whole, Separator]

theorem whole_cons_iff
    {depth : Nat}
    {c : Char}
    {rest : Text} :
    Whole depth (c :: rest) ↔ ¬ (c = ',' ∧ depth = 0) ∧ Whole (depthAfter depth c) rest := by
  constructor
  · intro h
    exact ⟨fun hcomma => h 0 (separator_cons_zero_iff.mpr hcomma),
      fun i hi => h (i + 1) (separator_cons_succ_iff.mpr hi)⟩
  · rintro ⟨hfirst, hrest⟩ i hi
    cases i with
    | zero =>
        exact hfirst (separator_cons_zero_iff.mp hi)
    | succ i =>
        exact hrest i (separator_cons_succ_iff.mp hi)

/-- A field without a comma at depth zero, or the field up to the first of them and the rest. -/
theorem whole_or_exists_comma
    (depth : Nat)
    (text : Text) :
    Whole depth text ∨
      ∃ first rest, text = first ++ ',' :: rest ∧ Whole depth first ∧
        first.foldl depthAfter depth = 0 := by
  induction text generalizing depth with
  | nil =>
      exact Or.inl (whole_nil depth)
  | cons c text ih =>
      by_cases hcomma : c = ',' ∧ depth = 0
      · obtain ⟨rfl, rfl⟩ := hcomma
        exact Or.inr ⟨[], text, rfl, whole_nil 0, rfl⟩
      · rcases ih (depthAfter depth c) with hwhole | ⟨first, rest, rfl, hwhole, hclosed⟩
        · exact Or.inl (whole_cons_iff.mpr ⟨hcomma, hwhole⟩)
        · exact Or.inr ⟨c :: first, rest, rfl, whole_cons_iff.mpr ⟨hcomma, hwhole⟩, hclosed⟩

theorem piecesAt_of_whole
    {depth : Nat}
    {text : Text}
    (h : Whole depth text) :
    piecesAt depth text = [text] := by
  induction text generalizing depth with
  | nil =>
      rfl
  | cons c rest ih =>
      obtain ⟨hcomma, hrest⟩ := whole_cons_iff.mp h
      have hplain : (c == ',' && depth == 0) = false := by simpa using hcomma
      simp [piecesAt, hplain, ih hrest]

/-- The first comma at depth zero ends the first piece. -/
theorem piecesAt_append_comma
    {depth : Nat}
    {first : Text}
    (h : Whole depth first)
    (hclosed : first.foldl depthAfter depth = 0)
    (rest : Text) :
    piecesAt depth (first ++ ',' :: rest) = first :: piecesAt 0 rest := by
  induction first generalizing depth with
  | nil =>
      obtain rfl : depth = 0 := hclosed
      rfl
  | cons c first ih =>
      obtain ⟨hcomma, hfirst⟩ := whole_cons_iff.mp h
      have hplain : (c == ',' && depth == 0) = false := by simpa using hcomma
      simp [piecesAt, hplain, ih hfirst hclosed]

theorem Pieces.piecesAt_eq
    {text : Text}
    {pieces : List Text}
    (h : Pieces text pieces) :
    piecesAt 0 text = pieces := by
  induction h with
  | last whole =>
      exact piecesAt_of_whole whole
  | more whole closed _ ih =>
      rw [piecesAt_append_comma whole closed, ih]

theorem pieces_piecesAt
    (text : Text) :
    Pieces text (piecesAt 0 text) := by
  induction hpieces : piecesAt 0 text generalizing text with
  | nil =>
      rcases whole_or_exists_comma 0 text with hwhole | ⟨first, rest, rfl, hwhole, hclosed⟩
      · simp [piecesAt_of_whole hwhole] at hpieces
      · simp [piecesAt_append_comma hwhole hclosed] at hpieces
  | cons piece more ih =>
      rcases whole_or_exists_comma 0 text with hwhole | ⟨first, rest, rfl, hwhole, hclosed⟩
      · obtain ⟨rfl, rfl⟩ : text = piece ∧ [] = more := by
          simpa [piecesAt_of_whole hwhole] using hpieces
        exact .last hwhole
      · obtain ⟨rfl, rfl⟩ : first = piece ∧ piecesAt 0 rest = more := by
          simpa [piecesAt_append_comma hwhole hclosed] using hpieces
        exact .more hwhole hclosed (ih rest rfl)

theorem Pieces.ne_nil
    {text : Text}
    {pieces : List Text}
    (h : Pieces text pieces) :
    pieces ≠ [] := by
  cases h <;> simp

/-- The operands of a field that is not blank are its trimmed pieces. -/
theorem Pieces.split_eq
    {text : Text}
    {pieces : List Text}
    (h : Pieces text pieces)
    (hblank : text.allBlank = false) :
    split text = pieces.map trim := by
  simp [split, hblank, h.piecesAt_eq]

end Pieces

section Blanking

/-- The commas that blanking leaves are those at depth zero. -/
theorem whole_iff
    {depth : Nat}
    {text : Text} :
    Whole depth text ↔ ',' ∉ outsideAt depth text := by
  have hshown (i : Nat) :
      (outsideAt depth text)[i]? = some ',' ↔ Separator depth text i := by
    rw [getElem?_outsideAt, Option.map_eq_some_iff]
    constructor
    · rintro ⟨c, hc, hcomma⟩
      split at hcomma
      · cases hcomma
      · next hplain =>
          subst hcomma
          rw [Bool.or_eq_true, not_or, bne_iff_ne, not_not] at hplain
          exact ⟨hc, hplain.2⟩
    · rintro ⟨hc, hdepth⟩
      exact ⟨',', hc, by simp [hdepth]⟩
  rw [List.mem_iff_getElem?, not_exists]
  exact forall_congr' fun i => not_congr (hshown i).symm

/-- Cutting what is left of a field at every comma gives what is left of its pieces. -/
theorem Pieces.splitOn_outside
    {text : Text}
    {pieces : List Text}
    (h : Pieces text pieces) :
    (outside text).splitOn ',' = pieces.map outside := by
  induction h with
  | last whole =>
      exact List.splitOn_eq_singleton (whole_iff.mp whole)
  | @more first rest pieces whole closed _ ih =>
      have hcut : outside (first ++ ',' :: rest) = outside first ++ ',' :: outside rest := by
        rw [outside, outsideAt_append, closed]
        rfl
      have hfirst : ',' ∉ outside first := whole_iff.mp whole
      rw [hcut, List.splitOn_append_cons_self_of_not_mem hfirst, ih, List.map_cons]

theorem open_not_mem_outsideAt
    (depth : Nat)
    (text : Text) :
    '(' ∉ outsideAt depth text := by
  induction text generalizing depth with
  | nil =>
      simp [outsideAt]
  | cons c rest ih =>
      rw [outsideAt, List.mem_cons, not_or]
      refine ⟨fun hopen => ?_, ih (depthAfter depth c)⟩
      split at hopen
      · cases hopen
      · next hplain =>
          simp [← hopen] at hplain

/-- Without an opening parenthesis nothing is blanked out. -/
theorem outside_of_not_mem
    {text : Text}
    (h : '(' ∉ text) :
    outside text = text := by
  rw [outside]
  induction text with
  | nil =>
      rfl
  | cons c rest ih =>
      obtain ⟨hc, hrest⟩ := not_or.mp (mt List.mem_cons.mpr h)
      have hopen : c ≠ '(' := Ne.symm hc
      have hdepth : depthAfter 0 c = 0 := by simp [depthAfter, hopen]
      rw [outsideAt, hdepth, ih hrest]
      simp [hopen]

end Blanking

section Trimming

theorem trim_outside_trim
    (text : Text) :
    (outside text.trim).trim = (outside text).trim := by
  obtain ⟨lead, tail, htext, hlead, htail, -⟩ := exists_outside_trim text
  rw [htext, trim_append_blanks _ htail, trim_blanks_append hlead]

theorem Whole.trim
    {text : Text}
    (h : Whole 0 text) :
    Whole 0 text.trim := by
  obtain ⟨lead, tail, htext, -⟩ := exists_outside_trim text
  have hcomma : ',' ∉ outside text := whole_iff.mp h
  rw [htext, List.mem_append, List.mem_append] at hcomma
  exact whole_iff.mpr fun hmem => hcomma (Or.inl (Or.inr hmem))

theorem foldl_depthAfter_trim
    (text : Text) :
    text.trim.foldl depthAfter 0 = text.foldl depthAfter 0 := by
  obtain ⟨-, -, -, -, -, hdepth⟩ := exists_outside_trim text
  exact hdepth

/-- The field that operands make up. -/
def join (operands : List Text) : Text :=
  [','].intercalate operands

theorem join_cons
    (operand : Text)
    {operands : List Text}
    (h : operands ≠ []) :
    join (operand :: operands) = operand ++ ',' :: join operands := by
  rw [join, List.intercalate_cons_of_ne_nil h, List.append_assoc]
  rfl

/-- Trimmed pieces are the pieces of the field that they make up. -/
theorem Pieces.join_trim
    {text : Text}
    {pieces : List Text}
    (h : Pieces text pieces) :
    Pieces (join (pieces.map Text.trim)) (pieces.map Text.trim) := by
  induction h with
  | @last text whole =>
      have hjoin : join [text.trim] = text.trim := List.intercalate_singleton
      rw [List.map_singleton, hjoin]
      exact .last whole.trim
  | @more first rest pieces whole closed restPieces ih =>
      rw [List.map_cons, join_cons _ (by simpa using restPieces.ne_nil)]
      exact .more whole.trim ((foldl_depthAfter_trim first).trans closed) ih

/-- Joined pieces are not blank unless the field is. -/
theorem Pieces.allBlank_join
    {text : Text}
    {pieces : List Text}
    (h : Pieces text pieces) :
    (join (pieces.map Text.trim)).allBlank = text.allBlank := by
  have hcomma (first rest : Text) : allBlank (first ++ ',' :: rest) = false := by
    simp [allBlank, isBlank]
  cases h with
  | last whole =>
      rw [List.map_singleton, join, List.intercalate_singleton, allBlank_trim]
  | more whole closed restPieces =>
      rw [List.map_cons, join_cons _ (by simpa using restPieces.ne_nil), hcomma, hcomma]

/-- Operands are the operands of the field that they make up. -/
theorem split_join_split
    (field : Text) :
    split (join (split field)) = split field := by
  cases hblank : field.allBlank with
  | true =>
      have hnone : split field = [] := by simp [split, hblank]
      rw [hnone]
      rfl
  | false =>
      have hpieces := pieces_piecesAt field
      have htrim : Text.trim ∘ Text.trim = Text.trim := funext trim_trim
      rw [hpieces.split_eq hblank,
        hpieces.join_trim.split_eq (hpieces.allBlank_join.trans hblank), List.map_map, htrim]

end Trimming

/-- **The scanners agree.**  Let a field not be blank.  What is left of its operands outside
parentheses, trimmed, is what is left of the field outside parentheses, cut at every comma and
trimmed.  The operands of any field are the operands of the field that they make up with commas
between them.  Blanking keeps the length of a text, and blanking twice changes nothing more. -/
theorem split_outside_agree
    (field : Text) :
    (field.allBlank = false →
      (split field).map (fun operand => (outside operand).trim) =
        ((outside field).splitOn ',').map Text.trim) ∧
    split (join (split field)) = split field ∧
    (outside field).length = field.length ∧
    outside (outside field) = outside field := by
  refine ⟨fun hblank => ?_, split_join_split field, length_outsideAt 0 field,
    outside_of_not_mem (open_not_mem_outsideAt 0 field)⟩
  have hpieces := pieces_piecesAt field
  rw [hpieces.split_eq hblank, hpieces.splitOn_outside, List.map_map, List.map_map]
  exact List.map_congr_left fun piece _ => trim_outside_trim piece

/-- A closing parenthesis without a partner hides nothing, and an opening one without a partner hides
all that follows it. -/
theorem split_outside_agree_unbalanced :
    let field : Text := " d1) , 8(a2,d3)\x09,(a4 , d5 ".toList
    field.allBlank = false ∧
      split field = ["d1)".toList, "8(a2,d3)".toList, "(a4 , d5".toList] ∧
      ((outside field).splitOn ',').map Text.trim = ["d1)".toList, "8".toList, []] ∧
      (split field).map (fun operand => (outside operand).trim) =
        ((outside field).splitOn ',').map Text.trim := by
  intro field
  have hblank : field.allBlank = false := by decide
  exact ⟨hblank, by decide, by decide, (split_outside_agree field).1 hblank⟩

end Operand
end CalleeSaved
