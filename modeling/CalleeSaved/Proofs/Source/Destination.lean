import CalleeSaved.Proofs.Register.Tokens
import CalleeSaved.Proofs.Source.TrailingComment
import CalleeSaved.Proofs.Source.TransferGrammar

/-!
# Registers written by a destination

The registers that an assignment writes are found in four steps: the operand field is cut at its
commas, the last operand is trimmed, its parenthesised parts are blanked out, and what is left is
searched for register names.  This module says which of the names in the whole field come out.

**Depth.**  `depthAt` is the parenthesis depth at a position of a field.  `namedAt?_outside`: what
is named at a position after blanking is what was named there at depth zero, and nothing elsewhere.

**Operands.**  `Separator` is a comma at depth zero, and `Starts` the position behind the last one.
`exists_starts`: the last operand is the text from there on.

**Stack moves.**  `StackMove` is a push or a pop through the stack pointer as it is written.
`adjustsStack_iff`: the operands that hold one.

**Results.**  `written_drop`: the registers that the last operand writes, by their positions in the
field.  `written_exact`: the registers and the effect of an assignment.
-/

namespace CalleeSaved

open Text

namespace Operand

section Depth

/-- The parenthesis depth at a position of a text that is read from the given depth on.  A closing
parenthesis without a partner leaves it at zero. -/
def depthAt (depth : Nat) (text : Text) (i : Nat) : Nat :=
  (text.take i).foldl depthAfter depth

theorem depthAt_succ
    {depth : Nat}
    {text : Text}
    {i : Nat}
    {c : Char}
    (h : text[i]? = some c) :
    depthAt depth text (i + 1) = depthAfter (depthAt depth text i) c := by
  simp [depthAt, List.take_add_one, h]

theorem depthAt_drop
    (depth : Nat)
    (text : Text)
    (k i : Nat) :
    depthAt (depthAt depth text k) (text.drop k) i = depthAt depth text (k + i) := by
  simp [depthAt, List.take_add]

theorem depthAfter_of_ne
    {c : Char}
    (hopen : c ≠ '(')
    (hclose : c ≠ ')')
    (depth : Nat) :
    depthAfter depth c = depth := by
  simp [depthAfter, hopen, hclose]

theorem depthAfter_of_isWordChar
    {c : Char}
    (h : isWordChar c = true)
    (depth : Nat) :
    depthAfter depth c = depth := by
  refine depthAfter_of_ne ?_ ?_ depth
  · rintro rfl
    exact absurd h (by decide)
  · rintro rfl
    exact absurd h (by decide)

/-- Depth zero is reached by a closing parenthesis, or kept by a character that opens none. -/
theorem depthAfter_eq_zero
    {depth : Nat}
    {c : Char}
    (h : depthAfter depth c = 0) :
    c = ')' ∨ (c ≠ '(' ∧ depth = 0) := by
  unfold depthAfter at h
  split at h
  · omega
  · next hopen =>
      split at h
      · next hclose =>
          exact Or.inl (beq_iff_eq.mp hclose)
      · exact Or.inr ⟨by simpa using hopen, h⟩

end Depth

section BlankingOut

theorem length_outsideAt
    (depth : Nat)
    (text : Text) :
    (outsideAt depth text).length = text.length := by
  induction text generalizing depth with
  | nil =>
      rfl
  | cons c rest ih =>
      simp [outsideAt, ih]

theorem getElem?_outsideAt
    (depth : Nat)
    (text : Text)
    (i : Nat) :
    (outsideAt depth text)[i]? =
      text[i]?.map fun c => if c == '(' || depthAt depth text i != 0 then ' ' else c := by
  induction text generalizing depth i with
  | nil =>
      rfl
  | cons c rest ih =>
      cases i with
      | zero =>
          rfl
      | succ i =>
          exact ih (depthAfter depth c) i

/-- What is not blanked out stands at depth zero. -/
theorem getElem?_outside_iff
    {text : Text}
    {i : Nat}
    {c : Char}
    (hc : isWordChar c = true) :
    (outside text)[i]? = some c ↔ text[i]? = some c ∧ depthAt 0 text i = 0 := by
  rw [outside, getElem?_outsideAt, Option.map_eq_some_iff]
  constructor
  · rintro ⟨d, hd, hshown⟩
    split at hshown
    · subst hshown
      exact absurd hc (by decide)
    · next hplain =>
        subst hshown
        rw [Bool.or_eq_true, not_or, bne_iff_ne, not_not] at hplain
        exact ⟨hd, hplain.2⟩
  · rintro ⟨htext, hdepth⟩
    have hopen : c ≠ '(' := by
      rintro rfl
      exact absurd hc (by decide)
    exact ⟨c, htext, by simp [hopen, hdepth]⟩

theorem endsWord_outside
    {text : Text}
    {i : Nat}
    (h : depthAt 0 text i = 0) :
    endsWord (outside text)[i]? = endsWord text[i]? := by
  rw [outside, getElem?_outsideAt, h]
  cases text[i]? with
  | none =>
      rfl
  | some c =>
      by_cases hopen : c = '('
      · subst hopen
        decide
      · simp [hopen]

/-- In front of a position at depth zero, blanking changes nothing but parentheses. -/
theorem joinsName_outside
    {text : Text}
    {i : Nat}
    (h : depthAt 0 text i = 0) :
    Register.joinsName (Register.charBefore none (outside text) i) =
      Register.joinsName (Register.charBefore none text i) := by
  have hclose : ∀ blanked : Bool,
      Register.joinsName (some (if blanked = true then ' ' else ')')) =
        Register.joinsName (some ')') := by
    decide
  cases i with
  | zero =>
      rfl
  | succ i =>
      change Register.joinsName (outside text)[i]? = Register.joinsName text[i]?
      rw [outside, getElem?_outsideAt]
      cases htext : text[i]? with
      | none =>
          rfl
      | some c =>
          rw [depthAt_succ htext] at h
          rcases depthAfter_eq_zero h with rfl | ⟨hopen, hdepth⟩
          · exact hclose _
          · simp [hopen, hdepth]

/-- The two characters of a name stand at the same depth, and so does what follows them. -/
theorem depthAt_of_name
    {text : Text}
    {i : Nat}
    {letter digit : Char}
    (hletter : text[i]? = some letter)
    (hdigit : text[i + 1]? = some digit)
    (hwords : isWordChar letter = true ∧ isWordChar digit = true) :
    depthAt 0 text (i + 1) = depthAt 0 text i ∧ depthAt 0 text (i + 2) = depthAt 0 text i := by
  rw [depthAt_succ hdigit, depthAt_succ hletter, depthAfter_of_isWordChar hwords.1,
    depthAfter_of_isWordChar hwords.2]
  exact ⟨rfl, rfl⟩

/-- What is named at a position after blanking: what was named there, if it stands at depth zero. -/
theorem namedAt?_outside
    (text : Text)
    (i : Nat) :
    Register.namedAt? (outside text) i =
      if depthAt 0 text i = 0 then Register.namedAt? text i else none := by
  refine Option.ext fun r => ?_
  rw [Option.ite_none_right_eq_some, Register.namedAt?_eq_some_iff, Register.namedAt?_eq_some_iff]
  constructor
  · rintro ⟨hbefore, hafter, letter, digit, hletter, hdigit, hname⟩
    have hwords := Register.isWordChar_of_ofChars? hname
    obtain ⟨hletter, hdepth⟩ := (getElem?_outside_iff hwords.1).mp hletter
    obtain ⟨hdigit, -⟩ := (getElem?_outside_iff hwords.2).mp hdigit
    obtain ⟨-, hnext⟩ := depthAt_of_name hletter hdigit hwords
    rw [joinsName_outside hdepth] at hbefore
    rw [endsWord_outside (hnext.trans hdepth)] at hafter
    exact ⟨hdepth, hbefore, hafter, letter, digit, hletter, hdigit, hname⟩
  · rintro ⟨hdepth, hbefore, hafter, letter, digit, hletter, hdigit, hname⟩
    have hwords := Register.isWordChar_of_ofChars? hname
    obtain ⟨hinside, hnext⟩ := depthAt_of_name hletter hdigit hwords
    rw [← joinsName_outside hdepth] at hbefore
    rw [← endsWord_outside (hnext.trans hdepth)] at hafter
    exact ⟨hbefore, hafter, letter, digit, (getElem?_outside_iff hwords.1).mpr ⟨hletter, hdepth⟩,
      (getElem?_outside_iff hwords.2).mpr ⟨hdigit, hinside.trans hdepth⟩, hname⟩

end BlankingOut

section Operands

/-- A comma at depth zero stands at the position of a text that is read from the given depth on. -/
def Separator (depth : Nat) (text : Text) (i : Nat) : Prop :=
  text[i]? = some ',' ∧ depthAt depth text i = 0

/-- The position lies directly behind the last comma at depth zero, or at the start of the text when
there is none. -/
def Starts (depth : Nat) (text : Text) (start : Nat) : Prop :=
  (start = 0 ∨ ∃ i, start = i + 1 ∧ Separator depth text i) ∧
    ∀ i, Separator depth text i → i < start

theorem separator_cons_zero_iff
    {depth : Nat}
    {c : Char}
    {rest : Text} :
    Separator depth (c :: rest) 0 ↔ c = ',' ∧ depth = 0 := by
  simp [Separator, depthAt]

theorem separator_cons_succ_iff
    {depth : Nat}
    {c : Char}
    {rest : Text}
    {i : Nat} :
    Separator depth (c :: rest) (i + 1) ↔ Separator (depthAfter depth c) rest i :=
  Iff.rfl

/-- The last operand of the rest is that of the whole text, unless it might reach to the front. -/
theorem Starts.cons
    {depth start : Nat}
    {c : Char}
    {rest : Text}
    (h : Starts (depthAfter depth c) rest start)
    (hfront : start ≠ 0 ∨ Separator depth (c :: rest) 0) :
    Starts depth (c :: rest) (start + 1) := by
  obtain ⟨hstart, hlast⟩ := h
  refine ⟨Or.inr ?_, ?_⟩
  · rcases hstart with rfl | ⟨i, rfl, hcomma⟩
    · exact ⟨0, rfl, hfront.resolve_left (not_not.mpr rfl)⟩
    · exact ⟨i + 1, rfl, separator_cons_succ_iff.mpr hcomma⟩
  · intro i hi
    cases i with
    | zero =>
        omega
    | succ i =>
        exact Nat.succ_lt_succ (hlast i (separator_cons_succ_iff.mp hi))

/-- A text without a separator is its only piece.  Any other text ends with the piece behind its
last separator. -/
theorem exists_starts
    (depth : Nat)
    (text : Text) :
    ∃ start, Starts depth text start ∧
      ((start = 0 ∧ piecesAt depth text = [text]) ∨
        ∃ piece more, start ≠ 0 ∧ piecesAt depth text = piece :: (more ++ [text.drop start])) := by
  induction text generalizing depth with
  | nil =>
      exact ⟨0, ⟨Or.inl rfl, by simp [Separator]⟩, Or.inl ⟨rfl, rfl⟩⟩
  | cons c rest ih =>
      obtain ⟨start, hstart, hpieces⟩ := ih (depthAfter depth c)
      by_cases hcomma : c = ',' ∧ depth = 0
      · have hsplit : piecesAt depth (c :: rest) = [] :: piecesAt (depthAfter depth c) rest := by
          obtain ⟨rfl, rfl⟩ := hcomma
          rfl
        refine ⟨start + 1, hstart.cons (Or.inr (separator_cons_zero_iff.mpr hcomma)), Or.inr ?_⟩
        rcases hpieces with ⟨rfl, hone⟩ | ⟨piece, more, -, hmany⟩
        · exact ⟨[], [], by omega, by rw [hsplit, hone]; rfl⟩
        · exact ⟨[], piece :: more, by omega, by rw [hsplit, hmany]; rfl⟩
      · have hplain : (c == ',' && depth == 0) = false := by simpa using hcomma
        rcases hpieces with ⟨rfl, hone⟩ | ⟨piece, more, hne, hmany⟩
        · refine ⟨0, ⟨Or.inl rfl, fun i hi => ?_⟩, Or.inl ⟨rfl, by simp [piecesAt, hplain, hone]⟩⟩
          cases i with
          | zero =>
              exact absurd (separator_cons_zero_iff.mp hi) hcomma
          | succ i =>
              exact absurd (hstart.2 i (separator_cons_succ_iff.mp hi)) (Nat.not_lt_zero i)
        · exact ⟨start + 1, hstart.cons (Or.inl hne),
            Or.inr ⟨c :: piece, more, by omega, by simp [piecesAt, hplain, hmany]⟩⟩

theorem getLast?_piecesAt
    (text : Text) :
    ∃ start, Starts 0 text start ∧ (piecesAt 0 text).getLast? = some (text.drop start) := by
  obtain ⟨start, hstart, ⟨rfl, hone⟩ | ⟨piece, more, -, hmany⟩⟩ := exists_starts 0 text
  · exact ⟨0, hstart, by rw [hone]; rfl⟩
  · refine ⟨start, hstart, ?_⟩
    rw [hmany, ← List.cons_append, List.getLast?_concat]

/-- The text before the last operand ends at depth zero, and with nothing that could join a name. -/
theorem Starts.edge
    {text : Text}
    {start : Nat}
    (h : Starts 0 text start) :
    depthAt 0 text start = 0 ∧
      Register.joinsName (Register.charBefore none text start) = false := by
  obtain ⟨rfl | ⟨i, rfl, hcomma, hdepth⟩, -⟩ := h
  · exact ⟨rfl, rfl⟩
  · constructor
    · rw [depthAt_succ hcomma, hdepth]
      rfl
    · change Register.joinsName text[i]? = false
      rw [hcomma]
      decide

end Operands

section StackMoves

/-- A push or a pop through the stack pointer as it is written, with optional blanks around the
stack pointer. -/
inductive StackMove : Text → Prop
  | push {before pointer after : Text} (beforeBlanks : Within isBlank before)
      (name : StackPointer pointer) (afterBlanks : Within isBlank after) :
      StackMove ('-' :: '(' :: (before ++ (pointer ++ (after ++ [')']))))
  | pop {before pointer after : Text} (beforeBlanks : Within isBlank before)
      (name : StackPointer pointer) (afterBlanks : Within isBlank after) :
      StackMove ('(' :: (before ++ (pointer ++ (after ++ [')', '+']))))

/-- A push or a pop through the stack pointer stands in the text. -/
def MovesStack (text : Text) : Prop :=
  ∃ move, StackMove move ∧ move <:+: text

/-- The stack pointer with blanks around it, and a closing part behind it, stands at the head. -/
theorem any_afterStackPointer?_iff
    {close text : Text}
    (hne : close ≠ [])
    (hclose : Stops isBlank close) :
    ((afterStackPointer? isBlank text).any fun after => close.isPrefixOf after) = true ↔
      ∃ before pointer after, Within isBlank before ∧ StackPointer pointer ∧ Within isBlank after ∧
        before ++ (pointer ++ (after ++ close)) <+: text := by
  have hclass : ∀ c ∈ ['s', 'S', 'ſ', 'a', 'A'], isBlank c = false := by simp [isBlank]
  rw [Option.any_eq_true]
  simp only [afterStackPointer?_eq_some_iff hclass, List.isPrefixOf_iff_prefix]
  constructor
  · rintro ⟨rest, ⟨before, pointer, after, rfl, hbefore, hpointer, hafter, -⟩, tail, rfl⟩
    exact ⟨before, pointer, after, hbefore, hpointer, hafter, tail, by simp⟩
  · rintro ⟨before, pointer, after, hbefore, hpointer, hafter, tail, rfl⟩
    refine ⟨close ++ tail, ⟨before, pointer, after, by simp, hbefore, hpointer, hafter, ?_⟩,
      List.prefix_append close tail⟩
    exact hclose.append hne tail

theorem adjustsAtHead_iff
    {text : Text} :
    adjustsAtHead text = true ↔ ∃ move, StackMove move ∧ move <+: text := by
  constructor
  · intro h
    unfold adjustsAtHead at h
    split at h
    · obtain ⟨before, pointer, after, hbefore, hpointer, hafter, hrest⟩ :=
        (any_afterStackPointer?_iff (by simp) (stops_cons.mpr (by decide))).mp h
      exact ⟨_, .push hbefore hpointer hafter,
        List.cons_prefix_cons.mpr ⟨rfl, List.cons_prefix_cons.mpr ⟨rfl, hrest⟩⟩⟩
    · obtain ⟨before, pointer, after, hbefore, hpointer, hafter, hrest⟩ :=
        (any_afterStackPointer?_iff (by simp) (stops_cons.mpr (by decide))).mp h
      exact ⟨_, .pop hbefore hpointer hafter, List.cons_prefix_cons.mpr ⟨rfl, hrest⟩⟩
    · simp at h
  · rintro ⟨_, hmove, rest, rfl⟩
    cases hmove with
    | @push before pointer after beforeBlanks name afterBlanks =>
        exact (any_afterStackPointer?_iff (by simp) (stops_cons.mpr (by decide))).mpr
          ⟨before, pointer, after, beforeBlanks, name, afterBlanks, List.prefix_append _ rest⟩
    | @pop before pointer after beforeBlanks name afterBlanks =>
        exact (any_afterStackPointer?_iff (by simp) (stops_cons.mpr (by decide))).mpr
          ⟨before, pointer, after, beforeBlanks, name, afterBlanks, List.prefix_append _ rest⟩

theorem StackMove.ne_nil
    {text : Text}
    (h : StackMove text) :
    text ≠ [] := by
  cases h <;> simp

theorem StackMove.stops
    {text : Text}
    (h : StackMove text) :
    Stops isBlank text ∧ Stops isBlank text.reverse := by
  cases h <;> simp [isBlank]

/-- The operands that hold a push or a pop. -/
theorem adjustsStack_iff
    {text : Text} :
    adjustsStack text = true ↔ MovesStack text := by
  induction text with
  | nil =>
      have hnone : ¬ MovesStack [] := by
        rintro ⟨move, hmove, hinfix⟩
        exact hmove.ne_nil (List.eq_nil_of_infix_nil hinfix)
      simp [adjustsStack, hnone]
  | cons c rest ih =>
      rw [adjustsStack, Bool.or_eq_true, adjustsAtHead_iff, ih]
      simp only [MovesStack, List.infix_cons_iff, ← exists_or, ← and_or_left]

end StackMoves

end Operand

namespace Text

/-- A part that ends with no blank does not reach into blanks behind the text. -/
theorem isInfix_append_blanks
    {part text tail : Text}
    (hne : part ≠ [])
    (hend : Stops isBlank part.reverse)
    (htail : Within isBlank tail)
    (h : part <:+: text ++ tail) :
    part <:+: text := by
  have hlast {front back : Text} (hback : back ≠ []) (hmem : ∀ c ∈ back, c ∈ tail)
      (hpart : part = front ++ back) : False := by
    obtain ⟨start, c, rfl⟩ := (List.eq_nil_or_concat back).resolve_left hback
    subst hpart
    have hc : isBlank c = false := by simpa [← List.append_assoc] using hend
    rw [htail c (hmem c (by simp))] at hc
    cases hc
  rcases List.infix_append_iff.mp h with hinside | houtside | ⟨front, back, rfl, hfront, hback⟩
  · exact hinside
  · exact (hlast hne (fun c hc => houtside.subset hc) (List.nil_append part).symm).elim
  · by_cases hnil : back = []
    · subst hnil
      simpa using hfront.isInfix
    · exact (hlast hnil (fun c hc => hback.subset hc) rfl).elim

/-- Trimming keeps every part that neither starts nor ends with a blank. -/
theorem isInfix_trim_iff
    {part : Text}
    (hne : part ≠ [])
    (hstart : Stops isBlank part)
    (hend : Stops isBlank part.reverse)
    (text : Text) :
    part <:+: text.trim ↔ part <:+: text := by
  obtain ⟨lead, tail, htext, hlead, htail, -⟩ := trimWhile_split isBlank text
  change text = lead ++ text.trim ++ tail at htext
  constructor
  · intro h
    rw [htext]
    exact h.trans ⟨lead, tail, rfl⟩
  · intro h
    rw [htext] at h
    have hfront := List.reverse_infix.mpr (isInfix_append_blanks hne hend htail h)
    rw [List.reverse_append] at hfront
    have hblanks : Within isBlank lead.reverse := fun c hc => hlead c (List.mem_reverse.mp hc)
    exact List.reverse_infix.mp
      (isInfix_append_blanks (by simpa using hne) (by simpa using hstart) hblanks hfront)

end Text

namespace Operand

section Trimming

theorem movesStack_trim_iff
    {text : Text} :
    MovesStack text.trim ↔ MovesStack text :=
  exists_congr fun _ => and_congr_right fun hmove =>
    isInfix_trim_iff hmove.ne_nil hmove.stops.1 hmove.stops.2 text

theorem outsideAt_append
    (depth : Nat)
    (text rest : Text) :
    outsideAt depth (text ++ rest) =
      outsideAt depth text ++ outsideAt (text.foldl depthAfter depth) rest := by
  induction text generalizing depth with
  | nil =>
      rfl
  | cons c text ih =>
      simp [outsideAt, ih]

theorem outsideAt_blanks
    {text : Text}
    (h : Within isBlank text)
    (depth : Nat) :
    Within isBlank (outsideAt depth text) ∧ text.foldl depthAfter depth = depth := by
  induction text generalizing depth with
  | nil =>
      exact ⟨within_nil isBlank, rfl⟩
  | cons c rest ih =>
      obtain ⟨hc, hrest⟩ := within_cons.mp h
      have hopen : c ≠ '(' := by
        rintro rfl
        exact absurd hc (by decide)
      have hclose : c ≠ ')' := by
        rintro rfl
        exact absurd hc (by decide)
      have hdepth : depthAfter depth c = depth := depthAfter_of_ne hopen hclose depth
      have hshown : isBlank (if c == '(' || depth != 0 then ' ' else c) = true := by
        split
        · decide
        · exact hc
      obtain ⟨hblanks, hsame⟩ := ih hrest depth
      rw [List.foldl_cons, hdepth, outsideAt, hdepth]
      exact ⟨within_cons.mpr ⟨hshown, hblanks⟩, hsame⟩

/-- Trimming before blanking takes away blanks that would be left around the operand, and the depth
behind the operand stays the same. -/
theorem exists_outside_trim
    (text : Text) :
    ∃ lead tail, outside text = lead ++ outside text.trim ++ tail ∧ Within isBlank lead ∧
      Within isBlank tail ∧ text.trim.foldl depthAfter 0 = text.foldl depthAfter 0 := by
  obtain ⟨lead, tail, htext, hlead, htail, -⟩ := trimWhile_split isBlank text
  change text = lead ++ text.trim ++ tail at htext
  obtain ⟨hfront, hdepth⟩ := outsideAt_blanks hlead 0
  obtain ⟨hback, hsame⟩ := outsideAt_blanks htail ((lead ++ text.trim).foldl depthAfter 0)
  refine ⟨outsideAt 0 lead, outsideAt ((lead ++ text.trim).foldl depthAfter 0) tail, ?_, hfront,
    hback, ?_⟩
  · calc outside text
        = outside (lead ++ text.trim ++ tail) := congrArg outside htext
      _ = outsideAt 0 lead ++ outside text.trim ++
            outsideAt ((lead ++ text.trim).foldl depthAfter 0) tail := by
          rw [outside, outside, outsideAt_append, outsideAt_append, hdepth]
  · calc text.trim.foldl depthAfter 0
        = (lead ++ text.trim ++ tail).foldl depthAfter 0 := by
          rw [List.foldl_append, hsame, List.foldl_append, hdepth]
      _ = text.foldl depthAfter 0 := congrArg (List.foldl depthAfter 0) htext.symm

theorem tokens_outside_trim
    (text : Text) :
    Register.tokens (outside text.trim) = Register.tokens (outside text) := by
  obtain ⟨lead, tail, htext, hlead, htail, -⟩ := exists_outside_trim text
  rw [htext, Register.tokens_append_blanks htail, Register.tokens_blanks_append hlead]

theorem written_of_not_movesStack
    {text : Text}
    (h : ¬ MovesStack text) :
    written text = Register.tokens (outside text) := by
  rw [written, if_neg (mt adjustsStack_iff.mp h)]

theorem written_of_movesStack
    {text : Text}
    (h : MovesStack text) :
    written text = [] := by
  rw [written, if_pos (adjustsStack_iff.mpr h)]

theorem written_trim
    (text : Text) :
    written text.trim = written text := by
  by_cases h : MovesStack text
  · rw [written_of_movesStack h, written_of_movesStack (movesStack_trim_iff.mpr h)]
  · rw [written_of_not_movesStack h, written_of_not_movesStack (mt movesStack_trim_iff.mp h),
      tokens_outside_trim]

end Trimming

section LastOperand

/-- What an assignment writes is what the text behind the last separator writes. -/
theorem exists_written_destination
    (field : Text) :
    ∃ start, Starts 0 field start ∧
      ((destination? (split field)).map written).getD [] = written (field.drop start) := by
  obtain ⟨start, hstart, hlast⟩ := getLast?_piecesAt field
  refine ⟨start, hstart, ?_⟩
  rw [← written_trim (field.drop start)]
  by_cases hblank : field.allBlank = true
  · have hrest : (field.drop start).dropWhile isBlank = [] :=
      List.dropWhile_eq_nil_iff.mpr fun c hc =>
        List.all_eq_true.mp hblank c (List.mem_of_mem_drop hc)
    rw [split, if_pos hblank, trim, trimWhile, hrest]
    rfl
  · rw [split, if_neg hblank, destination?, List.getLast?_map, hlast, Option.map_some]
    cases trim (field.drop start) with
    | nil =>
        rfl
    | cons c rest =>
        rfl

theorem namedAt?_drop
    {text : Text}
    {k : Nat}
    (h : Register.joinsName (Register.charBefore none text k) = false)
    (i : Nat) :
    Register.namedAt? (text.drop k) i = Register.namedAt? text (k + i) := by
  have hbefore :
      Register.joinsName (Register.charBefore none (text.drop k) i) =
        Register.joinsName (Register.charBefore none text (k + i)) := by
    cases i with
    | zero =>
        exact h.symm
    | succ i =>
        change Register.joinsName (text.drop k)[i]? = Register.joinsName text[k + i]?
        rw [List.getElem?_drop]
  refine Option.ext fun r => ?_
  simp only [Register.namedAt?_eq_some_iff, hbefore, List.getElem?_drop, Nat.add_assoc]

theorem Starts.le_length
    {text : Text}
    {start : Nat}
    (h : Starts 0 text start) :
    start ≤ text.length := by
  obtain ⟨rfl | ⟨i, rfl, hcomma, -⟩, -⟩ := h
  · omega
  · obtain ⟨hi, -⟩ := List.getElem?_eq_some_iff.mp hcomma
    omega

/-- The positions from a given one on. -/
theorem filter_range
    {k n : Nat}
    (h : k ≤ n) :
    (List.range n).filter (fun i => decide (k ≤ i)) = (List.range (n - k)).map (k + ·) := by
  have hsplit : List.range n = List.range k ++ (List.range (n - k)).map (k + ·) := by
    rw [← List.range_add, Nat.add_sub_cancel' h]
  rw [hsplit, List.filter_append, List.filter_eq_nil_iff.mpr, List.filter_eq_self.mpr]
  · rfl
  · simp
  · simp

/-- The registers that the last operand writes are those named in the field at depth zero, from the
start of the operand on. -/
theorem written_drop
    {field : Text}
    {start : Nat}
    (hstart : Starts 0 field start)
    (hstay : ¬ MovesStack (field.drop start)) :
    written (field.drop start) =
      ((List.range field.length).filter fun i => start ≤ i ∧ depthAt 0 field i = 0).filterMap
        (Register.namedAt? field) := by
  obtain ⟨hdepth, hjoin⟩ := hstart.edge
  let exposed (i : Nat) : Option Register :=
    if depthAt 0 field i = 0 then Register.namedAt? field i else none
  have hnamed : Register.namedAt? (outside (field.drop start)) = exposed ∘ (start + ·) := by
    funext i
    have hshift := depthAt_drop 0 field start i
    rw [hdepth] at hshift
    rw [namedAt?_outside, hshift, namedAt?_drop hjoin]
    rfl
  calc written (field.drop start)
      = Register.tokens (outside (field.drop start)) := written_of_not_movesStack hstay
    _ = (List.range (field.length - start)).filterMap
          (Register.namedAt? (outside (field.drop start))) := by
        rw [Register.tokens_eq_filterMap, outside, length_outsideAt, List.length_drop]
    _ = ((List.range field.length).filter fun i => decide (start ≤ i)).filterMap exposed := by
        rw [filter_range hstart.le_length, List.filterMap_map, hnamed]
    _ = _ := by
        simp only [exposed, List.filterMap_filter]
        congr 1
        funext i
        by_cases hi : start ≤ i <;> simp [hi]

end LastOperand

end Operand

theorem Statement.action_of_writing
    {statement : Statement}
    (h : statement.mnemonic ∈ writingMnemonics) :
    statement.action =
      .assign (((Operand.destination? (Operand.split statement.operands)).map
        Operand.written).getD []) := by
  have hmovem : statement.mnemonic ≠ "movem" := by
    intro hmovem
    rw [hmovem] at h
    exact absurd h (by decide)
  have htransfer : statement.transfer? = none := by simp [transfer?, hmovem]
  simp [action, htransfer, assigned, h]

namespace Instruction

/-- The effect of an assignment by what it writes and names. -/
theorem effect_assign
    (statement : Statement)
    (registers : List Register) :
    let insn : Instruction := ⟨statement, .assign registers⟩
    (insn.effect = .writesOne ↔ registers.length = 1) ∧
    (insn.effect = .writesSet ↔ 1 < registers.length) ∧
    (insn.effect = .reads ↔ registers = [] ∧ insn.referenced ≠ []) ∧
    (insn.effect = .none ↔ registers = [] ∧ insn.referenced = []) := by
  match registers with
  | [] =>
      by_cases hnone : referenced ⟨statement, .assign []⟩ = [] <;> simp [effect, hnone]
  | [r] =>
      simp [effect]
  | _ :: _ :: _ =>
      simp [effect]

/-- **Assignments.**  Let a line hold an instruction whose mnemonic writes its destination, and let
the destination be the text behind the last comma at depth zero.  Of the registers named in the
operand field, in order, it writes exactly those at depth zero in the destination, and none if the
destination moves the stack pointer.  Its effect goes by their number, and if there are none, by
whether the field names a register. -/
theorem written_exact
    (text : Text)
    (insn : Instruction)
    (hread : ofText? text = some insn)
    (hmnemonic : insn.statement.mnemonic ∈ Statement.writingMnemonics) :
    let field := insn.statement.operands
    insn.referenced = (List.range field.length).filterMap (Register.namedAt? field) ∧
    (∃ start, Operand.Starts 0 field start ∧
      (Operand.MovesStack (field.drop start) → insn.written = []) ∧
      (¬ Operand.MovesStack (field.drop start) →
        insn.written =
          ((List.range field.length).filter fun i =>
            start ≤ i ∧ Operand.depthAt 0 field i = 0).filterMap (Register.namedAt? field))) ∧
    (insn.effect = .writesOne ↔ insn.written.length = 1) ∧
    (insn.effect = .writesSet ↔ 1 < insn.written.length) ∧
    (insn.effect = .reads ↔ insn.written = [] ∧ insn.referenced ≠ []) ∧
    (insn.effect = .none ↔ insn.written = [] ∧ insn.referenced = []) := by
  intro field
  obtain ⟨statement, -, rfl⟩ := ofText?_eq_some_iff.mp hread
  obtain ⟨start, hstart, hassigned⟩ := Operand.exists_written_destination field
  have haction : statement.action = .assign (Operand.written (field.drop start)) :=
    (Statement.action_of_writing hmnemonic).trans (congrArg Action.assign hassigned)
  simp only [haction]
  refine ⟨Register.tokens_eq_filterMap field, ⟨start, hstart, ?_, ?_⟩, effect_assign _ _⟩
  · exact Operand.written_of_movesStack
  · exact Operand.written_drop hstart

/-- Neither the parenthesis without a partner nor the comma inside parentheses moves the start of
the destination, and what stands behind a dollar sign is no register. -/
theorem written_exact_nested :
    let field := "d1),d0,8(a2,d3)-d4/$d5/d6".toList
    ∃ insn, ofText? (" or.l ".toList ++ field) = some insn ∧
      insn.statement.mnemonic ∈ Statement.writingMnemonics ∧ insn.statement.operands = field ∧
      insn.referenced = [.d 1, .d 0, .a 2, .d 3, .d 4, .d 6] ∧ insn.written = [.d 4, .d 6] ∧
      insn.effect = .writesSet ∧
      ∃ start, Operand.Starts 0 field start ∧
        insn.written =
          ((List.range field.length).filter fun i =>
            start ≤ i ∧ Operand.depthAt 0 field i = 0).filterMap (Register.namedAt? field) := by
  intro field
  let insn : Instruction := ⟨⟨none, "or", some "l", field⟩, .assign [.d 4, .d 6]⟩
  have hread : ofText? (" or.l ".toList ++ field) = some insn := by decide
  have hmnemonic : insn.statement.mnemonic ∈ Statement.writingMnemonics := by decide
  obtain ⟨-, ⟨start, hstart, -, hstay⟩, -, hset, -⟩ :=
    written_exact (" or.l ".toList ++ field) insn hread hmnemonic
  have hnone : ¬ Operand.MovesStack (field.drop start) := by
    rintro ⟨move, hmove, hinfix⟩
    have hfield : Operand.MovesStack field :=
      ⟨move, hmove, hinfix.trans (List.drop_suffix start field).isInfix⟩
    exact absurd (Operand.adjustsStack_iff.mpr hfield) (by decide)
  exact ⟨insn, hread, hmnemonic, rfl, by decide, rfl, hset.mpr (by decide), start, hstart,
    hstay hnone⟩

end Instruction

end CalleeSaved
