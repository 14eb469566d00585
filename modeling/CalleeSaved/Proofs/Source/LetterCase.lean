import CalleeSaved.Proofs.Source.LineGrammar
import CalleeSaved.Proofs.Text.LetterCase
import CalleeSaved.Routine.Clobber
import CalleeSaved.Routine.Verdict
import Mathlib.Data.List.Forall2

/-!
# Letter case in source lines

Mnemonics, sizes, register names and the stack pointer may be written in either case.  Each of them
has a reader of its own, and so this module follows a line in small letters through all of them.

**Lines.**  `ofText_lowered`: a line in small letters reads as the line does, up to the letters of
its label and its operands.

**Registers.**  `tokens_lowered`, `written_lowered` and `parse?_lowered`: an operand field in small
letters names, writes and transfers the same registers.  `action_lowered` puts them together.

**Result.**  `case_invisible`.
-/

namespace CalleeSaved

open Text

namespace Line

@[simp] theorem startsName_toLower (c : Char) : startsName c.toLower = startsName c :=
  eq_toLower (by decide) c

@[simp] theorem inMnemonic_toLower (c : Char) : inMnemonic c.toLower = inMnemonic c :=
  eq_toLower (by decide) c

@[simp] theorem inIdentifier_toLower (c : Char) : inIdentifier c.toLower = inIdentifier c :=
  eq_toLower (by decide) c

@[simp] theorem lower_lowered
    (text : Text) :
    lower text.lowered = lower text := by
  simp [lower, lowered, Function.comp_def]

/-- The name of a label in small letters. -/
def lowerName (name : String) : String :=
  lower name.toList

theorem lowerName_ofList
    (text : Text) :
    lowerName (String.ofList text) = String.ofList text.lowered := by
  rw [lowerName, String.toList_ofList]
  rfl

theorem takeName?_lowered
    {inName : Char → Bool}
    (hclass : ∀ c, inName c.toLower = inName c)
    (text : Text) :
    takeName? inName text.lowered =
      (takeName? inName text).map fun parts => (parts.1.lowered, parts.2.lowered) := by
  cases text with
  | nil =>
      rfl
  | cons c rest =>
      rw [lowered_cons, takeName?, takeName?, startsName_toLower, takeWhile_lowered hclass,
        dropWhile_lowered hclass]
      split <;> rfl

theorem takeLabel_lowered
    (text : Text) :
    takeLabel text.lowered = ((takeLabel text).1.map lowerName, (takeLabel text).2.lowered) := by
  have hlowered := takeName?_lowered inIdentifier_toLower text
  rcases hname : takeName? inIdentifier text with _ | ⟨name, rest⟩ <;> rw [hname] at hlowered
  · rw [takeLabel, takeLabel, hname, hlowered]
    rfl
  · by_cases hcolon : rest.head? = some ':'
    · obtain ⟨tail, rfl⟩ := List.head?_eq_some_iff.mp hcolon
      have hsmall : lowered (':' :: tail) = ':' :: lowered tail := rfl
      simp only [Option.map_some, hsmall] at hlowered
      simp only [takeLabel, hname, hlowered, any_head?_lowered isSpace_toLower,
        dropWhile_lowered isSpace_toLower, ← lowerName_ofList]
      split <;> rfl
    · have hother : rest.lowered.head? ≠ some ':' :=
        mt (head?_lowered_eq_iff (by decide)).mp hcolon
      rw [takeLabel_of_not_colon hname hcolon, takeLabel_of_not_colon hlowered hother]
      rfl

theorem takeSize_lowered
    (text : Text) :
    takeSize text.lowered = ((takeSize text).1, (takeSize text).2.lowered) := by
  by_cases hdot : text.head? = some '.'
  · obtain ⟨rest, rfl⟩ := List.head?_eq_some_iff.mp hdot
    cases rest with
    | nil =>
        rfl
    | cons c rest =>
        have hsmall : lowered ('.' :: c :: rest) = '.' :: c.toLower :: lowered rest := rfl
        rw [hsmall, takeSize, takeSize, Char.isAlpha_toLower_eq_isAlpha,
          takeWhile_lowered Char.isAlpha_toLower_eq_isAlpha,
          dropWhile_lowered Char.isAlpha_toLower_eq_isAlpha, ← lowered_cons, lower_lowered]
        split <;> rfl
  · have hother : text.lowered.head? ≠ some '.' :=
      mt (head?_lowered_eq_iff (by decide)).mp hdot
    rw [takeSize_of_not_dot hdot, takeSize_of_not_dot hother]

theorem takeOperands_lowered
    (text : Text) :
    takeOperands text.lowered = ((takeOperands text).1.lowered, (takeOperands text).2.lowered) := by
  have hfield (c : Char) : (c.toLower != ';') = (c != ';') :=
    congrArg (!·) (beq_toLower (by decide) c)
  simp only [takeOperands, any_head?_lowered isSpace_toLower, dropWhile_lowered isSpace_toLower,
    takeWhile_lowered (p := (· != ';')) hfield, dropWhile_lowered (p := (· != ';')) hfield,
    trim_lowered]
  split <;> rfl

theorem endsStatement_lowered
    (text : Text) :
    endsStatement text.lowered = endsStatement text := by
  cases text with
  | nil =>
      rfl
  | cons c rest =>
      rw [lowered_cons, endsStatement, endsStatement, beq_toLower (by decide),
        contains_lowered (by decide)]

end Line

/-- The statement with its label and its operands in small letters. -/
def Statement.lowered (statement : Statement) : Statement :=
  { statement with
    label := statement.label.map Line.lowerName
    operands := Text.lowered statement.operands }

namespace Line

/-- The reading with its label and its operands in small letters. -/
def lowered : Line → Line
  | .label name => .label (lowerName name)
  | .instruction statement => .instruction statement.lowered
  | line => line

theorem statement?_lowered
    (text : Text) :
    statement? text.lowered = (statement? text).map Statement.lowered := by
  simp only [statement?, takeLabel_lowered, takeName?_lowered inMnemonic_toLower]
  rcases takeName? inMnemonic (takeLabel text).2 with _ | ⟨mnemonic, rest⟩
  · rfl
  · simp only [Option.map_some, takeSize_lowered, takeOperands_lowered, endsStatement_lowered,
      lower_lowered]
    split <;> rfl

theorem label?_of_name
    {text name rest : Text}
    (h : takeName? inIdentifier text = some (name, rest)) :
    label? text = if rest = [':'] then some (String.ofList name) else none := by
  unfold label?
  rw [h]
  split
  · next heq =>
      obtain ⟨rfl, rfl⟩ : name = _ ∧ rest = [':'] := by simpa using heq
      rfl
  · next hother =>
      rw [if_neg]
      rintro rfl
      exact hother name rfl

theorem label?_lowered
    (text : Text) :
    label? text.lowered = (label? text).map lowerName := by
  have hlowered := takeName?_lowered inIdentifier_toLower text
  rcases hname : takeName? inIdentifier text with _ | ⟨name, rest⟩ <;> rw [hname] at hlowered
  · rw [label?, label?, hname, hlowered]
    rfl
  · have hcolon : rest.lowered = [':'] ↔ rest = [':'] := lowered_eq_iff (by decide)
    simp only [label?_of_name hname, label?_of_name hlowered, hcolon, ← lowerName_ofList]
    split <;> rfl

theorem ofTrimmed_lowered
    (text : Text) :
    ofTrimmed text.lowered = (ofTrimmed text).lowered := by
  have hempty : text.lowered.isEmpty = text.isEmpty := by cases text <;> rfl
  rw [ofTrimmed, ofTrimmed, label?_lowered, hempty, endsStatement_lowered, statement?_lowered]
  cases label? text with
  | some name =>
      rfl
  | none =>
      simp only [Option.map_none]
      split
      · rfl
      · split
        · rfl
        · cases statement? text <;> rfl

/-- A line in small letters reads as the line does. -/
theorem ofText_lowered
    (text : Text) :
    ofText text.lowered = (ofText text).lowered := by
  rw [ofText, trim_lowered, ofTrimmed_lowered]
  rfl

/-- The kinds of lines. -/
inductive Kind
  | blank
  | comment
  | label
  | instruction
  | unknown
  deriving DecidableEq

/-- The kind of a line. -/
def kind : Line → Kind
  | .blank => .blank
  | .comment => .comment
  | .label _ => .label
  | .instruction _ => .instruction
  | .unknown => .unknown

/-- The mnemonic of an instruction line. -/
def mnemonic? : Line → Option String
  | .instruction statement => some statement.mnemonic
  | _ => none

/-- The size of an instruction line. -/
def size? : Line → Option String
  | .instruction statement => statement.size
  | _ => none

/-- The kind of a line, its mnemonic and size, and whether it ends a routine. -/
def outline (line : Line) : Kind × Option String × Option String × Bool :=
  (line.kind, line.mnemonic?, line.size?, line.isReturn)

theorem outline_lowered
    (line : Line) :
    line.lowered.outline = line.outline := by
  cases line with
  | instruction statement =>
      simp [outline, kind, mnemonic?, size?, isReturn, lowered, Statement.lowered]
  | _ =>
      rfl

theorem outline_ofText_lowered
    (text : Text) :
    (ofText text.lowered).outline = (ofText text).outline := by
  rw [ofText_lowered, outline_lowered]

end Line

@[simp] theorem Family.ofLetter?_toLower (c : Char) : ofLetter? c.toLower = ofLetter? c :=
  eq_toLower (by decide) c

namespace RegisterName

@[simp] theorem digit?_toLower (c : Char) : digit? c.toLower = digit? c :=
  eq_toLower (by decide) c

theorem ofChars?_toLower
    (letter digit : Char) :
    ofChars? letter.toLower digit.toLower = ofChars? letter digit := by
  rw [ofChars?, ofChars?, Family.ofLetter?_toLower, digit?_toLower]

theorem ofText?_lowered
    (text : Text) :
    ofText? text.lowered = ofText? text := by
  match text with
  | [] =>
      rfl
  | [_] =>
      rfl
  | [letter, digit] =>
      exact ofChars?_toLower letter digit
  | _ :: _ :: _ :: _ =>
      rfl

end RegisterName

namespace Register

theorem joinsName_toLower
    (before : Option Char) :
    joinsName (before.map Char.toLower) = joinsName before := by
  cases before with
  | none =>
      rfl
  | some c =>
      simp only [Option.map_some, joinsName, isWordChar_toLower, beq_toLower (x := '$') (by decide)]

theorem nameAt?_lowered
    (before : Option Char)
    (text : Text) :
    nameAt? (before.map Char.toLower) text.lowered = nameAt? before text := by
  match text with
  | [] =>
      rfl
  | [_] =>
      rfl
  | letter :: digit :: rest =>
      have hafter : endsWord (lowered rest).head? = endsWord rest.head? := by
        cases rest with
        | nil =>
            rfl
        | cons c rest =>
            exact isWordChar_toLower c
      rw [lowered_cons, lowered_cons, nameAt?, nameAt?, joinsName_toLower, hafter,
        RegisterName.ofChars?_toLower]

theorem namesAfter_lowered
    (before : Option Char)
    (text : Text) :
    namesAfter (before.map Char.toLower) text.lowered = namesAfter before text := by
  fun_induction namesAfter before text with
  | case1 before letter digit rest name hname ih =>
      rw [← nameAt?_lowered, lowered_cons, lowered_cons] at hname
      rw [lowered_cons, lowered_cons, namesAfter, hname]
      exact congrArg (name :: ·) ih
  | case2 before letter digit rest hname ih =>
      rw [← nameAt?_lowered, lowered_cons, lowered_cons] at hname
      rw [lowered_cons, lowered_cons, namesAfter, hname]
      exact ih
  | case3 text before hshort =>
      match text with
      | [] =>
          rfl
      | [_] =>
          rfl
      | letter :: digit :: rest =>
          exact (hshort letter digit rest rfl).elim

/-- A text in small letters names the same registers. -/
theorem tokens_lowered
    (text : Text) :
    tokens text.lowered = tokens text :=
  congrArg (List.filterMap RegisterName.register?) (namesAfter_lowered none text)

end Register

namespace RegisterList

theorem Entry.ofText?_lowered
    (text : Text) :
    Entry.ofText? text.lowered = Entry.ofText? text := by
  rw [Entry.ofText?, Entry.ofText?, splitOn_lowered (by decide)]
  match text.splitOn '-' with
  | [] =>
      rfl
  | [name] =>
      simp only [List.map_cons, List.map_nil, trimSpaces_lowered, RegisterName.ofText?_lowered]
  | [first, last] =>
      simp only [List.map_cons, List.map_nil, trimSpaces_lowered, RegisterName.ofText?_lowered]
  | _ :: _ :: _ :: _ =>
      rfl

theorem entries?_lowered
    (text : Text) :
    entries? text.lowered = entries? text := by
  rw [entries?, entries?, splitOn_lowered (by decide), List.mapM_map]
  exact congrArg (List.mapM · _) (funext Entry.ofText?_lowered)

end RegisterList

namespace Operand

theorem depthAfter_toLower
    (depth : Nat)
    (c : Char) :
    depthAfter depth c.toLower = depthAfter depth c := by
  simp only [depthAfter, beq_toLower (x := '(') (by decide), beq_toLower (x := ')') (by decide)]

theorem piecesAt_lowered
    (depth : Nat)
    (text : Text) :
    piecesAt depth text.lowered = (piecesAt depth text).map lowered := by
  induction text generalizing depth with
  | nil =>
      rfl
  | cons c rest ih =>
      rw [lowered_cons, piecesAt, piecesAt, beq_toLower (by decide), depthAfter_toLower, ih, ih]
      split
      · rfl
      · cases piecesAt (depthAfter depth c) rest <;> rfl

theorem split_lowered
    (field : Text) :
    split field.lowered = (split field).map lowered := by
  have hblank : field.lowered.allBlank = field.allBlank := by
    simp [allBlank, lowered, List.all_map, Function.comp_def]
  have htrim : trim ∘ lowered = lowered ∘ trim := funext trim_lowered
  rw [split, split, hblank, piecesAt_lowered, List.map_map, htrim]
  split
  · rfl
  · rw [List.map_map]

theorem destination?_lowered
    (operands : List Text) :
    destination? (operands.map lowered) = (destination? operands).map lowered := by
  rw [destination?, destination?, List.getLast?_map]
  cases operands.getLast? with
  | none =>
      rfl
  | some operand =>
      cases operand <;> rfl

theorem outsideAt_lowered
    (depth : Nat)
    (text : Text) :
    outsideAt depth text.lowered = lowered (outsideAt depth text) := by
  induction text generalizing depth with
  | nil =>
      rfl
  | cons c rest ih =>
      simp only [lowered_cons, outsideAt, beq_toLower (x := '(') (by decide), depthAfter_toLower,
        ih]
      split <;> rfl

theorem isStackPointer_toLower
    (c d : Char) :
    isStackPointer c.toLower d.toLower = isStackPointer c d := by
  have hfirst (e : Char) : isStackPointer c.toLower e = isStackPointer c e := by
    have hs := eq_toLower (f := fun c => c == 's' || c == 'S' || c == 'ſ') (by decide) c
    have ha := eq_toLower (f := fun c => c == 'a' || c == 'A') (by decide) c
    simp only [isStackPointer, hs, ha]
  have hsecond := eq_toLower (f := fun d => d == 'p' || d == 'P') (by decide) d
  rw [hfirst]
  simp only [isStackPointer, hsecond, beq_toLower (x := '7') (by decide)]

theorem afterStackPointer?_lowered
    {skipped : Char → Bool}
    (hclass : ∀ c, skipped c.toLower = skipped c)
    (text : Text) :
    afterStackPointer? skipped text.lowered = (afterStackPointer? skipped text).map lowered := by
  rw [afterStackPointer?, afterStackPointer?, dropWhile_lowered hclass]
  match text.dropWhile skipped with
  | [] =>
      rfl
  | [_] =>
      rfl
  | c :: d :: rest =>
      simp only [lowered_cons, isStackPointer_toLower, dropWhile_lowered hclass]
      split <;> rfl

theorem adjustsAtHead_lowered
    (text : Text) :
    adjustsAtHead text.lowered = adjustsAtHead text := by
  have hclose (after : Text) :
      List.isPrefixOf [')'] after.lowered = List.isPrefixOf [')'] after :=
    isPrefixOf_lowered (by decide) after
  have hpop (after : Text) :
      List.isPrefixOf [')', '+'] after.lowered = List.isPrefixOf [')', '+'] after :=
    isPrefixOf_lowered (by decide) after
  unfold adjustsAtHead
  split
  · next heq =>
      obtain ⟨tail, rfl, htail⟩ := (lowered_eq_cons_iff (by decide)).mp heq
      obtain ⟨rest, rfl, rfl⟩ := (lowered_eq_cons_iff (by decide)).mp htail
      simp only [afterStackPointer?_lowered isBlank_toLower, Option.any_map, hclose]
  · next heq =>
      obtain ⟨rest, rfl, rfl⟩ := (lowered_eq_cons_iff (by decide)).mp heq
      simp only [afterStackPointer?_lowered isBlank_toLower, Option.any_map, hpop]
  · next hnopush hnopop =>
      split
      · exact (hnopush _ rfl).elim
      · exact (hnopop _ rfl).elim
      · rfl

theorem adjustsStack_lowered
    (text : Text) :
    adjustsStack text.lowered = adjustsStack text := by
  induction text with
  | nil =>
      rfl
  | cons c rest ih =>
      rw [adjustsStack, ← adjustsAtHead_lowered, ← ih]
      rfl

theorem written_lowered
    (destination : Text) :
    written destination.lowered = written destination := by
  rw [written, written, adjustsStack_lowered, outside, outsideAt_lowered, Register.tokens_lowered]
  rfl

end Operand

namespace Transfer

/-- What stands after the stack pointer has to be exactly some signs. -/
theorem afterStackPointer?_beq_lowered
    {signs : Text}
    (hsigns : signs.all (!Char.isAlpha ·) = true)
    (text : Text) :
    (Operand.afterStackPointer? isSpace text.lowered == some signs) =
      (Operand.afterStackPointer? isSpace text == some signs) := by
  rw [Operand.afterStackPointer?_lowered isSpace_toLower, Bool.eq_iff_iff, beq_iff_eq, beq_iff_eq,
    Option.map_eq_some_iff]
  simp [lowered_eq_iff hsigns]

theorem isPush_lowered
    (text : Text) :
    isPush text.lowered = isPush text := by
  unfold isPush
  split
  · next heq =>
      obtain ⟨tail, rfl, htail⟩ := (lowered_eq_cons_iff (by decide)).mp heq
      obtain ⟨rest, rfl, rfl⟩ := (lowered_eq_cons_iff (by decide)).mp htail
      exact afterStackPointer?_beq_lowered (by decide) rest
  · next hother =>
      split
      · exact (hother _ rfl).elim
      · rfl

theorem isPop_lowered
    (text : Text) :
    isPop text.lowered = isPop text := by
  unfold isPop
  split
  · next heq =>
      obtain ⟨rest, rfl, rfl⟩ := (lowered_eq_cons_iff (by decide)).mp heq
      exact afterStackPointer?_beq_lowered (by decide) rest
  · next hother =>
      split
      · exact (hother _ rfl).elim
      · rfl

theorem parse?_lowered
    (field : Text) :
    parse? field.lowered = parse? field := by
  rw [parse?, parse?, trim_lowered, splitOn_lowered (by decide)]
  match field.trim.splitOn ',' with
  | [] =>
      rfl
  | [_] =>
      rfl
  | [source, target] =>
      simp only [List.map_cons, List.map_nil, trimSpaces_lowered, isPush_lowered, isPop_lowered,
        RegisterList.entries?_lowered]
  | _ :: _ :: _ :: _ =>
      rfl

end Transfer

/-- A statement in small letters does the same to registers. -/
theorem Statement.action_lowered
    (statement : Statement) :
    statement.lowered.action = statement.action := by
  have htransfer : statement.lowered.transfer? = statement.transfer? := by
    simp only [transfer?, Statement.lowered, Transfer.parse?_lowered]
  have hassigned : statement.lowered.assigned = statement.assigned := by
    have hwritten : Operand.written ∘ Text.lowered = Operand.written :=
      funext Operand.written_lowered
    simp only [assigned, Statement.lowered, Operand.split_lowered, Operand.destination?_lowered,
      Option.map_map, hwritten]
  rw [action, action, htransfer, hassigned]

namespace Instruction

/-- The instruction with its label and its operands in small letters. -/
def lowered (insn : Instruction) : Instruction :=
  { insn with statement := insn.statement.lowered }

theorem ofText?_lowered
    (text : Text) :
    ofText? text.lowered = (ofText? text).map lowered := by
  rw [ofText?, ofText?, Line.ofText_lowered]
  cases Line.ofText text with
  | instruction statement =>
      exact congrArg (fun action => some (Instruction.mk statement.lowered action))
        statement.action_lowered
  | _ =>
      rfl

theorem referenced_lowered
    (insn : Instruction) :
    insn.lowered.referenced = insn.referenced :=
  Register.tokens_lowered insn.statement.operands

theorem effect_lowered
    (insn : Instruction) :
    insn.lowered.effect = insn.effect := by
  simp only [effect, referenced_lowered]
  rfl

/-- The effect of an instruction, and the registers that it names, writes and saves. -/
def registerUse (insn : Instruction) : Effect × List Register × List Register × RegisterSet :=
  (insn.effect, insn.referenced, insn.written, insn.saved)

theorem registerUse_lowered
    (insn : Instruction) :
    insn.lowered.registerUse = insn.registerUse := by
  rw [registerUse, effect_lowered, referenced_lowered]
  rfl

theorem registerUse_ofText?_lowered
    (text : Text) :
    (ofText? text.lowered).map registerUse = (ofText? text).map registerUse := by
  rw [ofText?_lowered, Option.map_map]
  exact congrArg (Option.map · _) (funext registerUse_lowered)

end Instruction

namespace Usage

theorem ofInstruction_lowered
    (insn : Instruction) :
    ofInstruction insn.lowered = ofInstruction insn := by
  simp only [ofInstruction, Instruction.referenced_lowered]
  rfl

theorem ofLine_lowered
    (text : Text) :
    ofLine text.lowered = ofLine text := by
  rw [ofLine, ofLine, Instruction.ofText?_lowered, Option.map_map]
  exact congrArg (fun usage => (Option.map usage _).getD ∅) (funext ofInstruction_lowered)

theorem ofLines_caseAlike
    {lines others : List Text}
    (h : List.Forall₂ CaseAlike lines others) :
    ofLines lines = ofLines others := by
  have hfold (usage : Usage) : lines.foldl feed usage = others.foldl feed usage := by
    induction h generalizing usage with
    | nil =>
        rfl
    | cons hhead _ ih =>
        rw [List.foldl_cons, List.foldl_cons, feed, feed, hhead.eq ofLine_lowered, ih]
  exact hfold ∅

end Usage

namespace Clobber

theorem register?_lowered
    (usage : Usage)
    (text : Text) :
    register? usage text.lowered = register? usage text := by
  rw [register?, register?, Instruction.ofText?_lowered]
  cases Instruction.ofText? text <;> rfl

theorem findAll_caseAlike
    (usage : Usage)
    (line : Int)
    {lines others : List Text}
    (h : List.Forall₂ CaseAlike lines others) :
    findAll usage line lines = findAll usage line others := by
  induction h generalizing line with
  | nil =>
      rfl
  | cons hhead _ ih =>
      rw [findAll, findAll, hhead.eq (register?_lowered usage), ih]

end Clobber

namespace Body

/-- **Letter case.**  Let two texts differ at most in the case of ASCII letters.  Their lines have
the same kind, mnemonic and size, and both or neither end a routine.  Both or neither hold an
instruction, and the instructions have the same effect and name, write and save the same registers.
So two bodies that differ line by line at most in case have the same verdict, and under every usage
the same clobbers. -/
theorem case_invisible :
    (∀ text other : Text, CaseAlike text other →
      (Line.ofText text).outline = (Line.ofText other).outline ∧
      (Instruction.ofText? text).map Instruction.registerUse =
        (Instruction.ofText? other).map Instruction.registerUse) ∧
    (∀ lines others : List Text, List.Forall₂ CaseAlike lines others →
      Verdict.ofBody lines = Verdict.ofBody others ∧
      ∀ (usage : Usage) (line : Int),
        Clobber.findAll usage line lines = Clobber.findAll usage line others) := by
  constructor
  · intro text other h
    exact ⟨h.eq (f := fun line => (Line.ofText line).outline) Line.outline_ofText_lowered,
      h.eq (f := fun line => (Instruction.ofText? line).map Instruction.registerUse)
        Instruction.registerUse_ofText?_lowered⟩
  · intro lines others h
    exact ⟨congrArg Verdict.ofUsage (Usage.ofLines_caseAlike h),
      fun usage line => Clobber.findAll_caseAlike usage line h⟩

/-- Register lists, the stack pointer and the hexadecimal digits behind a dollar sign, in mixed
case. -/
theorem case_invisible_save :
    let lines := ["Save: MOVEM.L D2/a3,-(sP)".toList, "Move.w $D4,A4".toList, "RTS".toList]
    let others := ["sAVE: movem.l d2/A3,-(Sp)".toList, "move.W $d4,a4".toList, "rts".toList]
    List.Forall₂ CaseAlike lines others ∧
      Verdict.ofBody lines = Verdict.ofBody others ∧
      (Verdict.ofBody others).clobbered = [.a 4] ∧
      Clobber.findAll (Usage.ofLines others) 7 lines = [⟨8, .a 4⟩] := by
  intro lines others
  have halike : List.Forall₂ CaseAlike lines others := by
    simp only [lines, others, List.forall₂_cons, List.Forall₂.nil, and_true]
    decide
  obtain ⟨hverdict, hclobbers⟩ := case_invisible.2 lines others halike
  refine ⟨halike, hverdict, by decide, ?_⟩
  rw [hclobbers]
  decide

end Body

end CalleeSaved
