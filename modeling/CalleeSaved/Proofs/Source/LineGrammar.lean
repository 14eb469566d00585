import CalleeSaved.Proofs.Text.Scan
import CalleeSaved.Source.Line

/-!
# The grammar of source lines

The reader of a line cuts part after part off the text, takes as much as it can each time, and never
goes back.  This module compares it with a grammar that only says how a line can be written.

**Grammar.**  `Identifier` and `Mnemonic` are classes of words.  A `Writing` is an instruction line
as it is written, part by part, with the rules for each part; `Writing.text` joins the parts and
`Writing.statement` says what they mean.

**Parts.**  For each part of an instruction, one lemma says that the reader finds the part in front
of any rest that cannot extend it, and one that what it finds is such a part.

**Results.**
* `statement?_text` and `exists_writing`: the reader accepts exactly the written instructions, with
  their meaning.  So all writings of a text mean the same.
* `ofText_exact`: the kind and the parts of every line.
-/

namespace CalleeSaved
namespace Line

open Text

section CharacterClasses

/-- A letter of ASCII. -/
def Letter (c : Char) : Prop :=
  ('A' ≤ c ∧ c ≤ 'Z') ∨ ('a' ≤ c ∧ c ≤ 'z')

/-- A digit of ASCII. -/
def Digit (c : Char) : Prop :=
  '0' ≤ c ∧ c ≤ '9'

/-- A word that starts with a letter or a low line and goes on with characters of the given kind. -/
def Word (part : Char → Prop) : Text → Prop
  | [] => False
  | c :: rest => (Letter c ∨ c = '_') ∧ ∀ d ∈ rest, part d

/-- The name of a label: letters, digits, low lines and dots. -/
def Identifier (text : Text) : Prop :=
  Word (fun c => Letter c ∨ Digit c ∨ c = '_' ∨ c = '.') text

/-- The name of an instruction: letters, digits and low lines. -/
def Mnemonic (text : Text) : Prop :=
  Word (fun c => Letter c ∨ Digit c ∨ c = '_') text

/-- The size of an instruction: letters, at least one. -/
def Size (text : Text) : Prop :=
  text ≠ [] ∧ ∀ c ∈ text, Letter c

/-- Spaces and tabs, at least one. -/
def Gap (text : Text) : Prop :=
  text ≠ [] ∧ Spaces text

instance : DecidablePred Letter :=
  fun _ => inferInstanceAs (Decidable (_ ∨ _))

instance : DecidablePred Digit :=
  fun _ => inferInstanceAs (Decidable (_ ∧ _))

instance (part : Char → Prop) [DecidablePred part] : DecidablePred (Word part)
  | [] => inferInstanceAs (Decidable False)
  | _ :: rest =>
      have := List.decidableBAll part rest
      inferInstanceAs (Decidable (_ ∧ _))

instance : DecidablePred Identifier :=
  fun text => inferInstanceAs (Decidable (Word _ text))

instance : DecidablePred Mnemonic :=
  fun text => inferInstanceAs (Decidable (Word _ text))

instance : DecidablePred Size
  | text =>
      have := List.decidableBAll Letter text
      inferInstanceAs (Decidable (_ ∧ _))

instance : DecidablePred Gap :=
  fun _ => inferInstanceAs (Decidable (_ ∧ _))

theorem isAlpha_iff
    {c : Char} :
    c.isAlpha = true ↔ Letter c := by
  have hupper : c.isUpper = true ↔ 'A' ≤ c ∧ c ≤ 'Z' := decide_eq_true_iff
  have hlower : c.isLower = true ↔ 'a' ≤ c ∧ c ≤ 'z' := by
    change (decide ('a' ≤ c) && decide (c ≤ 'z')) = true ↔ _
    simp
  change (c.isUpper || c.isLower) = true ↔ _
  rw [Bool.or_eq_true, hupper, hlower, Letter]

theorem startsName_iff
    {c : Char} :
    startsName c = true ↔ Letter c ∨ c = '_' := by
  simp [startsName, isAlpha_iff]

theorem inMnemonic_iff
    {c : Char} :
    inMnemonic c = true ↔ Letter c ∨ Digit c ∨ c = '_' := by
  simp [inMnemonic, Char.isAlphanum, isAlpha_iff, Digit, Char.isDigit, Char.le_def, or_assoc]

theorem inIdentifier_iff
    {c : Char} :
    inIdentifier c = true ↔ Letter c ∨ Digit c ∨ c = '_' ∨ c = '.' := by
  simp [inIdentifier, inMnemonic_iff, or_assoc]

theorem word_iff
    {part : Char → Prop}
    {text : Text} :
    Word part text ↔ ∃ c rest, text = c :: rest ∧ (Letter c ∨ c = '_') ∧ ∀ d ∈ rest, part d := by
  cases text with
  | nil =>
      simp [Word]
  | cons c rest =>
      constructor
      · intro h
        exact ⟨c, rest, rfl, h⟩
      · rintro ⟨d, body, heq, h⟩
        obtain ⟨rfl, rfl⟩ := List.cons.inj heq
        exact h

theorem stops_colon
    (rest : Text) :
    Stops inIdentifier (':' :: rest) :=
  stops_cons.mpr (by decide)

theorem Gap.within
    {gap : Text}
    (h : Gap gap) :
    Within isSpace gap :=
  within_isSpace_iff.mpr h.2

theorem Gap.any_head?
    {gap : Text}
    (h : Gap gap)
    (rest : Text) :
    (gap ++ rest).head?.any isSpace = true := by
  obtain ⟨c, gap', rfl⟩ := List.exists_cons_of_ne_nil h.1
  simpa using (within_cons.mp h.within).1

theorem gap_takeWhile
    {text : Text}
    (h : text.head?.any isSpace = true) :
    Gap (text.takeWhile isSpace) := by
  refine ⟨?_, within_isSpace_iff.mp (within_takeWhile isSpace text)⟩
  cases text with
  | nil =>
      simp at h
  | cons c rest =>
      simp_all

/-- A text whose first character is one of the given ones stops every class without these. -/
theorem stops_of_head
    {p : Char → Bool}
    {text : Text}
    (chars : List Char)
    (hhead : ∀ c ∈ text.head?, c ∈ chars)
    (hclass : chars.all (!p ·) = true) :
    Stops p text := by
  intro c hc
  simpa using List.all_eq_true.mp hclass c (hhead c hc)

end CharacterClasses

section WrittenInstructions

/-- An instruction line as it is written: an optional label with the gap after it, the mnemonic, an
optional size, an optional operand field with the gap before it, and an optional comment. -/
structure Writing where
  label : Option (Text × Text)
  mnemonic : Text
  size : Option Text
  operands : Option (Text × Text)
  comment : Option Text
  label_valid : ∀ part ∈ label, Identifier part.1 ∧ Gap part.2
  mnemonic_valid : Mnemonic mnemonic
  size_valid : ∀ part ∈ size, Size part
  operands_valid : ∀ part ∈ operands, Gap part.1 ∧ ';' ∉ part.2
  comment_valid : ∀ part ∈ comment, '\n' ∉ part

namespace Writing

/-- The label with its colon and the gap after it. -/
def labelText : Option (Text × Text) → Text
  | none => []
  | some (name, gap) => name ++ ':' :: gap

/-- The size with the dot before it. -/
def sizeText : Option Text → Text
  | none => []
  | some size => '.' :: size

/-- The operand field with the gap before it. -/
def operandText : Option (Text × Text) → Text
  | none => []
  | some (gap, field) => gap ++ field

/-- The comment with its semicolon. -/
def commentText : Option Text → Text
  | none => []
  | some comment => ';' :: comment

/-- The text after the size. -/
def afterSize (w : Writing) : Text :=
  operandText w.operands ++ commentText w.comment

/-- The text after the mnemonic. -/
def afterMnemonic (w : Writing) : Text :=
  sizeText w.size ++ w.afterSize

/-- The text after the label. -/
def afterLabel (w : Writing) : Text :=
  w.mnemonic ++ w.afterMnemonic

/-- The whole line. -/
def text (w : Writing) : Text :=
  labelText w.label ++ w.afterLabel

/-- What the parts mean: names in small letters, the operand field without the blanks around it. -/
def statement (w : Writing) : Statement where
  label := w.label.map fun part => String.ofList part.1
  mnemonic := lower w.mnemonic
  size := w.size.map lower
  operands := (w.operands.map fun part => part.2.trim).getD []

end Writing

end WrittenInstructions

open Writing

section Words

/-- The reader finds a word in front of a rest that cannot extend it, and nothing else. -/
theorem takeName?_eq_some_iff
    {inName : Char → Bool}
    {part : Char → Prop}
    (hclass : ∀ {c}, inName c = true ↔ part c)
    {text name rest : Text} :
    takeName? inName text = some (name, rest) ↔
      text = name ++ rest ∧ Word part name ∧ Stops inName rest := by
  constructor
  · intro h
    cases text with
    | nil =>
        simp [takeName?] at h
    | cons c body =>
        rw [takeName?] at h
        split at h
        · next hc =>
            simp only [Option.some.injEq, Prod.mk.injEq] at h
            obtain ⟨rfl, rfl⟩ := h
            refine ⟨by simp, ⟨startsName_iff.mp hc, ?_⟩, stops_dropWhile _ _⟩
            exact fun d hd => hclass.mp (within_takeWhile _ _ d hd)
        · simp at h
  · rintro ⟨rfl, hname, hrest⟩
    obtain ⟨c, body, rfl, hc, hbody⟩ := word_iff.mp hname
    have hwithin : Within inName body := fun d hd => hclass.mpr (hbody d hd)
    simp [takeName?, startsName_iff.mpr hc, takeWhile_append_of_stops hwithin hrest,
      dropWhile_append_of_within hwithin hrest]

theorem takeName?_identifier_iff
    {text name rest : Text} :
    takeName? inIdentifier text = some (name, rest) ↔
      text = name ++ rest ∧ Identifier name ∧ Stops inIdentifier rest :=
  takeName?_eq_some_iff inIdentifier_iff

theorem takeName?_mnemonic_iff
    {text name rest : Text} :
    takeName? inMnemonic text = some (name, rest) ↔
      text = name ++ rest ∧ Mnemonic name ∧ Stops inMnemonic rest :=
  takeName?_eq_some_iff inMnemonic_iff

theorem Word.head
    {part : Char → Prop}
    {name : Text}
    (h : Word part name)
    (rest : Text) :
    ∃ c, (name ++ rest).head? = some c ∧ startsName c = true := by
  obtain ⟨c, body, rfl, hc, -⟩ := word_iff.mp h
  exact ⟨c, rfl, startsName_iff.mpr hc⟩

/-- A mnemonic with a size after a dot could start the name of a label. -/
theorem Mnemonic.identifier
    {name : Text}
    (h : Mnemonic name)
    {size : Option Text}
    (hsize : ∀ part ∈ size, Size part) :
    Identifier (name ++ sizeText size) := by
  obtain ⟨c, body, rfl, hc, hbody⟩ := word_iff.mp h
  refine ⟨hc, ?_⟩
  intro d hd
  rcases List.mem_append.mp hd with hd | hd
  · rcases hbody d hd with h | h | h
    · exact Or.inl h
    · exact Or.inr (Or.inl h)
    · exact Or.inr (Or.inr (Or.inl h))
  · cases size with
    | none =>
        simp [sizeText] at hd
    | some size =>
        rcases List.mem_cons.mp hd with rfl | hd
        · exact Or.inr (Or.inr (Or.inr rfl))
        · exact Or.inl ((hsize size rfl).2 d hd)

end Words

section Label

theorem takeLabel_of_gap
    {text name gap rest : Text}
    (hword : takeName? inIdentifier text = some (name, ':' :: (gap ++ rest)))
    (hgap : Gap gap)
    (hrest : Stops isSpace rest) :
    takeLabel text = (some (String.ofList name), rest) := by
  simp only [takeLabel, hword, hgap.any_head? rest, if_true,
    dropWhile_append_of_within hgap.within hrest]

theorem takeLabel_of_not_colon
    {text name rest : Text}
    (hword : takeName? inIdentifier text = some (name, rest))
    (hcolon : rest.head? ≠ some ':') :
    takeLabel text = (none, text) := by
  unfold takeLabel
  rw [hword]
  split
  · next heq =>
      simp only [Option.some.injEq, Prod.mk.injEq] at heq
      simp [heq.2] at hcolon
  · rfl

theorem takeLabel_sound
    (text : Text) :
    ∃ label : Option (Text × Text),
      (∀ part ∈ label, Identifier part.1 ∧ Gap part.2) ∧
      text = labelText label ++ (takeLabel text).2 ∧
      (takeLabel text).1 = label.map fun part => String.ofList part.1 := by
  unfold takeLabel
  split
  · next name rest hword =>
      obtain ⟨rfl, hname, -⟩ := takeName?_identifier_iff.mp hword
      split
      · next hspace =>
          refine ⟨some (name, rest.takeWhile isSpace), ?_, ?_, rfl⟩
          · intro part hpart
            obtain rfl := Option.some.inj hpart
            exact ⟨hname, gap_takeWhile hspace⟩
          · simp [labelText]
      · exact ⟨none, by simp, by simp [labelText], rfl⟩
  · exact ⟨none, by simp, by simp [labelText], rfl⟩

end Label

section Size

theorem takeSize_append
    {size rest : Text}
    (hsize : Size size)
    (hrest : Stops Char.isAlpha rest) :
    takeSize ('.' :: size ++ rest) = (some (lower size), rest) := by
  obtain ⟨hne, hletters⟩ := hsize
  obtain ⟨c, body, rfl⟩ := List.exists_cons_of_ne_nil hne
  have hc : c.isAlpha = true := isAlpha_iff.mpr (hletters c (by simp))
  have hbody : Within Char.isAlpha body := fun d hd => isAlpha_iff.mpr (hletters d (by simp [hd]))
  simp [takeSize, hc, takeWhile_append_of_stops hbody hrest,
    dropWhile_append_of_within hbody hrest]

theorem takeSize_of_not_dot
    {rest : Text}
    (hdot : rest.head? ≠ some '.') :
    takeSize rest = (none, rest) := by
  unfold takeSize
  split
  · simp at hdot
  · rfl

theorem takeSize_sound
    (text : Text) :
    ∃ size : Option Text,
      (∀ part ∈ size, Size part) ∧
      text = sizeText size ++ (takeSize text).2 ∧
      (takeSize text).1 = size.map lower := by
  unfold takeSize
  split
  · next c rest =>
      split
      · next hc =>
          refine ⟨some (c :: rest.takeWhile Char.isAlpha), ?_, by simp [sizeText], rfl⟩
          intro part hpart
          obtain rfl := Option.some.inj hpart
          refine ⟨by simp, ?_⟩
          intro d hd
          rcases List.mem_cons.mp hd with rfl | hd
          · exact isAlpha_iff.mp hc
          · exact isAlpha_iff.mp (within_takeWhile _ _ d hd)
      · exact ⟨none, by simp, by simp [sizeText], rfl⟩
  · exact ⟨none, by simp, by simp [sizeText], rfl⟩

end Size

section OperandField

theorem takeOperands_append
    {gap field rest : Text}
    (hgap : Gap gap)
    (hfield : ';' ∉ field)
    (hrest : ∀ c ∈ rest.head?, c = ';') :
    takeOperands (gap ++ field ++ rest) = (field.trim, rest) := by
  have hspace : (gap ++ field ++ rest).head?.any isSpace = true := by
    rw [List.append_assoc]
    exact hgap.any_head? (field ++ rest)
  have hstop : Stops isSpace rest := stops_of_head [';'] (by simpa using hrest) (by decide)
  have hskip : (gap ++ field ++ rest).dropWhile isSpace = field.dropWhile isSpace ++ rest := by
    rw [dropWhile_append_of_stops hstop, List.dropWhile_append_of_pos hgap.within]
  have hin : Within (· != ';') (field.dropWhile isSpace) := by
    intro c hc
    have hmem : c ∈ field := (List.dropWhile_suffix _).mem hc
    simpa using ne_of_mem_of_not_mem hmem hfield
  have hout : Stops (· != ';') rest := fun c hc => by simp [hrest c hc]
  simp only [takeOperands, hspace, if_true, hskip, takeWhile_append_of_stops hin hout,
    dropWhile_append_of_within hin hout, trim_dropWhile_isSpace]

theorem takeOperands_of_stops
    {rest : Text}
    (hrest : Stops isSpace rest) :
    takeOperands rest = ([], rest) := by
  simp [takeOperands, any_head?_eq_false_iff.mpr hrest]

theorem takeOperands_sound
    (text : Text) :
    ∃ operands : Option (Text × Text),
      (∀ part ∈ operands, Gap part.1 ∧ ';' ∉ part.2) ∧
      text = operandText operands ++ (takeOperands text).2 ∧
      (takeOperands text).1 = (operands.map fun part => part.2.trim).getD [] := by
  unfold takeOperands
  split
  · next hspace =>
      refine ⟨some (text.takeWhile isSpace, (text.dropWhile isSpace).takeWhile (· != ';')),
        ?_, ?_, rfl⟩
      · intro part hpart
        obtain rfl := Option.some.inj hpart
        refine ⟨gap_takeWhile hspace, fun hmem => ?_⟩
        simpa using within_takeWhile _ _ _ hmem
      · simp [operandText]
  · exact ⟨none, by simp, by simp [operandText], rfl⟩

end OperandField

section LineEnd

theorem endsStatement_iff
    {text : Text} :
    endsStatement text = true ↔
      ∃ comment : Option Text, (∀ part ∈ comment, '\n' ∉ part) ∧ text = commentText comment := by
  constructor
  · intro h
    cases text with
    | nil =>
        exact ⟨none, by simp, rfl⟩
    | cons c rest =>
        simp only [endsStatement, Bool.and_eq_true, beq_iff_eq, Bool.not_eq_true',
          List.contains_eq_mem, decide_eq_false_iff_not] at h
        obtain ⟨rfl, hline⟩ := h
        exact ⟨some rest, by simpa using hline, rfl⟩
  · rintro ⟨comment, hcomment, rfl⟩
    cases comment with
    | none =>
        rfl
    | some comment =>
        simpa [commentText, endsStatement] using hcomment

end LineEnd

namespace Writing

theorem head_commentText
    {comment : Option Text}
    {c : Char}
    (hc : c ∈ (commentText comment).head?) :
    c = ';' := by
  cases comment with
  | none =>
      simp [commentText] at hc
  | some comment =>
      simpa [commentText, eq_comm] using hc

theorem head_afterSize
    (w : Writing)
    {c : Char}
    (hc : c ∈ w.afterSize.head?) :
    c ∈ [' ', '\t', ';'] := by
  unfold afterSize at hc
  cases hoperands : w.operands with
  | none =>
      rw [hoperands] at hc
      simp [head_commentText hc]
  | some part =>
      obtain ⟨gap, field⟩ := part
      obtain ⟨⟨hne, hgap⟩, -⟩ := w.operands_valid _ hoperands
      obtain ⟨d, gap', rfl⟩ := List.exists_cons_of_ne_nil hne
      rw [hoperands] at hc
      obtain rfl : d = c := by simpa [operandText] using hc
      rcases hgap d (by simp) with rfl | rfl <;> simp

theorem head_afterMnemonic
    (w : Writing)
    {c : Char}
    (hc : c ∈ w.afterMnemonic.head?) :
    c ∈ ['.', ' ', '\t', ';'] := by
  unfold afterMnemonic at hc
  cases hsize : w.size with
  | none =>
      rw [hsize] at hc
      exact List.mem_cons_of_mem _ (w.head_afterSize hc)
  | some size =>
      rw [hsize] at hc
      obtain rfl : '.' = c := by simpa [sizeText] using hc
      simp

/-- Without a label the longest name in front is the mnemonic with its size. -/
theorem takeName?_text_of_none
    (w : Writing)
    (hlabel : w.label = none) :
    takeName? inIdentifier w.text = some (w.mnemonic ++ sizeText w.size, w.afterSize) := by
  refine takeName?_identifier_iff.mpr ⟨?_, w.mnemonic_valid.identifier w.size_valid, ?_⟩
  · simp [text, afterLabel, afterMnemonic, hlabel, labelText]
  · exact stops_of_head _ (fun _ hc => w.head_afterSize hc) (by decide)

theorem takeName?_text_of_some
    (w : Writing)
    {name gap : Text}
    (hlabel : w.label = some (name, gap)) :
    takeName? inIdentifier w.text = some (name, ':' :: (gap ++ w.afterLabel)) := by
  refine takeName?_identifier_iff.mpr ⟨?_, (w.label_valid _ hlabel).1, stops_colon _⟩
  simp [text, hlabel, labelText]

theorem stops_afterLabel
    (w : Writing) :
    Stops isSpace w.afterLabel := by
  obtain ⟨c, hhead, hstart⟩ := w.mnemonic_valid.head w.afterMnemonic
  intro d hd
  obtain rfl : c = d := Option.some.inj (hhead.symm.trans hd)
  by_contra hspace
  rcases isSpace_iff.mp (by simpa using hspace) with rfl | rfl <;> simp [startsName] at hstart

theorem takeLabel_text
    (w : Writing) :
    takeLabel w.text = (w.statement.label, w.afterLabel) := by
  cases hlabel : w.label with
  | none =>
      have hcolon : w.afterSize.head? ≠ some ':' := by
        intro h
        exact absurd (w.head_afterSize h) (by decide)
      rw [takeLabel_of_not_colon (w.takeName?_text_of_none hlabel) hcolon]
      simp [statement, text, hlabel, labelText]
  | some part =>
      obtain ⟨name, gap⟩ := part
      rw [takeLabel_of_gap (w.takeName?_text_of_some hlabel) (w.label_valid _ hlabel).2
        w.stops_afterLabel]
      simp [statement, hlabel]

theorem takeName?_afterLabel
    (w : Writing) :
    takeName? inMnemonic w.afterLabel = some (w.mnemonic, w.afterMnemonic) :=
  takeName?_mnemonic_iff.mpr
    ⟨rfl, w.mnemonic_valid, stops_of_head _ (fun _ hc => w.head_afterMnemonic hc) (by decide)⟩

theorem takeSize_afterMnemonic
    (w : Writing) :
    takeSize w.afterMnemonic = (w.statement.size, w.afterSize) := by
  cases hsize : w.size with
  | none =>
      have hdot : w.afterSize.head? ≠ some '.' := by
        intro h
        exact absurd (w.head_afterSize h) (by decide)
      simpa [afterMnemonic, statement, hsize, sizeText] using takeSize_of_not_dot hdot
  | some size =>
      have hstop : Stops Char.isAlpha w.afterSize :=
        stops_of_head _ (fun _ hc => w.head_afterSize hc) (by decide)
      simpa [afterMnemonic, statement, hsize, sizeText] using
        takeSize_append (w.size_valid _ hsize) hstop

theorem takeOperands_afterSize
    (w : Writing) :
    takeOperands w.afterSize = (w.statement.operands, commentText w.comment) := by
  cases hoperands : w.operands with
  | none =>
      have hstop : Stops isSpace (commentText w.comment) :=
        stops_of_head [';'] (fun _ hc => by simp [head_commentText hc]) (by decide)
      simpa [afterSize, statement, hoperands, operandText] using takeOperands_of_stops hstop
  | some part =>
      obtain ⟨gap, field⟩ := part
      obtain ⟨hgap, hfield⟩ := w.operands_valid _ hoperands
      simpa [afterSize, statement, hoperands, operandText] using
        takeOperands_append hgap hfield fun _ hc => head_commentText hc

/-- The reader accepts every written instruction and finds its parts. -/
theorem statement?_text
    (w : Writing) :
    statement? w.text = some w.statement := by
  have hend : endsStatement (commentText w.comment) = true :=
    endsStatement_iff.mpr ⟨w.comment, w.comment_valid, rfl⟩
  simp only [statement?, takeLabel_text, takeName?_afterLabel, takeSize_afterMnemonic,
    takeOperands_afterSize, hend, if_true]
  rfl

/-- What the reader accepts is a written instruction. -/
theorem exists_writing
    {text : Text}
    {statement : Statement}
    (h : statement? text = some statement) :
    ∃ w : Writing, w.text = text ∧ w.statement = statement := by
  obtain ⟨label, hlabel, htext, hentry⟩ := takeLabel_sound text
  rcases hsplit : takeLabel text with ⟨entry, afterLabel⟩
  rw [hsplit] at htext hentry
  simp only [statement?, hsplit] at h
  split at h
  · simp at h
  · next mnemonic afterMnemonic hword =>
      obtain ⟨hafter, hmnemonic, -⟩ := takeName?_mnemonic_iff.mp hword
      obtain ⟨size, hsize, hrest, hsizeValue⟩ := takeSize_sound afterMnemonic
      obtain ⟨operands, hoperands, hfield, hfieldValue⟩ :=
        takeOperands_sound (takeSize afterMnemonic).2
      split at h
      · next hend =>
          obtain ⟨comment, hcomment, hlast⟩ := endsStatement_iff.mp hend
          refine ⟨⟨label, mnemonic, size, operands, comment, hlabel, hmnemonic, hsize, hoperands,
            hcomment⟩, ?_, ?_⟩
          · rw [Writing.text, Writing.afterLabel, Writing.afterMnemonic, afterSize, ← hlast,
              ← hfield, ← hrest, ← hafter, ← htext]
          · rw [← Option.some.inj h, Writing.statement, ← hsizeValue, ← hfieldValue]
            simpa using hentry.symm
      · simp at h

/-- More than a colon follows the longest name in front of a written instruction. -/
theorem label?_text
    (w : Writing) :
    label? w.text = none := by
  have hname : ∃ name rest, takeName? inIdentifier w.text = some (name, rest) ∧ rest ≠ [':'] := by
    cases hlabel : w.label with
    | none =>
        refine ⟨_, _, w.takeName?_text_of_none hlabel, fun h => ?_⟩
        exact absurd (w.head_afterSize (c := ':') (by simp [h])) (by decide)
    | some part =>
        exact ⟨_, _, w.takeName?_text_of_some hlabel, by simp [(w.label_valid _ hlabel).2.1]⟩
  obtain ⟨name, rest, hword, hrest⟩ := hname
  unfold label?
  rw [hword]
  split
  · next heq =>
      simp only [Option.some.injEq, Prod.mk.injEq] at heq
      exact absurd heq.2 hrest
  · rfl

theorem head_text
    (w : Writing) :
    ∃ c, w.text.head? = some c ∧ startsName c = true := by
  cases hlabel : w.label with
  | none =>
      rw [text, hlabel]
      exact w.mnemonic_valid.head w.afterMnemonic
  | some part =>
      simpa [text, hlabel, labelText] using
        (w.label_valid _ hlabel).1.head (':' :: (part.2 ++ w.afterLabel))

theorem text_ne_nil
    (w : Writing) :
    w.text ≠ [] := by
  obtain ⟨c, hhead, -⟩ := w.head_text
  intro hempty
  simp [hempty] at hhead

end Writing

section LineKinds

/-- The text is the label of the given name, alone. -/
def LabelForm (text : Text) (name : String) : Prop :=
  Identifier name.toList ∧ text = name.toList ++ [':']

/-- The text is a comment, alone. -/
def CommentForm (text : Text) : Prop :=
  text.head? = some ';' ∧ '\n' ∉ text

/-- The text is an instruction of the given meaning. -/
def InstructionForm (text : Text) (statement : Statement) : Prop :=
  ∃ w : Writing, w.text = text ∧ w.statement = statement

theorem label?_eq_some_iff
    {text : Text}
    {name : String} :
    label? text = some name ↔ LabelForm text name := by
  unfold label?
  constructor
  · intro h
    split at h
    · next word hword =>
        obtain ⟨rfl, hname, -⟩ := takeName?_identifier_iff.mp hword
        obtain rfl := Option.some.inj h
        simpa [LabelForm] using hname
    · simp at h
  · rintro ⟨hname, rfl⟩
    have hword : takeName? inIdentifier (name.toList ++ [':']) = some (name.toList, [':']) :=
      takeName?_identifier_iff.mpr ⟨rfl, hname, stops_colon []⟩
    simp [hword]

theorem statement?_eq_some_iff
    {text : Text}
    {statement : Statement} :
    statement? text = some statement ↔ InstructionForm text statement := by
  constructor
  · exact exists_writing
  · rintro ⟨w, rfl, rfl⟩
    exact w.statement?_text

/-- The reading of a text is borne out by the form of the text. -/
inductive Justified (text : Text) : Line → Prop
  | label {name : String} (form : LabelForm text name) : Justified text (.label name)
  | blank (form : text = []) : Justified text .blank
  | comment (form : CommentForm text) : Justified text .comment
  | instruction {statement : Statement} (form : InstructionForm text statement) :
      Justified text (.instruction statement)
  | unknown : Justified text .unknown

theorem justified_ofTrimmed
    (text : Text) :
    Justified text (ofTrimmed text) := by
  unfold ofTrimmed
  split
  · next name hlabel =>
      exact .label (label?_eq_some_iff.mp hlabel)
  · split
    · next hempty =>
        exact .blank (List.isEmpty_iff.mp hempty)
    · next hempty =>
        split
        · next hend =>
            refine .comment ?_
            obtain ⟨comment, hcomment, rfl⟩ := endsStatement_iff.mp hend
            cases comment with
            | none =>
                exact absurd rfl hempty
            | some comment =>
                simpa [CommentForm, commentText] using hcomment
        · split
          · next statement hstatement =>
              exact .instruction (statement?_eq_some_iff.mp hstatement)
          · exact .unknown

theorem ofTrimmed_eq_label_iff
    {text : Text}
    {name : String} :
    ofTrimmed text = .label name ↔ LabelForm text name := by
  constructor
  · intro h
    cases h ▸ justified_ofTrimmed text with
    | label form =>
        exact form
  · intro h
    simp [ofTrimmed, label?_eq_some_iff.mpr h]

theorem ofTrimmed_eq_blank_iff
    {text : Text} :
    ofTrimmed text = .blank ↔ text = [] := by
  constructor
  · intro h
    cases h ▸ justified_ofTrimmed text with
    | blank form =>
        exact form
  · rintro rfl
    rfl

theorem ofTrimmed_eq_comment_iff
    {text : Text} :
    ofTrimmed text = .comment ↔ CommentForm text := by
  constructor
  · intro h
    cases h ▸ justified_ofTrimmed text with
    | comment form =>
        exact form
  · rintro ⟨hhead, hline⟩
    obtain ⟨rest, rfl⟩ := List.head?_eq_some_iff.mp hhead
    have hend : endsStatement (';' :: rest) = true := by
      simpa [endsStatement] using hline
    simp [ofTrimmed, label?, takeName?, startsName, hend]

theorem ofTrimmed_eq_instruction_iff
    {text : Text}
    {statement : Statement} :
    ofTrimmed text = .instruction statement ↔ InstructionForm text statement := by
  constructor
  · intro h
    cases h ▸ justified_ofTrimmed text with
    | instruction form =>
        exact form
  · rintro ⟨w, rfl, rfl⟩
    obtain ⟨c, hhead, hstart⟩ := w.head_text
    obtain ⟨rest, hrest⟩ := List.head?_eq_some_iff.mp hhead
    have hne : c ≠ ';' := by
      rintro rfl
      exact absurd hstart (by decide)
    have hempty : w.text.isEmpty = false := by simp [hrest]
    have hend : endsStatement w.text = false := by simp [hrest, endsStatement, hne]
    simp [ofTrimmed, w.label?_text, hempty, hend, w.statement?_text]

theorem ofTrimmed_eq_unknown_iff
    {text : Text} :
    ofTrimmed text = .unknown ↔
      (¬ ∃ name, LabelForm text name) ∧ ¬ CommentForm text ∧ text ≠ [] ∧
        ¬ ∃ w : Writing, w.text = text := by
  have hwriting : (∃ w : Writing, w.text = text) ↔ ∃ statement, InstructionForm text statement := by
    constructor
    · rintro ⟨w, hw⟩
      exact ⟨w.statement, w, hw, rfl⟩
    · rintro ⟨_, w, hw, -⟩
      exact ⟨w, hw⟩
  simp only [hwriting, ne_eq, ← ofTrimmed_eq_label_iff, ← ofTrimmed_eq_comment_iff,
    ← ofTrimmed_eq_blank_iff, ← ofTrimmed_eq_instruction_iff]
  cases ofTrimmed text <;> simp

end LineKinds

/-- **Lines by their grammar.**  Without the blanks around it, a line is a label exactly when an
identifier and a colon make it up, a comment exactly when it starts with a semicolon and has no line
feed, blank exactly when nothing is left, an instruction exactly when it can be written as one, and
unknown in every other case.  All writings of a line have the same meaning. -/
theorem ofText_exact
    (text : Text) :
    (∀ name, ofText text = .label name ↔ LabelForm text.trim name) ∧
    (ofText text = .comment ↔ CommentForm text.trim) ∧
    (ofText text = .blank ↔ text.trim = []) ∧
    (∀ statement, ofText text = .instruction statement ↔ InstructionForm text.trim statement) ∧
    (ofText text = .unknown ↔
      (¬ ∃ name, LabelForm text.trim name) ∧ ¬ CommentForm text.trim ∧ text.trim ≠ [] ∧
        ¬ ∃ w : Writing, w.text = text.trim) ∧
    (∀ w v : Writing, w.text = text.trim → v.text = text.trim → w.statement = v.statement) := by
  refine ⟨fun _ => ofTrimmed_eq_label_iff, ofTrimmed_eq_comment_iff, ofTrimmed_eq_blank_iff,
    fun _ => ofTrimmed_eq_instruction_iff, ofTrimmed_eq_unknown_iff, ?_⟩
  intro w v hw hv
  have hsame := w.statement?_text
  rw [hw, ← hv, v.statement?_text] at hsame
  exact Option.some.inj hsame.symm

/-- The gap before the operand field can be taken as part of the field. -/
theorem ofText_exact_wide_gap :
    ∃ w v : Writing, w.operands = some ("  ".toList, "d0,d1 ".toList) ∧
      v.operands = some (" ".toList, " d0,d1 ".toList) ∧
      w.text = Text.trim "\x09loop: Move.L  d0,d1 ; copy".toList ∧
      v.text = Text.trim "\x09loop: Move.L  d0,d1 ; copy".toList ∧ w.statement = v.statement ∧
      w.statement = ⟨some "loop", "move", some "l", "d0,d1".toList⟩ := by
  let w : Writing := ⟨some ("loop".toList, [' ']), "Move".toList, some ['L'],
    some ("  ".toList, "d0,d1 ".toList), some " copy".toList, by decide, by decide, by decide,
    by decide, by decide⟩
  let v : Writing := ⟨some ("loop".toList, [' ']), "Move".toList, some ['L'],
    some (" ".toList, " d0,d1 ".toList), some " copy".toList, by decide, by decide, by decide,
    by decide, by decide⟩
  exact ⟨w, v, rfl, rfl, by decide, by decide,
    (ofText_exact "\x09loop: Move.L  d0,d1 ; copy".toList).2.2.2.2.2 w v (by decide) (by decide),
    by decide⟩

end Line
end CalleeSaved
