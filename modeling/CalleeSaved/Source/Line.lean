import CalleeSaved.Text.Basic

/-!
# Source lines

A line of assembly source, blanks around it ignored, is blank, a comment, a label alone, or an
instruction:

* label: an identifier and a colon;
* comment: a semicolon and the rest of the line;
* instruction: an optional label with a colon and spaces, a mnemonic, an optional size after a
  dot, an optional operand field after spaces, and an optional comment.

Any other line is unknown and has no effect.

**Reading.**  `Line.ofText` decides the kind.  Every part of an instruction takes as much as it
can, so a line has at most one reading.

**Returns.**  `rts` and `rte` end a routine.  A label in front hides the mnemonic: `done: rts` is
no return.
-/

namespace CalleeSaved

/-- The parts of an instruction line.  Mnemonic and size are in small letters. -/
structure Statement where
  label : Option String
  mnemonic : String
  size : Option String
  operands : Text
  deriving DecidableEq, Repr

/-- What stands on a source line. -/
inductive Line
  | blank
  | comment
  | label (name : String)
  | instruction (statement : Statement)
  | unknown
  deriving DecidableEq, Repr

namespace Line

/-- The characters that start an identifier or a mnemonic. -/
def startsName (c : Char) : Bool :=
  c.isAlpha || c == '_'

/-- The characters of a mnemonic. -/
def inMnemonic (c : Char) : Bool :=
  c.isAlphanum || c == '_'

/-- The characters of an identifier. -/
def inIdentifier (c : Char) : Bool :=
  inMnemonic c || c == '.'

/-- The longest name at the head of the text, and the rest. -/
def takeName? (inName : Char → Bool) : Text → Option (Text × Text)
  | [] => none
  | c :: rest =>
      if startsName c then some (c :: rest.takeWhile inName, rest.dropWhile inName) else none

/-- A comment, or nothing at all, fills the text to its end. -/
def endsStatement : Text → Bool
  | [] => true
  | c :: rest => c == ';' && !rest.contains '\n'

/-- The label in front of an instruction, and the rest after the spaces that follow it. -/
def takeLabel (text : Text) : Option String × Text :=
  match takeName? inIdentifier text with
  | some (name, ':' :: rest) =>
      if rest.head?.any Text.isSpace then (some (String.ofList name), rest.dropWhile Text.isSpace)
      else (none, text)
  | _ => (none, text)

/-- The text in small letters; only ASCII letters occur in mnemonics and sizes. -/
def lower (text : Text) : String :=
  String.ofList (text.map Char.toLower)

/-- The size after a mnemonic, and the rest. -/
def takeSize : Text → Option String × Text
  | '.' :: c :: rest =>
      if c.isAlpha then
        (some (lower (c :: rest.takeWhile Char.isAlpha)), rest.dropWhile Char.isAlpha)
      else (none, '.' :: c :: rest)
  | text => (none, text)

/-- The operand field, which reaches to the comment, and the rest. -/
def takeOperands (text : Text) : Text × Text :=
  if text.head?.any Text.isSpace then
    let field := text.dropWhile Text.isSpace
    (Text.trim (field.takeWhile (· != ';')), field.dropWhile (· != ';'))
  else ([], text)

/-- The parts of an instruction that fills the whole text. -/
def statement? (text : Text) : Option Statement :=
  let (entry, afterLabel) := takeLabel text
  match takeName? inMnemonic afterLabel with
  | none => none
  | some (mnemonic, afterMnemonic) =>
      let (size, afterSize) := takeSize afterMnemonic
      let (operands, afterOperands) := takeOperands afterSize
      if endsStatement afterOperands then some ⟨entry, lower mnemonic, size, operands⟩ else none

/-- The label that fills the whole text. -/
def label? (text : Text) : Option String :=
  match takeName? inIdentifier text with
  | some (name, [':']) => some (String.ofList name)
  | _ => none

/-- The reading of a text without surrounding blanks. -/
def ofTrimmed (text : Text) : Line :=
  match label? text with
  | some name => label name
  | none =>
      if text.isEmpty then blank
      else if endsStatement text then comment
      else
        match statement? text with
        | some statement => instruction statement
        | none => unknown

/-- The reading of a source line. -/
def ofText (text : Text) : Line :=
  ofTrimmed text.trim

/-- The line is a label alone. -/
def isLabel : Line → Bool
  | label _ => true
  | _ => false

/-- The line holds an instruction. -/
def isInstruction : Line → Bool
  | instruction _ => true
  | _ => false

/-- The mnemonics that end a routine. -/
def returnMnemonics : List String :=
  ["rts", "rte"]

/-- The line ends a routine. -/
def isReturn : Line → Bool
  | instruction statement => statement.label.isNone && returnMnemonics.contains statement.mnemonic
  | _ => false

end Line
end CalleeSaved
