import CalleeSaved.Text.Basic
import CalleeSaved.Text.Decimal
import CalleeSaved.Text.Quoted

/-!
# Switches

The words of a command line are switches with their values, and plain words.

**Spellings.**  A switch has short names of one letter and long names.  A long name may be cut
short as long as it stays unambiguous, and takes a value after an equals sign or as the next word.
A short name takes a value in the same word, with or without an equals sign, or as the next word.

**Joined switches.**  What follows a short switch without a value in the same word, with or without
an equals sign between them, are the letters of further short switches.

**Void values.**  Two dashes in the same word as a switch are no text: the switch then has a value
that is void, which no list of choices excludes.

**Plain words.**  A word that does not start with a dash is plain, and so are a lone dash, a
negative number, and a word with a space that is no switch.  After two dashes alone every word is
plain.

**Order.**  All words are classified first; then switches take effect one after the other.
-/

namespace CalleeSaved

/-- What a switch is for. -/
inductive SwitchKey
  | help
  | version
  | verbose
  | output
  | shareEntryLabels
  | format
  | severity
  | suppress
  | colour
  | noColour
  | noEmoji
  deriving DecidableEq, Repr

/-- A switch with its names. -/
structure Switch where
  key : SwitchKey
  names : List String
  takesValue : Bool := false
  /-- The values allowed, if not all are. -/
  choices : Option (List String) := none
  deriving DecidableEq, Repr

/-- The names of a switch, as messages show them. -/
def Switch.display (switch : Switch) : String :=
  "/".intercalate switch.names

/-- What is wrong with a command line. -/
inductive UsageError
  | ambiguous (word : String) (names : List String)
  | ignoredValue (switch : Switch) (value : Text)
  | missingValue (switch : Switch)
  | invalidChoice (argument : String) (value : String) (choices : List String)
  | conflict (switch other : Switch)
  | missingArguments (argument : String)
  | unrecognized (words : List String)
  deriving DecidableEq, Repr

/-- The wording of a usage error. -/
def UsageError.message : UsageError → String
  | ambiguous word names =>
      "ambiguous option: " ++ word ++ " could match " ++ ", ".intercalate names
  | ignoredValue switch value =>
      "argument " ++ switch.display ++ ": ignored explicit argument " ++ Text.quoted value
  | missingValue switch => "argument " ++ switch.display ++ ": expected one argument"
  | invalidChoice argument value choices =>
      "argument " ++ argument ++ ": invalid choice: " ++ Text.quoted value.toList ++
        " (choose from " ++
        ", ".intercalate (choices.map fun choice => Text.quoted choice.toList) ++ ")"
  | conflict switch other =>
      "argument " ++ switch.display ++ ": not allowed with argument " ++ other.display
  | missingArguments argument => "the following arguments are required: " ++ argument
  | unrecognized words => "unrecognized arguments: " ++ " ".intercalate words

/-- A word of a command line.  A switch comes with its full name and with what stands behind it in
the same word. -/
inductive Word
  | plain
  | unknown
  | switch (switch : Switch) (name : Text) (attached : Option Text)
  deriving DecidableEq, Repr

namespace Word

/-- The names of switches, in order. -/
def names (switches : List Switch) : List (Text × Switch) :=
  switches.flatMap fun switch => switch.names.map fun name => (name.toList, switch)

/-- The text up to the first equals sign, and the text after it. -/
def splitAtEquals (text : Text) : Text × Option Text :=
  (text.takeWhile (· != '='), (text.dropWhile (· != '=')).tail?)

/-- The switches whose names the word may stand for. -/
def candidates (switches : List Switch) (word : Text) : List Word :=
  if ['-', '-'].isPrefixOf word then
    let (start, value) := splitAtEquals word
    ((names switches).filter fun entry => start.isPrefixOf entry.1).map fun entry =>
      switch entry.2 entry.1 value
  else
    ((names switches).filter fun entry => entry.1 == word.take 2).map fun entry =>
      switch entry.2 entry.1 (some (word.drop 2))

/-- The name that a word stands for. -/
def nameOf : Word → String
  | switch _ name _ => String.ofList name
  | _ => ""

/-- The text is a decimal number without sign; a line feed at its end is overlooked. -/
def isNumber (text : Text) : Bool :=
  let text := if text.getLast? == some '\n' then text.dropLast else text
  let fraction := text.dropWhile Text.isDecimal
  match fraction with
  | [] => !text.isEmpty
  | '.' :: digits => !digits.isEmpty && digits.all Text.isDecimal
  | _ => false

/-- A word that starts with a dash and names no switch is plain if it is a number or holds a
space. -/
def unnamed (word : Text) : Word :=
  if isNumber (word.drop 1) || word.contains ' ' then plain else unknown

/-- The switch whose full name stands before an equals sign in the word. -/
def assigned? (switches : List Switch) (word : Text) : Option Word :=
  match splitAtEquals word with
  | (_, none) => none
  | (name, some value) =>
      ((names switches).lookup name).map fun found => switch found name (some value)

/-- The kind of a word. -/
def classify (switches : List Switch) (word : Text) : Except UsageError Word :=
  if word.head? != some '-' || word == ['-'] then .ok plain
  else
    match (names switches).lookup word with
    | some found => .ok (switch found word none)
    | none =>
        match assigned? switches word with
        | some found => .ok found
        | none =>
            match candidates switches word with
            | [] => .ok (unnamed word)
            | [found] => .ok found
            | several => .error (.ambiguous (String.ofList word) (several.map nameOf))

/-- The words with their kinds; after two dashes alone every word is plain. -/
def classifyAll (switches : List Switch) : List String → Except UsageError (List (String × Word))
  | [] => .ok []
  | word :: rest =>
      if word == "--" then .ok ((word :: rest).map fun word => (word, plain))
      else do
        let kind ← classify switches word.toList
        let kinds ← classifyAll switches rest
        return (word, kind) :: kinds

end Word

/-- The switches of one word in order, each with its value if it has one.  The last may still wait
for its value. -/
structure SwitchGroup where
  settled : List (Switch × Option Text)
  waiting : Option Switch := none

namespace SwitchGroup

/-- The group with a switch in front. -/
def cons (switch : Switch) (group : SwitchGroup) : SwitchGroup :=
  { group with settled := (switch, none) :: group.settled }

/-- A switch on its own. -/
def single (switch : Switch) : SwitchGroup :=
  if switch.takesValue then { settled := [], waiting := some switch }
  else { settled := [(switch, none)] }

/-- The switches of a word whose short switch is followed by the given text.  A switch without a
value is followed by the letter of the next switch, and a letter that names none is an error. -/
def ofJoined (switches : List Switch) (switch : Switch) : Text → Except UsageError SwitchGroup
  | [] => .ok (single switch)
  | c :: rest =>
      if switch.takesValue then .ok { settled := [(switch, some (c :: rest))] }
      else
        match (Word.names switches).lookup ['-', c] with
        | none => .error (.ignoredValue switch (c :: rest))
        | some next => (ofJoined switches next rest).map (cons switch)

/-- The name is one letter after a dash. -/
def isShort (name : Text) : Bool :=
  !(['-', '-'].isPrefixOf name)

/-- The switches of a word, which starts with a switch by the given name. -/
def ofWord (switches : List Switch) (switch : Switch) (name : Text) :
    Option Text → Except UsageError SwitchGroup
  | none => .ok (single switch)
  | some text =>
      if switch.takesValue then .ok { settled := [(switch, some text)] }
      else if isShort name && !text.isEmpty then ofJoined switches switch text
      else .error (.ignoredValue switch text)

end SwitchGroup

/-- Why the reading of a command line ends early. -/
inductive Stop
  | help
  | version
  | misuse (error : UsageError)
  deriving DecidableEq, Repr

/-- The value of a switch. -/
inductive SwitchValue (α : Type)
  | text (s : α)
  | void
  deriving DecidableEq, Repr

namespace SwitchValue

/-- The value that a text stands for. -/
def ofText (text : Text) : SwitchValue String :=
  if text == ['-', '-'] then void else .text (String.ofList text)

/-- The text of a value that is not void. -/
def text? {α : Type} : SwitchValue α → Option α
  | text s => some s
  | void => none

/-- The value with its text changed. -/
def map {α β : Type} (f : α → β) : SwitchValue α → SwitchValue β
  | text s => text (f s)
  | void => void

/-- The value as messages show it; a void one is an empty list. -/
def display : SwitchValue String → String
  | text s => Text.quoted s.toList
  | void => "[]"

end SwitchValue

/-- The switches that have taken effect, with their values. -/
abbrev Occurrences := List (Switch × Option (SwitchValue String))

namespace Occurrences

/-- The last value of a switch. -/
def last? (occurrences : Occurrences) (key : SwitchKey) : Option (SwitchValue String) :=
  (occurrences.reverse.find? fun entry => entry.1.key == key).bind Prod.snd

/-- The switch occurs. -/
def has (occurrences : Occurrences) (key : SwitchKey) : Bool :=
  occurrences.any fun entry => entry.1.key == key

/-- The values of a switch, in order. -/
def values (occurrences : Occurrences) (key : SwitchKey) : List (SwitchValue String) :=
  (occurrences.filter fun entry => entry.1.key == key).filterMap Prod.snd

/-- The number of times a switch occurs. -/
def count (occurrences : Occurrences) (key : SwitchKey) : Nat :=
  (occurrences.filter fun entry => entry.1.key == key).length

/-- The two switches exclude each other. -/
def excludes : SwitchKey → SwitchKey → Bool
  | .colour, .noColour => true
  | .noColour, .colour => true
  | _, _ => false

/-- The occurrences with a further one, if it is allowed. -/
def take (occurrences : Occurrences) (switch : Switch) (value : Option Text) :
    Except Stop Occurrences :=
  let value := value.map SwitchValue.ofText
  match switch.choices, value with
  | some choices, some (.text chosen) =>
      if choices.contains chosen then .ok (occurrences ++ [(switch, value)])
      else .error (.misuse (.invalidChoice switch.display chosen choices))
  | _, _ =>
      match switch.key with
      | .help => .error .help
      | .version => .error .version
      | key =>
          match occurrences.find? fun entry => excludes key entry.1.key with
          | some other => .error (.misuse (.conflict switch other.1))
          | none => .ok (occurrences ++ [(switch, value)])

/-- The occurrences with further ones, one after the other. -/
def takeAll (occurrences : Occurrences) : List (Switch × Option Text) → Except Stop Occurrences
  | [] => .ok occurrences
  | (switch, value) :: rest => do (← occurrences.take switch value).takeAll rest

end Occurrences
end CalleeSaved
