import Jukebox.Text.Integer
import Jukebox.Text.Blank
import Jukebox.Text.Latin

set_option autoImplicit false

/-! # Flags

A command reads flags from the words of its command line, each word first trimmed of blank
space:

* `-name` and `--name` name a flag; `-name=value` and `--name=value` give its value inline;
* a switch takes no separate value (`--memory`, or `--memory=false` inline; an empty inline
  value counts as on), any other flag takes the next word as its value, even one that starts
  with `-`, unless a value that is not empty stands inline (`--name=` takes the next word);
* other words are positional and reading goes on after them, except that
  - a word that names a subcommand ends the reading and is kept with all words after it,
  - `--` ends the reading and keeps all words after it,
  - `-` alone ends the reading, is kept, and drops the words after it,
  - an empty word ends the reading and drops the words after it,
  - a word of one dash and a character that is not a letter (`-1`) ends the reading and is
    kept with all words after it;
* a flag given twice keeps its last value.

Which flags a name may set is up to the caller: a command accepts its own flags and those of
every command above it, and a value set at any level is seen at every level.

Integer flags read literals (`0x1F`, `0o17`, `0b11`, `017`, `1_000`) as 64-bit signed
integers; switches read `1 t T TRUE true True` and `0 f F FALSE false False`.

The first problem met stops the reading; `UsageError.message` gives its text.
-/

namespace Jukebox.Console

open Text

/-- What a flag holds. -/
inductive FlagKind where
  | text
  | integer
  | switch
deriving DecidableEq, Repr

/-- A flag a command accepts. -/
structure Flag where
  name : String
  aliases : List String := []
  usage : String
  kind : FlagKind
  required : Bool := false
  /-- Whether help for the commands below lists the flag among their global options. -/
  inherited : Bool := false
  /-- Whether help leaves out the flag's default value. -/
  hideDefault : Bool := false
deriving DecidableEq, Repr

/-- The names of a flag, its own first. -/
def Flag.names (f : Flag) : List String := f.name :: f.aliases

/-- A value given to a flag. -/
inductive FlagValue where
  | text (s : String)
  | integer (n : Int)
  | switch (b : Bool)
deriving DecidableEq, Repr

/-- Values given to flags, by the flag's own name, in the order they were read. -/
abbrev Assignments := List (String × FlagValue)

/-- Why a flag cannot read a value. -/
inductive ValueProblem where
  /-- A switch's value is not one of the words for on and off. -/
  | notSwitch
  /-- An integer flag's value is not an integer literal that fits. -/
  | notInteger (f : Integer.Failure)
deriving DecidableEq, Repr

/-- The problem's text. -/
def ValueProblem.message : ValueProblem → String
  | .notSwitch => "parse error"
  | .notInteger f => f.message

/-- Why the words of a command line do not fit its flags. -/
inductive UsageError where
  /-- A name no flag has. -/
  | undefined (name : String)
  /-- A flag that takes a value came last, with no value inline. -/
  | missingValue (word : String)
  /-- A value that the flag cannot read. -/
  | invalidValue (value name : String) (cause : ValueProblem)
deriving DecidableEq, Repr

/-- The problem's text. -/
def UsageError.message : UsageError → String
  | .undefined n => "flag provided but not defined: -" ++ n
  | .missingValue w => "flag needs an argument: " ++ w
  | .invalidValue v n c => "invalid value " ++ quote v ++ " for flag -" ++ n ++ ": " ++ c.message

/-- Reads a switch's value. -/
def readSwitch (s : String) : Option Bool :=
  if ["1", "t", "T", "TRUE", "true", "True"].contains s then some true
  else if ["0", "f", "F", "FALSE", "false", "False"].contains s then some false
  else none

/-- Reads a value given to a flag under one of its names. -/
def readValue (f : Flag) (name value : String) : Except UsageError FlagValue :=
  match f.kind with
  | .integer =>
    match Integer.read "ParseInt" 0 value with
    | .ok n => .ok (.integer n)
    | .error e => .error (.invalidValue value name (.notInteger e))
  | .switch =>
    match readSwitch value with
    | some b => .ok (.switch b)
    | none => .error (.invalidValue value name .notSwitch)
  | .text => .ok (.text value)

/-- Splits a flag word's body at its first `=` into a name and an inline value. -/
def splitInline (body : List Char) : String × Option String :=
  match body.span (· ≠ '=') with
  | (name, _ :: value) => (String.ofList name, some (String.ofList value))
  | (name, []) => (String.ofList name, none)

/-- Whether the character after a single dash can start a flag name: its first byte, read as a
Latin-1 character, is a letter. -/
def startsName (c : Char) : Bool := latinLetter ((utf8Bytes c).headD 0)

/-- Reads flags from the words, adding their values to `acc`; gives the values and the
positional words. `lookup` finds the flag a name sets, and `isCommand` tells the names of the
command's subcommands. -/
def readFlags (lookup : String → Option Flag) (isCommand : String → Bool) (acc : Assignments) :
    List String → Except UsageError (Assignments × List String)
  | [] => .ok (acc, [])
  | word :: rest =>
    let w := trim word
    match w.toList with
    | [] => .ok (acc, [])
    | ['-', '-'] => .ok (acc, rest)
    | ['-'] => .ok (acc, [w])
    | '-' :: c :: tail =>
      if c ≠ '-' && !startsName c then .ok (acc, word :: rest)
      else
        let (name, inline) := splitInline (if c = '-' then tail else c :: tail)
        match lookup name with
        | none => .error (.undefined name)
        | some f =>
          -- an empty inline value counts as none
          match f.kind, inline.filter (· ≠ "") with
          | .switch, v =>
            match readValue f name (v.getD "true") with
            | .ok x => readFlags lookup isCommand (acc ++ [(f.name, x)]) rest
            | .error e => .error e
          | _, some v =>
            match readValue f name v with
            | .ok x => readFlags lookup isCommand (acc ++ [(f.name, x)]) rest
            | .error e => .error e
          | _, none =>
            match rest with
            | [] => .error (.missingValue w)
            | v :: more =>
              match readValue f name v with
              | .ok x => readFlags lookup isCommand (acc ++ [(f.name, x)]) more
              | .error e => .error e
    | _ =>
      if isCommand w then .ok (acc, word :: rest)
      else (readFlags lookup isCommand acc rest).map fun (a, ps) => (a, w :: ps)

namespace Assignments

/-- The last value given to a flag. -/
def get? (a : Assignments) (name : String) : Option FlagValue :=
  (a.reverse.find? (·.1 = name)).map (·.2)

/-- Whether a flag was given. -/
def isSet (a : Assignments) (name : String) : Bool := (a.get? name).isSome

/-- A text flag's value, or the empty text. -/
def text (a : Assignments) (name : String) : String :=
  match a.get? name with
  | some (.text s) => s
  | _ => ""

/-- An integer flag's value, or zero. -/
def integer (a : Assignments) (name : String) : Int :=
  match a.get? name with
  | some (.integer n) => n
  | _ => 0

/-- A switch's value, or off. -/
def switch (a : Assignments) (name : String) : Bool :=
  match a.get? name with
  | some (.switch b) => b
  | _ => false

/-- A text flag's value when it was given. -/
def text? (a : Assignments) (name : String) : Option String :=
  if a.isSet name then some (a.text name) else none

/-- An integer flag's value when it was given. -/
def integer? (a : Assignments) (name : String) : Option Int :=
  if a.isSet name then some (a.integer name) else none

end Assignments

end Jukebox.Console
