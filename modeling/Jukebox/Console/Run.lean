import Jukebox.Console.Help
import Jukebox.Console.Task

set_option autoImplicit false

/-! # Running the program

A run starts at the program with the words of its command line and works down the tree, one
command at a time. At each command:

* the command reads its flags (see `readFlags`); a flag problem prints `Incorrect Usage:
  <problem>` and a blank line to standard error, and at the program's level the program's page
  on standard output, and the run fails with the problem;
* a set `--help` runs the help action for the command with the positional words; a name that
  answers to no subcommand makes the run fail with `No help topic for '<name>'`;
* a first positional word that names a subcommand hands the words after it to that subcommand;
* otherwise the command finishes: when a command of its lineage lacks required flags, it shows
  its short page and fails with `Required flag "x" not set` (or `Required flags "x, y" not
  set`); a command with a task does it; any other command runs the help action, and a name
  that answers to no subcommand then stops the program with `No help topic for '<name>'` on
  standard error and exit status 3.

A failing task makes the run fail with the task's fault. A failed run exits with status 1; the
program reports its fault.
-/

namespace Jukebox.Console

/-- What a failed run reports in its log before it exits with status 1. -/
inductive Report where
  /-- The settings could not be read, so no command ran. -/
  | settings (message : String)
  /-- A command failed. -/
  | command (fault : Fault)

/-- The log entry of a report: its level, the fault's text, and for a failed command the
fault's kind, status and field. -/
def Report.toJson : Report → Json
  | .settings m => .obj [("level", .str "fatal"), ("error", .str m), ("message", .str "load config")]
  | .command e => .obj [("level", .str "error"), ("error", .str e.message),
      ("kind", .str e.kind.name), ("status", .int e.kind.status), ("field", .str e.field),
      ("message", .str "command failed")]

/-- What a run of the program leaves behind. -/
structure Transcript where
  stdout : String := ""
  stderr : String := ""
  /-- What a failed run reports. -/
  report : Option Report := none
  exitCode : Nat := 0

/-- A run that prints a help text. -/
def showing (text : String) : Transcript := { stdout := align text }

/-- A run that fails with a fault. -/
def failing (e : Fault) : Transcript := { report := some (.command e), exitCode := 1 }

/-- A run stopped by a flag problem, with the help text printed for it. -/
def usageFailure (e : UsageError) (help : String) : Transcript where
  stdout := align help
  stderr := "Incorrect Usage: " ++ e.message ++ "\n\n"
  report := some (.command (.plain e.message))
  exitCode := 1

/-- The text for a name that answers to no command. -/
def noTopicText (name : String) : String := "No help topic for '" ++ name ++ "'"

/-- A command's help action that found no topic: it stops the program at once with exit
status 3, the text on standard error and nothing in the log. -/
def noTopic (name : String) : Transcript where
  stderr := noTopicText name ++ "\n"
  exitCode := 3

/-- The text of a missing-required-flags failure. -/
def missingFlags (names : List String) : String :=
  match names with
  | [n] => "Required flag " ++ Text.quote n ++ " not set"
  | ns => "Required flags " ++ Text.quote (", ".intercalate ns) ++ " not set"

/-- The required flags that no level has set, of the first command from the head upwards that
lacks any. -/
def Lineage.missing (l : Lineage) (values : Assignments) : Option (List String) :=
  l.findSome? fun c =>
    match (c.flags.filter fun f => f.required && !values.isSet f.name).map (·.name) with
    | [] => none
    | names => some names

/-- The help shown when a flag problem stops a command: the program's page for the program,
and for a command the page of its subcommand of the same name, which none has. -/
def Lineage.usageHelp (l : Lineage) : String :=
  match l with
  | [_] => l.page.programText
  | c :: _ => if l.hidesHelp then "" else (l.topic c.name).getD ""
  | [] => ""

/-- Runs the command at the head of a lineage once no subcommand takes over: checks required
flags, then does the task, or for a command without a task runs the help action. -/
def finish (scheme : Catalog.PasswordScheme) (config : Settings.Config) (l : Lineage)
    (values : Assignments) (args : List String) : Transcript :=
  match l.missing values with
  | some names =>
    { stdout := align l.page.shortText
      report := some (.command (.plain (missingFlags names)))
      exitCode := 1 }
  | none =>
    match l.head?.bind (·.task) with
    | some task =>
      match task.perform scheme values config (values.switch "memory") with
      | .ok doc => { stdout := doc.indented }
      | .error e => failing e
    | none =>
      match l.help args with
      | .ok text => showing text
      | .error name => noTopic name

/-- Runs the command at the head of a lineage on the words after its name, with the flag values
set so far. A subcommand named by the first positional word takes over; every step down takes
a word, so `fuel` at the number of words suffices. -/
def runAt (scheme : Catalog.PasswordScheme) (config : Settings.Config) :
    Nat → Lineage → Assignments → List String → Transcript
  | 0, _, _, _ => {}
  | fuel + 1, l, values, words =>
    match l with
    | [] => {}
    | c :: _ =>
      match readFlags l.flag? c.isCommand values words with
      | .error e => usageFailure e l.usageHelp
      | .ok (values, args) =>
        if values.switch "help" then
          match l.help args with
          | .ok text => showing text
          | .error name => failing (.plain (noTopicText name))
        else
          match args with
          | name :: more =>
            match c.sub? name with
            | some s => runAt scheme config fuel (s :: l) values more
            | none => finish scheme config l values args
          | [] => finish scheme config l values args

/-- Runs the program on the words of its command line (without the program's own name). -/
def run (scheme : Catalog.PasswordScheme) (config : Settings.Config) (words : List String) :
    Transcript :=
  runAt scheme config (words.length + 1) [program] [] words

/-- Runs the program in an environment, with the password hashing it is linked with: reads the
settings, then the command line. -/
def launch (scheme : Catalog.PasswordScheme) (env : Settings.Environment) (words : List String) :
    Transcript :=
  match Settings.Config.read env with
  | .ok config => run scheme config words
  | .error e => { report := some (.settings e.message), exitCode := 1 }

end Jukebox.Console
