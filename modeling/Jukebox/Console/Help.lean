import Jukebox.Console.Command
import Jukebox.Text.Blank

set_option autoImplicit false

/-! # Help pages

A help page names a command and its usage line, lists its subcommands with their usage lines,
and lists its flags. Three layouts exist:

* the program's page: `USAGE` with `[global options]` and `[command [command options]]`, then
  `COMMANDS` and `GLOBAL OPTIONS`;
* a command's *full* page: `USAGE` with `[options]` when it has flags, `OPTIONS`, then the
  program's listed flags under `GLOBAL OPTIONS`;
* a command's *short* page: `USAGE` with `[command [command options]]` when it lists
  subcommands, `COMMANDS`, then `OPTIONS`.

Which page help shows follows the help action. Asked with the name of a subcommand, it shows
that subcommand's full page when the subcommand has no commands of its own and its short page
otherwise; a name that answers to no subcommand is *no help topic*. Asked with no name, a help
command speaks for the command it sits in; the program shows its own page, a command whose only
subcommand is its help command shows its full page, and any other command its short page.

A flag is listed as its dashed names (`--help, -h`), the kind of value it takes (`string`,
`int`; none for a switch), and its usage, followed by ` (default: ...)` unless it is required,
hides its default, or defaults to the empty text. The usage texts of a list of flags start in
one column, two spaces after the longest flag; the usage texts of a list of commands start two
spaces after the longest list of names.
-/

namespace Jukebox.Console

/-- What a help page shows about one command. -/
structure Page where
  /-- The names from the program down to the command. -/
  path : List String
  usage : String
  arguments : String := ""
  /-- The command's own flags, in order. -/
  flags : List Flag
  /-- The subcommands' names and usage lines, in order. -/
  commands : List (List String × String) := []
  /-- The program's flags listed as global options. -/
  globals : List Flag := []

namespace Page

/-- The command's name with the names of the commands above it. -/
def fullName (p : Page) : String := " ".intercalate p.path

/-- The dashed form of one flag name. -/
def dashed (name : String) : String := (if name.length = 1 then "-" else "--") ++ name

/-- The kind of value a flag takes, as help names it. -/
def placeholder : FlagKind → String
  | .text => "string"
  | .integer => "int"
  | .switch => ""

/-- The default a flag shows in help, if any. -/
def shownDefault (f : Flag) : String :=
  if f.required || f.hideDefault then ""
  else
    match f.kind with
    | .text => ""
    | .integer => " (default: 0)"
    | .switch => " (default: false)"

/-- A flag's help entry: its names, a tab, and its usage with the default. -/
def flagEntry (f : Flag) : String :=
  let ph := placeholder f.kind
  let names := f.names.map fun n => dashed n ++ (if ph = "" then "" else " " ++ ph)
  ", ".intercalate names ++ "\t" ++ Text.trim (f.usage ++ shownDefault f)

/-- The lines listing flags, each after a line break and three spaces. -/
def flagLines (fs : List Flag) : String :=
  String.join (fs.map fun f => "\n   " ++ flagEntry f)

/-- The lines listing commands, usage texts two spaces after the longest names. -/
def commandLines (cs : List (List String × String)) : String :=
  let names := cs.map fun c => ", ".intercalate c.1
  let width := names.foldl (fun w n => max w n.utf8ByteSize) 0
  String.join ((names.zip cs).map fun (n, c) =>
    "\n   " ++ n ++ String.ofList (List.replicate (width + 2 - n.utf8ByteSize) ' ') ++ c.2)

/-- The first line of the page: the full name and the usage line. -/
def title (p : Page) : String :=
  p.fullName ++ (if p.usage = "" then "" else " - " ++ p.usage)

/-- The usage of a command with subcommands and arguments. -/
def usageTail (p : Page) : String :=
  (if p.commands.isEmpty then "" else " [command [command options]]") ++
    (if p.arguments = "" then "" else " " ++ p.arguments)

/-- The program's page. -/
def programText (p : Page) : String :=
  "NAME:\n   " ++ p.title ++ "\n\nUSAGE:\n   " ++ p.fullName ++ " " ++
    (if p.flags.isEmpty then "" else "[global options]") ++ p.usageTail ++
    (if p.commands.isEmpty then "" else "\n\nCOMMANDS:" ++ commandLines p.commands) ++
    (if p.flags.isEmpty then "" else "\n\nGLOBAL OPTIONS:" ++ flagLines p.flags) ++ "\n"

/-- A command's full page. -/
def fullText (p : Page) : String :=
  "NAME:\n   " ++ p.title ++ "\n\nUSAGE:\n   " ++ p.fullName ++
    (if p.flags.isEmpty then "" else " [options]") ++ p.usageTail ++
    (if p.flags.isEmpty then "" else "\n\nOPTIONS:" ++ flagLines p.flags) ++
    (if p.globals.isEmpty then "" else "\n\nGLOBAL OPTIONS:" ++ flagLines p.globals) ++ "\n"

/-- A command's short page. -/
def shortText (p : Page) : String :=
  "NAME:\n   " ++ p.title ++ "\n\nUSAGE:\n   " ++ p.fullName ++ p.usageTail ++
    (if p.commands.isEmpty then "" else "\n\nCOMMANDS:" ++ commandLines p.commands) ++
    (if p.flags.isEmpty then "" else "\n\nOPTIONS:" ++ flagLines p.flags) ++ "\n"

end Page

/-! ## Column alignment -/

/-- Pads the text before the first tab of each line of a run to the run's widest such text
plus two spaces, dropping the tab. -/
def alignRun (run : List String) : List String :=
  let cells := run.map fun l => (l.toList.takeWhile (· ≠ '\t'), l.toList.dropWhile (· ≠ '\t'))
  let width := cells.foldl (fun w c => max w c.1.length) 0
  cells.map fun (cell, rest) =>
    String.ofList (cell ++ List.replicate (width + 2 - cell.length) ' ' ++ rest.drop 1)

/-- Aligns the lines of a text that hold a tab, run by run: a run is a stretch of consecutive
lines that all hold a tab. -/
def alignLines : List String → List String → List String
  | run, [] => alignRun run.reverse
  | run, l :: ls =>
    if l.toList.contains '\t' then alignLines (l :: run) ls
    else alignRun run.reverse ++ l :: alignLines [] ls

/-- Aligns the tab-separated columns of a text. -/
def align (text : String) : String :=
  "\n".intercalate (alignLines [] (text.splitOn "\n"))

/-! ## The pages of the command tree -/

namespace Lineage

/-- The page of the command at the head of a lineage. -/
def page (l : Lineage) : Page :=
  match l with
  | c :: _ =>
    { path := l.path
      usage := c.usage
      arguments := c.arguments
      flags := c.flags
      commands := c.visibleCommands.map fun s => (s.names, s.usage)
      globals := l.globalFlags }
  | [] => { path := [], usage := "", flags := [] }

/-- The page help shows for the subcommand that answers to a name: its full page when it has no
commands of its own, else its short page; `none` when no subcommand answers. -/
def topic (l : Lineage) (name : String) : Option String :=
  match l with
  | c :: _ =>
    (c.sub? name).map fun s =>
      if s.commands.isEmpty then (page (s :: l)).fullText else (page (s :: l)).shortText
  | [] => none

/-- The lineage a help command speaks for: a help command below another command stands for
that command. -/
def forHelp (l : Lineage) : Lineage :=
  match l with
  | c :: rest@(_ :: _) => if c.hasName "help" || c.hasName "h" then rest else l
  | _ => l

/-- The page the help action shows for a command given the words after its flags, or the name
that answers to no subcommand. -/
def help (l : Lineage) (args : List String) : Except String String :=
  let l := l.forHelp
  match args.head?.filter (· ≠ "") with
  | some name =>
    match l.topic name with
    | some text => .ok text
    | none => .error name
  | none =>
    match l with
    | [_] => .ok l.page.programText
    | c :: _ =>
      if (c.commands.length = 1 && !c.isHelp) || (c.commands.isEmpty && c.isHelp) then
        .ok l.page.fullText
      else .ok l.page.shortText
    | [] => .ok ""

end Lineage

end Jukebox.Console
