import Jukebox.Console.Flag

set_option autoImplicit false

/-! # The command tree

The program is a tree of commands: the program itself, groups of related commands (`songs`,
`playlists`, ...) and the commands that do one task each. Every command but a help command
owns the `--help` (or `-h`) switch and a help command, `help` (or `h`), that shows help for the
command it sits in or for one of that command's commands. Only the program's help command is
listed in help; the others are there but hidden.

A command accepts its own flags and those of the commands above it. One value is kept per flag,
whichever level sets it, and all commands share the one `--help` switch. The program's
`--memory` switch is listed among the global options of the commands below it.
-/

namespace Jukebox.Console

/-- What a command does once its flags are read. -/
inductive Task where
  | migrateUp
  | migrateDown
  | migrateVersion
  | seed
  | songsSearch
  | songsAdd
  | songsUpdate
  | songsDelete
  | songsLike
  | playlistsCreate
  | playlistsList
  | playlistsRename
  | playlistsAdd
  | playlistsRemove
  | playlistsSongs
  | playlistsDelete
  | artistsList
  | albumsList
  | albumsSongs
  | genresList
deriving DecidableEq, Repr

/-- A command of the command line: its names, what help says about it, the flags it owns, its
subcommands, and the task it does, if it does one. -/
structure Command where
  name : String
  aliases : List String := []
  usage : String
  /-- What help writes after the command's name for its arguments. -/
  arguments : String := ""
  flags : List Flag := []
  commands : List Command := []
  task : Option Task := none
  /-- Whether help leaves the command out of its parent's list. -/
  hidden : Bool := false
  /-- Whether the command is a help command, which has no help of its own. -/
  isHelp : Bool := false

namespace Command

/-- The names of a command, its own first. -/
def names (c : Command) : List String := c.name :: c.aliases

/-- Whether a command answers to a name. -/
def hasName (c : Command) (n : String) : Bool := c.names.contains n

/-- The subcommand that answers to a name. -/
def sub? (c : Command) (n : String) : Option Command := c.commands.find? (·.hasName n)

/-- Whether some subcommand answers to a name. -/
def isCommand (c : Command) (n : String) : Bool := (c.sub? n).isSome

/-- The subcommands that help lists. -/
def visibleCommands (c : Command) : List Command := c.commands.filter (!·.hidden)

end Command

/-- The flag that asks for help; every command but a help command has it. -/
def helpFlag : Flag :=
  { name := "help", aliases := ["h"], usage := "show help", kind := .switch, hideDefault := true }

/-- A help command; `hidden` keeps it out of its parent's list. -/
def helpCommand (hidden : Bool) : Command where
  name := "help"
  aliases := ["h"]
  usage := "Shows a list of commands or help for one command"
  arguments := "[command]"
  hidden := hidden
  isHelp := true

/-- A command that does a task, with its flags, the help flag and a hidden help command. -/
def leaf (name usage : String) (task : Task) (flags : List Flag := []) : Command where
  name := name
  usage := usage
  flags := flags ++ [helpFlag]
  commands := [helpCommand true]
  task := some task

/-- A group of commands, with the help flag and a hidden help command. -/
def group (name usage : String) (commands : List Command) : Command where
  name := name
  usage := usage
  flags := [helpFlag]
  commands := commands ++ [helpCommand true]

/-- A command and the commands above it, the command first and the program last. -/
abbrev Lineage := List Command

namespace Lineage

/-- The names from the program down to the command. -/
def path (l : Lineage) : List String := l.reverse.map (·.name)

/-- The flag a name sets: the first one that answers to it, from the command upwards. -/
def flag? (l : Lineage) (name : String) : Option Flag :=
  l.findSome? fun c => c.flags.find? (·.names.contains name)

/-- Whether help is withheld: some command of the lineage is a help command. -/
def hidesHelp (l : Lineage) : Bool := l.any (·.isHelp)

/-- The flags of the program that help for a command lists as global options. -/
def globalFlags (l : Lineage) : List Flag :=
  match l.getLast? with
  | some p => p.flags.filter (·.inherited)
  | none => []

end Lineage

/-- A required integer flag that names a row. -/
def idFlag (usage : String) : Flag := { name := "id", usage := usage, kind := .integer, required := true }

/-- The required playlist flag. -/
def playlistFlag : Flag :=
  { name := "playlist", usage := "playlist id", kind := .integer, required := true }

/-- The required song flag. -/
def songFlag : Flag := { name := "song", usage := "song id", kind := .integer, required := true }

/-- The fields of a song shared by adding and updating. A name creates the artist or album
when there is none yet; an id must name an existing row. -/
def songFieldFlags : List Flag :=
  [{ name := "name", usage := "song name", kind := .text },
   { name := "artist", usage := "artist name", kind := .text },
   { name := "artist-id", usage := "existing artist id", kind := .integer },
   { name := "album", usage := "album name", kind := .text },
   { name := "album-id", usage := "existing album id", kind := .integer },
   { name := "genre-id", usage := "genre id", kind := .integer },
   { name := "audio", usage := "audio file reference", kind := .text },
   { name := "cover", usage := "cover image reference", kind := .text }]

/-- The catalog's command line. -/
def program : Command where
  name := "melodia"
  usage := "Catalog and playlist administration"
  flags := [{ name := "memory", usage := "use a seeded in-memory catalog instead of Postgres",
              kind := .switch, inherited := true }, helpFlag]
  commands := [
    group "migrate" "Manage the database schema" [
      leaf "up" "Apply pending migrations" .migrateUp,
      leaf "down" "Roll back every migration" .migrateDown,
      leaf "version" "Print the applied schema version" .migrateVersion],
    leaf "seed" "Load the demo catalog into an empty database" .seed,
    group "songs" "Manage songs" [
      leaf "search" "Search songs by name, artist, album or genre" .songsSearch
        [{ name := "name", usage := "song name contains", kind := .text },
         { name := "artist", usage := "artist name contains", kind := .text },
         { name := "album", usage := "album name contains", kind := .text },
         { name := "genre", usage := "genre name contains", kind := .text }],
      leaf "add" "Add a song" .songsAdd songFieldFlags,
      leaf "update" "Update the given fields of a song" .songsUpdate
        (idFlag "song id" :: songFieldFlags),
      leaf "delete" "Delete a song and its playlist entries" .songsDelete [idFlag "song id"],
      leaf "like" "Like a song" .songsLike [idFlag "song id"]],
    group "playlists" "Manage playlists" [
      leaf "create" "Create an empty playlist" .playlistsCreate
        [{ name := "name", usage := "playlist name", kind := .text, required := true },
         { name := "owner", usage := "owner user id", kind := .integer, required := true }],
      leaf "list" "List the playlists of a user" .playlistsList
        [{ name := "owner", usage := "owner user id", kind := .integer, required := true }],
      leaf "rename" "Rename a playlist" .playlistsRename
        [playlistFlag, { name := "name", usage := "new name", kind := .text, required := true }],
      leaf "add" "Add a song to a playlist" .playlistsAdd [playlistFlag, songFlag],
      leaf "remove" "Remove a song from a playlist" .playlistsRemove [playlistFlag, songFlag],
      leaf "songs" "List the songs of a playlist" .playlistsSongs [playlistFlag],
      leaf "delete" "Delete a playlist" .playlistsDelete [playlistFlag]],
    group "artists" "Browse artists" [
      leaf "list" "List artists" .artistsList
        [{ name := "name", usage := "artist name contains", kind := .text }]],
    group "albums" "Browse albums" [
      leaf "list" "List albums" .albumsList
        [{ name := "name", usage := "album name contains", kind := .text },
         { name := "artist-id", usage := "artist id", kind := .integer }],
      leaf "songs" "List the songs of an album" .albumsSongs [idFlag "album id"]],
    group "genres" "Browse genres" [
      leaf "list" "List genres" .genresList],
    helpCommand false]

end Jukebox.Console
