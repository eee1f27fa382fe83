import Jukebox.Console.Command
import Jukebox.Console.Demo
import Jukebox.Catalog.Document
import Jukebox.Settings.Config

set_option autoImplicit false

/-! # Tasks

Each task opens the catalog, does one thing, and answers a document that the program prints.

With `--memory` the catalog is the demo catalog, freshly seeded. Without it the catalog lives in
a database, which the settings must name; when they do not, every task fails with the settings'
reason. Schema tasks need a database and refuse `--memory`.
-/

namespace Jukebox.Console

open Catalog Service

/-- Why no database can be used under the given settings. -/
def databaseFault (config : Settings.Config) : Fault :=
  match config.databaseProblem with
  | some why => .plain why
  | none => .wrapped "ping database" (.plain "no database is reachable")

/-- The catalog a task works on. -/
def openCatalog (scheme : PasswordScheme) (config : Settings.Config) (memory : Bool) :
    Except Fault Store :=
  if memory then
    match seedDemo scheme {} with
    | .ok s => .ok s
    | .error e => .error (.wrapped "seed memory catalog" e)
  else .error (databaseFault config)

/-- The document of a list of songs. -/
def songsDoc (xs : List ShownSong) : Json := .arr (xs.map ShownSong.toJson)

/-- The answer of a write: its value's document, or its failure. -/
def written {α : Type} (doc : α → Json) (o : Outcome α) : Except Fault Json := o.1.map doc

/-- A song reference made of an id flag and a name flag. -/
def reference (flags : Assignments) (idFlag nameFlag : String) : Ref :=
  Ref.ofParts (flags.integer? idFlag) (flags.text? nameFlag)

/-- Does a task with the given flag values. -/
def Task.perform (scheme : PasswordScheme) (task : Task) (flags : Assignments)
    (config : Settings.Config) (memory : Bool) : Except Fault Json :=
  match task with
  | .migrateUp | .migrateDown | .migrateVersion =>
    if memory then .error (.plain "migrations need a database; drop --memory")
    else .error (databaseFault config)
  | task => do
    let s ← openCatalog scheme config memory
    match task with
    | .seed =>
      let all ← searchSongs false {} s
      pure (.obj [("songs", .int all.length)])
    | .songsSearch =>
      let q : SongQuery := {
        name := flags.text "name"
        artist := flags.text "artist"
        album := flags.text "album"
        genre := flags.text "genre" }
      songsDoc <$> searchSongs false q s
    | .songsAdd =>
      written ShownSong.toJson (createSong false {
        name := flags.text "name"
        artist := reference flags "artist-id" "artist"
        album := reference flags "album-id" "album"
        genreId := flags.integer? "genre-id"
        audio := flags.text "audio"
        cover := flags.text? "cover" } s)
    | .songsUpdate =>
      written (fun (u : SongUpdate) => .obj [("Song", u.song.toJson),
          ("Stale", if u.stale.isEmpty then .null else Json.strs u.stale)])
        (updateSong false (flags.integer "id") {
          name := flags.text? "name"
          artist := reference flags "artist-id" "artist"
          album := reference flags "album-id" "album"
          genreId := flags.integer? "genre-id"
          audio := flags.text? "audio"
          cover := flags.text? "cover" } s)
    | .songsDelete =>
      written (fun (x : ShownSong) => .obj [("song", x.toJson), ("stale", Json.strs x.song.files)])
        (deleteSong false (flags.integer "id") s)
    | .songsLike => written ShownSong.toJson (likeSong false (flags.integer "id") s)
    | .albumsSongs => songsDoc <$> songsOfAlbum false (flags.integer "id") s
    | .albumsList =>
      (fun xs => .arr (xs.map ShownAlbum.toJson)) <$>
        listAlbums false (flags.text "name") (flags.integer? "artist-id") s
    | .artistsList => (fun xs => .arr (xs.map Artist.toJson)) <$> listArtists false (flags.text "name") s
    | .genresList => (fun xs => .arr (xs.map Genre.toJson)) <$> listGenres false s
    | .playlistsCreate =>
      written ShownPlaylist.toJson (createPlaylist false (flags.text "name") (flags.integer "owner") s)
    | .playlistsList =>
      (fun xs => .arr (xs.map ShownPlaylist.toJson)) <$> playlistsOf false (flags.integer "owner") s
    | .playlistsRename =>
      written ShownPlaylist.toJson
        (renamePlaylist false (flags.integer "playlist") (flags.text "name") s)
    | .playlistsAdd =>
      let p := flags.integer "playlist"
      let song := flags.integer "song"
      written (fun _ => .obj [("playlistId", .int p), ("songId", .int song)])
        (addToPlaylist false p song s)
    | .playlistsRemove =>
      let p := flags.integer "playlist"
      let song := flags.integer "song"
      written (fun _ => .obj [("playlistId", .int p), ("songId", .int song)])
        (removeFromPlaylist false p song s)
    | .playlistsSongs => songsDoc <$> playlistSongs false (flags.integer "playlist") s
    | .playlistsDelete =>
      let p := flags.integer "playlist"
      written (fun _ => .obj [("deleted", .int p)]) (deletePlaylist false p s)
    | .migrateUp | .migrateDown | .migrateVersion => .error (databaseFault config)

end Jukebox.Console
