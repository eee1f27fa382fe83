import Jukebox.Service.Songs
import Jukebox.Service.Shelves
import Jukebox.Service.Accounts
import Jukebox.Service.Playlists

set_option autoImplicit false

/-! # The demo catalog

The demo catalog holds the genres Folk and Rock; five songs added by artist and album name
(so their artists and albums are created on the way); the album Ys by Joanna Newsom with a
cover, and the song Emily on it, which has no artist of its own and shows the album's; the
user Demo; and Demo's playlist Late Night with the first, the fourth and the last song.

`seedDemo` adds all of it to a catalog without songs and leaves a catalog with songs as it
is. A failing step stops the seeding and names the step.
-/

namespace Jukebox.Console

open Catalog Service

/-- A step of seeding: a change of the catalog that may fail. -/
abbrev Seeding := StateT Store (Except Fault)

/-- Runs an operation as a step, naming the step in its failure. -/
def step {α : Type} (context : String) (op : Store → Outcome α) : Seeding α := fun s =>
  match op s with
  | (.ok a, s') => .ok (a, s')
  | (.error e, _) => .error (.wrapped context e)

/-- The songs added by name: title, artist, album and genre. -/
def demoSongs : List (String × String × String × String) :=
  [("River", "Joni Mitchell", "Blue", "Folk"),
   ("A Case of You", "Joni Mitchell", "Blue", "Folk"),
   ("Solid Air", "John Martyn", "Solid Air", "Folk"),
   ("Pink Moon", "Nick Drake", "Pink Moon", "Folk"),
   ("Paranoid Android", "Radiohead", "OK Computer", "Rock")]

/-- The audio file of the `n`-th demo song, counted from one. -/
def demoAudio (n : Nat) : String :=
  "audio/demo-" ++ (if n < 10 then "0" else "") ++ toString n ++ ".mp3"

/-- Adds the songs given by name, numbering their audio files from `n`; gives their ids. -/
def addDemoSongs (folk rock : Int) : Nat → List (String × String × String × String) → Seeding (List Int)
  | _, [] => pure []
  | n, (title, artist, album, genre) :: more => do
    let song ← step ("seed song " ++ Text.quote title) (createSong false {
      name := title
      artist := .byName artist
      album := .byName album
      genreId := some (if genre = "Rock" then rock else folk)
      audio := demoAudio n })
    let rest ← addDemoSongs folk rock (n + 1) more
    pure (song.song.id :: rest)

/-- Fills a catalog without songs with the demo catalog, hashing the demo user's password with
`scheme`. -/
def seedSteps (scheme : PasswordScheme) : Seeding Unit := do
  let existing ← fun s => (searchSongs false {} s).map fun r => (r, s)
  if !existing.isEmpty then return
  let folk ← step ("seed genre " ++ Text.quote "Folk") (createGenre false "Folk")
  let rock ← step ("seed genre " ++ Text.quote "Rock") (createGenre false "Rock")
  let ids ← addDemoSongs folk.id rock.id 1 demoSongs
  let newsom ← step "seed artist" (createArtist false "Joanna Newsom" none)
  let ys ← step "seed album" (createAlbum false "Ys" newsom.id (some "covers/ys.jpg"))
  let emily ← step ("seed song " ++ Text.quote "Emily") (createSong false {
    name := "Emily"
    album := .byId ys.album.id
    genreId := some folk.id
    audio := "audio/emily.mp3" })
  let user ← fun s =>
    match registerUser scheme false "Demo" "demo@melodia.local" "demo-password" s with
    | (.ok u, s') => .ok (some u, s')
    | (.error e, s') => if e.isKind .conflict then .ok (none, s') else .error (.wrapped "seed user" e)
  match user with
  | none => return
  | some user =>
    let playlist ← step "seed playlist" (createPlaylist false "Late Night" user.id)
    for id in [ids.headD 0, ids.getD 3 0, emily.song.id] do
      step ("seed playlist song " ++ toString id) (addToPlaylist false playlist.playlist.id id)

/-- The catalog after seeding, or why seeding failed. -/
def seedDemo (scheme : PasswordScheme) (s : Store) : Except Fault Store :=
  ((seedSteps scheme).run s).map (·.2)

end Jukebox.Console
