import Jukebox.Catalog.Resolve
import Jukebox.Catalog.Query
import Jukebox.Service.Outcome

set_option autoImplicit false

/-! # Song lifecycle

Creating, changing, deleting, reading and liking songs.

A song names its artist and album by a `Ref`: an id that must exist, or a name that is found or
created (`Catalog.Finder.resolve`). An album by name is keyed on an artist: the artist given in
the same request, or, on an update, the song's current effective artist.

Creation checks its input in this order: name and audio reference non-blank once trimmed,
genre given, likes not negative; then, in its transaction, the genre exists, the artist slot
resolves, the album slot resolves, and the store accepts the row. An update checks the given
name, audio and likes first, then in its transaction the song, the genre, the artist and the
album. Failures inside the transaction are put in context (`create song`, `update song <id>`).

An update reports the files it made stale (`staleFiles`): the old audio reference if it
changed, and the old own cover if it is gone or changed.
-/

namespace Jukebox.Service

open Catalog

/-- How a request points at an artist or album: not at all, by id, or by name. -/
inductive Ref where
  | absent
  | byId (id : Int)
  | byName (name : String)
deriving DecidableEq, Repr

/-- A reference from an optional id and an optional name; the id wins when both are given. -/
def Ref.ofParts (id : Option Int) (name : Option String) : Ref :=
  match id, name with
  | some i, _ => .byId i
  | none, some n => .byName n
  | none, none => .absent

/-- What a new song is made of. -/
structure SongInput where
  name : String
  artist : Ref := .absent
  album : Ref := .absent
  genreId : Option Int := none
  likes : Option Int64 := none
  audio : String
  cover : Option String := none

/-- What a song update changes; absent fields and `Ref.absent` keep the stored value. -/
structure SongPatch where
  name : Option String := none
  artist : Ref := .absent
  album : Ref := .absent
  genreId : Option Int := none
  likes : Option Int64 := none
  audio : Option String := none
  cover : Option String := none

/-- A committed update and the file references it made stale. -/
structure SongUpdate where
  song : ShownSong
  stale : List String

/-- A text that must not be blank, trimmed; blank gives `<field>: is required`. -/
def requireText (field value : String) : Except Fault String :=
  let v := Text.trim value
  if v.isEmpty then .error (Fault.invalid field "is required") else .ok v

/-- Likes, when given, must not be negative. -/
def checkLikes (likes : Option Int64) : Except Fault Unit :=
  match likes with
  | some l => if l < 0 then .error (Fault.invalid "likes" "must not be negative") else .ok ()
  | none => .ok ()

/-- A "not found" failure renamed after the input field that held the dangling id. -/
def renameMissing (field : String) (e : Fault) : Fault :=
  if e.isKind .notFound then Fault.notFound field else e

/-- Checks that a referenced row exists, naming the input field when it does not. -/
def requireRow {α : Type} (field : String) (r : Except Fault α) : Tx Unit :=
  match r with
  | .ok _ => pure ()
  | .error e => Tx.fail (renameMissing field e)

/-- Fails a transaction with the failure of a resolution, or returns its value. -/
def Tx.orFail {α : Type} (r : Except Fault α) : Tx α :=
  match r with
  | .ok a => pure a
  | .error e => Tx.fail e

/-- The artist id an artist slot resolves to, if the slot is filled. -/
def resolveArtist : Ref → Tx (Option Int)
  | .absent => pure none
  | .byId id => do
    requireRow "artistId" ((← get).artistById id)
    pure (some id)
  | .byName n => do
    let r ← Tx.orFail (← artistFinder.resolve "artist" n)
    pure (some r.id)

/-- The album id an album slot resolves to, if the slot is filled; a name is keyed on the
given artist. -/
def resolveAlbum (artistId : Option Int) : Ref → Tx (Option Int)
  | .absent => pure none
  | .byId id => do
    requireRow "albumId" ((← get).albumById id)
    pure (some id)
  | .byName n =>
    match artistId with
    | none => Tx.fail (Fault.invalid "artist" "is required to resolve an album by name")
    | some a => do
      let r ← Tx.orFail (← (albumFinder a).resolve "album" n)
      pure (some r.id)

/-- The trimmed form of an optional text. -/
def trimmed (v : Option String) : Option String := v.map Text.trim

/-- Creates a song. -/
def createSong (cancelled : Bool) (input : SongInput) (s : Store) : Outcome ShownSong :=
  let checked : Except Fault (String × String × Int) := do
    let name ← requireText "name" input.name
    let audio ← requireText "audioUrl" input.audio
    let genreId ← match input.genreId with
      | some g => pure g
      | none => throw (Fault.invalid "genreId" "is required")
    checkLikes input.likes
    pure (name, audio, genreId)
  match checked with
  | .error e => (.error e, s)
  | .ok (name, audio, genreId) =>
    let t : Tx ShownSong := do
      requireRow "genreId" ((← get).genreById genreId)
      let artistId ← resolveArtist input.artist
      let albumId ← resolveAlbum artistId input.album
      Store.createSong {
        name := name
        artistId := artistId
        albumId := albumId
        genreId := genreId
        likes := input.likes.getD 0
        audio := audio
        cover := trimmed input.cover }
    (commitFor cancelled t s).within "create song"

/-- The file references of `before` that `after` no longer points at: the audio reference if
it changed, then the own cover if it is gone or changed. -/
def staleFiles (before after : Song) : List String :=
  (if !before.audio.isEmpty && before.audio != after.audio then [before.audio] else []) ++
    (match before.cover with
     | some c => if !c.isEmpty && after.cover != some c then [c] else []
     | none => [])

/-- Changes a song and reports the file references that became stale. -/
def updateSong (cancelled : Bool) (id : Int) (patch : SongPatch) (s : Store) :
    Outcome SongUpdate :=
  let checked : Except Fault (Option String × Option String) := do
    let name ← match patch.name with
      | some n => some <$> requireText "name" n
      | none => pure none
    let audio ← match patch.audio with
      | some a => some <$> requireText "audioUrl" a
      | none => pure none
    checkLikes patch.likes
    pure (name, audio)
  match checked with
  | .error e => (.error e, s)
  | .ok (name, audio) =>
    let t : Tx SongUpdate := do
      let previous ← Tx.read fun st => st.songById id
      match patch.genreId with
      | some g => requireRow "genreId" ((← get).genreById g)
      | none => pure ()
      let artistId ← resolveArtist patch.artist
      let albumArtist := match artistId with
        | some a => some a
        | none => previous.display.artistId
      let albumId ← resolveAlbum albumArtist patch.album
      let updated ← Store.updateSong id {
        name := name
        artistId := artistId
        albumId := albumId
        genreId := patch.genreId
        likes := patch.likes
        audio := audio
        cover := trimmed patch.cover }
      pure ⟨updated, staleFiles previous.song updated.song⟩
    (commitFor cancelled t s).within ("update song " ++ toString id)

/-- Deletes a song after removing it from every playlist; answers the song as it was. -/
def deleteSong (cancelled : Bool) (id : Int) (s : Store) : Outcome ShownSong :=
  let t : Tx ShownSong := do
    let snapshot ← Tx.read fun st => st.songById id
    let _ ← Store.unlinkSong id
    let deleted ← Store.deleteSong id
    if deleted then pure snapshot else Tx.fail (Fault.notFound "song")
  (commitFor cancelled t s).within ("delete song " ++ toString id)

/-- Reads one song. -/
def getSong (cancelled : Bool) (id : Int) (s : Store) : Except Fault ShownSong :=
  readFor cancelled (s.songById id)

/-- What a search asks for: four needles. -/
structure SongQuery where
  name : String := ""
  artist : String := ""
  album : String := ""
  genre : String := ""

/-- The songs matching every needle of a query, by id. -/
def searchSongs (cancelled : Bool) (q : SongQuery) (s : Store) : Except Fault (List ShownSong) :=
  readFor cancelled (.ok (s.listSongs
    { name := q.name, artist := q.artist, album := q.album, genre := q.genre }))

/-- The songs of an existing album, by id. -/
def songsOfAlbum (cancelled : Bool) (albumId : Int) (s : Store) :
    Except Fault (List ShownSong) :=
  readFor cancelled do
    let _ ← s.albumById albumId
    pure (s.listSongs { albumId := some albumId })

/-- Adds `delta` to a song's likes. -/
def addLikes (cancelled : Bool) (id : Int) (delta : Int64) (s : Store) : Outcome ShownSong :=
  (commitFor cancelled (Store.addSongLikes id delta.toInt) s).within ("like song " ++ toString id)

/-- Likes a song once. -/
def likeSong (cancelled : Bool) (id : Int) (s : Store) : Outcome ShownSong :=
  addLikes cancelled id 1 s

/-- Takes one like back. -/
def unlikeSong (cancelled : Bool) (id : Int) (s : Store) : Outcome ShownSong :=
  addLikes cancelled id (-1) s

end Jukebox.Service
