import Jukebox.Fault
import Jukebox.Catalog.Row

set_option autoImplicit false

/-! # The catalog store

A `Store` holds one list of rows per table, each in increasing id order, the set of playlist
memberships as a list of (playlist, song) pairs, and one counter per table. A new row takes the
id after its table's counter, so ids grow with every creation and an id is never issued twice.

Operations that may fail run as transactions, `Tx α = StateT Store (Except Fault) α`: a failed
transaction yields no store at all, so the caller keeps the store it had, counters included
(`Tx.commit`). Reads are plain functions of a store.

This module holds the tables' look-ups and what a read derives from a row (`Store.showSong`,
`Store.showAlbum`, `Store.showPlaylist`).
-/

namespace Jukebox.Catalog

/-- The last id issued in each table. -/
structure Counters where
  genre : Nat := 0
  artist : Nat := 0
  album : Nat := 0
  song : Nat := 0
  user : Nat := 0
  playlist : Nat := 0
deriving DecidableEq, Repr

/-- A playlist membership: the playlist and the song it holds. -/
structure Membership where
  playlistId : Int
  songId : Int
deriving DecidableEq, Repr

/-- The catalog's tables, memberships and counters. -/
structure Store where
  next : Counters := {}
  genres : List Genre := []
  artists : List Artist := []
  albums : List Album := []
  songs : List Song := []
  users : List User := []
  playlists : List Playlist := []
  members : List Membership := []
deriving DecidableEq, Repr

/-- A transaction over the store: it either fails, leaving no store behind, or returns a value
and the store it wrote. -/
abbrev Tx (α : Type) := StateT Store (Except Fault) α

/-- Runs a transaction: on success its store replaces the old one, on failure the old store
stays as it was. -/
def Tx.commit {α : Type} (t : Tx α) (s : Store) : Except Fault α × Store :=
  match t.run s with
  | .ok (a, s') => (.ok a, s')
  | .error e => (.error e, s)

/-- Fails a transaction. -/
def Tx.fail {α : Type} (e : Fault) : Tx α := fun _ => .error e

/-- Lifts the answer of a read into a transaction. -/
def Tx.ofExcept {α : Type} (r : Except Fault α) : Tx α := fun s =>
  match r with
  | .ok a => .ok (a, s)
  | .error e => .error e

theorem Tx.commit_error {α : Type} (t : Tx α) (s : Store) (e : Fault)
    (h : t.run s = .error e) : t.commit s = (.error e, s) := by
  simp [Tx.commit, h]

namespace Store

/-- The genre with this id. -/
def genre? (s : Store) (id : Int) : Option Genre := s.genres.find? (·.id == id)

/-- The artist with this id. -/
def artist? (s : Store) (id : Int) : Option Artist := s.artists.find? (·.id == id)

/-- The album with this id. -/
def album? (s : Store) (id : Int) : Option Album := s.albums.find? (·.id == id)

/-- The song with this id. -/
def song? (s : Store) (id : Int) : Option Song := s.songs.find? (·.id == id)

/-- The user with this id. -/
def user? (s : Store) (id : Int) : Option User := s.users.find? (·.id == id)

/-- The playlist with this id. -/
def playlist? (s : Store) (id : Int) : Option Playlist := s.playlists.find? (·.id == id)

/-- The artist with exactly this name. -/
def artistNamed? (s : Store) (name : String) : Option Artist := s.artists.find? (·.name == name)

/-- The album with exactly this name and artist. -/
def albumKeyed? (s : Store) (name : String) (artistId : Int) : Option Album :=
  s.albums.find? fun a => a.name == name && a.artistId == artistId

/-- Whether the playlist holds the song. -/
def holds (s : Store) (playlistId songId : Int) : Bool :=
  s.members.contains ⟨playlistId, songId⟩

/-- The name of an artist, or the empty text when there is none with this id. -/
def artistName (s : Store) (id : Int) : String :=
  match s.artist? id with
  | some a => a.name
  | none => ""

/-- What a song displays in this store. -/
def display (s : Store) (song : Song) : Display :=
  let album := song.albumId.bind s.album?
  let artistId := match song.artistId with
    | some a => some a
    | none => album.map (·.artistId)
  { artistId := artistId
    artist := match artistId with
      | some a => s.artistName a
      | none => ""
    album := match album with
      | some a => a.name
      | none => ""
    genre := match s.genre? song.genreId with
      | some g => g.name
      | none => ""
    cover := match song.cover with
      | some c => some c
      | none => album.bind (·.cover) }

/-- A song as reads return it. -/
def showSong (s : Store) (song : Song) : ShownSong := ⟨song, s.display song⟩

/-- An album as reads return it. -/
def showAlbum (s : Store) (a : Album) : ShownAlbum := ⟨a, s.artistName a.artistId⟩

/-- The number of songs a playlist holds. -/
def songCount (s : Store) (playlistId : Int) : Nat :=
  s.members.countP (·.playlistId == playlistId)

/-- A playlist as reads return it. -/
def showPlaylist (s : Store) (p : Playlist) : ShownPlaylist := ⟨p, s.songCount p.id⟩

end Store

/-! ## Reads that fail when a row is missing -/

/-- The genre with this id, or `genre not found`. -/
def Store.genreById (s : Store) (id : Int) : Except Fault Genre :=
  match s.genre? id with
  | some g => .ok g
  | none => .error (Fault.notFound "genre")

/-- The artist with this id, or `artist not found`. -/
def Store.artistById (s : Store) (id : Int) : Except Fault Artist :=
  match s.artist? id with
  | some a => .ok a
  | none => .error (Fault.notFound "artist")

/-- The artist with exactly this name, or `artist not found`. -/
def Store.artistByName (s : Store) (name : String) : Except Fault Artist :=
  match s.artistNamed? name with
  | some a => .ok a
  | none => .error (Fault.notFound "artist")

/-- The album with this id, shown, or `album not found`. -/
def Store.albumById (s : Store) (id : Int) : Except Fault ShownAlbum :=
  match s.album? id with
  | some a => .ok (s.showAlbum a)
  | none => .error (Fault.notFound "album")

/-- The album with exactly this name and artist, shown, or `album not found`. -/
def Store.albumByKey (s : Store) (name : String) (artistId : Int) : Except Fault ShownAlbum :=
  match s.albumKeyed? name artistId with
  | some a => .ok (s.showAlbum a)
  | none => .error (Fault.notFound "album")

/-- The song with this id, shown, or `song not found`. -/
def Store.songById (s : Store) (id : Int) : Except Fault ShownSong :=
  match s.song? id with
  | some song => .ok (s.showSong song)
  | none => .error (Fault.notFound "song")

/-- The playlist with this id, shown, or `playlist not found`. -/
def Store.playlistById (s : Store) (id : Int) : Except Fault ShownPlaylist :=
  match s.playlist? id with
  | some p => .ok (s.showPlaylist p)
  | none => .error (Fault.notFound "playlist")

/-- The user with this id, or `user not found`. -/
def Store.userById (s : Store) (id : Int) : Except Fault User :=
  match s.user? id with
  | some u => .ok u
  | none => .error (Fault.notFound "user")

/-- Whether a user with this id exists. -/
def Store.userExists (s : Store) (id : Int) : Bool := (s.user? id).isSome

/-- A read inside a transaction. -/
def Tx.read {α : Type} (f : Store → Except Fault α) : Tx α := fun s =>
  match f s with
  | .ok a => .ok (a, s)
  | .error e => .error e

end Jukebox.Catalog
