set_option autoImplicit false

/-! # Catalog rows

The rows the catalog stores, one structure per table, and the values its reads derive from
them. Ids are integers; a row's optional file reference (photo, cover) is `none` when absent
and never the empty text (`Store` drops an empty reference on every write).

Reads return rows *with what they show*: an album with its artist's name (`ShownAlbum`), a
song with the names and references it displays (`ShownSong`), a playlist with its number of
songs (`ShownPlaylist`).
-/

namespace Jukebox.Catalog

/-- A genre. Its name is unique. -/
structure Genre where
  id : Int
  name : String
deriving DecidableEq, Repr

/-- An artist. Its name is unique. -/
structure Artist where
  id : Int
  name : String
  photo : Option String
deriving DecidableEq, Repr

/-- An album, owned by one artist. The pair (name, artist) is unique. -/
structure Album where
  id : Int
  name : String
  artistId : Int
  cover : Option String
deriving DecidableEq, Repr

/-- A song. Its artist and album are optional; a song without an artist of its own shows the
artist of its album. Its likes are a signed 64-bit count, which every write keeps in range. -/
structure Song where
  id : Int
  name : String
  artistId : Option Int
  albumId : Option Int
  genreId : Int
  likes : Int
  audio : String
  cover : Option String
deriving DecidableEq, Repr

/-- A playlist, owned by a user. -/
structure Playlist where
  id : Int
  name : String
  ownerId : Int
deriving DecidableEq, Repr

/-- A stored password hash, as the password hashing wrote it: the cost it was made with and the
rest of the hash. -/
structure Credential where
  cost : Nat
  key : List Nat
deriving DecidableEq, Repr

/-- A user. The email is unique; the credential is absent for users made without a password. -/
structure User where
  id : Int
  name : String
  email : String
  credential : Option Credential
deriving DecidableEq, Repr

/-- The identity of a resolved artist. -/
structure ArtistRef where
  id : Int
  name : String
deriving DecidableEq, Repr

/-- The identity of a resolved album. -/
structure AlbumRef where
  id : Int
  name : String
  artistId : Int
deriving DecidableEq, Repr

/-- An album with the name of its artist. -/
structure ShownAlbum where
  album : Album
  artistName : String
deriving DecidableEq, Repr

/-- What a song displays: the effective artist (its own, else its album's), the names of that
artist, its album and its genre (empty when there is none), and the effective cover (its own,
else its album's). -/
structure Display where
  artistId : Option Int
  artist : String
  album : String
  genre : String
  cover : Option String
deriving DecidableEq, Repr

/-- A song with what it displays. -/
structure ShownSong where
  song : Song
  display : Display
deriving DecidableEq, Repr

/-- A playlist with the number of its songs. -/
structure ShownPlaylist where
  playlist : Playlist
  songCount : Nat
deriving DecidableEq, Repr

/-- The identity of an artist row. -/
def Artist.ref (a : Artist) : ArtistRef := ⟨a.id, a.name⟩

/-- The identity of an album row. -/
def Album.ref (a : Album) : AlbumRef := ⟨a.id, a.name, a.artistId⟩

/-- The file references a song row holds itself: its audio, then its own cover. -/
def Song.files (s : Song) : List String :=
  (if s.audio.isEmpty then [] else [s.audio]) ++
    (match s.cover with
     | some c => if c.isEmpty then [] else [c]
     | none => [])

/-- A reference stored as given, except that the empty text means none. -/
def nonEmpty : Option String → Option String
  | some "" => none
  | r => r

end Jukebox.Catalog
