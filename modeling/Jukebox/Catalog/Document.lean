import Jukebox.Json
import Jukebox.Catalog.Query

set_option autoImplicit false

/-! # Rows as JSON

The JSON shape of every row and read the catalog answers with. Fields that may be absent are
left out rather than written as `null`: an artist's photo, an album's cover and artist name, a
song's own artist, album and cover, and each part of what a song displays. A user shows the
cost of its password hash, 0 when it has none; the hash itself is never shown.

`Store.snapshot` is the whole store as one document: genres, artists and albums in listing
order, songs by id, users by id, and each playlist with the ids of its songs.
-/

namespace Jukebox.Catalog

open Json

/-- `{id, name}`. -/
def Genre.toJson (g : Genre) : Json := obj [("id", int g.id), ("name", str g.name)]

/-- `{id, name, photoUrl?}`. -/
def Artist.toJson (a : Artist) : Json :=
  obj ([("id", int a.id), ("name", str a.name)] ++ optField "photoUrl" str a.photo)

/-- `{id, name}`. -/
def ArtistRef.toJson (a : ArtistRef) : Json := obj [("id", int a.id), ("name", str a.name)]

/-- `{id, name, artistId}`. -/
def AlbumRef.toJson (a : AlbumRef) : Json :=
  obj [("id", int a.id), ("name", str a.name), ("artistId", int a.artistId)]

/-- `{id, name, artistId, coverUrl?, artist?}`. -/
def ShownAlbum.toJson (x : ShownAlbum) : Json :=
  obj ([("id", int x.album.id), ("name", str x.album.name), ("artistId", int x.album.artistId)] ++
    optField "coverUrl" str x.album.cover ++ textField "artist" x.artistName)

/-- `{artistId?, artist?, album?, genre?, coverUrl?}`. -/
def Display.toJson (d : Display) : Json :=
  obj (optField "artistId" int d.artistId ++ textField "artist" d.artist ++
    textField "album" d.album ++ textField "genre" d.genre ++ optField "coverUrl" str d.cover)

/-- `{id, name, artistId?, albumId?, genreId, likes, audioUrl, coverUrl?, display}`. -/
def ShownSong.toJson (x : ShownSong) : Json :=
  let s := x.song
  obj ([("id", int s.id), ("name", str s.name)] ++ optField "artistId" int s.artistId ++
    optField "albumId" int s.albumId ++
    [("genreId", int s.genreId), ("likes", int s.likes), ("audioUrl", str s.audio)] ++
    optField "coverUrl" str s.cover ++ [("display", x.display.toJson)])

/-- `{id, name, ownerId, songCount}`. -/
def ShownPlaylist.toJson (x : ShownPlaylist) : Json :=
  obj [("id", int x.playlist.id), ("name", str x.playlist.name),
    ("ownerId", int x.playlist.ownerId), ("songCount", int x.songCount)]

/-- The cost of a user's password hash, 0 when there is none. -/
def User.hashCost (u : User) : Nat :=
  match u.credential with
  | some c => c.cost
  | none => 0

/-- `{id, name, email, hashCost}`. -/
def User.toJson (u : User) : Json :=
  obj [("id", int u.id), ("name", str u.name), ("email", str u.email),
    ("hashCost", int u.hashCost)]

/-- The whole store as one document. -/
def Store.snapshot (s : Store) : Json :=
  obj [("genres", arr (s.listGenres.map Genre.toJson)),
    ("artists", arr ((s.listArtists "").map Artist.toJson)),
    ("albums", arr ((s.listAlbums "" none).map ShownAlbum.toJson)),
    ("songs", arr ((s.listSongs {}).map ShownSong.toJson)),
    ("users", arr (s.userRun.map User.toJson)),
    ("playlists", arr ((Store.byId (·.id) s.playlists).map fun p =>
      obj [("playlist", (s.showPlaylist p).toJson),
        ("songIds", arr ((s.memberIds p.id).map int))]))]

end Jukebox.Catalog
