import Jukebox.Catalog.Store

set_option autoImplicit false

/-! # Writes to the store

Each write is a transaction (`Tx`). Creations take the next id of their table and append the
row; updates replace the row in place; deletes remove it. The checks each write makes, in
order:

* uniqueness is exact: genre names, artist names, album (name, artist) pairs, user emails and
  memberships;
* a song's genre, artist and album must exist, in that order, and its likes must not be
  negative;
* an album's artist, a playlist's owner, a membership's playlist and song must exist;
* a delete reports `false` for a missing row and refuses, with a conflict, a row that another
  row still refers to;
* an optional reference given as the empty text is stored as absent (`nonEmpty`).

Likes are 64-bit: adding to them wraps around (`wrap64`), and a result below zero is refused.
-/

namespace Jukebox.Catalog

/-- An integer taken modulo 2^64 into the signed 64-bit range. -/
def wrap64 (x : Int) : Int := Int.bmod x (Nat.pow 2 64)

/-- Replaces the row with the same id. -/
def replaceById {α : Type} (id : α → Int) (row : α) (xs : List α) : List α :=
  xs.map fun x => if id x == id row then row else x

/-- The fields a song is created with. -/
structure SongDraft where
  name : String
  artistId : Option Int := none
  albumId : Option Int := none
  genreId : Int
  likes : Int64 := 0
  audio : String
  cover : Option String := none

/-- The fields a song update changes; `none` keeps the stored value. -/
structure SongChange where
  name : Option String := none
  artistId : Option Int := none
  albumId : Option Int := none
  genreId : Option Int := none
  likes : Option Int64 := none
  audio : Option String := none
  cover : Option String := none

/-- Whether a song change changes nothing. -/
def SongChange.isEmpty (c : SongChange) : Bool :=
  c.name.isNone && c.artistId.isNone && c.albumId.isNone && c.genreId.isNone &&
    c.likes.isNone && c.audio.isNone && c.cover.isNone

/-- A song with a change applied. -/
def SongChange.apply (c : SongChange) (song : Song) : Song :=
  { song with
    name := c.name.getD song.name
    artistId := match c.artistId with
      | some a => some a
      | none => song.artistId
    albumId := match c.albumId with
      | some a => some a
      | none => song.albumId
    genreId := c.genreId.getD song.genreId
    likes := (c.likes.map Int64.toInt).getD song.likes
    audio := c.audio.getD song.audio
    cover := match c.cover with
      | some x => nonEmpty (some x)
      | none => song.cover }

namespace Store

/-- The checks a song row must pass: its genre, artist and album exist and its likes are not
negative. -/
def checkSong (s : Store) (song : Song) : Except Fault Unit :=
  if (s.genre? song.genreId).isNone then .error (Fault.notFound "genre")
  else if (song.artistId.map fun a => (s.artist? a).isNone) == some true then
    .error (Fault.notFound "artist")
  else if (song.albumId.map fun a => (s.album? a).isNone) == some true then
    .error (Fault.notFound "album")
  else if song.likes < 0 then .error (Fault.invalid "likes" "must not be negative")
  else .ok ()

/-- Creates a genre with a new name. -/
def createGenre (name : String) : Tx Genre := fun s =>
  if s.genres.any (·.name == name) then .error (Fault.conflict "genre" "genre name already exists")
  else
    let g : Genre := ⟨s.next.genre + 1, name⟩
    .ok (g, { s with next := { s.next with genre := s.next.genre + 1 }, genres := s.genres ++ [g] })

/-- Deletes a genre that no song uses; `false` when there is none with this id. -/
def deleteGenre (id : Int) : Tx Bool := fun s =>
  if (s.genre? id).isNone then .ok (false, s)
  else if s.songs.any (·.genreId == id) then .error (Fault.conflict "genre" "genre is still referenced")
  else .ok (true, { s with genres := s.genres.filter (·.id != id) })

/-- Appends a new artist. -/
def addArtist (s : Store) (name : String) (photo : Option String) : Artist × Store :=
  let a : Artist := ⟨s.next.artist + 1, name, photo⟩
  (a, { s with next := { s.next with artist := s.next.artist + 1 }, artists := s.artists ++ [a] })

/-- Creates an artist with a new name. -/
def createArtist (name : String) (photo : Option String) : Tx Artist := fun s =>
  if (s.artistNamed? name).isSome then .error (Fault.conflict "artist" "artist name already exists")
  else .ok (s.addArtist name (nonEmpty photo))

/-- Creates an artist unless one has the name; `none` when it was already there. -/
def insertArtistIfAbsent (name : String) : Tx (Option Artist) := fun s =>
  if (s.artistNamed? name).isSome then .ok (none, s)
  else
    let (a, s') := s.addArtist name none
    .ok (some a, s')

/-- Changes an artist's name and photo; a given name must not be another artist's. -/
def updateArtist (id : Int) (name : Option String) (photo : Option String) : Tx Artist := fun s =>
  match s.artist? id with
  | none => .error (Fault.notFound "artist")
  | some a =>
    let clash := match name with
      | some n => (s.artists.any fun o => o.name == n && o.id != id)
      | none => false
    if clash then .error (Fault.conflict "artist" "artist name already exists")
    else
      let a' : Artist := { a with
        name := name.getD a.name
        photo := match photo with
          | some p => nonEmpty (some p)
          | none => a.photo }
      .ok (a', { s with artists := replaceById (·.id) a' s.artists })

/-- Deletes an artist that no album and no song refers to. -/
def deleteArtist (id : Int) : Tx Bool := fun s =>
  if (s.artist? id).isNone then .ok (false, s)
  else if s.albums.any (·.artistId == id) || s.songs.any (·.artistId == some id) then
    .error (Fault.conflict "artist" "artist is still referenced")
  else .ok (true, { s with artists := s.artists.filter (·.id != id) })

/-- Appends a new album. -/
def addAlbum (s : Store) (name : String) (artistId : Int) (cover : Option String) :
    Album × Store :=
  let a : Album := ⟨s.next.album + 1, name, artistId, cover⟩
  (a, { s with next := { s.next with album := s.next.album + 1 }, albums := s.albums ++ [a] })

/-- Creates an album of an existing artist with a new (name, artist) pair. -/
def createAlbum (name : String) (artistId : Int) (cover : Option String) : Tx ShownAlbum := fun s =>
  if (s.artist? artistId).isNone then .error (Fault.notFound "artist")
  else if (s.albumKeyed? name artistId).isSome then
    .error (Fault.conflict "album" "album already exists for this artist")
  else
    let (a, s') := s.addAlbum name artistId (nonEmpty cover)
    .ok (s'.showAlbum a, s')

/-- Creates an album unless the artist already has one of this name; `none` when it was there.
The artist must exist. -/
def insertAlbumIfAbsent (name : String) (artistId : Int) : Tx (Option ShownAlbum) := fun s =>
  if (s.artist? artistId).isNone then .error (Fault.notFound "artist")
  else if (s.albumKeyed? name artistId).isSome then .ok (none, s)
  else
    let (a, s') := s.addAlbum name artistId none
    .ok (some (s'.showAlbum a), s')

/-- Changes an album's name, artist and cover; the result must not clash with another album. -/
def updateAlbum (id : Int) (name : Option String) (artistId : Option Int)
    (cover : Option String) : Tx ShownAlbum := fun s =>
  match s.album? id with
  | none => .error (Fault.notFound "album")
  | some a =>
    if (artistId.map fun x => (s.artist? x).isNone) == some true then
      .error (Fault.notFound "artist")
    else
      let a' : Album := { a with
        name := name.getD a.name
        artistId := artistId.getD a.artistId
        cover := match cover with
          | some c => nonEmpty (some c)
          | none => a.cover }
      if s.albums.any (fun o => o.name == a'.name && o.artistId == a'.artistId && o.id != id) then
        .error (Fault.conflict "album" "album already exists for this artist")
      else
        let s' := { s with albums := replaceById (·.id) a' s.albums }
        .ok (s'.showAlbum a', s')

/-- Deletes an album that no song refers to. -/
def deleteAlbum (id : Int) : Tx Bool := fun s =>
  if (s.album? id).isNone then .ok (false, s)
  else if s.songs.any (·.albumId == some id) then .error (Fault.conflict "album" "album is still referenced")
  else .ok (true, { s with albums := s.albums.filter (·.id != id) })

/-- Creates a song that passes `checkSong`. -/
def createSong (d : SongDraft) : Tx ShownSong := fun s =>
  let song : Song := ⟨s.next.song + 1, d.name, d.artistId, d.albumId, d.genreId, d.likes.toInt,
    d.audio, nonEmpty d.cover⟩
  match s.checkSong song with
  | .error e => .error e
  | .ok () =>
    let s' := { s with next := { s.next with song := s.next.song + 1 }, songs := s.songs ++ [song] }
    .ok (s'.showSong song, s')

/-- Applies a change to a song; the result must pass `checkSong`. -/
def updateSong (id : Int) (c : SongChange) : Tx ShownSong := fun s =>
  match s.song? id with
  | none => .error (Fault.notFound "song")
  | some song =>
    let song' := c.apply song
    match s.checkSong song' with
    | .error e => .error e
    | .ok () =>
      let s' := { s with songs := replaceById (·.id) song' s.songs }
      .ok (s'.showSong song', s')

/-- Adds to a song's likes, wrapping at 64 bits; a result below zero is refused. The delta may
be any integer: the result lies in the signed 64-bit range whatever it is. -/
def addSongLikes (id : Int) (delta : Int) : Tx ShownSong := fun s =>
  match s.song? id with
  | none => .error (Fault.notFound "song")
  | some song =>
    let likes := wrap64 (song.likes + delta)
    if likes < 0 then .error (Fault.invalid "likes" "must not be negative")
    else
      let song' := { song with likes := likes }
      let s' := { s with songs := replaceById (·.id) song' s.songs }
      .ok (s'.showSong song', s')

/-- Deletes a song that no playlist holds. -/
def deleteSong (id : Int) : Tx Bool := fun s =>
  if (s.song? id).isNone then .ok (false, s)
  else if s.members.any (·.songId == id) then .error (Fault.conflict "song" "song is still referenced")
  else .ok (true, { s with songs := s.songs.filter (·.id != id) })

/-- Creates an empty playlist of an existing user. -/
def createPlaylist (name : String) (ownerId : Int) : Tx ShownPlaylist := fun s =>
  if (s.user? ownerId).isNone then .error (Fault.notFound "owner")
  else
    let p : Playlist := ⟨s.next.playlist + 1, name, ownerId⟩
    let s' := { s with
      next := { s.next with playlist := s.next.playlist + 1 }
      playlists := s.playlists ++ [p] }
    .ok (⟨p, 0⟩, s')

/-- Renames a playlist. -/
def renamePlaylist (id : Int) (name : String) : Tx ShownPlaylist := fun s =>
  match s.playlist? id with
  | none => .error (Fault.notFound "playlist")
  | some p =>
    let p' := { p with name := name }
    let s' := { s with playlists := replaceById (·.id) p' s.playlists }
    .ok (s'.showPlaylist p', s')

/-- Deletes a playlist that holds no song. -/
def deletePlaylist (id : Int) : Tx Bool := fun s =>
  if (s.playlist? id).isNone then .ok (false, s)
  else if s.members.any (·.playlistId == id) then
    .error (Fault.conflict "playlist" "playlist is still referenced")
  else .ok (true, { s with playlists := s.playlists.filter (·.id != id) })

/-- Adds a song to a playlist; both must exist and the song must not be there yet. -/
def addMembership (playlistId songId : Int) : Tx Unit := fun s =>
  if (s.playlist? playlistId).isNone then .error (Fault.notFound "playlist")
  else if (s.song? songId).isNone then .error (Fault.notFound "song")
  else if s.holds playlistId songId then .error (Fault.conflict "membership" "song already in playlist")
  else .ok ((), { s with members := s.members ++ [⟨playlistId, songId⟩] })

/-- Removes a song from a playlist; `false` when the playlist did not hold it. -/
def removeMembership (playlistId songId : Int) : Tx Bool := fun s =>
  if s.holds playlistId songId then
    .ok (true, { s with members := s.members.filter fun m => m != Membership.mk playlistId songId })
  else .ok (false, s)

/-- Removes every song from a playlist, returning how many there were. -/
def clearPlaylist (playlistId : Int) : Tx Nat := fun s =>
  .ok (s.members.countP (·.playlistId == playlistId),
    { s with members := s.members.filter (·.playlistId != playlistId) })

/-- Removes a song from every playlist, returning from how many. -/
def unlinkSong (songId : Int) : Tx Nat := fun s =>
  .ok (s.members.countP (·.songId == songId),
    { s with members := s.members.filter (·.songId != songId) })

/-- Creates a user with a new email. -/
def createUser (name email : String) (credential : Option Credential) : Tx User := fun s =>
  if s.users.any (·.email == email) then .error (Fault.conflict "email" "email already registered")
  else
    let u : User := ⟨s.next.user + 1, name, email, credential⟩
    .ok (u, { s with next := { s.next with user := s.next.user + 1 }, users := s.users ++ [u] })

end Store

end Jukebox.Catalog
