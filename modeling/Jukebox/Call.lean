import Jukebox.Catalog.Document
import Jukebox.Service.Songs
import Jukebox.Service.Playlists
import Jukebox.Service.Shelves
import Jukebox.Service.Accounts

set_option autoImplicit false

/-! # Calls on the catalog

`Call` lists every operation the catalog offers, with its arguments: the services (genres,
artists, albums, songs, playlists, users), name resolution over the store, and the store's own
operations, which skip the services' trimming and checks. `Call.run` performs one call for a
request that may have been cancelled, and answers with a JSON document or a fault, and the store
afterwards. It takes the password hashing the user calls need, which lives outside the catalog.

The store's own writes each run as one transaction of their own and ignore cancellation; its
reads see the store as it is.
-/

namespace Jukebox

open Catalog Service

/-- One operation on the catalog with its arguments. -/
inductive Call where
  | genreCreate (name : String)
  | genreGet (id : Int)
  | genreList
  | genreDelete (id : Int)
  | artistCreate (name : String) (photo : Option String)
  | artistGet (id : Int)
  | artistList (name : String)
  | artistUpdate (id : Int) (name photo : Option String)
  | artistDelete (id : Int)
  | albumCreate (name : String) (artistId : Int) (cover : Option String)
  | albumGet (id : Int)
  | albumList (name : String) (artistId : Option Int)
  | albumUpdate (id : Int) (name : Option String) (artistId : Option Int) (cover : Option String)
  | albumDelete (id : Int)
  | songCreate (input : SongInput)
  | songUpdate (id : Int) (patch : SongPatch)
  | songDelete (id : Int)
  | songGet (id : Int)
  | songSearch (query : SongQuery)
  | songListByAlbum (albumId : Int)
  | songLike (id : Int)
  | songUnlike (id : Int)
  | playlistCreate (name : String) (ownerId : Int)
  | playlistAddSong (playlistId songId : Int)
  | playlistRemoveSong (playlistId songId : Int)
  | playlistListSongs (playlistId : Int)
  | playlistDelete (playlistId : Int)
  | playlistGet (playlistId : Int)
  | playlistListByOwner (ownerId : Int)
  | playlistRename (playlistId : Int) (name : String)
  | userRegister (name email password : String)
  | userGet (id : Int)
  | userExists (id : Int)
  | userCheckPassword (id : Int) (password : String)
  | resolveArtist (name : String)
  | resolveAlbum (name : String) (artistId : Int)
  | storeCreateUser (name email : String)
  | storeCreateGenre (name : String)
  | storeCreateArtist (name : String) (photo : Option String)
  | storeInsertArtistIfAbsent (name : String)
  | storeArtistByName (name : String)
  | storeCreateAlbum (name : String) (artistId : Int) (cover : Option String)
  | storeInsertAlbumIfAbsent (name : String) (artistId : Int)
  | storeAlbumByNameAndArtist (name : String) (artistId : Int)
  | storeCreateSong (draft : SongDraft)
  | storeUpdateSong (id : Int) (change : SongChange)
  | storeAddSongLikes (id : Int) (delta : Int64)
  | storeDeleteSong (id : Int)
  | storeDeletePlaylist (id : Int)
  | storeDeleteArtist (id : Int)
  | storeDeleteAlbum (id : Int)
  | storeDeleteGenre (id : Int)
  | storeCreatePlaylist (name : String) (ownerId : Int)
  | storeRenamePlaylist (id : Int) (name : String)
  | storePlaylistsByOwner (ownerId : Int)
  | storeAddMembership (playlistId songId : Int)
  | storeRemoveMembership (playlistId songId : Int)
  | storeMembershipExists (playlistId songId : Int)
  | storeDeletePlaylistMemberships (playlistId : Int)
  | storeDeleteSongMemberships (songId : Int)
  | storePlaylistSongs (playlistId : Int)
  | storeListSongs (filter : SongFilter)

namespace Call

open Json

/-- An outcome whose value is written as a document. -/
def shape {α : Type} (f : α → Json) : Outcome α → Except Fault Json × Store
  | (r, s) => (r.map f, s)

/-- A read's answer written as a document, with the store unchanged. -/
def reading {α : Type} (f : α → Json) (r : Except Fault α) (s : Store) : Except Fault Json × Store :=
  (r.map f, s)

/-- `true`, the answer of a write that returns nothing. -/
def done (_ : Unit) : Json := bool true

/-- A list of songs. -/
def songs (xs : List ShownSong) : Json := arr (xs.map ShownSong.toJson)

/-- The zero artist, answered when nothing was created. -/
def zeroArtist : Json := obj [("id", int 0), ("name", str "")]

/-- The zero album, answered when nothing was created. -/
def zeroAlbum : Json := obj [("id", int 0), ("name", str ""), ("artistId", int 0)]

/-- Performs one call, hashing and checking passwords with `scheme`. -/
def run (scheme : PasswordScheme) (cancelled : Bool) (call : Call) (s : Store) :
    Except Fault Json × Store :=
  match call with
  | genreCreate name => shape Genre.toJson (createGenre cancelled name s)
  | genreGet id => reading Genre.toJson (getGenre cancelled id s) s
  | genreList => reading (fun gs => arr (gs.map Genre.toJson)) (listGenres cancelled s) s
  | genreDelete id => shape done (deleteGenre cancelled id s)
  | artistCreate name photo => shape Artist.toJson (createArtist cancelled name photo s)
  | artistGet id => reading Artist.toJson (getArtist cancelled id s) s
  | artistList name => reading (fun xs => arr (xs.map Artist.toJson)) (listArtists cancelled name s) s
  | artistUpdate id name photo => shape Artist.toJson (updateArtist cancelled id name photo s)
  | artistDelete id => shape done (deleteArtist cancelled id s)
  | albumCreate name artistId cover =>
    shape ShownAlbum.toJson (createAlbum cancelled name artistId cover s)
  | albumGet id => reading ShownAlbum.toJson (getAlbum cancelled id s) s
  | albumList name artistId =>
    reading (fun xs => arr (xs.map ShownAlbum.toJson)) (listAlbums cancelled name artistId s) s
  | albumUpdate id name artistId cover =>
    shape ShownAlbum.toJson (updateAlbum cancelled id name artistId cover s)
  | albumDelete id => shape done (deleteAlbum cancelled id s)
  | songCreate input => shape ShownSong.toJson (createSong cancelled input s)
  | songUpdate id patch =>
    shape (fun u => obj [("song", u.song.toJson), ("stale", strs u.stale)])
      (updateSong cancelled id patch s)
  | songDelete id =>
    shape (fun x => obj [("song", x.toJson), ("files", strs x.song.files)])
      (deleteSong cancelled id s)
  | songGet id => reading ShownSong.toJson (getSong cancelled id s) s
  | songSearch q => reading songs (searchSongs cancelled q s) s
  | songListByAlbum albumId => reading songs (songsOfAlbum cancelled albumId s) s
  | songLike id => shape ShownSong.toJson (likeSong cancelled id s)
  | songUnlike id => shape ShownSong.toJson (unlikeSong cancelled id s)
  | playlistCreate name ownerId =>
    shape ShownPlaylist.toJson (createPlaylist cancelled name ownerId s)
  | playlistAddSong p song => shape done (addToPlaylist cancelled p song s)
  | playlistRemoveSong p song => shape done (removeFromPlaylist cancelled p song s)
  | playlistListSongs p => reading songs (Service.playlistSongs cancelled p s) s
  | playlistDelete p => shape done (Service.deletePlaylist cancelled p s)
  | playlistGet p => reading ShownPlaylist.toJson (getPlaylist cancelled p s) s
  | playlistListByOwner o =>
    reading (fun xs => arr (xs.map ShownPlaylist.toJson)) (Service.playlistsOf cancelled o s) s
  | playlistRename p name =>
    shape ShownPlaylist.toJson (Service.renamePlaylist cancelled p name s)
  | userRegister name email password =>
    shape User.toJson (registerUser scheme cancelled name email password s)
  | userGet id => reading User.toJson (getUser cancelled id s) s
  | userExists id => reading bool (Service.userExists cancelled id s) s
  | userCheckPassword id password => reading bool (checkPassword scheme id password s) s
  | resolveArtist name =>
    match artistFinder.resolve "artist" name s with
    | .ok (r, s') => (r.map ArtistRef.toJson, s')
    | .error e => (.error e, s)
  | resolveAlbum name artistId =>
    match (albumFinder artistId).resolve "album" name s with
    | .ok (r, s') => (r.map AlbumRef.toJson, s')
    | .error e => (.error e, s)
  | storeCreateUser name email => shape User.toJson ((Store.createUser name email none).commit s)
  | storeCreateGenre name => shape Genre.toJson ((Store.createGenre name).commit s)
  | storeCreateArtist name photo => shape Artist.toJson ((Store.createArtist name photo).commit s)
  | storeInsertArtistIfAbsent name =>
    shape (fun r => obj [("artist", (r.map Artist.toJson).getD zeroArtist), ("created", bool r.isSome)])
      ((Store.insertArtistIfAbsent name).commit s)
  | storeArtistByName name => reading Artist.toJson (s.artistByName name) s
  | storeCreateAlbum name artistId cover =>
    shape ShownAlbum.toJson ((Store.createAlbum name artistId cover).commit s)
  | storeInsertAlbumIfAbsent name artistId =>
    shape (fun r => obj [("album", (r.map ShownAlbum.toJson).getD zeroAlbum), ("created", bool r.isSome)])
      ((Store.insertAlbumIfAbsent name artistId).commit s)
  | storeAlbumByNameAndArtist name artistId =>
    reading ShownAlbum.toJson (s.albumByKey name artistId) s
  | storeCreateSong draft => shape ShownSong.toJson ((Store.createSong draft).commit s)
  | storeUpdateSong id change =>
    shape (fun x => obj [("song", x.toJson), ("patchEmpty", bool change.isEmpty)])
      ((Store.updateSong id change).commit s)
  | storeAddSongLikes id delta =>
    shape ShownSong.toJson ((Store.addSongLikes id delta.toInt).commit s)
  | storeDeleteSong id => shape bool ((Store.deleteSong id).commit s)
  | storeDeletePlaylist id => shape bool ((Store.deletePlaylist id).commit s)
  | storeDeleteArtist id => shape bool ((Store.deleteArtist id).commit s)
  | storeDeleteAlbum id => shape bool ((Store.deleteAlbum id).commit s)
  | storeDeleteGenre id => shape bool ((Store.deleteGenre id).commit s)
  | storeCreatePlaylist name ownerId =>
    shape ShownPlaylist.toJson ((Store.createPlaylist name ownerId).commit s)
  | storeRenamePlaylist id name => shape ShownPlaylist.toJson ((Store.renamePlaylist id name).commit s)
  | storePlaylistsByOwner ownerId =>
    reading (fun xs => arr (xs.map ShownPlaylist.toJson)) (.ok (s.playlistsOf ownerId)) s
  | storeAddMembership p song => shape done ((Store.addMembership p song).commit s)
  | storeRemoveMembership p song => shape bool ((Store.removeMembership p song).commit s)
  | storeMembershipExists p song => reading bool (.ok (s.holds p song)) s
  | storeDeletePlaylistMemberships p =>
    shape (fun n => int (Int.ofNat n)) ((Store.clearPlaylist p).commit s)
  | storeDeleteSongMemberships song => shape (fun n => int (Int.ofNat n)) ((Store.unlinkSong song).commit s)
  | storePlaylistSongs p => reading songs (.ok (s.playlistSongs p)) s
  | storeListSongs f => reading songs (.ok (s.listSongs f)) s

end Call

end Jukebox
