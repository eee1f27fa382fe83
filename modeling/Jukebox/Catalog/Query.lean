import Jukebox.Catalog.Store
import Jukebox.Text.Blank
import Jukebox.Text.Lower

set_option autoImplicit false

/-! # Listings and search

Listings return every matching row once, in a fixed order: genres by name then id, artists by
name, albums by name then id, songs and playlists by id.

A name filter is a *needle*: it matches a text when, trimmed, it is blank, or when its
lowercase form occurs in the lowercase form of the text (`Text.lower`, simple case mapping).
A song search applies four needles at once, to the song's name and to the artist, album and
genre names it displays, so a song without an artist of its own is found by its album's
artist.
-/

namespace Jukebox.Catalog

/-- Whether `needle` occurs in `hay` as a contiguous run. -/
def hasInfix (needle : List Char) : List Char → Bool
  | [] => needle.isEmpty
  | c :: rest => needle.isPrefixOf (c :: rest) || hasInfix needle rest

/-- Whether a name filter matches a text: a blank filter matches everything, any other
matches the texts that contain it, trimmed, ignoring case. -/
def needleMatches (hay needle : String) : Bool :=
  let n := Text.trim needle
  n.isEmpty || hasInfix (Text.lower n).toList (Text.lower hay).toList

/-- What a song search asks for: name, artist, album and genre needles, and optionally one
album. -/
structure SongFilter where
  name : String := ""
  artist : String := ""
  album : String := ""
  genre : String := ""
  albumId : Option Int := none

/-- Whether a shown song passes a filter. -/
def SongFilter.admits (f : SongFilter) (x : ShownSong) : Bool :=
  (match f.albumId with
   | some a => x.song.albumId == some a
   | none => true) &&
  needleMatches x.song.name f.name && needleMatches x.display.artist f.artist &&
  needleMatches x.display.album f.album && needleMatches x.display.genre f.genre

namespace Store

/-- Rows sorted by increasing id. -/
def byId {α : Type} (id : α → Int) (xs : List α) : List α :=
  xs.mergeSort fun a b => id a ≤ id b

/-- Every genre, by name and then id. -/
def listGenres (s : Store) : List Genre :=
  s.genres.mergeSort fun a b => decide (a.name < b.name) || (a.name == b.name && a.id ≤ b.id)

/-- The artists whose name matches the needle, by name. -/
def listArtists (s : Store) (needle : String) : List Artist :=
  (s.artists.filter fun a => needleMatches a.name needle).mergeSort
    fun a b => decide (a.name < b.name) || a.name == b.name

/-- The albums whose name matches the needle and, when given, of that artist, by name and
then id. -/
def listAlbums (s : Store) (needle : String) (artistId : Option Int) : List ShownAlbum :=
  let keep := s.albums.filter fun a =>
    needleMatches a.name needle &&
      (match artistId with
       | some id => a.artistId == id
       | none => true)
  (keep.mergeSort fun a b => decide (a.name < b.name) || (a.name == b.name && a.id ≤ b.id)).map
    s.showAlbum

/-- The songs that pass a filter, shown, by id. -/
def listSongs (s : Store) (f : SongFilter) : List ShownSong :=
  ((byId (·.id) s.songs).map s.showSong).filter f.admits

/-- The playlists of an owner, shown, by id. -/
def playlistsOf (s : Store) (ownerId : Int) : List ShownPlaylist :=
  (byId (·.id) (s.playlists.filter (·.ownerId == ownerId))).map s.showPlaylist

/-- The ids of the songs a playlist holds, increasing. -/
def memberIds (s : Store) (playlistId : Int) : List Int :=
  ((s.members.filter (·.playlistId == playlistId)).map (·.songId)).mergeSort fun a b => a ≤ b

/-- The songs a playlist holds, shown, by id. An unknown playlist holds none. -/
def playlistSongs (s : Store) (playlistId : Int) : List ShownSong :=
  (byId (·.id) (s.songs.filter fun song => s.holds playlistId song.id)).map s.showSong

/-- The users with ids 1, 2, … up to the first id that has none. -/
def userRun (s : Store) : List User :=
  let rec go (fuel : Nat) (id : Int) : List User :=
    match fuel with
    | 0 => []
    | fuel + 1 =>
      match s.user? id with
      | some u => u :: go fuel (id + 1)
      | none => []
  go s.users.length 1

end Store

example : needleMatches "Joni Mitchell" " jo " = true ∧ needleMatches "x" "  " = true ∧
    needleMatches "Straße" "SS" = false := by decide

end Jukebox.Catalog
