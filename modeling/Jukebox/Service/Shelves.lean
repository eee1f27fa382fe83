import Jukebox.Catalog.Write
import Jukebox.Catalog.Query
import Jukebox.Service.Outcome
import Jukebox.Text.Blank

set_option autoImplicit false

/-! # Genres, artists and albums

The catalog's shelves: create, read, list, change and delete genres, artists and albums. Every
operation checks the request first, then its input (a given name is trimmed and must not be
blank), then hands over to one store write. A delete of a missing row answers
`<entity> not found`; a delete of a row still in use is the store's conflict.

An artist's photo and an album's cover are stored as given, not trimmed; the empty text
clears them.
-/

namespace Jukebox.Service

open Catalog

/-- A trimmed name that must not be blank: `name: is required` otherwise. -/
def requireName (name : String) : Except Fault String :=
  let n := Text.trim name
  if n.isEmpty then .error (Fault.invalid "name" "is required") else .ok n

/-- Runs a store write for a request that has passed its checks. -/
def writeFor {α β : Type} (cancelled : Bool) (checks : Except Fault β) (t : β → Tx α) (s : Store) :
    Outcome α :=
  if cancelled then (.error Fault.canceled, s)
  else
    match checks with
    | .error e => (.error e, s)
    | .ok b => (t b).commit s

/-- A delete that answers `<entity> not found` when nothing was deleted. -/
def deleteOrMissing (entity : String) (t : Tx Bool) : Tx Unit := do
  if ← t then pure () else Tx.fail (Fault.notFound entity)

/-! ## Genres -/

/-- Creates a genre. -/
def createGenre (cancelled : Bool) (name : String) (s : Store) : Outcome Genre :=
  writeFor cancelled (requireName name) Store.createGenre s

/-- Reads one genre. -/
def getGenre (cancelled : Bool) (id : Int) (s : Store) : Except Fault Genre :=
  readFor cancelled (s.genreById id)

/-- Every genre, by name. -/
def listGenres (cancelled : Bool) (s : Store) : Except Fault (List Genre) :=
  readFor cancelled (.ok s.listGenres)

/-- Deletes a genre no song uses. -/
def deleteGenre (cancelled : Bool) (id : Int) (s : Store) : Outcome Unit :=
  writeFor cancelled (.ok ()) (fun _ => deleteOrMissing "genre" (Store.deleteGenre id)) s

/-! ## Artists -/

/-- Creates an artist. -/
def createArtist (cancelled : Bool) (name : String) (photo : Option String) (s : Store) :
    Outcome Artist :=
  writeFor cancelled (requireName name) (fun n => Store.createArtist n photo) s

/-- Reads one artist. -/
def getArtist (cancelled : Bool) (id : Int) (s : Store) : Except Fault Artist :=
  readFor cancelled (s.artistById id)

/-- The artists whose name matches a needle, by name. -/
def listArtists (cancelled : Bool) (needle : String) (s : Store) : Except Fault (List Artist) :=
  readFor cancelled (.ok (s.listArtists needle))

/-- Changes an artist's name and photo. -/
def updateArtist (cancelled : Bool) (id : Int) (name photo : Option String) (s : Store) :
    Outcome Artist :=
  let checks : Except Fault (Option String) := match name with
    | some n => some <$> requireName n
    | none => pure none
  writeFor cancelled checks (fun n => Store.updateArtist id n photo) s

/-- Deletes an artist that no album or song refers to. -/
def deleteArtist (cancelled : Bool) (id : Int) (s : Store) : Outcome Unit :=
  writeFor cancelled (.ok ()) (fun _ => deleteOrMissing "artist" (Store.deleteArtist id)) s

/-! ## Albums -/

/-- Creates an album. -/
def createAlbum (cancelled : Bool) (name : String) (artistId : Int) (cover : Option String)
    (s : Store) : Outcome ShownAlbum :=
  writeFor cancelled (requireName name) (fun n => Store.createAlbum n artistId cover) s

/-- Reads one album. -/
def getAlbum (cancelled : Bool) (id : Int) (s : Store) : Except Fault ShownAlbum :=
  readFor cancelled (s.albumById id)

/-- The albums whose name matches a needle and, when given, of one artist. -/
def listAlbums (cancelled : Bool) (needle : String) (artistId : Option Int) (s : Store) :
    Except Fault (List ShownAlbum) :=
  readFor cancelled (.ok (s.listAlbums needle artistId))

/-- Changes an album's name, artist and cover. -/
def updateAlbum (cancelled : Bool) (id : Int) (name : Option String) (artistId : Option Int)
    (cover : Option String) (s : Store) : Outcome ShownAlbum :=
  let checks : Except Fault (Option String) := match name with
    | some n => some <$> requireName n
    | none => pure none
  writeFor cancelled checks (fun n => Store.updateAlbum id n artistId cover) s

/-- Deletes an album that no song refers to. -/
def deleteAlbum (cancelled : Bool) (id : Int) (s : Store) : Outcome Unit :=
  writeFor cancelled (.ok ()) (fun _ => deleteOrMissing "album" (Store.deleteAlbum id)) s

end Jukebox.Service
