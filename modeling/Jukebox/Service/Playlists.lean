import Jukebox.Catalog.Write
import Jukebox.Catalog.Query
import Jukebox.Service.Outcome
import Jukebox.Text.Blank

set_option autoImplicit false

/-! # Playlists

A playlist belongs to an existing user and holds each song at most once.

* Adding a song checks, in one transaction, the playlist, the song, then that the song is not
  there yet (a conflict on the field `membership`).
* Removing a song fails with `membership not found` when the playlist does not hold it, whatever
  else exists.
* Deleting a playlist removes its memberships and then the playlist, in one transaction.
* Creating and listing check the owner first, through the user directory; a failure of that
  check is put in context `check owner`.
-/

namespace Jukebox.Service

open Catalog

/-- Checks that an owner exists: a cancelled request fails as `check owner: context canceled`,
a missing owner as `owner not found`. -/
def requireOwner (cancelled : Bool) (ownerId : Int) (s : Store) : Except Fault Unit :=
  if cancelled then .error (.wrapped "check owner" Fault.canceled)
  else if s.userExists ownerId then .ok ()
  else .error (Fault.notFound "owner")

/-- Creates an empty playlist with a trimmed, non-blank name. -/
def createPlaylist (cancelled : Bool) (name : String) (ownerId : Int) (s : Store) :
    Outcome ShownPlaylist :=
  let n := Text.trim name
  if n.isEmpty then (.error (Fault.invalid "name" "is required"), s)
  else
    match requireOwner cancelled ownerId s with
    | .error e => (.error e, s)
    | .ok () => (commitFor cancelled (Store.createPlaylist n ownerId) s).within "create playlist"

/-- Adds a song to a playlist. -/
def addToPlaylist (cancelled : Bool) (playlistId songId : Int) (s : Store) : Outcome Unit :=
  let t : Tx Unit := do
    let _ ← Tx.read fun st => st.playlistById playlistId
    let _ ← Tx.read fun st => st.songById songId
    if (← get).holds playlistId songId then
      Tx.fail (Fault.conflict "membership" "song already in playlist")
    else Store.addMembership playlistId songId
  (commitFor cancelled t s).within
    ("add song " ++ toString songId ++ " to playlist " ++ toString playlistId)

/-- Removes a song from a playlist. -/
def removeFromPlaylist (cancelled : Bool) (playlistId songId : Int) (s : Store) : Outcome Unit :=
  let t : Tx Unit := do
    if ← Store.removeMembership playlistId songId then pure ()
    else Tx.fail (Fault.notFound "membership")
  (commitFor cancelled t s).within
    ("remove song " ++ toString songId ++ " from playlist " ++ toString playlistId)

/-- The songs of an existing playlist, by id. -/
def playlistSongs (cancelled : Bool) (playlistId : Int) (s : Store) :
    Except Fault (List ShownSong) :=
  readFor cancelled do
    let _ ← s.playlistById playlistId
    pure (s.playlistSongs playlistId)

/-- Deletes a playlist and its memberships. -/
def deletePlaylist (cancelled : Bool) (playlistId : Int) (s : Store) : Outcome Unit :=
  let t : Tx Unit := do
    let _ ← Tx.read fun st => st.playlistById playlistId
    let _ ← Store.clearPlaylist playlistId
    if ← Store.deletePlaylist playlistId then pure ()
    else Tx.fail (Fault.notFound "playlist")
  (commitFor cancelled t s).within ("delete playlist " ++ toString playlistId)

/-- Reads one playlist. -/
def getPlaylist (cancelled : Bool) (playlistId : Int) (s : Store) : Except Fault ShownPlaylist :=
  readFor cancelled (s.playlistById playlistId)

/-- The playlists of an existing owner, by id. -/
def playlistsOf (cancelled : Bool) (ownerId : Int) (s : Store) :
    Except Fault (List ShownPlaylist) := do
  requireOwner cancelled ownerId s
  pure (s.playlistsOf ownerId)

/-- Renames a playlist to a trimmed, non-blank name. -/
def renamePlaylist (cancelled : Bool) (playlistId : Int) (name : String) (s : Store) :
    Outcome ShownPlaylist :=
  let n := Text.trim name
  if n.isEmpty then (.error (Fault.invalid "name" "is required"), s)
  else (commitFor cancelled (Store.renamePlaylist playlistId n) s).within
    ("rename playlist " ++ toString playlistId)

end Jukebox.Service
