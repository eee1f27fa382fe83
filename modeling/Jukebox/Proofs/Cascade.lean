import Jukebox.Proofs.Membership

set_option autoImplicit false

/-! # Cascading deletes

The services delete a song or a playlist in one transaction: first the memberships that name it,
then the row. The row's own delete refuses while a membership still names it, but by then there
is none, so for a live request the delete succeeds exactly when the row exists: a missing song or
playlist fails at the transaction's first read.

Main statement (`deletes_remove_exactly_their_rows`): the store a delete leaves is the store
before, less the row and exactly the memberships that name it, written as one update of two
tables, so every other table, every other membership and every counter is as it was (a deleted
song's album and artist stay). A song delete answers the song as a read showed it before. A
failed delete, live or cancelled, changes nothing.
-/

namespace Jukebox

open Catalog Service

namespace Service

open Service.Outcome

variable {s : Store}

/-- Deleting an existing song for a live request: its memberships go first, then the song,
which no membership holds any more. -/
theorem deleteSong_of_found {id : Int} {x : Song} (hx : s.song? id = some x) :
    deleteSong false id s = (.ok (s.showSong x),
      { s with songs := s.songs.filter (·.id != id), members := s.members.filter (·.songId != id) }) := by
  have hread : (Tx.read fun st => st.songById id).run s = .ok (s.showSong x, s) :=
    Tx.read_run_ok (by simp [Store.songById, hx])
  have hunlink : (Store.unlinkSong id).run s =
      .ok (s.members.countP (·.songId == id), { s with members := s.members.filter (·.songId != id) }) :=
    rfl
  -- the song is still there, and no membership holds it any more
  have hdelete : (Store.deleteSong id).run { s with members := s.members.filter (·.songId != id) } =
      .ok (true, { s with
        songs := s.songs.filter (·.id != id), members := s.members.filter (·.songId != id) }) := by
    have hfound : ∃ y ∈ s.songs, y.id = id := ⟨x, find?_id_eq_some hx⟩
    simp [Store.deleteSong, StateT.run, Store.song?, hfound, List.any_filter]
  simp only [deleteSong, commitFor, Bool.false_eq_true, ↓reduceIte, Tx.commit,
    Tx.run_bind_of_ok hread, Tx.run_bind_of_ok hunlink, Tx.run_bind_of_ok hdelete]
  rfl

/-- Deleting a missing song fails at its first read. -/
theorem deleteSong_of_missing {id : Int} (hx : s.song? id = none) :
    deleteSong false id s =
      (.error (.wrapped ("delete song " ++ toString id) (Fault.notFound "song")), s) := by
  have hread : (Tx.read fun st => st.songById id).run s = .error (Fault.notFound "song") :=
    Tx.read_run_error (by simp [Store.songById, hx])
  simp only [deleteSong, commitFor, Bool.false_eq_true, ↓reduceIte,
    Tx.commit_error _ _ _ (Tx.run_bind_of_error hread)]
  rfl

/-- Deleting an existing playlist for a live request: its memberships go first, then the
playlist, which then holds no song. -/
theorem deletePlaylist_of_found {p : Int} {pl : Playlist} (hp : s.playlist? p = some pl) :
    Service.deletePlaylist false p s = (.ok (), { s with
      playlists := s.playlists.filter (·.id != p)
      members := s.members.filter (·.playlistId != p) }) := by
  have hread : (Tx.read fun st => st.playlistById p).run s = .ok (s.showPlaylist pl, s) :=
    Tx.read_run_ok (by simp [Store.playlistById, hp])
  have hclear : (Store.clearPlaylist p).run s =
      .ok (s.members.countP (·.playlistId == p),
        { s with members := s.members.filter (·.playlistId != p) }) :=
    rfl
  have hdelete : (Store.deletePlaylist p).run
      { s with members := s.members.filter (·.playlistId != p) } =
      .ok (true, { s with
        playlists := s.playlists.filter (·.id != p)
        members := s.members.filter (·.playlistId != p) }) := by
    have hfound : ∃ q ∈ s.playlists, q.id = p := ⟨pl, find?_id_eq_some hp⟩
    simp [Store.deletePlaylist, StateT.run, Store.playlist?, hfound, List.any_filter]
  simp only [Service.deletePlaylist, commitFor, Bool.false_eq_true, ↓reduceIte, Tx.commit,
    Tx.run_bind_of_ok hread, Tx.run_bind_of_ok hclear, Tx.run_bind_of_ok hdelete]
  rfl

/-- Deleting a missing playlist fails at its first read. -/
theorem deletePlaylist_of_missing {p : Int} (hp : s.playlist? p = none) :
    Service.deletePlaylist false p s =
      (.error (.wrapped ("delete playlist " ++ toString p) (Fault.notFound "playlist")), s) := by
  have hread : (Tx.read fun st => st.playlistById p).run s = .error (Fault.notFound "playlist") :=
    Tx.read_run_error (by simp [Store.playlistById, hp])
  simp only [Service.deletePlaylist, commitFor, Bool.false_eq_true, ↓reduceIte,
    Tx.commit_error _ _ _ (Tx.run_bind_of_error hread)]
  rfl

theorem deleteSong_atomic (cancelled : Bool) (id : Int) (s : Store) :
    Atomic s (deleteSong cancelled id s) :=
  (atomic_commitFor _ _ s).within _

theorem deletePlaylist_atomic (cancelled : Bool) (p : Int) (s : Store) :
    Atomic s (Service.deletePlaylist cancelled p s) :=
  (atomic_commitFor _ _ s).within _

end Service

/-- Deleting a song or a playlist removes exactly its own rows. For a live request, a song delete
succeeds exactly when the song exists; it then answers the song as a read showed it and leaves
the store less that song and exactly the memberships holding it, every other table, membership
and counter unchanged. A playlist delete succeeds exactly when the playlist exists and leaves the
store less that playlist and exactly its memberships. Either delete, live or cancelled, changes
nothing when it fails. -/
theorem deletes_remove_exactly_their_rows (s : Store) :
    (∀ id ∈ s.songs.map (·.id), ∃ x, s.songById id = .ok x ∧
      deleteSong false id s = (.ok x,
        { s with songs := s.songs.filter (·.id != id), members := s.members.filter (·.songId != id) })) ∧
    (∀ id ∉ s.songs.map (·.id), deleteSong false id s =
      (.error (.wrapped ("delete song " ++ toString id) (Fault.notFound "song")), s)) ∧
    (∀ p ∈ s.playlists.map (·.id), Service.deletePlaylist false p s = (.ok (),
      { s with
        playlists := s.playlists.filter (·.id != p)
        members := s.members.filter (·.playlistId != p) })) ∧
    (∀ p ∉ s.playlists.map (·.id), Service.deletePlaylist false p s =
      (.error (.wrapped ("delete playlist " ++ toString p) (Fault.notFound "playlist")), s)) ∧
    ∀ (cancelled : Bool) (id : Int) (e : Fault),
      ((deleteSong cancelled id s).1 = .error e → (deleteSong cancelled id s).2 = s) ∧
      ((Service.deletePlaylist cancelled id s).1 = .error e →
        (Service.deletePlaylist cancelled id s).2 = s) := by
  refine ⟨fun id hid => ?_, fun id hid => deleteSong_of_missing (Store.song?_eq_none.2 hid),
    fun p hp => ?_, fun p hp => deletePlaylist_of_missing (Store.playlist?_eq_none.2 hp),
    fun cancelled id e => ⟨deleteSong_atomic cancelled id s e, deletePlaylist_atomic cancelled id s e⟩⟩
  · rcases hx : s.song? id with _ | x
    · exact absurd hid (Store.song?_eq_none.1 hx)
    · exact ⟨s.showSong x, by simp [Store.songById, hx], deleteSong_of_found hx⟩
  · rcases hpl : s.playlist? p with _ | pl
    · exact absurd hp (Store.playlist?_eq_none.1 hpl)
    · exact deletePlaylist_of_found hpl

end Jukebox
