import Jukebox.Proofs.Calls

set_option autoImplicit false

/-! # Delete guards

A delete of a genre, artist, album, song or playlist refuses while another row still refers to
the row it would remove. A song refers to its genre, to its own artist and to its album; an album
refers to its artist; a membership refers to its song and to its playlist. A song that shows an
artist only through its album does not refer to that artist: the album does, and that is enough.

`DeleteLaw` says what such a delete answers from a store `s`, as three equivalences: it answers
that there was nothing to delete exactly when no row has the id, it refuses with its conflict
exactly when the row exists and is referenced, and otherwise it removes that row and no other.
In the first two cases the store stays `s`.

The five store deletes share one shape: look the row up by id, answer `false` without it, refuse
while a Boolean reference check holds, and otherwise keep the rows with another id
(`GuardedRuns.of_guard`). From their runs, one lemma gives the law of the store's own delete
(`GuardedRuns.commit`) and one the law of a service built on it (`GuardedRuns.reported`): the
genres, artists and albums services answer the first case as `<entity> not found` and pass the
conflict on as it is. In a valid store ids are distinct, so keeping the rows with another id
removes exactly the one row (`filter_id_ne_eq_erase`).

Main statement: `delete_guards_are_exact`.
-/

namespace Jukebox

open Catalog Service

/-! ## What refers to a row -/

namespace Catalog.Store

variable (s : Store) (id : Int)

/-- A genre is referenced while a song has it. -/
def GenreReferenced : Prop := ∃ x ∈ s.songs, x.genreId = id

/-- An artist is referenced while an album is theirs or a song names them as its own artist. -/
def ArtistReferenced : Prop :=
  (∃ a ∈ s.albums, a.artistId = id) ∨ ∃ x ∈ s.songs, x.artistId = some id

/-- An album is referenced while a song is on it. -/
def AlbumReferenced : Prop := ∃ x ∈ s.songs, x.albumId = some id

/-- A song is referenced while a playlist holds it. -/
def SongReferenced : Prop := ∃ m ∈ s.members, m.songId = id

/-- A playlist is referenced while it holds a song. -/
def PlaylistReferenced : Prop := ∃ m ∈ s.members, m.playlistId = id

end Catalog.Store

/-! ## The law of a guarded delete -/

section Law

variable {α ρ : Type}

/-- The answers of a delete that refuses while its row is referenced, as its caller sees them
from store `s` (`o` is the answer with the store after): `missing`, with `s` unchanged, exactly
when no row of `rows` has the id `key`; the failure `refusal`, with `s` unchanged, exactly when
the row exists and is `referenced`; and otherwise `done`, with the store `drop r` that has lost
the row `r`. -/
structure DeleteLaw (o : Except Fault α × Store) (s : Store) (rows : List ρ) (id : ρ → Int)
    (key : Int) (referenced : Prop) (missing : Except Fault α) (refusal : Fault) (done : α)
    (drop : ρ → Store) : Prop where
  missing_iff : o = (missing, s) ↔ key ∉ rows.map id
  refused_iff : o = (.error refusal, s) ↔ key ∈ rows.map id ∧ referenced
  removed_iff : ∀ r ∈ rows, id r = key → (o = (.ok done, drop r) ↔ ¬referenced)

variable {o : Except Fault α × Store} {s : Store} {rows : List ρ} {id : ρ → Int} {key : Int}
  {referenced : Prop} {missing : Except Fault α} {refusal : Fault} {done : α} {drop : ρ → Store}

/-- Each answer in its own case makes the law: the three answers differ, so each case is also
the only one that gives its answer. -/
theorem DeleteLaw.of_cases (hmissing : key ∉ rows.map id → o = (missing, s))
    (hrefused : key ∈ rows.map id → referenced → o = (.error refusal, s))
    (hremoved : ∀ r ∈ rows, id r = key → ¬referenced → o = (.ok done, drop r))
    (hne_refusal : missing ≠ .error refusal) (hne_done : missing ≠ .ok done) :
    DeleteLaw o s rows id key referenced missing refusal done drop := by
  -- a row with the key answers by whether it is referenced
  have hfound : ∀ r ∈ rows, id r = key →
      (referenced ∧ o = (.error refusal, s)) ∨ (¬referenced ∧ o = (.ok done, drop r)) := by
    intro r hr hid
    by_cases hused : referenced
    · exact .inl ⟨hused, hrefused (List.mem_map.2 ⟨r, hr, hid⟩) hused⟩
    · exact .inr ⟨hused, hremoved r hr hid hused⟩
  refine ⟨⟨fun ho hkey => ?_, hmissing⟩, ⟨fun ho => ?_, fun ⟨hkey, hused⟩ => hrefused hkey hused⟩,
    fun r hr hid => ⟨fun ho hused => ?_, hremoved r hr hid⟩⟩
  · obtain ⟨r, hr, hid⟩ := List.mem_map.1 hkey
    rcases hfound r hr hid with ⟨-, ho'⟩ | ⟨-, ho'⟩
    · exact hne_refusal (Prod.mk.inj (ho.symm.trans ho')).1
    · exact hne_done (Prod.mk.inj (ho.symm.trans ho')).1
  · by_cases hkey : key ∈ rows.map id
    · obtain ⟨r, hr, hid⟩ := List.mem_map.1 hkey
      rcases hfound r hr hid with ⟨hused, -⟩ | ⟨-, ho'⟩
      · exact ⟨hkey, hused⟩
      · cases ho.symm.trans ho'
    · exact absurd (Prod.mk.inj (ho.symm.trans (hmissing hkey))).1 (Ne.symm hne_refusal)
  · cases ho.symm.trans (hrefused (List.mem_map.2 ⟨r, hr, hid⟩) hused)

/-- The runs of a store delete guarded by references: `false` with the store as it was when no
row has the id, the failure `refusal` when the row is referenced, and `true` with `drop r`
otherwise. -/
structure GuardedRuns (t : Tx Bool) (s : Store) (rows : List ρ) (id : ρ → Int) (key : Int)
    (referenced : Prop) (refusal : Fault) (drop : ρ → Store) : Prop where
  missing : key ∉ rows.map id → t.run s = .ok (false, s)
  refused : key ∈ rows.map id → referenced → t.run s = .error refusal
  removed : ∀ r ∈ rows, id r = key → ¬referenced → t.run s = .ok (true, drop r)

variable {t : Tx Bool}

/-- The shape every store delete has: look the row up by id, answer `false` without it, refuse
while `used` and otherwise leave `after`, which is `drop r` for the row `r` with the id. -/
theorem GuardedRuns.of_guard {used : Bool} {after : Store}
    (hrun : t.run s = if (rows.find? (fun r => id r == key)).isNone then .ok (false, s)
      else if used then .error refusal else .ok (true, after))
    (hused : used = true ↔ referenced) (hdrop : ∀ r ∈ rows, id r = key → drop r = after) :
    GuardedRuns t s rows id key referenced refusal drop := by
  refine ⟨fun hkey => ?_, fun hkey hreferenced => ?_, fun r hr hid hfree => ?_⟩
  · rw [hrun, if_pos (find?_id_isNone.2 hkey)]
  · have hfound : ¬(rows.find? (fun r => id r == key)).isNone = true := by
      rw [find?_id_isNone, not_not]
      exact hkey
    rw [hrun, if_neg hfound, if_pos (hused.2 hreferenced)]
  · have hfound : ¬(rows.find? (fun r => id r == key)).isNone = true := by
      rw [find?_id_isNone, not_not]
      exact List.mem_map.2 ⟨r, hr, hid⟩
    rw [hrun, if_neg hfound, if_neg (mt hused.1 hfree), hdrop r hr hid]

/-- The store's own delete, committed, follows the law: `false` when there was nothing to delete,
`true` when the row is gone. -/
theorem GuardedRuns.commit (h : GuardedRuns t s rows id key referenced refusal drop) :
    DeleteLaw (t.commit s) s rows id key referenced (.ok false) refusal true drop := by
  refine .of_cases (fun hkey => ?_) (fun hkey hreferenced => ?_) (fun r hr hid hfree => ?_)
    (by simp) (by simp)
  · simp [Tx.commit, h.missing hkey]
  · simp [Tx.commit, h.refused hkey hreferenced]
  · simp [Tx.commit, h.removed r hr hid hfree]

/-- A service delete for a live request reports a missing row as `<entity> not found` and passes
the refusal on as it is; a conflict is never mistaken for that report. -/
theorem GuardedRuns.reported (h : GuardedRuns t s rows id key referenced refusal drop)
    (entity : String) (hrefusal : refusal.kind = .conflict) :
    DeleteLaw (writeFor false (.ok ()) (fun _ => deleteOrMissing entity t) s) s rows id key
      referenced (.error (Fault.notFound entity)) refusal () drop := by
  have hcommit : writeFor false (.ok ()) (fun _ => deleteOrMissing entity t) s =
      (deleteOrMissing entity t).commit s := rfl
  rw [hcommit]
  refine .of_cases (fun hkey => ?_) (fun hkey hreferenced => ?_) (fun r hr hid hfree => ?_)
    (fun he => ?_) (by simp)
  · rw [Tx.commit_error _ _ _ (by rw [deleteOrMissing, Tx.run_bind_of_ok (h.missing hkey)]; rfl)]
  · rw [Tx.commit_error _ _ _ (by rw [deleteOrMissing]; exact Tx.run_bind_of_error (h.refused hkey hreferenced))]
  · rw [Tx.commit, deleteOrMissing, Tx.run_bind_of_ok (h.removed r hr hid hfree)]
    rfl
  · -- `not found` and a conflict differ in their kind
    have hkind : Kind.notFound = Kind.conflict := by
      rw [← hrefusal, ← Except.error.inj he]
      rfl
    exact absurd hkind (by decide)

end Law

/-- In a table with distinct ids, keeping the rows without a row's id drops exactly that row. -/
theorem filter_id_ne_eq_erase {ρ : Type} [DecidableEq ρ] {rows : List ρ} {id : ρ → Int}
    (hid : (rows.map id).Nodup) {r : ρ} (hr : r ∈ rows) :
    rows.filter (fun x => id x != id r) = rows.erase r := by
  rw [(hid.of_map id).erase_eq_filter]
  apply List.filter_congr
  intro x hx
  by_cases hxr : x = r
  · subst hxr
    simp
  · have hid_ne : id x ≠ id r := fun h => hxr (List.inj_on_of_nodup_map hid hx hr h)
    rw [bne_iff_ne.2 hid_ne, bne_iff_ne.2 hxr]

/-! ## The five deletes -/

namespace Catalog.Store

variable {s : Store} (hv : s.Valid) (key : Int)
include hv

theorem Valid.deleteGenre_runs :
    GuardedRuns (Store.deleteGenre key) s s.genres (·.id) key (s.GenreReferenced key)
      (Fault.conflict "genre" "genre is still referenced")
      (fun g => { s with genres := s.genres.erase g }) :=
  .of_guard rfl (by simp [GenreReferenced]) fun g hg hid => by
    rw [← filter_id_ne_eq_erase hv.genreIds.nodup hg, hid]

theorem Valid.deleteArtist_runs :
    GuardedRuns (Store.deleteArtist key) s s.artists (·.id) key (s.ArtistReferenced key)
      (Fault.conflict "artist" "artist is still referenced")
      (fun a => { s with artists := s.artists.erase a }) :=
  .of_guard rfl (by simp [ArtistReferenced]) fun a ha hid => by
    rw [← filter_id_ne_eq_erase hv.artistIds.nodup ha, hid]

theorem Valid.deleteAlbum_runs :
    GuardedRuns (Store.deleteAlbum key) s s.albums (·.id) key (s.AlbumReferenced key)
      (Fault.conflict "album" "album is still referenced")
      (fun a => { s with albums := s.albums.erase a }) :=
  .of_guard rfl (by simp [AlbumReferenced]) fun a ha hid => by
    rw [← filter_id_ne_eq_erase hv.albumIds.nodup ha, hid]

theorem Valid.deleteSong_runs :
    GuardedRuns (Store.deleteSong key) s s.songs (·.id) key (s.SongReferenced key)
      (Fault.conflict "song" "song is still referenced")
      (fun x => { s with songs := s.songs.erase x }) :=
  .of_guard rfl (by simp [SongReferenced]) fun x hx hid => by
    rw [← filter_id_ne_eq_erase hv.songIds.nodup hx, hid]

theorem Valid.deletePlaylist_runs :
    GuardedRuns (Store.deletePlaylist key) s s.playlists (·.id) key (s.PlaylistReferenced key)
      (Fault.conflict "playlist" "playlist is still referenced")
      (fun p => { s with playlists := s.playlists.erase p }) :=
  .of_guard rfl (by simp [PlaylistReferenced]) fun p hp hid => by
    rw [← filter_id_ne_eq_erase hv.playlistIds.nodup hp, hid]

end Catalog.Store

/-- Every delete guard is exact. In a valid store (every store the catalog reaches is one), each
of the five store deletes answers `false`, changing nothing, exactly when no row has the id;
refuses with `<entity> is still referenced`, changing nothing, exactly when the row exists and
another row refers to it; and otherwise removes that row and nothing else. For a live request,
the genres, artists and albums services answer a missing row as `<entity> not found` and pass the
conflict on unchanged. -/
theorem delete_guards_are_exact {s : Store} (hv : s.Valid) (key : Int) :
    DeleteLaw ((Store.deleteGenre key).commit s) s s.genres (·.id) key (s.GenreReferenced key)
      (.ok false) (Fault.conflict "genre" "genre is still referenced") true
      (fun g => { s with genres := s.genres.erase g }) ∧
    DeleteLaw ((Store.deleteArtist key).commit s) s s.artists (·.id) key (s.ArtistReferenced key)
      (.ok false) (Fault.conflict "artist" "artist is still referenced") true
      (fun a => { s with artists := s.artists.erase a }) ∧
    DeleteLaw ((Store.deleteAlbum key).commit s) s s.albums (·.id) key (s.AlbumReferenced key)
      (.ok false) (Fault.conflict "album" "album is still referenced") true
      (fun a => { s with albums := s.albums.erase a }) ∧
    DeleteLaw ((Store.deleteSong key).commit s) s s.songs (·.id) key (s.SongReferenced key)
      (.ok false) (Fault.conflict "song" "song is still referenced") true
      (fun x => { s with songs := s.songs.erase x }) ∧
    DeleteLaw ((Store.deletePlaylist key).commit s) s s.playlists (·.id) key
      (s.PlaylistReferenced key) (.ok false)
      (Fault.conflict "playlist" "playlist is still referenced") true
      (fun p => { s with playlists := s.playlists.erase p }) ∧
    DeleteLaw (Service.deleteGenre false key s) s s.genres (·.id) key (s.GenreReferenced key)
      (.error (Fault.notFound "genre")) (Fault.conflict "genre" "genre is still referenced") ()
      (fun g => { s with genres := s.genres.erase g }) ∧
    DeleteLaw (Service.deleteArtist false key s) s s.artists (·.id) key (s.ArtistReferenced key)
      (.error (Fault.notFound "artist")) (Fault.conflict "artist" "artist is still referenced") ()
      (fun a => { s with artists := s.artists.erase a }) ∧
    DeleteLaw (Service.deleteAlbum false key s) s s.albums (·.id) key (s.AlbumReferenced key)
      (.error (Fault.notFound "album")) (Fault.conflict "album" "album is still referenced") ()
      (fun a => { s with albums := s.albums.erase a }) :=
  ⟨(hv.deleteGenre_runs key).commit, (hv.deleteArtist_runs key).commit,
    (hv.deleteAlbum_runs key).commit, (hv.deleteSong_runs key).commit,
    (hv.deletePlaylist_runs key).commit, (hv.deleteGenre_runs key).reported "genre" rfl,
    (hv.deleteArtist_runs key).reported "artist" rfl, (hv.deleteAlbum_runs key).reported "album" rfl⟩

/-- An artist whose album is on record stays, even though no song names the artist as its own:
the song on the album shows the artist, and the album refers to them. A genre no song has is
removed, and nothing else with it. -/
theorem album_keeps_its_artist :
    (Store.deleteArtist 1).commit
        { next := { genre := 2, artist := 1, album := 1, song := 1 }
          genres := [⟨1, "Folk"⟩, ⟨2, "Jazz"⟩]
          artists := [⟨1, "Joni Mitchell", none⟩]
          albums := [⟨1, "Blue", 1, none⟩]
          songs := [⟨1, "River", none, some 1, 1, 0, "river.mp3", none⟩] } =
      (.error (Fault.conflict "artist" "artist is still referenced"),
        { next := { genre := 2, artist := 1, album := 1, song := 1 }
          genres := [⟨1, "Folk"⟩, ⟨2, "Jazz"⟩]
          artists := [⟨1, "Joni Mitchell", none⟩]
          albums := [⟨1, "Blue", 1, none⟩]
          songs := [⟨1, "River", none, some 1, 1, 0, "river.mp3", none⟩] }) ∧
    Service.deleteGenre false 2
        { next := { genre := 2, artist := 1, album := 1, song := 1 }
          genres := [⟨1, "Folk"⟩, ⟨2, "Jazz"⟩]
          artists := [⟨1, "Joni Mitchell", none⟩]
          albums := [⟨1, "Blue", 1, none⟩]
          songs := [⟨1, "River", none, some 1, 1, 0, "river.mp3", none⟩] } =
      (.ok (),
        { next := { genre := 2, artist := 1, album := 1, song := 1 }
          genres := [⟨1, "Folk"⟩]
          artists := [⟨1, "Joni Mitchell", none⟩]
          albums := [⟨1, "Blue", 1, none⟩]
          songs := [⟨1, "River", none, some 1, 1, 0, "river.mp3", none⟩] }) := by
  -- the store two genres, an artist, an album of the artist and a song on the album make
  have hreach : Reachable
      { next := { genre := 2, artist := 1, album := 1, song := 1 }
        genres := [⟨1, "Folk"⟩, ⟨2, "Jazz"⟩]
        artists := [⟨1, "Joni Mitchell", none⟩]
        albums := [⟨1, "Blue", 1, none⟩]
        songs := [⟨1, "River", none, some 1, 1, 0, "river.mp3", none⟩] } :=
    .call .refusing false
      (.storeCreateSong { name := "River", albumId := some 1, genreId := 1, audio := "river.mp3" })
      (.call .refusing false (.storeCreateAlbum "Blue" 1 none)
        (.call .refusing false (.storeCreateArtist "Joni Mitchell" none)
          (.call .refusing false (.storeCreateGenre "Jazz")
            (.call .refusing false (.storeCreateGenre "Folk") .empty))))
  have hartist := (delete_guards_are_exact hreach.valid 1).2.1
  have hgenre := (delete_guards_are_exact hreach.valid 2).2.2.2.2.2.1
  refine ⟨hartist.refused_iff.2 ⟨by decide, .inl ⟨_, List.mem_singleton_self _, rfl⟩⟩,
    (hgenre.removed_iff ⟨2, "Jazz"⟩ (by simp) rfl).2 ?_⟩
  rintro ⟨x, hx, hgenre⟩
  rw [List.mem_singleton] at hx
  subst hx
  cases hgenre

end Jukebox
