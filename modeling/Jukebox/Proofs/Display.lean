import Jukebox.Proofs.Search
import Jukebox.Proofs.SongWrites
import Jukebox.Proofs.Cascade

set_option autoImplicit false

/-! # What a song displays

A stored song row holds only its own fields; what it displays is worked out each time it is read
(`Store.display`). `Store.Shows` states that display off the rows of the store, field by field:
the song is credited to its own artist, else to its album's artist, else to none; it shows the
current name of that artist, of its album and of its genre, and its own cover, else its album's.
In a valid store every row the display names exists (`Store.Valid.shows`), so the artist's name
is never made up.

Every song an operation answers is a row of the store *at the time of the answer*, with the
display that store gives it (`Store.Presents`): the store after the write for a write, the store
read for a read, and, for a delete, the store before the song was removed. For the writes, this
is a property of their transactions closed under sequencing (`Tx.AnswersStored`).

Main statement: `songs_show_current_rows`.
-/

namespace Jukebox

open Catalog Service

namespace Catalog.Store

/-- What a song row `x` shows in store `s`, as `d`, read off the current rows. A song with an
artist of its own is credited to it; a song on an album shows the album's name, and its artist
and cover where the song has none of its own; the credited artist exists and its current name is
shown; the genre exists and its current name is shown. -/
structure Shows (s : Store) (x : Song) (d : Display) : Prop where
  ownArtist : ∀ a ∈ x.artistId, d.artistId = some a
  ownCover : ∀ c ∈ x.cover, d.cover = some c
  onAlbum : ∀ b ∈ x.albumId, ∃ r ∈ s.albums, r.id = b ∧ d.album = r.name ∧
    (x.artistId = none → d.artistId = some r.artistId) ∧ (x.cover = none → d.cover = r.cover)
  offAlbum : x.albumId = none →
    d.album = "" ∧ (x.artistId = none → d.artistId = none) ∧ (x.cover = none → d.cover = none)
  artist : ∀ a ∈ d.artistId, ∃ r ∈ s.artists, r.id = a ∧ d.artist = r.name
  unattributed : d.artistId = none → d.artist = ""
  genre : ∃ g ∈ s.genres, g.id = x.genreId ∧ d.genre = g.name

/-- A song as store `s` answers it: one of its rows, with the display `s` gives that row now,
which is what `Shows` reads off the rows. -/
structure Presents (s : Store) (y : ShownSong) : Prop where
  stored : y.song ∈ s.songs
  current : y.display = s.display y.song
  shows : s.Shows y.song y.display

variable {s : Store} {x : Song}

/-- The artist's name a song shows is the name of the artist it is credited to, if any. -/
theorem display_artist_eq_name :
    (s.display x).artist = ((s.display x).artistId.map s.artistName).getD "" := by
  simp only [display]
  split <;> simp_all

/-- A row found by id in a table with that id. -/
theorem exists_find?_of_mem {ρ : Type} {rows : List ρ} {id : ρ → Int} {k : Int}
    (hk : k ∈ rows.map id) : ∃ r, rows.find? (fun x => id x == k) = some r := by
  cases hfind : rows.find? (fun x => id x == k) with
  | none => exact absurd hk (find?_id_isNone.1 (by rw [hfind]; rfl))
  | some r => exact ⟨r, rfl⟩

/-- In a valid store, a stored song shows what its rows say: every row its display names
exists. -/
theorem Valid.shows (hv : s.Valid) (hx : x ∈ s.songs) : s.Shows x (s.display x) where
  ownArtist a ha := by
    rw [Option.mem_def] at ha
    simp [display, ha]
  ownCover c hc := by
    rw [Option.mem_def] at hc
    simp [display, hc]
  onAlbum b hb := by
    obtain ⟨r, hr⟩ : ∃ r, s.album? b = some r := exists_find?_of_mem ((hv.songs x hx).album b hb)
    obtain ⟨hrmem, hrid⟩ := find?_id_eq_some hr
    rw [Option.mem_def] at hb
    refine ⟨r, hrmem, hrid, by simp [display, hb, hr], fun hown => ?_, fun hcover => ?_⟩
    · simp [display, hb, hr, hown]
    · simp [display, hb, hr, hcover]
  offAlbum h :=
    ⟨by simp [display, h], fun hown => by simp [display, h, hown],
      fun hcover => by simp [display, h, hcover]⟩
  artist a ha := by
    obtain ⟨r, hr⟩ : ∃ r, s.artist? a = some r := exists_find?_of_mem (hv.display_artist hx a ha)
    obtain ⟨hrmem, hrid⟩ := find?_id_eq_some hr
    refine ⟨r, hrmem, hrid, ?_⟩
    rw [display_artist_eq_name, Option.mem_def.1 ha]
    simp [artistName, hr]
  unattributed h := by
    rw [display_artist_eq_name, h]
    rfl
  genre := by
    obtain ⟨g, hg⟩ : ∃ g, s.genre? x.genreId = some g := exists_find?_of_mem (hv.songs x hx).genre
    obtain ⟨hgmem, hgid⟩ := find?_id_eq_some hg
    exact ⟨g, hgmem, hgid, by simp [display, hg]⟩

/-- A song answered as a row of store `s`, shown as `s` shows it. -/
def Stored (s : Store) (y : ShownSong) : Prop := y.song ∈ s.songs ∧ y = s.showSong y.song

/-- A song a valid store answers as one of its rows is presented by the store. -/
theorem Valid.presents {y : ShownSong} (hv : s.Valid) (h : s.Stored y) : s.Presents y := by
  obtain ⟨hx, hy⟩ := h
  rw [hy]
  exact ⟨hx, rfl, hv.shows hx⟩

theorem stored_showSong (hx : x ∈ s.songs) : s.Stored (s.showSong x) := ⟨hx, rfl⟩

theorem songById_stored {id : Int} {y : ShownSong} (h : s.songById id = .ok y) : s.Stored y := by
  unfold songById at h
  split at h
  · rename_i x hx
    cases h
    exact stored_showSong (find?_id_eq_some hx).1
  · cases h

end Catalog.Store

/-! ## Answers of transactions -/

namespace Catalog

/-- Every successful run of `t` answers, through `song`, a row of the store it leaves, shown as
that store shows it. -/
def Tx.AnswersStored {α : Type} (song : α → ShownSong) (t : Tx α) : Prop :=
  ∀ s a s', t.run s = .ok (a, s') → s'.Stored (song a)

variable {α β : Type}

/-- What a transaction answers is what its last part answers. -/
theorem Tx.AnswersStored.bind {song : β → ShownSong} {t : Tx α} {k : α → Tx β}
    (hk : ∀ a, (k a).AnswersStored song) : (t >>= k).AnswersStored song := by
  intro s b s'' h
  obtain ⟨a, s', -, h₂⟩ := Tx.run_bind_eq_ok h
  exact hk a s' b s'' h₂

/-- Packing a transaction's answer with more keeps the song it answers. -/
theorem Tx.AnswersStored.bind_pure {song : α → ShownSong} {song' : β → ShownSong} {t : Tx α}
    {f : α → β} (ht : t.AnswersStored song) (hf : ∀ a, song' (f a) = song a) :
    (t >>= fun a => pure (f a)).AnswersStored song' := by
  intro s b s'' h
  obtain ⟨a, s', h₁, h₂⟩ := Tx.run_bind_eq_ok h
  -- the last part only packs the answer, in the store the first part left
  cases h₂
  rw [hf]
  exact ht s a _ h₁

/-- A row that takes the place of one with its id is in the table. -/
theorem mem_replaceById_of_mem {ρ : Type} {id : ρ → Int} {rows : List ρ} {x r : ρ}
    (hx : x ∈ rows) (hid : id x = id r) : r ∈ replaceById id r rows :=
  List.mem_map.2 ⟨x, hx, by simp [hid]⟩

theorem Store.createSong_answersStored (d : SongDraft) : (Store.createSong d).AnswersStored id := by
  intro s y s' h
  obtain ⟨-, rfl, rfl⟩ := Store.createSong_ok h
  exact Store.stored_showSong (List.mem_append_right _ (List.mem_singleton_self _))

theorem Store.updateSong_answersStored (key : Int) (c : SongChange) :
    (Store.updateSong key c).AnswersStored id := by
  intro s y s' h
  obtain ⟨x, hx, -, -, rfl, rfl⟩ := Store.updateSong_ok h
  -- the changed row keeps the song's id, so it stands where the song stood
  exact Store.stored_showSong (mem_replaceById_of_mem hx rfl)

theorem Store.addSongLikes_answersStored (key delta : Int) :
    (Store.addSongLikes key delta).AnswersStored id := by
  intro s y s' h
  obtain ⟨x, hx, -, -, rfl, rfl⟩ := Store.addSongLikes_ok h
  exact Store.stored_showSong (mem_replaceById_of_mem hx rfl)

end Catalog

/-! ## The songs the services answer -/

namespace Service

variable {s s' : Store} {cancelled : Bool}

/-- A request's transaction answers a value only when its run did, and then leaves the run's
store. -/
theorem run_of_within_ok {α : Type} {t : Tx α} {context : String} {a : α}
    (h : (commitFor cancelled t s).within context = (.ok a, s')) : t.run s = .ok (a, s') := by
  cases cancelled with
  | true => simp [commitFor, Outcome.within] at h
  | false =>
    change Outcome.within context (t.commit s) = _ at h
    generalize hc : t.commit s = o at h
    obtain ⟨r, s₁⟩ := o
    cases r with
    | error e => cases h
    | ok a' =>
      cases h
      have hrun := Tx.run_of_commit_ok (t := t) (s := s) (a := a) (by rw [hc])
      rwa [hc] at hrun

theorem readFor_ok {α : Type} {r : Except Fault α} {a : α} (h : readFor cancelled r = .ok a) :
    r = .ok a := by
  cases cancelled with
  | false => exact h
  | true => cases h

theorem createSong_stored {input : SongInput} {y : ShownSong}
    (h : createSong cancelled input s = (.ok y, s')) : s'.Stored y := by
  unfold createSong at h
  dsimp only at h
  split at h
  · cases h
  · -- the creation ends with the store's own creation, after checks and resolutions
    refine (?_ : Tx.AnswersStored id _) s y s' (run_of_within_ok h)
    exact .bind fun _ => .bind fun _ => .bind fun _ => .bind fun _ =>
      Store.createSong_answersStored _

theorem updateSong_stored {id : Int} {patch : SongPatch} {u : SongUpdate}
    (h : updateSong cancelled id patch s = (.ok u, s')) : s'.Stored u.song := by
  unfold updateSong at h
  dsimp only at h
  split at h
  · cases h
  · refine (?_ : Tx.AnswersStored (·.song) _) s u s' (run_of_within_ok h)
    refine .bind fun previous => ?_
    -- the rest of the transaction ends with the store's own update in both arms of the genre check
    split
    · exact .bind fun _ => .bind fun _ => .bind fun _ => .bind fun _ =>
        (Store.updateSong_answersStored _ _).bind_pure fun _ => rfl
    · exact .bind fun _ => .bind fun _ =>
        (Store.updateSong_answersStored _ _).bind_pure fun _ => rfl

theorem addLikes_stored {id : Int} {delta : Int64} {y : ShownSong}
    (h : addLikes cancelled id delta s = (.ok y, s')) : s'.Stored y :=
  Store.addSongLikes_answersStored id delta.toInt s y s' (run_of_within_ok h)

/-- A deleted song is answered as the store showed it before the delete. -/
theorem deleteSong_stored {id : Int} {y : ShownSong}
    (h : deleteSong cancelled id s = (.ok y, s')) : s.Stored y := by
  cases cancelled with
  | true => cases h
  | false =>
    rcases hx : s.song? id with _ | x
    · rw [deleteSong_of_missing hx] at h
      cases h
    · rw [deleteSong_of_found hx] at h
      cases h
      exact Store.stored_showSong (find?_id_eq_some hx).1

theorem getSong_stored {id : Int} {y : ShownSong} (h : getSong cancelled id s = .ok y) :
    s.Stored y :=
  Store.songById_stored (readFor_ok h)

theorem searchSongs_stored {q : SongQuery} {ys : List ShownSong}
    (h : searchSongs cancelled q s = .ok ys) : ∀ y ∈ ys, s.Stored y := by
  cases readFor_ok h
  intro y hy
  obtain ⟨hx, -, hy⟩ := Store.mem_listSongs.1 hy
  exact ⟨hx, hy⟩

theorem songsOfAlbum_stored {albumId : Int} {ys : List ShownSong}
    (h : songsOfAlbum cancelled albumId s = .ok ys) : ∀ y ∈ ys, s.Stored y := by
  have hread := readFor_ok h
  cases halbum : s.albumById albumId with
  | error e => simp [halbum, bind, Except.bind] at hread
  | ok b =>
    simp only [halbum, bind, Except.bind, pure, Except.pure, Except.ok.injEq] at hread
    subst hread
    intro y hy
    obtain ⟨hx, -, hy⟩ := Store.mem_listSongs.1 hy
    exact ⟨hx, hy⟩

theorem playlistSongs_stored {p : Int} {ys : List ShownSong}
    (h : Service.playlistSongs cancelled p s = .ok ys) : ∀ y ∈ ys, s.Stored y := by
  have hread := readFor_ok h
  cases hplaylist : s.playlistById p with
  | error e => simp [hplaylist, bind, Except.bind] at hread
  | ok pl =>
    simp only [hplaylist, bind, Except.bind, pure, Except.pure, Except.ok.injEq] at hread
    subst hread
    intro y hy
    exact Store.mem_playlistSongs hy

/-- A write that keeps the store valid presents a song it answers as a row of the store it
leaves. -/
theorem presents_of_keepsValid {α : Type} {o : Outcome α} {a : α} {y : ShownSong}
    (hkeeps : Store.KeepsValid s o.2) (hv : s.Valid) (h : o = (.ok a, s'))
    (hstored : s'.Stored y) : s'.Presents y := by
  rw [h] at hkeeps
  exact (hkeeps hv).presents hstored

end Service

/-- Every song an operation answers shows the current rows. In a valid store (every store the
catalog reaches is one), a song read by id or listed by a search or a playlist, a song the store
creates, updates or likes, and a song the song service creates, updates, reads, searches for,
lists by album, likes or unlikes, or the playlist service lists, is a row of the store at that
time (for a write, the store it leaves) with the display that store gives it: credited to its own
artist, else to its album's, showing the current names of that artist, of its album and of its
genre, and its own cover, else its album's; every row the display names exists. A deleted song is
answered as the store showed it before the delete. The row itself holds no display: a `Song` has
no such field. -/
theorem songs_show_current_rows {s : Store} (hv : s.Valid) :
    (∀ id y, s.songById id = .ok y → s.Presents y) ∧
    (∀ f, ∀ y ∈ s.listSongs f, s.Presents y) ∧
    (∀ p, ∀ y ∈ s.playlistSongs p, s.Presents y) ∧
    (∀ d y s', (Store.createSong d).run s = .ok (y, s') → s'.Presents y) ∧
    (∀ id c y s', (Store.updateSong id c).run s = .ok (y, s') → s'.Presents y) ∧
    (∀ id delta y s', (Store.addSongLikes id delta).run s = .ok (y, s') → s'.Presents y) ∧
    (∀ cancelled input y s', createSong cancelled input s = (.ok y, s') → s'.Presents y) ∧
    (∀ cancelled id patch u s', updateSong cancelled id patch s = (.ok u, s') →
      s'.Presents u.song) ∧
    (∀ cancelled id y s', deleteSong cancelled id s = (.ok y, s') → s.Presents y) ∧
    (∀ cancelled id y, getSong cancelled id s = .ok y → s.Presents y) ∧
    (∀ cancelled q ys, searchSongs cancelled q s = .ok ys → ∀ y ∈ ys, s.Presents y) ∧
    (∀ cancelled a ys, songsOfAlbum cancelled a s = .ok ys → ∀ y ∈ ys, s.Presents y) ∧
    (∀ cancelled id y s', likeSong cancelled id s = (.ok y, s') → s'.Presents y) ∧
    (∀ cancelled id y s', unlikeSong cancelled id s = (.ok y, s') → s'.Presents y) ∧
    (∀ cancelled p ys, Service.playlistSongs cancelled p s = .ok ys → ∀ y ∈ ys, s.Presents y) := by
  -- the store a write leaves is valid again, by the invariant of every query
  have hquery : ∀ q : Query, q.removes = false → q.tx.Moves Store.KeepsValid :=
    fun q _ => q.moves_valid
  have hlikes : ∀ cancelled id delta y s', addLikes cancelled id delta s = (.ok y, s') →
      s'.Presents y := fun cancelled id delta _ _ h =>
    presents_of_keepsValid (Service.addLikes_follows hquery cancelled id delta s) hv h
      (addLikes_stored h)
  refine ⟨fun id y h => hv.presents (Store.songById_stored h), fun f y hy => ?_,
    fun p y hy => ?_, fun d y s' h => ?_, fun id c y s' h => ?_, fun id delta y s' h => ?_,
    fun cancelled input y s' h => ?_, fun cancelled id patch u s' h => ?_,
    fun cancelled id y s' h => hv.presents (deleteSong_stored h),
    fun cancelled id y h => hv.presents (getSong_stored h),
    fun cancelled q ys h y hy => hv.presents (searchSongs_stored h y hy),
    fun cancelled a ys h y hy => hv.presents (songsOfAlbum_stored h y hy),
    fun cancelled id y s' h => hlikes cancelled id 1 y s' h,
    fun cancelled id y s' h => hlikes cancelled id (-1) y s' h,
    fun cancelled p ys h y hy => hv.presents (playlistSongs_stored h y hy)⟩
  · obtain ⟨hx, -, hy⟩ := Store.mem_listSongs.1 hy
    exact hv.presents ⟨hx, hy⟩
  · exact hv.presents (Store.mem_playlistSongs hy)
  · exact (Query.moves_valid (.createSong d) s y s' h hv).presents
      (Store.createSong_answersStored d s y s' h)
  · exact (Query.moves_valid (.updateSong id c) s y s' h hv).presents
      (Store.updateSong_answersStored id c s y s' h)
  · exact (Query.moves_valid (.addSongLikes id delta) s y s' h hv).presents
      (Store.addSongLikes_answersStored id delta s y s' h)
  · exact presents_of_keepsValid (Service.createSong_follows hquery cancelled input s) hv h
      (createSong_stored h)
  · exact presents_of_keepsValid (Service.updateSong_follows hquery cancelled id patch s) hv h
      (updateSong_stored h)

/-- A song on an album, with no artist and no cover of its own, is read with the album's artist
and cover, under the current names of the artist, the album and the genre. -/
theorem album_song_shows_album_artist :
    Store.Presents
      { next := { genre := 1, artist := 1, album := 1, song := 1 }
        genres := [⟨1, "Folk"⟩]
        artists := [⟨1, "Joni Mitchell", none⟩]
        albums := [⟨1, "Blue", 1, some "blue.jpg"⟩]
        songs := [⟨1, "River", none, some 1, 1, 0, "river.mp3", none⟩] }
      ⟨⟨1, "River", none, some 1, 1, 0, "river.mp3", none⟩,
        ⟨some 1, "Joni Mitchell", "Blue", "Folk", some "blue.jpg"⟩⟩ := by
  -- the store a genre, an artist, an album of the artist with a cover and a song on it make
  have hreach : Reachable
      { next := { genre := 1, artist := 1, album := 1, song := 1 }
        genres := [⟨1, "Folk"⟩]
        artists := [⟨1, "Joni Mitchell", none⟩]
        albums := [⟨1, "Blue", 1, some "blue.jpg"⟩]
        songs := [⟨1, "River", none, some 1, 1, 0, "river.mp3", none⟩] } :=
    .call .refusing false
      (.storeCreateSong { name := "River", albumId := some 1, genreId := 1, audio := "river.mp3" })
      (.call .refusing false (.storeCreateAlbum "Blue" 1 (some "blue.jpg"))
        (.call .refusing false (.storeCreateArtist "Joni Mitchell" none)
          (.call .refusing false (.storeCreateGenre "Folk") .empty)))
  exact (songs_show_current_rows hreach.valid).1 1 _ rfl

end Jukebox
