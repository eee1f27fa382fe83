import Jukebox.Proofs.Membership

set_option autoImplicit false

/-! # Song search

A song search lists the songs of the store that a filter selects, each shown as reads show it,
by increasing id. Here the filter's selection is read off the rows (`SongFilter.Selects`): the
song is on the album the filter names, if it names one, and each of the four name filters admits
its text (`NeedleAdmits`: blank once trimmed, or, trimmed and lowercased, a contiguous part of
the lowercased text). The texts are the song's own name, the name of the artist it is credited
to (its own, else its album's, `Store.creditedArtist`), and the names of its album and genre,
each empty when there is none. They are looked up when the search runs, so a renamed artist is
found under its new name.

The listing itself filters the *shown* songs, whose display fields hold those names; the display
lemmas below say that they are the same texts, so the two agree on every store. Order and
uniqueness come from the table: song ids are distinct in every reachable store, and the listing
is the table sorted by id, then filtered.

Main statement: `song_search_lists_selected_songs`, which also covers the searches of the song
service (four name filters) and its album listing (an album that exists).
-/

namespace Jukebox

open Catalog Service

namespace Catalog

/-! ## Name filters -/

/-- `hasInfix` decides whether the needle is a contiguous part of the text. -/
theorem hasInfix_iff {needle : List Char} : ∀ {hay : List Char},
    hasInfix needle hay = true ↔ needle <:+: hay
  | [] => by simp [hasInfix]
  | c :: rest => by
    rw [hasInfix, Bool.or_eq_true, List.isPrefixOf_iff_prefix, hasInfix_iff,
      List.infix_cons_iff]

/-- What a name filter asks of a text: the filter is blank once trimmed, or its trimmed form,
lowercased, occurs in the lowercased text. -/
def NeedleAdmits (hay needle : String) : Prop :=
  Text.trim needle = "" ∨ (Text.lower (Text.trim needle)).toList <:+: (Text.lower hay).toList

theorem needleMatches_iff {hay needle : String} :
    needleMatches hay needle = true ↔ NeedleAdmits hay needle := by
  simp only [needleMatches, Bool.or_eq_true, String.isEmpty_iff, hasInfix_iff, NeedleAdmits]

/-! ## The names a song is found by -/

namespace Store

variable (s : Store) (x : Song)

/-- The artist a song is credited to: its own, else its album's. -/
def creditedArtist : Option Artist :=
  match x.artistId with
  | some a => s.artist? a
  | none => (x.albumId.bind s.album?).bind fun b => s.artist? b.artistId

/-- The name of the artist a song is credited to, or the empty text. -/
def creditName : String := ((s.creditedArtist x).map (·.name)).getD ""

/-- The name of a song's album, or the empty text. -/
def albumTitle : String := ((x.albumId.bind s.album?).map (·.name)).getD ""

/-- The name of a song's genre, or the empty text. -/
def genreName : String := ((s.genre? x.genreId).map (·.name)).getD ""

theorem artistName_eq (a : Int) : s.artistName a = ((s.artist? a).map (·.name)).getD "" := by
  unfold artistName
  cases s.artist? a <;> rfl

@[simp] theorem display_artist_eq : (s.display x).artist = s.creditName x := by
  simp only [display, creditName, creditedArtist]
  cases x.artistId with
  | some a => exact s.artistName_eq a
  | none =>
    cases x.albumId.bind s.album? with
    | none => rfl
    | some b => exact s.artistName_eq b.artistId

@[simp] theorem display_album_eq : (s.display x).album = s.albumTitle x := by
  simp only [display, albumTitle]
  cases x.albumId.bind s.album? <;> rfl

@[simp] theorem display_genre_eq : (s.display x).genre = s.genreName x := by
  simp only [display, genreName]
  cases s.genre? x.genreId <;> rfl

end Store

/-! ## What a filter selects -/

/-- Whether a filter selects a song of a store: the song is on the filter's album, when it names
one, and each name filter admits the song's name, the name of the artist it is credited to, and
the names of its album and its genre. -/
structure SongFilter.Selects (f : SongFilter) (s : Store) (x : Song) : Prop where
  onAlbum : ∀ a ∈ f.albumId, x.albumId = some a
  name : NeedleAdmits x.name f.name
  artist : NeedleAdmits (s.creditName x) f.artist
  album : NeedleAdmits (s.albumTitle x) f.album
  genre : NeedleAdmits (s.genreName x) f.genre

/-- The filter the listing applies to shown songs selects what `Selects` says. -/
theorem SongFilter.admits_showSong_iff (f : SongFilter) (s : Store) (x : Song) :
    f.admits (s.showSong x) = true ↔ f.Selects s x := by
  simp only [SongFilter.admits, Store.showSong, Bool.and_eq_true, needleMatches_iff,
    Store.display_artist_eq, Store.display_album_eq, Store.display_genre_eq]
  constructor
  · rintro ⟨⟨⟨⟨honAlbum, hname⟩, hartist⟩, halbum⟩, hgenre⟩
    refine ⟨fun a ha => ?_, hname, hartist, halbum, hgenre⟩
    rw [Option.mem_def] at ha
    rw [ha] at honAlbum
    simpa using honAlbum
  · rintro ⟨honAlbum, hname, hartist, halbum, hgenre⟩
    refine ⟨⟨⟨⟨?_, hname⟩, hartist⟩, halbum⟩, hgenre⟩
    -- the album clause: nothing to check when the filter names no album
    split
    · rename_i a ha
      simpa using honAlbum a ha
    · rfl

/-! ## The listing -/

namespace Store

variable {s : Store} {f : SongFilter}

/-- A listed song is a song of the store that the filter selects, shown as reads show it, and
every such song is listed. -/
theorem mem_listSongs {y : ShownSong} :
    y ∈ s.listSongs f ↔ y.song ∈ s.songs ∧ f.Selects s y.song ∧ y = s.showSong y.song := by
  simp only [listSongs, List.mem_filter, List.mem_map, byId, List.mem_mergeSort]
  constructor
  · rintro ⟨⟨x, hx, rfl⟩, hadmits⟩
    exact ⟨hx, (f.admits_showSong_iff s x).1 hadmits, rfl⟩
  · rintro ⟨hx, hsel, hy⟩
    rw [hy]
    exact ⟨⟨y.song, hx, rfl⟩, (f.admits_showSong_iff s _).2 hsel⟩

theorem mem_listSongs_songs {x : Song} :
    x ∈ (s.listSongs f).map (·.song) ↔ x ∈ s.songs ∧ f.Selects s x := by
  rw [List.mem_map]
  constructor
  · rintro ⟨y, hy, rfl⟩
    exact (mem_listSongs.1 hy).imp_right And.left
  · rintro ⟨hx, hsel⟩
    exact ⟨s.showSong x, mem_listSongs.2 ⟨hx, hsel, rfl⟩, rfl⟩

/-- The ids a listing shows are those of the sorted table, some left out. -/
theorem listSongs_ids_sublist :
    ((s.listSongs f).map (·.song.id)).Sublist ((byId (·.id) s.songs).map (·.id)) := by
  have hshown : ((byId (·.id) s.songs).map s.showSong).map (·.song.id) =
      (byId (·.id) s.songs).map (·.id) := by
    rw [List.map_map]
    rfl
  rw [← hshown]
  exact List.filter_sublist.map _

/-- In a table with distinct ids, a listing shows strictly increasing ids. -/
theorem listSongs_ids_lt (hid : (s.songs.map (·.id)).Nodup) :
    ((s.listSongs f).map (·.song.id)).Pairwise (· < ·) :=
  (byId_ids_lt _ _ hid).sublist listSongs_ids_sublist

theorem album?_eq_none {a : Int} : s.album? a = none ↔ a ∉ s.albums.map (·.id) := by
  rw [← find?_id_isNone, Option.isNone_iff_eq_none]
  rfl

end Store

end Catalog

/-! ## The song service's searches -/

namespace Service

variable {s : Store}

/-- A search for a live request lists the songs its four name filters select. -/
theorem searchSongs_live (q : SongQuery) :
    searchSongs false q s =
      .ok (s.listSongs { name := q.name, artist := q.artist, album := q.album, genre := q.genre }) :=
  rfl

theorem songsOfAlbum_of_missing {a : Int} (ha : s.album? a = none) :
    songsOfAlbum false a s = .error (Fault.notFound "album") := by
  simp [songsOfAlbum, readFor, Store.albumById, ha, bind, Except.bind]

theorem songsOfAlbum_of_found {a : Int} {b : Album} (hb : s.album? a = some b) :
    songsOfAlbum false a s = .ok (s.listSongs { albumId := some a }) := by
  simp [songsOfAlbum, readFor, Store.albumById, hb, bind, Except.bind, pure, Except.pure]

/-- An album listing fails with `album not found` exactly for an album that does not exist. -/
theorem songsOfAlbum_eq_error_iff {a : Int} :
    songsOfAlbum false a s = .error (Fault.notFound "album") ↔ a ∉ s.albums.map (·.id) := by
  rw [← Store.album?_eq_none]
  rcases hb : s.album? a with _ | b
  · exact iff_of_true (songsOfAlbum_of_missing hb) rfl
  · rw [songsOfAlbum_of_found hb]
    exact iff_of_false (fun h => nomatch h) (fun h => nomatch h)

theorem songsOfAlbum_of_mem {a : Int} (ha : a ∈ s.albums.map (·.id)) :
    songsOfAlbum false a s = .ok (s.listSongs { albumId := some a }) := by
  rcases hb : s.album? a with _ | b
  · exact absurd ha (Store.album?_eq_none.1 hb)
  · exact songsOfAlbum_of_found hb

end Service

/-- In every reachable store, a song listing holds exactly the songs of the store that its filter
selects, each once, by strictly increasing id, and shows each as reads show it. The song
service's search for a live request is the listing with its four name filters; its album listing
fails with `album not found` exactly when the album does not exist, and otherwise is the listing
of that album. -/
theorem song_search_lists_selected_songs :
    ∀ s, Reachable s →
      (∀ f : SongFilter,
        (∀ x, x ∈ (s.listSongs f).map (·.song) ↔ x ∈ s.songs ∧ f.Selects s x) ∧
        ((s.listSongs f).map (·.song.id)).Pairwise (· < ·) ∧
        ∀ y ∈ s.listSongs f, y = s.showSong y.song) ∧
      (∀ q : SongQuery, searchSongs false q s =
        .ok (s.listSongs { name := q.name, artist := q.artist, album := q.album, genre := q.genre })) ∧
      (∀ a, songsOfAlbum false a s = .error (Fault.notFound "album") ↔
        a ∉ s.albums.map (·.id)) ∧
      ∀ a ∈ s.albums.map (·.id), songsOfAlbum false a s = .ok (s.listSongs { albumId := some a }) := by
  intro s hs
  have hids := hs.valid.songIds.nodup
  refine ⟨fun f => ⟨fun x => Store.mem_listSongs_songs, Store.listSongs_ids_lt hids,
    fun y hy => (Store.mem_listSongs.1 hy).2.2⟩, searchSongs_live,
    fun a => songsOfAlbum_eq_error_iff, fun a ha => songsOfAlbum_of_mem ha⟩

/-- A song with no artist of its own is found by its album's artist, under a padded lowercase
part of the artist's name. -/
theorem album_artist_credits_song :
    (⟨1, "River", none, some 1, 1, 0, "river.mp3", none⟩ : Song) ∈
      (Store.listSongs
        { next := { genre := 1, artist := 1, album := 1, song := 1 }
          genres := [⟨1, "Folk"⟩]
          artists := [⟨1, "Joni Mitchell", none⟩]
          albums := [⟨1, "Blue", 1, none⟩]
          songs := [⟨1, "River", none, some 1, 1, 0, "river.mp3", none⟩] }
        { artist := " joni " }).map (·.song) := by
  refine (((song_search_lists_selected_songs _ ?_).1 _).1 _).2 ⟨List.mem_singleton_self _, ?_⟩
  · -- the store a genre, an artist, an album of the artist and a song on the album make
    exact .call .refusing false
      (.storeCreateSong { name := "River", albumId := some 1, genreId := 1, audio := "river.mp3" })
      (.call .refusing false (.storeCreateAlbum "Blue" 1 none)
        (.call .refusing false (.storeCreateArtist "Joni Mitchell" none)
          (.call .refusing false (.storeCreateGenre "Folk") .empty)))
  · exact ⟨(fun a ha => nomatch ha), Or.inl (by decide), Or.inr (by decide), Or.inl (by decide),
      Or.inl (by decide)⟩

end Jukebox
