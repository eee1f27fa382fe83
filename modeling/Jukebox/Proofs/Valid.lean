import Jukebox.Proofs.Likes
import Mathlib.Data.List.Nodup

set_option autoImplicit false

/-! # The store invariant

`Store.Valid` is what the catalog keeps true of its store:

* natural keys are unique, exactly: genre names, artist names, album (name, artist) pairs and
  user emails;
* every reference points at a row: an album's artist, a song's genre, its artist and its album
  when it has them, a playlist's owner, and both ends of each membership;
* likes are counts in the signed 64-bit range, never negative, and an optional file reference
  is absent or not empty;
* each table's ids are distinct and lie in `1..next` for the table's counter (`Numbered`), and no
  membership is held twice.

The tables are lists standing for maps keyed by id, so distinct ids are the list form of a row
being stored under its own id. Every query keeps the invariant (`Query.moves_valid`), and so,
through `Composed.moves`, does every transaction made of queries.
-/

namespace Jukebox.Catalog

/-! ## Tables -/

section Tables

variable {ρ κ : Type} {id : ρ → Int} {rows : List ρ} {next : Nat}

/-- The rows of a table have distinct ids, each issued by a counter now at `next`. -/
structure Numbered (id : ρ → Int) (rows : List ρ) (next : Nat) : Prop where
  nodup : (rows.map id).Nodup
  within : ∀ x ∈ rows, 1 ≤ id x ∧ id x ≤ next

theorem Numbered.nil : Numbered id [] next := ⟨List.nodup_nil, fun _ h => nomatch h⟩

/-- Appending a row with the counter's next id keeps the ids distinct and issued. -/
theorem Numbered.append (h : Numbered id rows next) {r : ρ} (hr : id r = next + 1) :
    Numbered id (rows ++ [r]) (next + 1) := by
  constructor
  · rw [List.map_append, List.nodup_append]
    refine ⟨h.nodup, List.nodup_singleton _, ?_⟩
    intro a ha b hb
    obtain ⟨x, hx, rfl⟩ := List.mem_map.1 ha
    rw [List.map_singleton, List.mem_singleton] at hb
    have := (h.within x hx).2
    omega
  · intro x hx
    rcases List.mem_append.1 hx with hx | hx
    · have := h.within x hx
      omega
    · rw [List.mem_singleton.1 hx]
      omega

theorem Numbered.filter (h : Numbered id rows next) (p : ρ → Bool) :
    Numbered id (rows.filter p) next :=
  ⟨(List.filter_sublist.map id).nodup h.nodup, fun x hx => h.within x (List.mem_filter.1 hx).1⟩

/-- Replacing a row keeps every id in place. -/
theorem map_replaceById (r : ρ) (rows : List ρ) :
    (replaceById id r rows).map id = rows.map id := by
  simp only [replaceById, List.map_map]
  apply List.map_congr_left
  intro x _
  by_cases hx : id x = id r <;> simp [hx]

/-- A row of a replaced table is an old row, or the new row standing in place of one with its id. -/
theorem mem_replaceById {r x : ρ} (hx : x ∈ replaceById id r rows) :
    x ∈ rows ∨ (x = r ∧ ∃ y ∈ rows, id y = id r) := by
  obtain ⟨y, hy, rfl⟩ := List.mem_map.1 hx
  by_cases hyr : id y = id r
  · exact .inr ⟨by simp [hyr], y, hy, hyr⟩
  · exact .inl (by simpa [hyr] using hy)

theorem Numbered.replaceById (h : Numbered id rows next) (r : ρ) :
    Numbered id (replaceById id r rows) next := by
  refine ⟨by rw [map_replaceById]; exact h.nodup, fun x hx => ?_⟩
  rcases mem_replaceById hx with hx | ⟨rfl, y, hy, hyx⟩
  · exact h.within x hx
  · rw [← hyx]; exact h.within y hy

/-- Replacing a row keeps a key unique when no row with another id has the new row's key. -/
theorem nodup_map_replaceById (f : ρ → κ) {r : ρ} (hf : (rows.map f).Nodup)
    (hid : (rows.map id).Nodup) (hr : ∀ x ∈ rows, id x ≠ id r → f x ≠ f r) :
    ((replaceById id r rows).map f).Nodup := by
  simp only [Jukebox.Catalog.replaceById, List.map_map]
  refine List.Nodup.map_on (fun x hx y hy hxy => ?_) (hid.of_map id)
  by_cases hxr : id x = id r <;> by_cases hyr : id y = id r <;>
    simp only [Function.comp, beq_iff_eq, hxr, hyr, ↓reduceIte] at hxy
  · exact List.inj_on_of_nodup_map hid hx hy (hxr.trans hyr.symm)
  · exact absurd hxy.symm (hr y hy hyr)
  · exact absurd hxy (hr x hx hxr)
  · exact List.inj_on_of_nodup_map hf hx hy hxy

/-- Appending a row keeps a key unique when no row has the new row's key. -/
theorem nodup_map_append (f : ρ → κ) {r : ρ} (hf : (rows.map f).Nodup)
    (hr : ∀ x ∈ rows, f x ≠ f r) : ((rows ++ [r]).map f).Nodup := by
  rw [List.map_append, List.nodup_append]
  refine ⟨hf, List.nodup_singleton _, ?_⟩
  intro a ha b hb
  obtain ⟨x, hx, rfl⟩ := List.mem_map.1 ha
  rw [List.map_singleton, List.mem_singleton] at hb
  exact hb ▸ hr x hx

/-- An id other than the deleted one survives a delete. -/
theorem mem_map_filter_ne {k d : Int} (hk : k ∈ rows.map id) (hkd : k ≠ d) :
    k ∈ (rows.filter fun r => id r != d).map id := by
  obtain ⟨x, hx, rfl⟩ := List.mem_map.1 hk
  exact List.mem_map_of_mem (List.mem_filter.2 ⟨hx, by simpa using hkd⟩)

end Tables

/-! ## The invariant -/

/-- What the store asks of a song row: its genre, artist and album exist (the references
`Store.checkSong` checks), its likes are not negative, and its own cover is absent or not empty.
Its likes also fit in 64 bits, which no check asks: every write stores a 64-bit value. -/
structure Store.SongFits (s : Store) (x : Song) : Prop where
  genre : x.genreId ∈ s.genres.map (·.id)
  artist : ∀ a ∈ x.artistId, a ∈ s.artists.map (·.id)
  album : ∀ a ∈ x.albumId, a ∈ s.albums.map (·.id)
  likes : 0 ≤ x.likes
  likesCap : x.likes ≤ Int64.maxValue.toInt
  cover : x.cover ≠ some ""

/-- Whether a song row fits depends on the genres, artists and albums only. -/
theorem Store.SongFits.of_tables {s s' : Store} {x : Song} (hx : s.SongFits x)
    (hg : s'.genres = s.genres) (ha : s'.artists = s.artists) (hal : s'.albums = s.albums) :
    s'.SongFits x := by
  obtain ⟨h₁, h₂, h₃, h₄, h₅, h₆⟩ := hx
  exact ⟨hg ▸ h₁, ha ▸ h₂, hal ▸ h₃, h₄, h₅, h₆⟩

/-- What the catalog keeps true of its store. -/
structure Store.Valid (s : Store) : Prop where
  /-- No two genres share a name. -/
  genreNames : (s.genres.map (·.name)).Nodup
  /-- No two artists share a name. -/
  artistNames : (s.artists.map (·.name)).Nodup
  /-- No two albums share a name and an artist. -/
  albumKeys : (s.albums.map fun a => (a.name, a.artistId)).Nodup
  /-- No two users share an email. -/
  userEmails : (s.users.map (·.email)).Nodup
  albumArtist : ∀ a ∈ s.albums, a.artistId ∈ s.artists.map (·.id)
  songs : ∀ x ∈ s.songs, s.SongFits x
  playlistOwner : ∀ p ∈ s.playlists, p.ownerId ∈ s.users.map (·.id)
  memberPlaylist : ∀ m ∈ s.members, m.playlistId ∈ s.playlists.map (·.id)
  memberSong : ∀ m ∈ s.members, m.songId ∈ s.songs.map (·.id)
  artistPhoto : ∀ a ∈ s.artists, a.photo ≠ some ""
  albumCover : ∀ a ∈ s.albums, a.cover ≠ some ""
  genreIds : Numbered (·.id) s.genres s.next.genre
  artistIds : Numbered (·.id) s.artists s.next.artist
  albumIds : Numbered (·.id) s.albums s.next.album
  songIds : Numbered (·.id) s.songs s.next.song
  userIds : Numbered (·.id) s.users s.next.user
  playlistIds : Numbered (·.id) s.playlists s.next.playlist
  /-- Memberships form a set. -/
  members : s.members.Nodup

/-- The empty store is valid. -/
theorem Store.valid_empty : (({} : Store)).Valid where
  genreNames := List.nodup_nil
  artistNames := List.nodup_nil
  albumKeys := List.nodup_nil
  userEmails := List.nodup_nil
  albumArtist _ h := nomatch h
  songs _ h := nomatch h
  playlistOwner _ h := nomatch h
  memberPlaylist _ h := nomatch h
  memberSong _ h := nomatch h
  artistPhoto _ h := nomatch h
  albumCover _ h := nomatch h
  genreIds := .nil
  artistIds := .nil
  albumIds := .nil
  songIds := .nil
  userIds := .nil
  playlistIds := .nil
  members := List.nodup_nil

/-- A reference given as the empty text is stored as absent. -/
theorem nonEmpty_ne_empty (r : Option String) : nonEmpty r ≠ some "" := by
  unfold nonEmpty
  split <;> simp_all

/-! ## Genres -/

namespace Store.Valid

variable {s s' : Store}

theorem createGenre (hv : s.Valid) {name : String} {g : Genre}
    (h : (Store.createGenre name).run s = .ok (g, s')) : s'.Valid := by
  obtain ⟨hfree, rfl, rfl⟩ := Store.createGenre_ok h
  exact { hv with
    genreNames := nodup_map_append _ hv.genreNames hfree
    songs := fun x hx => { hv.songs x hx with genre := by simp [(hv.songs x hx).genre] }
    genreIds := hv.genreIds.append rfl }

theorem deleteGenre (hv : s.Valid) {id : Int} {b : Bool}
    (h : (Store.deleteGenre id).run s = .ok (b, s')) : s'.Valid := by
  rcases Store.deleteGenre_ok h with ⟨-, -, rfl⟩ | ⟨-, hunused, -, rfl⟩
  · exact hv
  · exact { hv with
      genreNames := (List.filter_sublist.map _).nodup hv.genreNames
      songs := fun x hx =>
        { hv.songs x hx with genre := mem_map_filter_ne (hv.songs x hx).genre (hunused x hx) }
      genreIds := hv.genreIds.filter _ }

/-! ## Artists -/

theorem addArtist (hv : s.Valid) {name : String} {photo : Option String}
    (hfree : ∀ x ∈ s.artists, x.name ≠ name) (hphoto : photo ≠ some "") :
    (s.addArtist name photo).2.Valid := by
  simp only [Store.addArtist]
  exact { hv with
    artistNames := nodup_map_append _ hv.artistNames hfree
    albumArtist := fun a ha => by simp [hv.albumArtist a ha]
    songs := fun x hx =>
      { hv.songs x hx with artist := fun a ha => by simp [(hv.songs x hx).artist a ha] }
    artistPhoto := fun a ha => by
      rcases List.mem_append.1 ha with ha | ha
      · exact hv.artistPhoto a ha
      · rw [List.mem_singleton.1 ha]; exact hphoto
    artistIds := hv.artistIds.append rfl }

theorem createArtist (hv : s.Valid) {name : String} {photo : Option String} {a : Artist}
    (h : (Store.createArtist name photo).run s = .ok (a, s')) : s'.Valid := by
  obtain ⟨hfree, -, rfl⟩ := Store.createArtist_ok h
  exact hv.addArtist hfree (nonEmpty_ne_empty photo)

theorem insertArtistIfAbsent (hv : s.Valid) {name : String} {a : Option Artist}
    (h : (Store.insertArtistIfAbsent name).run s = .ok (a, s')) : s'.Valid := by
  rcases Store.insertArtistIfAbsent_ok h with ⟨-, -, rfl⟩ | ⟨hfree, -, rfl⟩
  · exact hv
  · exact hv.addArtist hfree (by simp)

/-- Replacing an artist by one with the same id, a name no other artist has and an allowed photo. -/
theorem replaceArtist (hv : s.Valid) {a a' : Artist} (hid : a'.id = a.id)
    (hname : ∀ x ∈ s.artists, x.id ≠ a.id → x.name ≠ a'.name) (hphoto : a'.photo ≠ some "") :
    { s with artists := replaceById (·.id) a' s.artists }.Valid :=
  { hv with
    artistNames := nodup_map_replaceById _ hv.artistNames hv.artistIds.nodup fun x hx hxid =>
      hname x hx (hid ▸ hxid)
    albumArtist := fun b hb => by rw [map_replaceById]; exact hv.albumArtist b hb
    songs := fun x hx => { hv.songs x hx with
      artist := fun b hb => by rw [map_replaceById]; exact (hv.songs x hx).artist b hb }
    artistPhoto := fun b hb => by
      rcases mem_replaceById hb with hb | ⟨rfl, -⟩
      · exact hv.artistPhoto b hb
      · exact hphoto
    artistIds := hv.artistIds.replaceById _ }

theorem updateArtist (hv : s.Valid) {id : Int} {name photo : Option String} {a' : Artist}
    (h : (Store.updateArtist id name photo).run s = .ok (a', s')) : s'.Valid := by
  obtain ⟨a, ha, hid, hname, rfl, rfl⟩ := Store.updateArtist_ok h
  refine hv.replaceArtist (a := a) rfl (fun x hx hxid hxname => hxid ?_) ?_
  · -- a kept name is unique already; a new one was checked against the other artists
    cases name with
    | none => exact congrArg Artist.id (List.inj_on_of_nodup_map hv.artistNames hx ha hxname)
    | some n => exact (hname n rfl x hx hxname).trans hid.symm
  · cases photo with
    | none => exact hv.artistPhoto a ha
    | some p => exact nonEmpty_ne_empty _

theorem deleteArtist (hv : s.Valid) {id : Int} {b : Bool}
    (h : (Store.deleteArtist id).run s = .ok (b, s')) : s'.Valid := by
  rcases Store.deleteArtist_ok h with ⟨-, -, rfl⟩ | ⟨-, halbums, hsongs, -, rfl⟩
  · exact hv
  · exact { hv with
      artistNames := (List.filter_sublist.map _).nodup hv.artistNames
      albumArtist := fun a ha => mem_map_filter_ne (hv.albumArtist a ha) (halbums a ha)
      songs := fun x hx => { hv.songs x hx with
        artist := fun a hxa => mem_map_filter_ne ((hv.songs x hx).artist a hxa) fun hid =>
          hsongs x hx (by rw [← hid]; exact hxa) }
      artistPhoto := fun a ha => hv.artistPhoto a (List.mem_of_mem_filter ha)
      artistIds := hv.artistIds.filter _ }

/-! ## Albums -/

theorem addAlbum (hv : s.Valid) {name : String} {artistId : Int} {cover : Option String}
    (hartist : artistId ∈ s.artists.map (·.id))
    (hfree : ∀ x ∈ s.albums, (x.name, x.artistId) ≠ (name, artistId)) (hcover : cover ≠ some "") :
    (s.addAlbum name artistId cover).2.Valid := by
  simp only [Store.addAlbum]
  exact { hv with
    albumKeys := nodup_map_append (fun a : Album => (a.name, a.artistId)) hv.albumKeys hfree
    albumArtist := fun a ha => by
      rcases List.mem_append.1 ha with ha | ha
      · exact hv.albumArtist a ha
      · rw [List.mem_singleton.1 ha]; exact hartist
    songs := fun x hx =>
      { hv.songs x hx with album := fun a ha => by simp [(hv.songs x hx).album a ha] }
    albumCover := fun a ha => by
      rcases List.mem_append.1 ha with ha | ha
      · exact hv.albumCover a ha
      · rw [List.mem_singleton.1 ha]; exact hcover
    albumIds := hv.albumIds.append rfl }

theorem createAlbum (hv : s.Valid) {name : String} {artistId : Int} {cover : Option String}
    {a : ShownAlbum} (h : (Store.createAlbum name artistId cover).run s = .ok (a, s')) :
    s'.Valid := by
  obtain ⟨hartist, hfree, rfl, -⟩ := Store.createAlbum_ok h
  exact hv.addAlbum hartist hfree (nonEmpty_ne_empty cover)

theorem insertAlbumIfAbsent (hv : s.Valid) {name : String} {artistId : Int}
    {a : Option ShownAlbum} (h : (Store.insertAlbumIfAbsent name artistId).run s = .ok (a, s')) :
    s'.Valid := by
  obtain ⟨hartist, ⟨-, -, rfl⟩ | ⟨hfree, rfl, -⟩⟩ := Store.insertAlbumIfAbsent_ok h
  · exact hv
  · exact hv.addAlbum hartist hfree (by simp)

/-- Replacing an album by one with the same id, an existing artist, a key no other album has
and an allowed cover. -/
theorem replaceAlbum (hv : s.Valid) {a a' : Album} (hid : a'.id = a.id)
    (hkey : ∀ x ∈ s.albums, x.id ≠ a.id → (x.name, x.artistId) ≠ (a'.name, a'.artistId))
    (hartist : a'.artistId ∈ s.artists.map (·.id)) (hcover : a'.cover ≠ some "") :
    { s with albums := replaceById (·.id) a' s.albums }.Valid :=
  { hv with
    albumKeys := nodup_map_replaceById (fun x : Album => (x.name, x.artistId)) hv.albumKeys
      hv.albumIds.nodup fun x hx hxid => hkey x hx (hid ▸ hxid)
    albumArtist := fun b hb => by
      rcases mem_replaceById hb with hb | ⟨rfl, -⟩
      · exact hv.albumArtist b hb
      · exact hartist
    songs := fun x hx => { hv.songs x hx with
      album := fun b hb => by rw [map_replaceById]; exact (hv.songs x hx).album b hb }
    albumCover := fun b hb => by
      rcases mem_replaceById hb with hb | ⟨rfl, -⟩
      · exact hv.albumCover b hb
      · exact hcover
    albumIds := hv.albumIds.replaceById _ }

theorem updateAlbum (hv : s.Valid) {id : Int} {name : Option String} {artistId : Option Int}
    {cover : Option String} {a' : ShownAlbum}
    (h : (Store.updateAlbum id name artistId cover).run s = .ok (a', s')) : s'.Valid := by
  obtain ⟨a, ha, hid, hartist, b, rfl, hclash, rfl, -⟩ := Store.updateAlbum_ok h
  refine hv.replaceAlbum (a := a) rfl (fun x hx hxid hkey => hxid ?_) ?_ ?_
  · simp only [Prod.mk.injEq] at hkey
    exact (hclash x hx hkey.1 hkey.2).trans hid.symm
  · cases artistId with
    | none => exact hv.albumArtist a ha
    | some x => exact hartist x rfl
  · cases cover with
    | none => exact hv.albumCover a ha
    | some c => exact nonEmpty_ne_empty _

theorem deleteAlbum (hv : s.Valid) {id : Int} {b : Bool}
    (h : (Store.deleteAlbum id).run s = .ok (b, s')) : s'.Valid := by
  rcases Store.deleteAlbum_ok h with ⟨-, -, rfl⟩ | ⟨-, hunused, -, rfl⟩
  · exact hv
  · exact { hv with
      albumKeys := (List.filter_sublist.map _).nodup hv.albumKeys
      albumArtist := fun a ha => hv.albumArtist a (List.mem_of_mem_filter ha)
      songs := fun x hx => { hv.songs x hx with
        album := fun a hxa => mem_map_filter_ne ((hv.songs x hx).album a hxa) fun hid =>
          hunused x hx (by rw [← hid]; exact hxa) }
      albumCover := fun a ha => hv.albumCover a (List.mem_of_mem_filter ha)
      albumIds := hv.albumIds.filter _ }

end Store.Valid

/-! ## Songs -/

/-- A song row that passes `checkSong`, with 64-bit likes and an allowed cover, fits the
store. -/
theorem Store.songFits_of_check {s : Store} {x : Song} (h : s.checkSong x = .ok ())
    (hcap : x.likes ≤ Int64.maxValue.toInt) (hcover : x.cover ≠ some "") : s.SongFits x := by
  unfold Store.checkSong at h
  split at h
  · cases h
  rename_i hgenre
  split at h
  · cases h
  rename_i hartist
  split at h
  · cases h
  rename_i halbum
  split at h
  · cases h
  rename_i hlikes
  rw [Store.genre?, find?_id_isNone, not_not] at hgenre
  refine ⟨hgenre, fun a ha => ?_, fun a ha => ?_, by omega, hcap, hcover⟩
  · rw [Option.mem_def] at ha
    simp only [ha, Option.map_some, beq_iff_eq, Option.some.injEq, Store.artist?,
      find?_id_isNone, not_not] at hartist
    exact hartist
  · rw [Option.mem_def] at ha
    simp only [ha, Option.map_some, beq_iff_eq, Option.some.injEq, Store.album?,
      find?_id_isNone, not_not] at halbum
    exact halbum

namespace Store.Valid

variable {s s' : Store}

theorem createSong (hv : s.Valid) {d : SongDraft} {x : ShownSong}
    (h : (Store.createSong d).run s = .ok (x, s')) : s'.Valid := by
  obtain ⟨hcheck, rfl, -⟩ := Store.createSong_ok h
  have hfits :=
    Store.songFits_of_check hcheck (Int64.toInt_le d.likes) (nonEmpty_ne_empty d.cover)
  refine { hv with
    songs := fun y hy => ?_
    memberSong := fun m hm => by simp [hv.memberSong m hm]
    songIds := hv.songIds.append rfl }
  rcases List.mem_append.1 hy with hy | hy
  · exact (hv.songs y hy).of_tables rfl rfl rfl
  · rw [List.mem_singleton.1 hy]; exact hfits.of_tables rfl rfl rfl

/-- Replacing a song by a row that fits keeps the invariant. -/
theorem replaceSong (hv : s.Valid) {x : Song} (hx : s.SongFits x) :
    { s with songs := replaceById (·.id) x s.songs }.Valid :=
  { hv with
    songs := fun y hy => by
      rcases mem_replaceById hy with hy | ⟨rfl, -⟩
      · exact (hv.songs y hy).of_tables rfl rfl rfl
      · exact hx.of_tables rfl rfl rfl
    memberSong := fun m hm => by rw [map_replaceById]; exact hv.memberSong m hm
    songIds := hv.songIds.replaceById _ }

theorem updateSong (hv : s.Valid) {id : Int} {c : SongChange} {x : ShownSong}
    (h : (Store.updateSong id c).run s = .ok (x, s')) : s'.Valid := by
  obtain ⟨song, hsong, -, hcheck, rfl, -⟩ := Store.updateSong_ok h
  have hcap : (c.apply song).likes ≤ Int64.maxValue.toInt := by
    -- new likes are a 64-bit value, kept ones were in range already
    unfold SongChange.apply
    cases c.likes with
    | none => exact (hv.songs song hsong).likesCap
    | some l => exact Int64.toInt_le l
  refine hv.replaceSong (Store.songFits_of_check hcheck hcap ?_)
  -- a new cover is stored without the empty text, a kept one was allowed already
  unfold SongChange.apply
  cases c.cover with
  | none => exact (hv.songs song hsong).cover
  | some p => exact nonEmpty_ne_empty _

theorem addSongLikes (hv : s.Valid) {id delta : Int} {x : ShownSong}
    (h : (Store.addSongLikes id delta).run s = .ok (x, s')) : s'.Valid := by
  obtain ⟨song, hsong, -, hlikes, rfl, -⟩ := Store.addSongLikes_ok h
  exact hv.replaceSong
    { hv.songs song hsong with likes := hlikes, likesCap := wrap64_le_maxValue _ }

theorem deleteSong (hv : s.Valid) {id : Int} {b : Bool}
    (h : (Store.deleteSong id).run s = .ok (b, s')) : s'.Valid := by
  rcases Store.deleteSong_ok h with ⟨-, -, rfl⟩ | ⟨-, hunused, -, rfl⟩
  · exact hv
  · exact { hv with
      songs := fun x hx => (hv.songs x (List.mem_of_mem_filter hx)).of_tables rfl rfl rfl
      memberSong := fun m hm => mem_map_filter_ne (hv.memberSong m hm) (hunused m hm)
      songIds := hv.songIds.filter _ }

/-! ## Playlists and memberships -/

theorem createPlaylist (hv : s.Valid) {name : String} {ownerId : Int} {p : ShownPlaylist}
    (h : (Store.createPlaylist name ownerId).run s = .ok (p, s')) : s'.Valid := by
  obtain ⟨howner, rfl, -⟩ := Store.createPlaylist_ok h
  exact { hv with
    playlistOwner := fun q hq => by
      rcases List.mem_append.1 hq with hq | hq
      · exact hv.playlistOwner q hq
      · rw [List.mem_singleton.1 hq]; exact howner
    songs := fun x hx => (hv.songs x hx).of_tables rfl rfl rfl
    memberPlaylist := fun m hm => by simp [hv.memberPlaylist m hm]
    playlistIds := hv.playlistIds.append rfl }

theorem renamePlaylist (hv : s.Valid) {id : Int} {name : String} {p : ShownPlaylist}
    (h : (Store.renamePlaylist id name).run s = .ok (p, s')) : s'.Valid := by
  obtain ⟨q, hq, -, rfl, -⟩ := Store.renamePlaylist_ok h
  exact { hv with
    playlistOwner := fun r hr => by
      rcases mem_replaceById hr with hr | ⟨rfl, -⟩
      · exact hv.playlistOwner r hr
      · exact hv.playlistOwner q hq
    songs := fun x hx => (hv.songs x hx).of_tables rfl rfl rfl
    memberPlaylist := fun m hm => by rw [map_replaceById]; exact hv.memberPlaylist m hm
    playlistIds := hv.playlistIds.replaceById _ }

theorem deletePlaylist (hv : s.Valid) {id : Int} {b : Bool}
    (h : (Store.deletePlaylist id).run s = .ok (b, s')) : s'.Valid := by
  rcases Store.deletePlaylist_ok h with ⟨-, -, rfl⟩ | ⟨-, hunused, -, rfl⟩
  · exact hv
  · exact { hv with
      playlistOwner := fun q hq => hv.playlistOwner q (List.mem_of_mem_filter hq)
      songs := fun x hx => (hv.songs x hx).of_tables rfl rfl rfl
      memberPlaylist := fun m hm => mem_map_filter_ne (hv.memberPlaylist m hm) (hunused m hm)
      playlistIds := hv.playlistIds.filter _ }

theorem addMembership (hv : s.Valid) {playlistId songId : Int} {u : Unit}
    (h : (Store.addMembership playlistId songId).run s = .ok (u, s')) : s'.Valid := by
  obtain ⟨hplaylist, hsong, hheld, rfl⟩ := Store.addMembership_ok h
  exact { hv with
    songs := fun x hx => (hv.songs x hx).of_tables rfl rfl rfl
    memberPlaylist := fun m hm => by
      rcases List.mem_append.1 hm with hm | hm
      · exact hv.memberPlaylist m hm
      · rw [List.mem_singleton.1 hm]; exact hplaylist
    memberSong := fun m hm => by
      rcases List.mem_append.1 hm with hm | hm
      · exact hv.memberSong m hm
      · rw [List.mem_singleton.1 hm]; exact hsong
    members := List.nodup_append.2 ⟨hv.members, List.nodup_singleton _, fun a ha b hb => by
      rw [List.mem_singleton.1 hb]; rintro rfl; exact hheld ha⟩ }

/-- Removing memberships keeps the invariant. -/
theorem filterMembers (hv : s.Valid) (f : Membership → Bool) :
    { s with members := s.members.filter f }.Valid :=
  { hv with
    songs := fun x hx => (hv.songs x hx).of_tables rfl rfl rfl
    memberPlaylist := fun m hm => hv.memberPlaylist m (List.mem_of_mem_filter hm)
    memberSong := fun m hm => hv.memberSong m (List.mem_of_mem_filter hm)
    members := hv.members.filter f }

theorem removeMembership (hv : s.Valid) {playlistId songId : Int} {b : Bool}
    (h : (Store.removeMembership playlistId songId).run s = .ok (b, s')) : s'.Valid := by
  rcases Store.removeMembership_ok h with ⟨-, -, rfl⟩ | ⟨-, -, rfl⟩
  · exact hv.filterMembers _
  · exact hv

theorem clearPlaylist (hv : s.Valid) {playlistId : Int} {n : Nat}
    (h : (Store.clearPlaylist playlistId).run s = .ok (n, s')) : s'.Valid := by
  obtain ⟨-, rfl⟩ := Store.clearPlaylist_ok h
  exact hv.filterMembers _

theorem unlinkSong (hv : s.Valid) {songId : Int} {n : Nat}
    (h : (Store.unlinkSong songId).run s = .ok (n, s')) : s'.Valid := by
  obtain ⟨-, rfl⟩ := Store.unlinkSong_ok h
  exact hv.filterMembers _

/-! ## Users -/

theorem createUser (hv : s.Valid) {name email : String} {credential : Option Credential}
    {u : User} (h : (Store.createUser name email credential).run s = .ok (u, s')) : s'.Valid := by
  obtain ⟨hfree, rfl, rfl⟩ := Store.createUser_ok h
  exact { hv with
    userEmails := nodup_map_append _ hv.userEmails hfree
    playlistOwner := fun p hp => by simp [hv.playlistOwner p hp]
    songs := fun x hx => (hv.songs x hx).of_tables rfl rfl rfl
    userIds := hv.userIds.append rfl }

end Store.Valid

/-! ## Every query keeps the invariant -/

/-- Validity carried from the store before to the store after. -/
def Store.KeepsValid (s s' : Store) : Prop := s.Valid → s'.Valid

instance : Std.Refl Store.KeepsValid := ⟨fun _ h => h⟩

instance : IsTrans Store Store.KeepsValid := ⟨fun _ _ _ h₁ h₂ hv => h₂ (h₁ hv)⟩

theorem Query.moves_valid (q : Query) : q.tx.Moves Store.KeepsValid := by
  intro s a s' h hv
  cases q with
  | createGenre name => exact hv.createGenre h
  | deleteGenre id => exact hv.deleteGenre h
  | createArtist name photo => exact hv.createArtist h
  | insertArtistIfAbsent name => exact hv.insertArtistIfAbsent h
  | updateArtist id name photo => exact hv.updateArtist h
  | deleteArtist id => exact hv.deleteArtist h
  | createAlbum name artistId cover => exact hv.createAlbum h
  | insertAlbumIfAbsent name artistId => exact hv.insertAlbumIfAbsent h
  | updateAlbum id name artistId cover => exact hv.updateAlbum h
  | deleteAlbum id => exact hv.deleteAlbum h
  | createSong d => exact hv.createSong h
  | updateSong id c => exact hv.updateSong h
  | addSongLikes id delta => exact hv.addSongLikes h
  | deleteSong id => exact hv.deleteSong h
  | createPlaylist name ownerId => exact hv.createPlaylist h
  | renamePlaylist id name => exact hv.renamePlaylist h
  | deletePlaylist id => exact hv.deletePlaylist h
  | addMembership p song => exact hv.addMembership h
  | removeMembership p song => exact hv.removeMembership h
  | clearPlaylist p => exact hv.clearPlaylist h
  | unlinkSong song => exact hv.unlinkSong h
  | createUser name email credential => exact hv.createUser h

end Jukebox.Catalog
