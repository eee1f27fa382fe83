import Jukebox.Proofs.Transaction
import Mathlib.Logic.Basic
import Mathlib.Data.List.Nodup

set_option autoImplicit false

/-! # What a successful write did

One lemma per write of the store says everything its success tells: the checks it passed, the
answer it gave and the store it left, as an equation. Later proofs take a write apart with these
lemmas and do not unfold it again.

Checks are stated over the rows of the tables (`id ∈ s.genres.map (·.id)`,
`∀ x ∈ s.genres, x.name ≠ name`) rather than through the look-ups the writes make. A delete that
finds no row answers `false` and leaves the store as it was; that case is part of its lemma.
-/

namespace Jukebox.Catalog

section Lookup

variable {ρ : Type} {id : ρ → Int} {rows : List ρ}

/-- A row found by id is in its table and has that id. -/
theorem find?_id_eq_some {k : Int} {x : ρ} (h : rows.find? (fun r => id r == k) = some x) :
    x ∈ rows ∧ id x = k :=
  ⟨List.mem_of_find?_eq_some h, by simpa using List.find?_some h⟩

/-- A look-up by id finds nothing exactly when no row has the id. -/
theorem find?_id_isNone {k : Int} :
    (rows.find? (fun r => id r == k)).isNone = true ↔ k ∉ rows.map id := by
  simp

/-- In a table with distinct ids, a look-up by a row's id finds that row. -/
theorem find?_id_of_mem (hid : (rows.map id).Nodup) {x : ρ} (hx : x ∈ rows) :
    rows.find? (fun r => id r == id x) = some x := by
  cases hfind : rows.find? (fun r => id r == id x) with
  | none =>
    rw [← Option.isNone_iff_eq_none, find?_id_isNone] at hfind
    exact absurd (List.mem_map_of_mem hx) hfind
  | some y =>
    obtain ⟨hy, hyid⟩ := find?_id_eq_some hfind
    rw [List.inj_on_of_nodup_map hid hy hx hyid]

end Lookup

/-- The row a song draft becomes under a given id. -/
def SongDraft.row (d : SongDraft) (id : Int) : Song :=
  ⟨id, d.name, d.artistId, d.albumId, d.genreId, d.likes.toInt, d.audio, nonEmpty d.cover⟩

namespace Store

variable {s s' : Store}

/-! ## Genres -/

theorem createGenre_ok {name : String} {g : Genre} (h : (createGenre name).run s = .ok (g, s')) :
    (∀ x ∈ s.genres, x.name ≠ name) ∧ g = ⟨s.next.genre + 1, name⟩ ∧
      s' = { s with next := { s.next with genre := s.next.genre + 1 }, genres := s.genres ++ [g] } := by
  simp only [createGenre, StateT.run] at h
  split at h
  · cases h
  · rename_i hfree
    cases h
    simp only [List.any_eq_true, beq_iff_eq, not_exists, not_and] at hfree
    exact ⟨hfree, rfl, rfl⟩

theorem deleteGenre_ok {id : Int} {b : Bool} (h : (deleteGenre id).run s = .ok (b, s')) :
    (id ∉ s.genres.map (·.id) ∧ b = false ∧ s' = s) ∨
      (id ∈ s.genres.map (·.id) ∧ (∀ x ∈ s.songs, x.genreId ≠ id) ∧ b = true ∧
        s' = { s with genres := s.genres.filter (·.id != id) }) := by
  simp only [deleteGenre, StateT.run] at h
  split at h
  · rename_i hmissing
    cases h
    rw [genre?, find?_id_isNone] at hmissing
    exact .inl ⟨hmissing, rfl, rfl⟩
  · rename_i hfound
    rw [genre?, find?_id_isNone, not_not] at hfound
    split at h
    · cases h
    · rename_i hunused
      cases h
      simp only [List.any_eq_true, beq_iff_eq, not_exists, not_and] at hunused
      exact .inr ⟨hfound, hunused, rfl, rfl⟩

/-! ## Artists -/

theorem createArtist_ok {name : String} {photo : Option String} {a : Artist}
    (h : (createArtist name photo).run s = .ok (a, s')) :
    (∀ x ∈ s.artists, x.name ≠ name) ∧ a = (s.addArtist name (nonEmpty photo)).1 ∧
      s' = (s.addArtist name (nonEmpty photo)).2 := by
  simp only [createArtist, StateT.run] at h
  split at h
  · cases h
  · rename_i hfree
    simp only [artistNamed?, List.find?_isSome, beq_iff_eq, not_exists, not_and] at hfree
    injection h with h
    exact ⟨hfree, by rw [h], by rw [h]⟩

theorem insertArtistIfAbsent_ok {name : String} {r : Option Artist}
    (h : (insertArtistIfAbsent name).run s = .ok (r, s')) :
    (name ∈ s.artists.map (·.name) ∧ r = none ∧ s' = s) ∨
      ((∀ x ∈ s.artists, x.name ≠ name) ∧ r = some (s.addArtist name none).1 ∧
        s' = (s.addArtist name none).2) := by
  simp only [insertArtistIfAbsent, StateT.run] at h
  split at h
  · rename_i hnamed
    cases h
    simp only [artistNamed?, List.find?_isSome, beq_iff_eq] at hnamed
    exact .inl ⟨List.mem_map.2 hnamed, rfl, rfl⟩
  · rename_i hfree
    simp only [artistNamed?, List.find?_isSome, beq_iff_eq, not_exists, not_and] at hfree
    generalize hp : s.addArtist name none = p at h
    obtain ⟨a, s₁⟩ := p
    cases h
    exact .inr ⟨hfree, rfl, rfl⟩

theorem updateArtist_ok {id : Int} {name photo : Option String} {a' : Artist}
    (h : (updateArtist id name photo).run s = .ok (a', s')) :
    ∃ a ∈ s.artists, a.id = id ∧ (∀ n ∈ name, ∀ x ∈ s.artists, x.name = n → x.id = id) ∧
      a' = { a with name := name.getD a.name, photo := photo.elim a.photo fun p => nonEmpty (some p) } ∧
      s' = { s with artists := replaceById (·.id) a' s.artists } := by
  rcases hfind : s.artist? id with _ | a
  · simp [updateArtist, StateT.run, hfind] at h
  obtain ⟨ha, hid⟩ := find?_id_eq_some hfind
  -- the name is checked against the other artists only when one is given
  cases name with
  | none =>
    simp only [updateArtist, StateT.run, hfind, Bool.false_eq_true, ↓reduceIte] at h
    cases h
    refine ⟨a, ha, hid, fun n hn => absurd hn (Option.not_mem_none n), ?_, rfl⟩
    cases photo <;> rfl
  | some n =>
    simp only [updateArtist, StateT.run, hfind] at h
    split at h
    · cases h
    · rename_i hclash
      cases h
      simp only [List.any_eq_true, Bool.and_eq_true, beq_iff_eq, bne_iff_ne, ne_eq,
        not_exists, not_and, not_not] at hclash
      refine ⟨a, ha, hid, fun m hm => ?_, ?_, rfl⟩
      · cases hm
        exact hclash
      · cases photo <;> rfl

theorem deleteArtist_ok {id : Int} {b : Bool} (h : (deleteArtist id).run s = .ok (b, s')) :
    (id ∉ s.artists.map (·.id) ∧ b = false ∧ s' = s) ∨
      (id ∈ s.artists.map (·.id) ∧ (∀ a ∈ s.albums, a.artistId ≠ id) ∧
        (∀ x ∈ s.songs, x.artistId ≠ some id) ∧ b = true ∧
        s' = { s with artists := s.artists.filter (·.id != id) }) := by
  simp only [deleteArtist, StateT.run] at h
  split at h
  · rename_i hmissing
    cases h
    rw [artist?, find?_id_isNone] at hmissing
    exact .inl ⟨hmissing, rfl, rfl⟩
  · rename_i hfound
    rw [artist?, find?_id_isNone, not_not] at hfound
    split at h
    · cases h
    · rename_i hunused
      cases h
      simp only [Bool.or_eq_true, List.any_eq_true, beq_iff_eq, not_or, not_exists,
        not_and] at hunused
      exact .inr ⟨hfound, hunused.1, hunused.2, rfl, rfl⟩

/-! ## Albums -/

/-- What the two album creations check: the artist exists and the pair (name, artist) is free. -/
theorem albumGuards {name : String} {artistId : Int}
    (hartist : ¬(s.artist? artistId).isNone = true)
    (hfree : ¬(s.albumKeyed? name artistId).isSome = true) :
    artistId ∈ s.artists.map (·.id) ∧ ∀ x ∈ s.albums, (x.name, x.artistId) ≠ (name, artistId) := by
  rw [artist?, find?_id_isNone, not_not] at hartist
  simp only [albumKeyed?, List.find?_isSome, Bool.and_eq_true, beq_iff_eq, not_exists,
    not_and] at hfree
  refine ⟨hartist, fun x hx hkey => ?_⟩
  simp only [Prod.mk.injEq] at hkey
  exact hfree x hx hkey.1 hkey.2

theorem createAlbum_ok {name : String} {artistId : Int} {cover : Option String} {r : ShownAlbum}
    (h : (createAlbum name artistId cover).run s = .ok (r, s')) :
    artistId ∈ s.artists.map (·.id) ∧ (∀ x ∈ s.albums, (x.name, x.artistId) ≠ (name, artistId)) ∧
      s' = (s.addAlbum name artistId (nonEmpty cover)).2 ∧
      r = s'.showAlbum (s.addAlbum name artistId (nonEmpty cover)).1 := by
  simp only [createAlbum, StateT.run] at h
  split at h
  · cases h
  · split at h
    · cases h
    · rename_i hartist hfree
      generalize hp : s.addAlbum name artistId (nonEmpty cover) = p at h
      obtain ⟨a, s₁⟩ := p
      cases h
      exact ⟨(albumGuards hartist hfree).1, (albumGuards hartist hfree).2, rfl, rfl⟩

theorem insertAlbumIfAbsent_ok {name : String} {artistId : Int} {r : Option ShownAlbum}
    (h : (insertAlbumIfAbsent name artistId).run s = .ok (r, s')) :
    artistId ∈ s.artists.map (·.id) ∧
      (((name, artistId) ∈ s.albums.map (fun x => (x.name, x.artistId)) ∧ r = none ∧ s' = s) ∨
        ((∀ x ∈ s.albums, (x.name, x.artistId) ≠ (name, artistId)) ∧
          s' = (s.addAlbum name artistId none).2 ∧
          r = some (s'.showAlbum (s.addAlbum name artistId none).1))) := by
  simp only [insertAlbumIfAbsent, StateT.run] at h
  split at h
  · cases h
  · rename_i hartist
    rw [artist?, find?_id_isNone, not_not] at hartist
    split at h
    · rename_i hkeyed
      cases h
      simp only [albumKeyed?, List.find?_isSome, Bool.and_eq_true, beq_iff_eq] at hkeyed
      obtain ⟨x, hx, hname, hid⟩ := hkeyed
      exact ⟨hartist, .inl ⟨List.mem_map.2 ⟨x, hx, by rw [hname, hid]⟩, rfl, rfl⟩⟩
    · rename_i hfree
      simp only [albumKeyed?, List.find?_isSome, Bool.and_eq_true, beq_iff_eq, not_exists,
        not_and] at hfree
      generalize hp : s.addAlbum name artistId none = p at h
      obtain ⟨a, s₁⟩ := p
      cases h
      refine ⟨hartist, .inr ⟨fun x hx hkey => ?_, rfl, rfl⟩⟩
      simp only [Prod.mk.injEq] at hkey
      exact hfree x hx hkey.1 hkey.2

theorem updateAlbum_ok {id : Int} {name : Option String} {artistId : Option Int}
    {cover : Option String} {r : ShownAlbum}
    (h : (updateAlbum id name artistId cover).run s = .ok (r, s')) :
    ∃ a ∈ s.albums, a.id = id ∧ (∀ x ∈ artistId, x ∈ s.artists.map (·.id)) ∧
      ∃ a' : Album, a' = { a with
          name := name.getD a.name
          artistId := artistId.getD a.artistId
          cover := cover.elim a.cover fun c => nonEmpty (some c) } ∧
        (∀ x ∈ s.albums, x.name = a'.name → x.artistId = a'.artistId → x.id = id) ∧
        s' = { s with albums := replaceById (·.id) a' s.albums } ∧ r = s'.showAlbum a' := by
  rcases hfind : s.album? id with _ | a
  · simp [updateAlbum, StateT.run, hfind] at h
  obtain ⟨ha, hid⟩ := find?_id_eq_some hfind
  simp only [updateAlbum, StateT.run, hfind] at h
  split at h
  · cases h
  · rename_i hartist
    split at h
    · cases h
    · rename_i hclash
      cases h
      simp only [List.any_eq_true, Bool.and_eq_true, beq_iff_eq, bne_iff_ne, ne_eq,
        not_exists, not_and, not_not] at hclash
      refine ⟨a, ha, hid, fun x hx => ?_, _, ?_, fun x hx h₁ h₂ => hclash x hx ⟨h₁, h₂⟩, rfl, rfl⟩
      · cases hx
        simp only [Option.map_some, beq_iff_eq, Option.some.injEq, artist?, find?_id_isNone,
          not_not] at hartist
        exact hartist
      · cases cover <;> rfl

theorem deleteAlbum_ok {id : Int} {b : Bool} (h : (deleteAlbum id).run s = .ok (b, s')) :
    (id ∉ s.albums.map (·.id) ∧ b = false ∧ s' = s) ∨
      (id ∈ s.albums.map (·.id) ∧ (∀ x ∈ s.songs, x.albumId ≠ some id) ∧ b = true ∧
        s' = { s with albums := s.albums.filter (·.id != id) }) := by
  simp only [deleteAlbum, StateT.run] at h
  split at h
  · rename_i hmissing
    cases h
    rw [album?, find?_id_isNone] at hmissing
    exact .inl ⟨hmissing, rfl, rfl⟩
  · rename_i hfound
    rw [album?, find?_id_isNone, not_not] at hfound
    split at h
    · cases h
    · rename_i hunused
      cases h
      simp only [List.any_eq_true, beq_iff_eq, not_exists, not_and] at hunused
      exact .inr ⟨hfound, hunused, rfl, rfl⟩

/-! ## Songs -/

theorem createSong_ok {d : SongDraft} {r : ShownSong} (h : (createSong d).run s = .ok (r, s')) :
    s.checkSong (d.row (s.next.song + 1)) = .ok () ∧
      s' = { s with
        next := { s.next with song := s.next.song + 1 }
        songs := s.songs ++ [d.row (s.next.song + 1)] } ∧
      r = s'.showSong (d.row (s.next.song + 1)) := by
  simp only [createSong, StateT.run] at h
  split at h
  · cases h
  · rename_i hcheck
    cases h
    exact ⟨hcheck, rfl, rfl⟩

theorem updateSong_ok {id : Int} {c : SongChange} {r : ShownSong}
    (h : (updateSong id c).run s = .ok (r, s')) :
    ∃ x ∈ s.songs, x.id = id ∧ s.checkSong (c.apply x) = .ok () ∧
      s' = { s with songs := replaceById (·.id) (c.apply x) s.songs } ∧
      r = s'.showSong (c.apply x) := by
  rcases hfind : s.song? id with _ | x
  · simp [updateSong, StateT.run, hfind] at h
  obtain ⟨hx, hid⟩ := find?_id_eq_some hfind
  simp only [updateSong, StateT.run, hfind] at h
  split at h
  · cases h
  · rename_i hcheck
    cases h
    exact ⟨x, hx, hid, hcheck, rfl, rfl⟩

theorem addSongLikes_ok {id delta : Int} {r : ShownSong}
    (h : (addSongLikes id delta).run s = .ok (r, s')) :
    ∃ x ∈ s.songs, x.id = id ∧ 0 ≤ wrap64 (x.likes + delta) ∧
      s' = { s with
        songs := replaceById (·.id) { x with likes := wrap64 (x.likes + delta) } s.songs } ∧
      r = s'.showSong { x with likes := wrap64 (x.likes + delta) } := by
  rcases hfind : s.song? id with _ | x
  · simp [addSongLikes, StateT.run, hfind] at h
  obtain ⟨hx, hid⟩ := find?_id_eq_some hfind
  simp only [addSongLikes, StateT.run, hfind] at h
  split at h
  · cases h
  · rename_i hlikes
    cases h
    exact ⟨x, hx, hid, Int.not_lt.1 hlikes, rfl, rfl⟩

theorem deleteSong_ok {id : Int} {b : Bool} (h : (deleteSong id).run s = .ok (b, s')) :
    (id ∉ s.songs.map (·.id) ∧ b = false ∧ s' = s) ∨
      (id ∈ s.songs.map (·.id) ∧ (∀ m ∈ s.members, m.songId ≠ id) ∧ b = true ∧
        s' = { s with songs := s.songs.filter (·.id != id) }) := by
  simp only [deleteSong, StateT.run] at h
  split at h
  · rename_i hmissing
    cases h
    rw [song?, find?_id_isNone] at hmissing
    exact .inl ⟨hmissing, rfl, rfl⟩
  · rename_i hfound
    rw [song?, find?_id_isNone, not_not] at hfound
    split at h
    · cases h
    · rename_i hunused
      cases h
      simp only [List.any_eq_true, beq_iff_eq, not_exists, not_and] at hunused
      exact .inr ⟨hfound, hunused, rfl, rfl⟩

/-! ## Playlists and memberships -/

theorem createPlaylist_ok {name : String} {ownerId : Int} {r : ShownPlaylist}
    (h : (createPlaylist name ownerId).run s = .ok (r, s')) :
    ownerId ∈ s.users.map (·.id) ∧
      s' = { s with
        next := { s.next with playlist := s.next.playlist + 1 }
        playlists := s.playlists ++ [⟨s.next.playlist + 1, name, ownerId⟩] } ∧
      r = ⟨⟨s.next.playlist + 1, name, ownerId⟩, 0⟩ := by
  simp only [createPlaylist, StateT.run] at h
  split at h
  · cases h
  · rename_i howner
    cases h
    rw [user?, find?_id_isNone, not_not] at howner
    exact ⟨howner, rfl, rfl⟩

theorem renamePlaylist_ok {id : Int} {name : String} {r : ShownPlaylist}
    (h : (renamePlaylist id name).run s = .ok (r, s')) :
    ∃ p ∈ s.playlists, p.id = id ∧
      s' = { s with playlists := replaceById (·.id) { p with name := name } s.playlists } ∧
      r = s'.showPlaylist { p with name := name } := by
  rcases hfind : s.playlist? id with _ | p
  · simp [renamePlaylist, StateT.run, hfind] at h
  obtain ⟨hp, hid⟩ := find?_id_eq_some hfind
  simp only [renamePlaylist, StateT.run, hfind] at h
  cases h
  exact ⟨p, hp, hid, rfl, rfl⟩

theorem deletePlaylist_ok {id : Int} {b : Bool} (h : (deletePlaylist id).run s = .ok (b, s')) :
    (id ∉ s.playlists.map (·.id) ∧ b = false ∧ s' = s) ∨
      (id ∈ s.playlists.map (·.id) ∧ (∀ m ∈ s.members, m.playlistId ≠ id) ∧ b = true ∧
        s' = { s with playlists := s.playlists.filter (·.id != id) }) := by
  simp only [deletePlaylist, StateT.run] at h
  split at h
  · rename_i hmissing
    cases h
    rw [playlist?, find?_id_isNone] at hmissing
    exact .inl ⟨hmissing, rfl, rfl⟩
  · rename_i hfound
    rw [playlist?, find?_id_isNone, not_not] at hfound
    split at h
    · cases h
    · rename_i hunused
      cases h
      simp only [List.any_eq_true, beq_iff_eq, not_exists, not_and] at hunused
      exact .inr ⟨hfound, hunused, rfl, rfl⟩

theorem addMembership_ok {playlistId songId : Int} {u : Unit}
    (h : (addMembership playlistId songId).run s = .ok (u, s')) :
    playlistId ∈ s.playlists.map (·.id) ∧ songId ∈ s.songs.map (·.id) ∧
      ⟨playlistId, songId⟩ ∉ s.members ∧
      s' = { s with members := s.members ++ [⟨playlistId, songId⟩] } := by
  simp only [addMembership, StateT.run] at h
  split at h
  · cases h
  rename_i hplaylist
  split at h
  · cases h
  rename_i hsong
  split at h
  · cases h
  rename_i hheld
  cases h
  rw [playlist?, find?_id_isNone, not_not] at hplaylist
  rw [song?, find?_id_isNone, not_not] at hsong
  simp only [holds, List.contains_iff_mem] at hheld
  exact ⟨hplaylist, hsong, hheld, rfl⟩

theorem removeMembership_ok {playlistId songId : Int} {b : Bool}
    (h : (removeMembership playlistId songId).run s = .ok (b, s')) :
    (⟨playlistId, songId⟩ ∈ s.members ∧ b = true ∧
        s' = { s with members := s.members.filter (· != ⟨playlistId, songId⟩) }) ∨
      (⟨playlistId, songId⟩ ∉ s.members ∧ b = false ∧ s' = s) := by
  simp only [removeMembership, StateT.run] at h
  split at h
  · rename_i hheld
    cases h
    simp only [holds, List.contains_iff_mem] at hheld
    exact .inl ⟨hheld, rfl, rfl⟩
  · rename_i hheld
    cases h
    simp only [holds, List.contains_iff_mem] at hheld
    exact .inr ⟨hheld, rfl, rfl⟩

theorem clearPlaylist_ok {playlistId : Int} {n : Nat}
    (h : (clearPlaylist playlistId).run s = .ok (n, s')) :
    n = s.members.countP (·.playlistId == playlistId) ∧
      s' = { s with members := s.members.filter (·.playlistId != playlistId) } := by
  simp only [clearPlaylist, StateT.run] at h
  cases h
  exact ⟨rfl, rfl⟩

theorem unlinkSong_ok {songId : Int} {n : Nat} (h : (unlinkSong songId).run s = .ok (n, s')) :
    n = s.members.countP (·.songId == songId) ∧
      s' = { s with members := s.members.filter (·.songId != songId) } := by
  simp only [unlinkSong, StateT.run] at h
  cases h
  exact ⟨rfl, rfl⟩

/-! ## Users -/

theorem createUser_ok {name email : String} {credential : Option Credential} {u : User}
    (h : (createUser name email credential).run s = .ok (u, s')) :
    (∀ x ∈ s.users, x.email ≠ email) ∧ u = ⟨s.next.user + 1, name, email, credential⟩ ∧
      s' = { s with next := { s.next with user := s.next.user + 1 }, users := s.users ++ [u] } := by
  simp only [createUser, StateT.run] at h
  split at h
  · cases h
  · rename_i hfree
    cases h
    simp only [List.any_eq_true, beq_iff_eq, not_exists, not_and] at hfree
    exact ⟨hfree, rfl, rfl⟩

end Store

end Jukebox.Catalog
