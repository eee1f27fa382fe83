import Jukebox.Proofs.Calls
import Jukebox.Proofs.SongWrites

set_option autoImplicit false

/-! # Resolving names in a valid store

Over the store a resolution is one *find or add* (`Resolution`): the trimmed name is looked up
exactly and, when no row has it, a row is added. In a valid store the look-up can only find the
one row that has the name, since names (and album keys) are unique there; and the store after a
resolution is valid again, with a row under the name. So a second resolution of a name that trims
to the same text finds that row and writes nothing: resolving is idempotent.

An album is keyed on its name and its artist. An album of a missing artist cannot be in a valid
store, so such a resolution reaches the insert, which refuses it; the failure leaves the store as
it was.

Main statement: `names_resolve_to_one_row`.
-/

namespace Jukebox

open Catalog Service

/-! ## Look-ups by name in a valid store -/

/-- In a table whose keys are distinct, a look-up by a row's key finds that row. -/
theorem Catalog.find?_key_of_mem {ρ κ : Type} [BEq κ] [LawfulBEq κ] (key : ρ → κ) {rows : List ρ}
    (hkey : (rows.map key).Nodup) {x : ρ} (hx : x ∈ rows) :
    rows.find? (fun r => key r == key x) = some x := by
  rcases hfind : rows.find? (fun r => key r == key x) with _ | y
  · rw [List.find?_eq_none] at hfind
    exact absurd (beq_self_eq_true (key x)) (hfind x hx)
  · have hy : key y = key x := by simpa using List.find?_some hfind
    rw [List.inj_on_of_nodup_map hkey (List.mem_of_find?_eq_some hfind) hx hy]

namespace Catalog.Store

variable {s : Store}

theorem artistNamed?_eq_none {key : String} :
    s.artistNamed? key = none ↔ ∀ a ∈ s.artists, a.name ≠ key := by
  simp [artistNamed?, List.find?_eq_none]

theorem albumKeyed?_eq_none {key : String} {artistId : Int} :
    s.albumKeyed? key artistId = none ↔ ∀ b ∈ s.albums, b.name = key → b.artistId ≠ artistId := by
  simp [albumKeyed?, List.find?_eq_none]

/-- Names are unique in a valid store, so a look-up by an artist's name finds that artist. -/
theorem Valid.artistNamed?_name (hv : s.Valid) {a : Artist} (ha : a ∈ s.artists) :
    s.artistNamed? a.name = some a :=
  find?_key_of_mem (fun x : Artist => x.name) hv.artistNames ha

/-- Album keys are unique in a valid store, so a look-up by an album's key finds that album. -/
theorem Valid.albumKeyed?_key (hv : s.Valid) {b : Album} (hb : b ∈ s.albums) :
    s.albumKeyed? b.name b.artistId = some b :=
  -- the look-up compares name and then artist, which is how pairs are compared
  find?_key_of_mem (fun c : Album => (c.name, c.artistId)) hv.albumKeys hb

/-- Every album of a valid store has an existing artist, so a missing artist has no album. -/
theorem Valid.albumKeyed?_of_missing_artist (hv : s.Valid) {key : String} {artistId : Int}
    (ha : artistId ∉ s.artists.map (·.id)) : s.albumKeyed? key artistId = none :=
  albumKeyed?_eq_none.2 fun b hb _ hid => ha (hid ▸ hv.albumArtist b hb)

/-! ## Finding or adding a row -/

theorem Valid.findOrAddArtist_of_mem (hv : s.Valid) {a : Artist} {key : String}
    (ha : a ∈ s.artists) (hname : a.name = key) : s.findOrAddArtist key = (a, s) := by
  subst hname
  simp [findOrAddArtist, hv.artistNamed?_name ha]

theorem findOrAddArtist_of_absent {key : String} (hfree : ∀ a ∈ s.artists, a.name ≠ key) :
    s.findOrAddArtist key = s.addArtist key none := by
  simp [findOrAddArtist, artistNamed?_eq_none.2 hfree]

theorem findOrAddArtist_name (key : String) : (s.findOrAddArtist key).1.name = key := by
  unfold findOrAddArtist
  split
  · rename_i a ha
    simpa using List.find?_some ha
  · rfl

theorem Valid.findOrAddArtist (hv : s.Valid) (key : String) : (s.findOrAddArtist key).2.Valid := by
  unfold Store.findOrAddArtist
  split
  · exact hv
  · rename_i hnone
    exact hv.addArtist (artistNamed?_eq_none.1 hnone) (by simp)

/-- Finding or adding an artist a second time finds the row the first time left. -/
theorem Valid.findOrAddArtist_again (hv : s.Valid) (key : String) :
    (s.findOrAddArtist key).2.findOrAddArtist key = s.findOrAddArtist key :=
  (hv.findOrAddArtist key).findOrAddArtist_of_mem (findOrAddArtist_mem s key)
    (findOrAddArtist_name key)

theorem Valid.findOrAddAlbum_of_mem (hv : s.Valid) {b : Album} {key : String} {artistId : Int}
    (hb : b ∈ s.albums) (hname : b.name = key) (hartist : b.artistId = artistId) :
    s.findOrAddAlbum key artistId = (b, s) := by
  subst hname hartist
  simp [findOrAddAlbum, hv.albumKeyed?_key hb]

theorem findOrAddAlbum_of_absent {key : String} {artistId : Int}
    (hfree : ∀ b ∈ s.albums, b.name = key → b.artistId ≠ artistId) :
    s.findOrAddAlbum key artistId = s.addAlbum key artistId none := by
  simp [findOrAddAlbum, albumKeyed?_eq_none.2 hfree]

theorem findOrAddAlbum_key (key : String) (artistId : Int) :
    (s.findOrAddAlbum key artistId).1.name = key ∧
      (s.findOrAddAlbum key artistId).1.artistId = artistId := by
  unfold findOrAddAlbum
  split
  · rename_i b hb
    simpa using List.find?_some hb
  · exact ⟨rfl, rfl⟩

theorem Valid.findOrAddAlbum (hv : s.Valid) (key : String) {artistId : Int}
    (ha : artistId ∈ s.artists.map (·.id)) : (s.findOrAddAlbum key artistId).2.Valid := by
  unfold Store.findOrAddAlbum
  split
  · exact hv
  · rename_i hnone
    refine hv.addAlbum ha (fun b hb hkey => ?_) (by simp)
    simp only [Prod.mk.injEq] at hkey
    exact albumKeyed?_eq_none.1 hnone b hb hkey.1 hkey.2

/-- Finding or adding an album a second time finds the row the first time left. -/
theorem Valid.findOrAddAlbum_again (hv : s.Valid) (key : String) {artistId : Int}
    (ha : artistId ∈ s.artists.map (·.id)) :
    (s.findOrAddAlbum key artistId).2.findOrAddAlbum key artistId =
      s.findOrAddAlbum key artistId := by
  obtain ⟨hname, hartist⟩ := findOrAddAlbum_key (s := s) key artistId
  exact (hv.findOrAddAlbum key ha).findOrAddAlbum_of_mem (findOrAddAlbum_mem s key artistId)
    hname hartist

end Catalog.Store

/-! ## Resolutions in a valid store -/

namespace Catalog

variable {s : Store}

theorem trim_isEmpty_iff {name : String} : (Text.trim name).isEmpty = true ↔ Text.trim name = "" :=
  String.isEmpty_iff

/-- A name that is blank once trimmed is refused, and nothing is written. -/
theorem artistFinder_resolve_of_blank {noun name : String} (hblank : Text.trim name = "") :
    (artistFinder.resolve noun name).run s =
      .ok (.error (Fault.invalid noun "name is required"), s) := by
  rw [artistFinder_resolve_run, if_pos (trim_isEmpty_iff.2 hblank)]

/-- In a valid store an artist's name, however padded, resolves to that artist and writes
nothing. -/
theorem Store.Valid.artistFinder_resolve_of_mem (hv : s.Valid) {noun name : String} {a : Artist}
    (ha : a ∈ s.artists) (hname : a.name = Text.trim name) (hfilled : Text.trim name ≠ "") :
    (artistFinder.resolve noun name).run s = .ok (.ok a.ref, s) := by
  rw [artistFinder_resolve_run, if_neg (mt trim_isEmpty_iff.1 hfilled),
    hv.findOrAddArtist_of_mem ha hname]

/-- A name no artist has adds exactly one artist, under the next id and without a photo. -/
theorem artistFinder_resolve_of_absent {noun name : String} (hfilled : Text.trim name ≠ "")
    (hfree : ∀ a ∈ s.artists, a.name ≠ Text.trim name) :
    (artistFinder.resolve noun name).run s =
      .ok (.ok ⟨s.next.artist + 1, Text.trim name⟩,
        { s with
          next := { s.next with artist := s.next.artist + 1 }
          artists := s.artists ++ [⟨s.next.artist + 1, Text.trim name, none⟩] }) := by
  rw [artistFinder_resolve_run, if_neg (mt trim_isEmpty_iff.1 hfilled),
    Store.findOrAddArtist_of_absent hfree]
  rfl

/-- In a valid store an album name resolves, unless blank, to the album found or added, and
fails at the insert exactly when the artist it is keyed on is missing. -/
theorem Store.Valid.albumFinder_resolve_eq (hv : s.Valid) (noun name : String) (artistId : Int) :
    ((albumFinder artistId).resolve noun name).run s =
      if (Text.trim name).isEmpty then .ok (.error (Fault.invalid noun "name is required"), s)
      else if artistId ∉ s.artists.map (·.id) then
        .ok (.error (.wrapped ("insert " ++ noun) (Fault.notFound "artist")), s)
      else .ok (.ok (s.findOrAddAlbum (Text.trim name) artistId).1.ref,
        (s.findOrAddAlbum (Text.trim name) artistId).2) := by
  rw [albumFinder_resolve_run]
  congr 1
  by_cases ha : artistId ∈ s.artists.map (·.id)
  · have hsome : (s.artist? artistId).isNone = false :=
      Bool.eq_false_iff.2 fun h => find?_id_isNone.1 h ha
    simp [ha, hsome]
  · have hnone : (s.artist? artistId).isNone = true := find?_id_isNone.2 ha
    simp [ha, hnone, hv.albumKeyed?_of_missing_artist ha]

/-- What an album resolution that answers a row did: the artist exists, and the row is the one
found or added under the trimmed name. -/
theorem Store.Valid.albumFinder_resolve_ok (hv : s.Valid) {noun name : String} {artistId : Int}
    {r : AlbumRef} {s' : Store} (h : ((albumFinder artistId).resolve noun name).run s = .ok (.ok r, s')) :
    artistId ∈ s.artists.map (·.id) ∧ r = (s.findOrAddAlbum (Text.trim name) artistId).1.ref ∧
      s' = (s.findOrAddAlbum (Text.trim name) artistId).2 := by
  rw [hv.albumFinder_resolve_eq] at h
  split_ifs at h with hblank ha <;> cases h
  exact ⟨ha, rfl, rfl⟩

theorem albumFinder_resolve_of_blank {noun name : String} {artistId : Int}
    (hblank : Text.trim name = "") :
    ((albumFinder artistId).resolve noun name).run s =
      .ok (.error (Fault.invalid noun "name is required"), s) := by
  rw [albumFinder_resolve_run, if_pos (trim_isEmpty_iff.2 hblank)]

/-- In a valid store an album name keyed on a missing artist fails at the insert, and nothing is
written. -/
theorem Store.Valid.albumFinder_resolve_of_missing (hv : s.Valid) {noun name : String}
    {artistId : Int} (hfilled : Text.trim name ≠ "") (ha : artistId ∉ s.artists.map (·.id)) :
    ((albumFinder artistId).resolve noun name).run s =
      .ok (.error (.wrapped ("insert " ++ noun) (Fault.notFound "artist")), s) := by
  rw [hv.albumFinder_resolve_eq, if_neg (mt trim_isEmpty_iff.1 hfilled), if_pos ha]

/-- In a valid store an album's name, however padded, keyed on its artist, resolves to that
album and writes nothing. -/
theorem Store.Valid.albumFinder_resolve_of_mem (hv : s.Valid) {noun name : String} {b : Album}
    (hb : b ∈ s.albums) (hname : b.name = Text.trim name) (hfilled : Text.trim name ≠ "") :
    ((albumFinder b.artistId).resolve noun name).run s = .ok (.ok b.ref, s) := by
  rw [hv.albumFinder_resolve_eq, if_neg (mt trim_isEmpty_iff.1 hfilled),
    if_neg (not_not.2 (hv.albumArtist b hb)), hv.findOrAddAlbum_of_mem hb hname rfl]

/-- An album name that no album of an existing artist has adds exactly one album of that artist,
under the next id and without a cover. -/
theorem Store.Valid.albumFinder_resolve_of_absent (hv : s.Valid) {noun name : String}
    {artistId : Int} (hfilled : Text.trim name ≠ "") (ha : artistId ∈ s.artists.map (·.id))
    (hfree : ∀ b ∈ s.albums, b.name = Text.trim name → b.artistId ≠ artistId) :
    ((albumFinder artistId).resolve noun name).run s =
      .ok (.ok ⟨s.next.album + 1, Text.trim name, artistId⟩,
        { s with
          next := { s.next with album := s.next.album + 1 }
          albums := s.albums ++ [⟨s.next.album + 1, Text.trim name, artistId, none⟩] }) := by
  rw [hv.albumFinder_resolve_eq, if_neg (mt trim_isEmpty_iff.1 hfilled), if_neg (not_not.2 ha),
    Store.findOrAddAlbum_of_absent hfree]
  rfl

/-- Resolving an artist name again, in the store the first resolution left, under any name that
trims to the same text, answers the same and writes nothing. -/
theorem Store.Valid.artistFinder_resolve_again (hv : s.Valid) {noun name name' : String}
    (htrim : Text.trim name' = Text.trim name) {r : Except Fault ArtistRef} {s' : Store}
    (h : (artistFinder.resolve noun name).run s = .ok (r, s')) :
    (artistFinder.resolve noun name').run s' = .ok (r, s') := by
  rw [artistFinder_resolve_run] at h
  rw [artistFinder_resolve_run, htrim]
  by_cases hblank : (Text.trim name).isEmpty = true
  · rw [if_pos hblank] at h ⊢
    cases h
    rfl
  · rw [if_neg hblank] at h ⊢
    cases h
    rw [hv.findOrAddArtist_again]

/-- Resolving an album name again, in the store the first resolution left, under any name that
trims to the same text, answers the same and writes nothing. -/
theorem Store.Valid.albumFinder_resolve_again (hv : s.Valid) {noun name name' : String}
    {artistId : Int} (htrim : Text.trim name' = Text.trim name) {r : Except Fault AlbumRef}
    {s' : Store} (h : ((albumFinder artistId).resolve noun name).run s = .ok (r, s')) :
    ((albumFinder artistId).resolve noun name').run s' = .ok (r, s') := by
  rw [hv.albumFinder_resolve_eq] at h
  by_cases hblank : (Text.trim name).isEmpty = true
  · rw [if_pos hblank] at h
    cases h
    rw [hv.albumFinder_resolve_eq, htrim, if_pos hblank]
  rw [if_neg hblank] at h
  by_cases ha : artistId ∈ s.artists.map (·.id)
  · rw [if_neg (not_not.2 ha)] at h
    cases h
    -- the artist is still there, and the album now is
    have hv' := hv.findOrAddAlbum (Text.trim name) ha
    have ha' : artistId ∈ (s.findOrAddAlbum (Text.trim name) artistId).2.artists.map (·.id) := by
      obtain ⟨n, added, hframe, -⟩ := s.findOrAddAlbum_frame (Text.trim name) artistId
      rw [hframe]
      exact ha
    rw [hv'.albumFinder_resolve_eq, htrim, if_neg hblank, if_neg (not_not.2 ha'),
      hv.findOrAddAlbum_again _ ha]
  · rw [if_pos ha] at h
    cases h
    rw [hv.albumFinder_resolve_eq, htrim, if_neg hblank, if_pos ha]

/-- Two album names that differ once trimmed, resolved one after the other for one artist, give
two albums with different ids. -/
theorem Store.Valid.albumFinder_resolve_ids_ne (hv : s.Valid) {noun n₁ n₂ : String}
    {artistId : Int} (hne : Text.trim n₁ ≠ Text.trim n₂) {r₁ r₂ : AlbumRef} {s₁ s₂ : Store}
    (h₁ : ((albumFinder artistId).resolve noun n₁).run s = .ok (.ok r₁, s₁))
    (h₂ : ((albumFinder artistId).resolve noun n₂).run s₁ = .ok (.ok r₂, s₂)) :
    r₁.id ≠ r₂.id := by
  obtain ⟨ha, rfl, rfl⟩ := hv.albumFinder_resolve_ok h₁
  set s₁ := (s.findOrAddAlbum (Text.trim n₁) artistId).2
  set b₁ := (s.findOrAddAlbum (Text.trim n₁) artistId).1
  have hv₁ : s₁.Valid := hv.findOrAddAlbum _ ha
  obtain ⟨-, rfl, rfl⟩ := hv₁.albumFinder_resolve_ok h₂
  set b₂ := (s₁.findOrAddAlbum (Text.trim n₂) artistId).1
  have hv₂ := hv₁.findOrAddAlbum (Text.trim n₂) (hv₁.albumFinder_resolve_ok h₂).1
  -- both rows are albums of the last store, whose ids are distinct, and their names differ
  have hb₁ : b₁ ∈ (s₁.findOrAddAlbum (Text.trim n₂) artistId).2.albums := by
    obtain ⟨n, added, hframe, -⟩ := s₁.findOrAddAlbum_frame (Text.trim n₂) artistId
    rw [hframe]
    exact List.mem_append_left _ (s.findOrAddAlbum_mem _ _)
  have hb₂ := s₁.findOrAddAlbum_mem (Text.trim n₂) artistId
  intro hid
  have hrow : b₁ = b₂ := List.inj_on_of_nodup_map hv₂.albumIds.nodup hb₁ hb₂ hid
  exact hne ((findOrAddAlbum_key (s := s) _ _).1.symm.trans
    ((congrArg Album.name hrow).trans (findOrAddAlbum_key (s := s₁) _ _).1))

end Catalog

/-- Resolving names over the store finds or creates exactly one row. In every reachable store,
an artist name that is blank once trimmed is refused; any other resolves to the artist with
exactly the trimmed name, writing nothing, or, when there is none, adds exactly that artist under
the next id and answers it. An album name is keyed on an artist: blank it is refused, keyed on a
missing artist it fails at the insert and writes nothing, and otherwise it resolves to the album
with that key or adds exactly that album. The bounded retry is never exhausted. Both resolutions
are idempotent: again, under any name with the same trimmed text, in the store the first one
left, they answer the same and write nothing; and two album names that differ once trimmed,
resolved one after the other for one artist, give different ids. -/
theorem names_resolve_to_one_row :
    ∀ s, Reachable s →
      (∀ name, Text.trim name = "" →
        (artistFinder.resolve "artist" name).run s =
          .ok (.error (Fault.invalid "artist" "name is required"), s)) ∧
      (∀ name, ∀ a ∈ s.artists, a.name = Text.trim name → Text.trim name ≠ "" →
        (artistFinder.resolve "artist" name).run s = .ok (.ok a.ref, s)) ∧
      (∀ name, Text.trim name ≠ "" → (∀ a ∈ s.artists, a.name ≠ Text.trim name) →
        (artistFinder.resolve "artist" name).run s =
          .ok (.ok ⟨s.next.artist + 1, Text.trim name⟩,
            { s with
              next := { s.next with artist := s.next.artist + 1 }
              artists := s.artists ++ [⟨s.next.artist + 1, Text.trim name, none⟩] })) ∧
      (∀ name artistId, Text.trim name = "" →
        ((albumFinder artistId).resolve "album" name).run s =
          .ok (.error (Fault.invalid "album" "name is required"), s)) ∧
      (∀ name artistId, Text.trim name ≠ "" → artistId ∉ s.artists.map (·.id) →
        ((albumFinder artistId).resolve "album" name).run s =
          .ok (.error (.wrapped "insert album" (Fault.notFound "artist")), s)) ∧
      (∀ name, ∀ b ∈ s.albums, b.name = Text.trim name → Text.trim name ≠ "" →
        ((albumFinder b.artistId).resolve "album" name).run s = .ok (.ok b.ref, s)) ∧
      (∀ name artistId, Text.trim name ≠ "" → artistId ∈ s.artists.map (·.id) →
        (∀ b ∈ s.albums, b.name = Text.trim name → b.artistId ≠ artistId) →
        ((albumFinder artistId).resolve "album" name).run s =
          .ok (.ok ⟨s.next.album + 1, Text.trim name, artistId⟩,
            { s with
              next := { s.next with album := s.next.album + 1 }
              albums := s.albums ++ [⟨s.next.album + 1, Text.trim name, artistId, none⟩] })) ∧
      (∀ name name' r s', Text.trim name' = Text.trim name →
        (artistFinder.resolve "artist" name).run s = .ok (r, s') →
        (artistFinder.resolve "artist" name').run s' = .ok (r, s')) ∧
      (∀ artistId name name' r s', Text.trim name' = Text.trim name →
        ((albumFinder artistId).resolve "album" name).run s = .ok (r, s') →
        ((albumFinder artistId).resolve "album" name').run s' = .ok (r, s')) ∧
      ∀ artistId n₁ n₂ r₁ r₂ s₁ s₂, Text.trim n₁ ≠ Text.trim n₂ →
        ((albumFinder artistId).resolve "album" n₁).run s = .ok (.ok r₁, s₁) →
        ((albumFinder artistId).resolve "album" n₂).run s₁ = .ok (.ok r₂, s₂) →
        r₁.id ≠ r₂.id := by
  intro s hs
  have hv := hs.valid
  exact ⟨fun _ => artistFinder_resolve_of_blank,
    fun _ _ ha hname hfilled => hv.artistFinder_resolve_of_mem ha hname hfilled,
    fun _ => artistFinder_resolve_of_absent,
    fun _ _ => albumFinder_resolve_of_blank,
    fun _ _ => hv.albumFinder_resolve_of_missing,
    fun _ _ hb hname hfilled => hv.albumFinder_resolve_of_mem hb hname hfilled,
    fun _ _ => hv.albumFinder_resolve_of_absent,
    fun _ _ _ _ htrim h => hv.artistFinder_resolve_again htrim h,
    fun _ _ _ _ _ htrim h => hv.albumFinder_resolve_again htrim h,
    fun _ _ _ _ _ _ _ hne h₁ h₂ => hv.albumFinder_resolve_ids_ne hne h₁ h₂⟩

/-- In the empty store, a padded artist name adds the artist under its trimmed name as the
first artist, and resolving the bare name afterwards finds it and writes nothing. -/
theorem padded_artist_name_added_once :
    (artistFinder.resolve "artist" "  Nina Simone ").run {} =
        .ok (.ok ⟨1, "Nina Simone"⟩,
          { next := { artist := 1 }, artists := [⟨1, "Nina Simone", none⟩] }) ∧
      (artistFinder.resolve "artist" "Nina Simone").run
          { next := { artist := 1 }, artists := [⟨1, "Nina Simone", none⟩] } =
        .ok (.ok ⟨1, "Nina Simone"⟩,
          { next := { artist := 1 }, artists := [⟨1, "Nina Simone", none⟩] }) := by
  have htrim : Text.trim "  Nina Simone " = "Nina Simone" := by decide
  have hbare : Text.trim "Nina Simone" = Text.trim "  Nina Simone " := by decide
  have hadd := (names_resolve_to_one_row {} .empty).2.2.1 "  Nina Simone "
    (by rw [htrim]; decide) (fun a ha => nomatch ha)
  rw [htrim] at hadd
  exact ⟨hadd, (names_resolve_to_one_row {} .empty).2.2.2.2.2.2.2.1 _ _ _ _ hbare hadd⟩

end Jukebox
