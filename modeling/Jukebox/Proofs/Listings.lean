import Jukebox.Proofs.Patches
import Mathlib.Data.List.Lex
import Mathlib.Data.String.Basic
import Mathlib.Data.Prod.Lex

set_option autoImplicit false

/-! # Catalog listings

The catalog lists its artists, albums, genres and an owner's playlists by scanning a table,
keeping the rows a filter admits and sorting them. What a listing holds is read off the table
and the filter; the order is the sort's, and it is *strict* because of the store invariant:

* artists are sorted by name alone, so their listing is strictly increasing only because no two
  artists share a name;
* albums and genres are sorted by name and then id, strictly because ids are distinct;
* an owner's playlists are sorted by id, each with the number of its memberships.

Names compare character by character, by code point. The UTF-8 encoding keeps that order, so a
listing by name is also ordered by the names' bytes (`Text.bytes_lt_of_lt`), which is how the
order is stated here.

Main statement: `listings_hold_their_rows_in_order`.
-/

namespace Jukebox

open Catalog

/-! ## Text order is byte order -/

namespace Text

/-- A byte list headed by `x` comes before one headed by `y` when `x < y`, or when the heads are
equal and the rest comes first. -/
theorem ofNat_cons_lt {x y : Nat} {l l' : List UInt8} (hy : y < 256)
    (h : x < y ∨ (x = y ∧ l < l')) : (UInt8.ofNat x :: l) < (UInt8.ofNat y :: l') := by
  rcases h with h | ⟨rfl, h⟩
  · apply List.Lex.rel
    rw [UInt8.lt_iff_toNat_lt, UInt8.toNat_ofNat', UInt8.toNat_ofNat']
    omega
  · exact List.Lex.cons h

/-- The UTF-8 encoding orders characters as their code points, and the encoding of one character
is never a prefix of another's: whatever follows them, the smaller character's bytes come first. -/
theorem utf8EncodeChar_append_lt {c d : Char} (h : c < d) (r r' : List UInt8) :
    String.utf8EncodeChar c ++ r < String.utf8EncodeChar d ++ r' := by
  have hvw : c.val.toNat < d.val.toNat := Char.lt_def.1 h
  have hw : d.val.toNat < 1114112 := by
    have := d.valid
    simp only [UInt32.isValidChar, Nat.isValidChar] at this
    omega
  simp only [String.utf8EncodeChar]
  generalize c.val.toNat = v at *
  generalize d.val.toNat = w at *
  -- the encoding has one to four bytes by the range of the code point; the first byte tells the
  -- range, so between ranges it decides, and within one the bytes are the code point's digits
  -- in base 64 below a marked leading digit
  split_ifs <;> simp only [List.cons_append, List.nil_append]
  · exact ofNat_cons_lt (by omega) (.inl hvw)
  · exact ofNat_cons_lt (by omega) (.inl (by omega))
  · exact ofNat_cons_lt (by omega) (.inl (by omega))
  · exact ofNat_cons_lt (by omega) (.inl (by omega))
  · omega
  · by_cases hq : v / 64 = w / 64
    · exact ofNat_cons_lt (by omega) (.inr ⟨by omega, ofNat_cons_lt (by omega) (.inl (by omega))⟩)
    · exact ofNat_cons_lt (by omega) (.inl (by omega))
  · exact ofNat_cons_lt (by omega) (.inl (by omega))
  · exact ofNat_cons_lt (by omega) (.inl (by omega))
  · omega
  · omega
  · by_cases hq₁ : v / 4096 = w / 4096
    · refine ofNat_cons_lt (by omega) (.inr ⟨by omega, ?_⟩)
      by_cases hq₂ : v / 64 = w / 64
      · exact ofNat_cons_lt (by omega) (.inr ⟨by omega, ofNat_cons_lt (by omega) (.inl (by omega))⟩)
      · exact ofNat_cons_lt (by omega) (.inl (by omega))
    · exact ofNat_cons_lt (by omega) (.inl (by omega))
  · exact ofNat_cons_lt (by omega) (.inl (by omega))
  · omega
  · omega
  · omega
  · by_cases hq₁ : v / 262144 = w / 262144
    · refine ofNat_cons_lt (by omega) (.inr ⟨by omega, ?_⟩)
      by_cases hq₂ : v / 4096 = w / 4096
      · refine ofNat_cons_lt (by omega) (.inr ⟨by omega, ?_⟩)
        by_cases hq₃ : v / 64 = w / 64
        · exact ofNat_cons_lt (by omega) (.inr ⟨by omega, ofNat_cons_lt (by omega) (.inl (by omega))⟩)
        · exact ofNat_cons_lt (by omega) (.inl (by omega))
      · exact ofNat_cons_lt (by omega) (.inl (by omega))
    · exact ofNat_cons_lt (by omega) (.inl (by omega))

/-- Encoding character lists keeps their order. -/
theorem flatMap_utf8EncodeChar_lt {cs ds : List Char} (h : cs < ds) :
    cs.flatMap String.utf8EncodeChar < ds.flatMap String.utf8EncodeChar := by
  induction h with
  | nil =>
    rename_i d ds
    rw [List.flatMap_nil, List.flatMap_cons]
    cases hd : String.utf8EncodeChar d with
    | nil =>
      have hlen := String.length_utf8EncodeChar d
      rw [hd, List.length_nil] at hlen
      exact absurd hlen (Char.utf8Size_pos d).ne
    | cons b bs => exact List.Lex.nil
  | cons _ ih =>
    rw [List.flatMap_cons, List.flatMap_cons]
    exact List.Lex.append_left _ ih _
  | rel h =>
    rw [List.flatMap_cons, List.flatMap_cons]
    exact utf8EncodeChar_append_lt h _ _

/-- The UTF-8 bytes of a text are those of its characters, one after the other. -/
theorem toUTF8_data_toList (t : String) :
    t.toUTF8.data.toList = t.toList.flatMap String.utf8EncodeChar := by
  conv => lhs; rw [← String.ofList_toList (s := t)]
  rw [String.toUTF8_eq_toByteArray, String.toByteArray_ofList, List.utf8Encode,
    List.toList_data_toByteArray]

/-- A text that comes before another has the smaller UTF-8 bytes. -/
theorem bytes_lt_of_lt {a b : String} (h : a < b) : a.toUTF8.data.toList < b.toUTF8.data.toList := by
  rw [toUTF8_data_toList, toUTF8_data_toList]
  exact flatMap_utf8EncodeChar_lt (String.lt_iff_toList_lt.1 h)

end Text

/-! ## Sorting by name -/

namespace Catalog

section Sorting

variable {ρ : Type} (name : ρ → String) (id : ρ → Int)

/-- A sort keeps the rows, so keys that were distinct stay distinct. -/
theorem nodup_map_mergeSort {κ : Type} (key : ρ → κ) (le : ρ → ρ → Bool) {rows : List ρ}
    (h : (rows.map key).Nodup) : ((rows.mergeSort le).map key).Nodup :=
  ((List.mergeSort_perm rows le).map key).nodup_iff.2 h

/-- Rows sorted by name alone, when no two share a name, have strictly increasing names. -/
theorem names_lt_mergeSort_name (rows : List ρ) (hnames : (rows.map name).Nodup) :
    ((rows.mergeSort fun a b => decide (name a < name b) || name a == name b).map name).Pairwise
      (· < ·) := by
  have hle_iff (a b : ρ) : (decide (name a < name b) || name a == name b) = true ↔
      name a ≤ name b := by
    simp [le_iff_lt_or_eq]
  have hle : (rows.mergeSort fun a b => decide (name a < name b) || name a == name b).Pairwise
      fun a b => name a ≤ name b := by
    refine (List.pairwise_mergeSort (fun a b c hab hbc => ?_) (fun a b => ?_) rows).imp
      fun hab => (hle_iff _ _).1 hab
    · rw [hle_iff] at hab hbc ⊢
      exact le_trans hab hbc
    · rw [Bool.or_eq_true, hle_iff, hle_iff]
      exact le_total _ _
  exact List.pairwise_map.2
    ((hle.and (List.pairwise_map.1 (nodup_map_mergeSort name _ hnames))).imp
      fun hab => lt_of_le_of_ne hab.1 hab.2)

/-- Rows sorted by name and then id, when no two share an id, come in strictly increasing
(name, id) order. -/
theorem keys_lt_mergeSort_name_id (rows : List ρ) (hid : (rows.map id).Nodup) :
    ((rows.mergeSort fun a b => decide (name a < name b) || (name a == name b && id a ≤ id b)).map
      fun a => (name a, id a)).Pairwise (Prod.Lex (· < ·) (· < ·)) := by
  have hlex (a b : ρ) : (decide (name a < name b) || (name a == name b && id a ≤ id b)) = true ↔
      Prod.Lex (· < ·) (· ≤ ·) (name a, id a) (name b, id b) := by
    simp [Prod.lex_def]
  have hle : (rows.mergeSort fun a b =>
      decide (name a < name b) || (name a == name b && id a ≤ id b)).Pairwise
      fun a b => Prod.Lex (· < ·) (· ≤ ·) (name a, id a) (name b, id b) := by
    refine (List.pairwise_mergeSort (fun a b c hab hbc => ?_) (fun a b => ?_) rows).imp
      fun hab => (hlex _ _).1 hab
    · rw [hlex] at hab hbc ⊢
      exact IsTrans.trans _ _ _ hab hbc
    · rw [Bool.or_eq_true, hlex, hlex]
      exact total_of _ _ _
  refine List.pairwise_map.2
    ((hle.and (List.pairwise_map.1 (nodup_map_mergeSort id _ hid))).imp fun hab => ?_)
  rcases Prod.lex_def.1 hab.1 with hname | ⟨hname, hle⟩
  · exact Prod.Lex.left _ _ hname
  · exact Prod.lex_def.2 (.inr ⟨hname, lt_of_le_of_ne hle hab.2⟩)

/-- A (name, id) order on texts is one on their UTF-8 bytes. -/
theorem bytes_keys_lt {a b : String × Int} (h : Prod.Lex (· < ·) (· < ·) a b) :
    Prod.Lex (· < ·) (· < ·) (a.1.toUTF8.data.toList, a.2) (b.1.toUTF8.data.toList, b.2) := by
  rcases Prod.lex_def.1 h with hname | ⟨hname, hid⟩
  · exact Prod.Lex.left _ _ (Text.bytes_lt_of_lt hname)
  · exact Prod.lex_def.2 (.inr ⟨by rw [hname], hid⟩)

end Sorting

/-! ## The listings -/

namespace Store

variable {s : Store}

theorem mem_listArtists {needle : String} {a : Artist} :
    a ∈ s.listArtists needle ↔ a ∈ s.artists ∧ NeedleAdmits a.name needle := by
  simp only [listArtists, List.mem_mergeSort, List.mem_filter, needleMatches_iff]

/-- Artists are sorted by name alone: with names unique, their listing has strictly increasing
names. -/
theorem listArtists_names_lt (hnames : (s.artists.map (·.name)).Nodup) (needle : String) :
    ((s.listArtists needle).map (·.name)).Pairwise (· < ·) :=
  names_lt_mergeSort_name Artist.name _ ((List.filter_sublist.map _).nodup hnames)

/-- In a valid store, an artist's name under its own id is its name. -/
theorem Valid.artistName_of_mem (hv : s.Valid) {a : Artist} (ha : a ∈ s.artists) :
    s.artistName a.id = a.name := by
  simp [artistName, hv.artist?_of_mem ha]

/-- An album listing holds the albums its filters admit, each with the current name of its
artist, which exists in a valid store. -/
theorem Valid.mem_listAlbums (hv : s.Valid) {needle : String} {artistId : Option Int}
    {y : ShownAlbum} :
    y ∈ s.listAlbums needle artistId ↔
      y.album ∈ s.albums ∧ NeedleAdmits y.album.name needle ∧
        (∀ a ∈ artistId, y.album.artistId = a) ∧
        ∃ ar ∈ s.artists, ar.id = y.album.artistId ∧ y.artistName = ar.name := by
  simp only [listAlbums, List.mem_map, List.mem_mergeSort, List.mem_filter, Bool.and_eq_true,
    needleMatches_iff]
  constructor
  · rintro ⟨b, ⟨hb, hname, hartist⟩, rfl⟩
    -- the album's artist exists, and its name is the one shown
    obtain ⟨ar, har⟩ := exists_find?_of_mem (hv.albumArtist b hb)
    obtain ⟨harmem, harid⟩ := find?_id_eq_some har
    refine ⟨hb, hname, fun a ha => ?_, ar, harmem, harid,
      by simp [showAlbum, artistName, artist?, har]⟩
    rw [Option.mem_def] at ha
    subst ha
    simpa [showAlbum] using hartist
  · rintro ⟨hb, hname, hartist, ar, har, harid, hy⟩
    refine ⟨y.album, ⟨hb, hname, ?_⟩, ?_⟩
    · -- nothing to check when no artist is given
      split
      · rename_i a
        simpa using hartist a rfl
      · rfl
    · rw [showAlbum, ← harid, hv.artistName_of_mem har, ← hy]

/-- Albums are sorted by name and then id: with ids distinct, strictly. -/
theorem listAlbums_keys_lt (hid : (s.albums.map (·.id)).Nodup) (needle : String)
    (artistId : Option Int) :
    ((s.listAlbums needle artistId).map fun y => (y.album.name, y.album.id)).Pairwise
      (Prod.Lex (· < ·) (· < ·)) := by
  rw [listAlbums, List.map_map]
  exact keys_lt_mergeSort_name_id Album.name Album.id _ ((List.filter_sublist.map _).nodup hid)

theorem mem_listGenres {g : Genre} : g ∈ s.listGenres ↔ g ∈ s.genres := List.mem_mergeSort

theorem listGenres_keys_lt (hid : (s.genres.map (·.id)).Nodup) :
    (s.listGenres.map fun g => (g.name, g.id)).Pairwise (Prod.Lex (· < ·) (· < ·)) :=
  keys_lt_mergeSort_name_id Genre.name Genre.id s.genres hid

/-- With memberships distinct, a playlist's song count is the number of its memberships. -/
theorem songCount_eq_card_filter (hnodup : s.members.Nodup) (p : Int) :
    s.songCount p = (s.memberSet.filter (·.playlistId = p)).card := by
  rw [songCount, List.countP_eq_length_filter, memberSet,
    ← List.toFinset_card_of_nodup (hnodup.filter _), List.toFinset_filter]
  simp

/-- An owner's playlists are those it owns, each with the number of its memberships. -/
theorem Valid.mem_playlistsOf (hv : s.Valid) {o : Int} {y : ShownPlaylist} :
    y ∈ s.playlistsOf o ↔ y.playlist ∈ s.playlists ∧ y.playlist.ownerId = o ∧
      y.songCount = (s.memberSet.filter (·.playlistId = y.playlist.id)).card := by
  simp only [playlistsOf, List.mem_map, byId, List.mem_mergeSort, List.mem_filter, beq_iff_eq]
  constructor
  · rintro ⟨p, ⟨hp, ho⟩, rfl⟩
    exact ⟨hp, ho, songCount_eq_card_filter hv.members p.id⟩
  · rintro ⟨hp, ho, hcount⟩
    refine ⟨y.playlist, ⟨hp, ho⟩, ?_⟩
    rw [showPlaylist, songCount_eq_card_filter hv.members, ← hcount]

theorem playlistsOf_ids_lt (hid : (s.playlists.map (·.id)).Nodup) (o : Int) :
    ((s.playlistsOf o).map (·.playlist.id)).Pairwise (· < ·) := by
  rw [playlistsOf, List.map_map]
  exact byId_ids_lt _ _ ((List.filter_sublist.map _).nodup hid)

end Store

/-- Rows in increasing name order are in increasing order of their names' bytes. -/
theorem bytes_lt_of_names_lt {ρ : Type} {name : ρ → String} {rows : List ρ}
    (h : (rows.map name).Pairwise (· < ·)) :
    (rows.map fun r => (name r).toUTF8.data.toList).Pairwise (· < ·) :=
  List.pairwise_map.2 ((List.pairwise_map.1 h).imp Text.bytes_lt_of_lt)

/-- Rows in increasing (name, id) order are in increasing order of their names' bytes and ids. -/
theorem bytes_keys_lt_of_keys_lt {ρ : Type} {key : ρ → String × Int} {rows : List ρ}
    (h : (rows.map key).Pairwise (Prod.Lex (· < ·) (· < ·))) :
    (rows.map fun r => ((key r).1.toUTF8.data.toList, (key r).2)).Pairwise
      (Prod.Lex (· < ·) (· < ·)) :=
  List.pairwise_map.2 ((List.pairwise_map.1 h).imp bytes_keys_lt)

end Catalog

/-- In every reachable store each listing holds exactly the rows its filters admit, each once,
in strictly increasing order: the artists whose name a needle admits, by the bytes of their
names; the albums whose name a needle admits and, when one is given, of one artist, each with
the current name of its artist, by the bytes of their names and then by id; every genre, by the
bytes of its name and then by id; and the playlists of an owner, each with the number of its
memberships, by id. -/
theorem listings_hold_their_rows_in_order :
    ∀ s, Reachable s →
      (∀ needle : String,
        (∀ a, a ∈ s.listArtists needle ↔ a ∈ s.artists ∧ NeedleAdmits a.name needle) ∧
        ((s.listArtists needle).map (·.name.toUTF8.data.toList)).Pairwise (· < ·)) ∧
      (∀ (needle : String) (artistId : Option Int),
        (∀ y, y ∈ s.listAlbums needle artistId ↔
          y.album ∈ s.albums ∧ NeedleAdmits y.album.name needle ∧
            (∀ a ∈ artistId, y.album.artistId = a) ∧
            ∃ ar ∈ s.artists, ar.id = y.album.artistId ∧ y.artistName = ar.name) ∧
        ((s.listAlbums needle artistId).map
          fun y => (y.album.name.toUTF8.data.toList, y.album.id)).Pairwise
          (Prod.Lex (· < ·) (· < ·))) ∧
      (∀ g, g ∈ s.listGenres ↔ g ∈ s.genres) ∧
      (s.listGenres.map fun g => (g.name.toUTF8.data.toList, g.id)).Pairwise
        (Prod.Lex (· < ·) (· < ·)) ∧
      ∀ o : Int,
        (∀ y, y ∈ s.playlistsOf o ↔ y.playlist ∈ s.playlists ∧ y.playlist.ownerId = o ∧
          y.songCount = (s.memberSet.filter (·.playlistId = y.playlist.id)).card) ∧
        ((s.playlistsOf o).map (·.playlist.id)).Pairwise (· < ·) := by
  intro s hs
  have hv := hs.valid
  exact ⟨fun needle => ⟨fun a => Store.mem_listArtists,
      bytes_lt_of_names_lt (Store.listArtists_names_lt hv.artistNames needle)⟩,
    fun needle artistId => ⟨fun y => hv.mem_listAlbums,
      bytes_keys_lt_of_keys_lt (Store.listAlbums_keys_lt hv.albumIds.nodup needle artistId)⟩,
    fun g => Store.mem_listGenres,
    bytes_keys_lt_of_keys_lt (Store.listGenres_keys_lt hv.genreIds.nodup),
    fun o => ⟨fun y => hv.mem_playlistsOf, Store.playlistsOf_ids_lt hv.playlistIds.nodup o⟩⟩

/-- An album is listed under a needle in another case, for its artist, with the name of that
artist. -/
theorem album_listed_with_artist_name :
    (⟨⟨1, "Blue", 1, none⟩, "Joni Mitchell"⟩ : ShownAlbum) ∈
      Store.listAlbums
        { next := { artist := 1, album := 1 }
          artists := [⟨1, "Joni Mitchell", none⟩]
          albums := [⟨1, "Blue", 1, none⟩] }
        " BLU" (some 1) := by
  refine (((listings_hold_their_rows_in_order _ ?_).2.1 _ _).1 _).2
    ⟨List.mem_singleton_self _, Or.inr (by decide), fun a ha => Option.some_inj.1 ha,
      ⟨1, "Joni Mitchell", none⟩, List.mem_singleton_self _, rfl, rfl⟩
  -- the store an artist and then an album of the artist make
  exact .call .refusing false (.storeCreateAlbum "Blue" 1 none)
    (.call .refusing false (.storeCreateArtist "Joni Mitchell" none) .empty)

end Jukebox
