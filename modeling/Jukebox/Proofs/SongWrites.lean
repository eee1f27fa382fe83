import Jukebox.Proofs.Resolution
import Jukebox.Proofs.Calls

set_option autoImplicit false

/-! # Creating and changing songs

A song write checks its input, then runs one transaction: it checks the genre, resolves the
artist slot and the album slot (an id must name a row, a name is found or added) and writes the
row. Its checks come in a fixed order and the first one that fails is the answer; a failure
inside the transaction leaves the store as it was, rows added by name included.

Here that order is written flat, as a list of checks on the input and on the store *before* the
write (`creationChecks`, `updateChecks`), each the failure it raises (`failIf`, and the slot
failures `artistRefFault`, `albumRefFault`), and the row a write that passes them stores
(`createdSong`, `updatedSong`), field by field. The finder's rounds, the look-ups of the
transaction and its rollback do not appear in these statements: the album slot is checked
against the store before the artist slot was resolved, since resolving an artist adds no album.

Main statements: `song_creation_checks_in_order` (a creation answers the first failing check,
changes nothing then, and otherwise stores `createdSong`) and `song_update_follows_patch` (the
same for an update, which moreover touches no other song and no membership, adds at most one
artist and one album, answers the song as the store then shows it, and with an empty patch
leaves the store as it was).
-/

namespace Jukebox

open Catalog Service

/-! ## Checks made in order -/

namespace Service

/-- A check that fails with `e` when `bad` holds. -/
def failIf (bad : Bool) (e : Fault) : Option Fault := if bad then some e else none

/-- The failure of the first check of a list that fails. -/
def firstFailure (checks : List (Option Fault)) : Option Fault := checks.findSome? id

@[simp] theorem failIf_true (e : Fault) : failIf true e = some e := rfl

@[simp] theorem failIf_false (e : Fault) : failIf false e = none := rfl

@[simp] theorem firstFailure_nil : firstFailure [] = none := rfl

@[simp] theorem firstFailure_cons (c : Option Fault) (cs : List (Option Fault)) :
    firstFailure (c :: cs) = c.or (firstFailure cs) := by
  cases c <;> rfl

theorem failIf_eq_none {bad : Bool} {e : Fault} : failIf bad e = none ↔ bad = false := by
  cases bad <;> simp

theorem firstFailure_append (cs ds : List (Option Fault)) :
    firstFailure (cs ++ ds) = (firstFailure cs).or (firstFailure ds) := by
  induction cs with
  | nil => rfl
  | cons c cs ih => simp [ih, Option.or_assoc]

/-- Putting every failure of a list in context puts the first one in context. -/
theorem firstFailure_map (f : Fault → Fault) (cs : List (Option Fault)) :
    firstFailure (cs.map (·.map f)) = (firstFailure cs).map f := by
  induction cs with
  | nil => rfl
  | cons c cs ih =>
    cases c <;> simp [ih]

/-- Whether a reference slot is filled. -/
def Ref.given : Ref → Bool
  | .absent => false
  | _ => true

end Service

/-! ## What resolving a slot does to the store -/

namespace Catalog.Store

variable (s : Store)

theorem genre?_isSome_iff (id : Int) : (s.genre? id).isSome ↔ id ∈ s.genres.map (·.id) := by
  simp [genre?, List.find?_isSome]

theorem artist?_isSome_iff (id : Int) : (s.artist? id).isSome ↔ id ∈ s.artists.map (·.id) := by
  simp [artist?, List.find?_isSome]

theorem album?_isSome_iff (id : Int) : (s.album? id).isSome ↔ id ∈ s.albums.map (·.id) := by
  simp [album?, List.find?_isSome]

/-- Finding or adding an artist changes only the artists and their counter, and adds at most
one artist. -/
theorem findOrAddArtist_frame (key : String) : ∃ n added,
    (s.findOrAddArtist key).2 =
      { s with next := { s.next with artist := n }, artists := s.artists ++ added } ∧
      added.length ≤ 1 := by
  unfold findOrAddArtist
  split
  · exact ⟨s.next.artist, [], by rw [List.append_nil], by simp⟩
  · exact ⟨_, _, rfl, by simp⟩

theorem findOrAddArtist_mem (key : String) :
    (s.findOrAddArtist key).1 ∈ (s.findOrAddArtist key).2.artists := by
  unfold findOrAddArtist
  split
  · rename_i a ha
    exact List.mem_of_find?_eq_some ha
  · simp [addArtist]

/-- Finding or adding an album changes only the albums and their counter, and adds at most one
album. -/
theorem findOrAddAlbum_frame (key : String) (artistId : Int) : ∃ n added,
    (s.findOrAddAlbum key artistId).2 =
      { s with next := { s.next with album := n }, albums := s.albums ++ added } ∧
      added.length ≤ 1 := by
  unfold findOrAddAlbum
  split
  · exact ⟨s.next.album, [], by rw [List.append_nil], by simp⟩
  · exact ⟨_, _, rfl, by simp⟩

theorem findOrAddAlbum_mem (key : String) (artistId : Int) :
    (s.findOrAddAlbum key artistId).1 ∈ (s.findOrAddAlbum key artistId).2.albums := by
  unfold findOrAddAlbum
  split
  · rename_i b hb
    exact List.mem_of_find?_eq_some hb
  · simp [addAlbum]

end Catalog.Store

/-! ## Replacing a row in place -/

namespace Catalog

variable {ρ : Type} (id : ρ → Int) {r : ρ} {rows : List ρ}

/-- Replacing a row changes no row with another id. -/
theorem filter_replaceById (r : ρ) (rows : List ρ) :
    (replaceById id r rows).filter (fun x => id x != id r) =
      rows.filter fun x => id x != id r := by
  induction rows with
  | nil => rfl
  | cons x xs ih => by_cases hx : id x = id r <;> simpa [replaceById, List.filter_cons, hx] using ih

/-- The row found under a key is found there again as the row that replaced it. -/
theorem find?_replaceById {x : ρ} {k : Int} (hx : rows.find? (fun y => id y == k) = some x)
    (hr : id r = id x) : (replaceById id r rows).find? (fun y => id y == k) = some r := by
  have hxk : id x = k := by simpa using List.find?_some hx
  -- replacing keeps every row's id, so the search stops at the same place
  have hsame : ((fun y => id y == k) ∘ fun y => if id y == id r then r else y) =
      fun y => id y == k := by
    funext y
    by_cases hy : id y = k <;> simp [hy, hr, hxk]
  rw [replaceById, List.find?_map, hsame, hx]
  simp [hr]

/-- Replacing a row by itself, in a table whose ids are distinct, changes nothing. -/
theorem replaceById_of_mem (hid : (rows.map id).Nodup) (hr : r ∈ rows) :
    replaceById id r rows = rows := by
  conv_rhs => rw [← List.map_id rows]
  apply List.map_congr_left
  intro x hx
  by_cases hxr : id x = id r
  · simp [List.inj_on_of_nodup_map hid hx hr hxr]
  · simp [hxr]

end Catalog

namespace Service

variable (s : Store)

/-- Resolving an artist slot changes only the artists and their counter, and adds at most one
artist. -/
theorem artistSlot_frame (ref : Ref) : ∃ n added,
    (artistSlot s ref).2 =
      { s with next := { s.next with artist := n }, artists := s.artists ++ added } ∧
      added.length ≤ 1 := by
  cases ref with
  | byName name => exact s.findOrAddArtist_frame _
  | absent | byId _ => exact ⟨s.next.artist, [], by rw [List.append_nil]; rfl, by simp⟩

/-- Resolving an album slot changes only the albums and their counter, and adds at most one
album. -/
theorem albumSlot_frame (artistId : Option Int) (ref : Ref) : ∃ n added,
    (albumSlot s artistId ref).2 =
      { s with next := { s.next with album := n }, albums := s.albums ++ added } ∧
      added.length ≤ 1 := by
  cases ref with
  | byName name =>
    cases artistId with
    | some a => exact s.findOrAddAlbum_frame _ a
    | none => exact ⟨s.next.album, [], by rw [List.append_nil]; rfl, by simp⟩
  | absent | byId _ => exact ⟨s.next.album, [], by rw [List.append_nil]; rfl, by simp⟩

@[simp] theorem artistSlot_isSome (ref : Ref) : (artistSlot s ref).1.isSome = ref.given := by
  cases ref <;> rfl

/-! What a slot keeps, read off its frame: the tables it does not write, and every row of the
one it writes. -/

@[simp] theorem artistSlot_genres (ref : Ref) : (artistSlot s ref).2.genres = s.genres := by
  obtain ⟨n, added, h, -⟩ := artistSlot_frame s ref
  rw [h]

@[simp] theorem artistSlot_albums (ref : Ref) : (artistSlot s ref).2.albums = s.albums := by
  obtain ⟨n, added, h, -⟩ := artistSlot_frame s ref
  rw [h]

@[simp] theorem artistSlot_songs (ref : Ref) : (artistSlot s ref).2.songs = s.songs := by
  obtain ⟨n, added, h, -⟩ := artistSlot_frame s ref
  rw [h]

@[simp] theorem artistSlot_next_song (ref : Ref) :
    (artistSlot s ref).2.next.song = s.next.song := by
  obtain ⟨n, added, h, -⟩ := artistSlot_frame s ref
  rw [h]

@[simp] theorem albumSlot_genres (artistId : Option Int) (ref : Ref) :
    (albumSlot s artistId ref).2.genres = s.genres := by
  obtain ⟨n, added, h, -⟩ := albumSlot_frame s artistId ref
  rw [h]

@[simp] theorem albumSlot_artists (artistId : Option Int) (ref : Ref) :
    (albumSlot s artistId ref).2.artists = s.artists := by
  obtain ⟨n, added, h, -⟩ := albumSlot_frame s artistId ref
  rw [h]

@[simp] theorem albumSlot_songs (artistId : Option Int) (ref : Ref) :
    (albumSlot s artistId ref).2.songs = s.songs := by
  obtain ⟨n, added, h, -⟩ := albumSlot_frame s artistId ref
  rw [h]

@[simp] theorem albumSlot_next_song (artistId : Option Int) (ref : Ref) :
    (albumSlot s artistId ref).2.next.song = s.next.song := by
  obtain ⟨n, added, h, -⟩ := albumSlot_frame s artistId ref
  rw [h]

theorem artistSlot_keeps_artist {ref : Ref} {a : Int} (ha : a ∈ s.artists.map (·.id)) :
    a ∈ (artistSlot s ref).2.artists.map (·.id) := by
  obtain ⟨n, added, h, -⟩ := artistSlot_frame s ref
  rw [h, List.map_append]
  exact List.mem_append_left _ ha

theorem albumSlot_keeps_album {artistId : Option Int} {ref : Ref} {b : Int}
    (hb : b ∈ s.albums.map (·.id)) : b ∈ (albumSlot s artistId ref).2.albums.map (·.id) := by
  obtain ⟨n, added, h, -⟩ := albumSlot_frame s artistId ref
  rw [h, List.map_append]
  exact List.mem_append_left _ hb

/-- A filled artist slot that raises no failure names an artist of the store it leaves. -/
theorem artistSlot_exists {ref : Ref} (h : artistRefFault s ref = none) :
    ∀ a ∈ (artistSlot s ref).1, a ∈ (artistSlot s ref).2.artists.map (·.id) := by
  intro a ha
  cases ref with
  | absent => cases ha
  | byId id =>
    simp only [artistSlot, Option.mem_def, Option.some.injEq] at ha
    subst ha
    rw [← Store.artist?_isSome_iff]
    simpa [artistRefFault, artistSlot, Option.isSome_iff_ne_none] using h
  | byName name =>
    simp only [artistSlot, Option.mem_def, Option.some.injEq] at ha
    subst ha
    exact List.mem_map_of_mem (Store.findOrAddArtist_mem s _)

/-- A filled album slot that raises no failure names an album of the store it leaves. -/
theorem albumSlot_exists {artistId : Option Int} {ref : Ref}
    (h : albumRefFault s artistId.isSome ref = none) :
    ∀ b ∈ (albumSlot s artistId ref).1, b ∈ (albumSlot s artistId ref).2.albums.map (·.id) := by
  intro b hb
  cases ref with
  | absent => cases hb
  | byId id =>
    simp only [albumSlot, Option.mem_def, Option.some.injEq] at hb
    subst hb
    rw [← Store.album?_isSome_iff]
    simpa [albumRefFault, albumSlot, Option.isSome_iff_ne_none] using h
  | byName name =>
    cases artistId with
    | none => simp [albumRefFault] at h
    | some a =>
      simp only [albumSlot, Option.mem_def, Option.some.injEq] at hb
      subst hb
      exact List.mem_map_of_mem (Store.findOrAddAlbum_mem s _ a)

/-- The failure of an album slot depends on the albums only. -/
theorem albumRefFault_of_albums {s s' : Store} (h : s'.albums = s.albums) (keyed : Bool)
    (ref : Ref) : albumRefFault s' keyed ref = albumRefFault s keyed ref := by
  cases ref <;> simp [albumRefFault, Store.album?, h]

end Service

/-! ## The checks of the store's song writes -/

/-- A row whose genre, artist and album exist and whose likes are not negative passes the
store's checks; with `Store.songFits_of_check`, the checks ask exactly that. -/
theorem Catalog.Store.checkSong_ok {s : Store} {x : Song}
    (hg : x.genreId ∈ s.genres.map (·.id)) (ha : ∀ a ∈ x.artistId, a ∈ s.artists.map (·.id))
    (hb : ∀ b ∈ x.albumId, b ∈ s.albums.map (·.id)) (hl : 0 ≤ x.likes) :
    s.checkSong x = .ok () := by
  have hgenre : (s.genre? x.genreId).isNone = false := by
    simpa [Option.isSome_iff_ne_none] using (s.genre?_isSome_iff _).2 hg
  have hartist : ((x.artistId.map fun a => (s.artist? a).isNone) == some true) = false := by
    cases hx : x.artistId with
    | none => rfl
    | some a =>
      simpa [Option.isSome_iff_ne_none] using (s.artist?_isSome_iff a).2 (ha a hx)
  have halbum : ((x.albumId.map fun b => (s.album? b).isNone) == some true) = false := by
    cases hx : x.albumId with
    | none => rfl
    | some b =>
      simpa [Option.isSome_iff_ne_none] using (s.album?_isSome_iff b).2 (hb b hx)
  have hlikes : ¬x.likes < 0 := by omega
  simp [Store.checkSong, hgenre, hartist, halbum, hlikes]

/-- A song draft whose row passes the store's checks is appended under the next song id. -/
theorem Catalog.Store.createSong_run {s : Store} {d : SongDraft}
    (h : s.checkSong (d.row (s.next.song + 1)) = .ok ()) :
    (Store.createSong d).run s =
      .ok (Store.showSong
          { s with
            next := { s.next with song := s.next.song + 1 }
            songs := s.songs ++ [d.row (s.next.song + 1)] }
          (d.row (s.next.song + 1)),
        { s with
          next := { s.next with song := s.next.song + 1 }
          songs := s.songs ++ [d.row (s.next.song + 1)] }) := by
  simp only [SongDraft.row] at h
  simp only [Store.createSong, StateT.run, SongDraft.row, h]

/-- A change to a song that exists, whose result passes the store's checks, replaces the row. -/
theorem Catalog.Store.updateSong_run {s : Store} {id : Int} {c : SongChange} {x : Song}
    (hx : s.song? id = some x) (h : s.checkSong (c.apply x) = .ok ()) :
    (Store.updateSong id c).run s =
      .ok (Store.showSong { s with songs := replaceById (·.id) (c.apply x) s.songs } (c.apply x),
        { s with songs := replaceById (·.id) (c.apply x) s.songs }) := by
  simp only [Store.updateSong, StateT.run, hx, h]

/-- A change keeps every field it does not give; a given cover is stored without the empty
text. -/
theorem Catalog.SongChange.apply_eq (c : SongChange) (x : Song) :
    c.apply x =
      { x with
        name := c.name.getD x.name
        artistId := c.artistId.or x.artistId
        albumId := c.albumId.or x.albumId
        genreId := c.genreId.getD x.genreId
        likes := (c.likes.map Int64.toInt).getD x.likes
        audio := c.audio.getD x.audio
        cover := (c.cover.map fun p => nonEmpty (some p)).getD x.cover } := by
  obtain ⟨name, artistId, albumId, genreId, likes, audio, cover⟩ := c
  cases artistId <;> cases albumId <;> cases cover <;> rfl

/-- The artist a stored song shows, its own or its album's, is an artist of the store. -/
theorem Catalog.Store.Valid.display_artist {s : Store} (hv : s.Valid) {x : Song}
    (hx : x ∈ s.songs) : ∀ a ∈ (s.display x).artistId, a ∈ s.artists.map (·.id) := by
  intro a ha
  simp only [Store.display] at ha
  cases hown : x.artistId with
  | some a' =>
    rw [hown, Option.mem_def, Option.some.injEq] at ha
    subst ha
    exact (hv.songs x hx).artist a' hown
  | none =>
    rw [hown, Option.mem_def, Option.map_eq_some_iff] at ha
    obtain ⟨b, hb, rfl⟩ := ha
    obtain ⟨bid, -, hfind⟩ := Option.bind_eq_some_iff.1 hb
    exact hv.albumArtist b (List.mem_of_find?_eq_some hfind)

/-! ## Creating a song -/

namespace Service

variable {cancelled : Bool} {input : SongInput} {s : Store}

theorem requireText_of_blank {field value : String} (h : (Text.trim value).isEmpty = true) :
    requireText field value = .error (Fault.invalid field "is required") := by
  simp [requireText, h]

theorem requireText_of_filled {field value : String} (h : (Text.trim value).isEmpty = false) :
    requireText field value = .ok (Text.trim value) := by
  simp [requireText, h]

theorem checkLikes_of_negative {likes : Option Int64} (h : likes.any (· < 0) = true) :
    checkLikes likes = .error (Fault.invalid "likes" "must not be negative") := by
  cases likes with
  | none => cases h
  | some l => simpa [checkLikes] using h

theorem checkLikes_of_ok {likes : Option Int64} (h : likes.any (· < 0) = false) :
    checkLikes likes = .ok () := by
  cases likes with
  | none => rfl
  | some l => simpa [checkLikes] using h

/-- The checks a song creation makes on its input alone, before its transaction: the name and
the audio reference are not blank once trimmed, the genre is given and the likes, if given, are
not negative. -/
def creationInputChecks (input : SongInput) : List (Option Fault) :=
  [failIf (Text.trim input.name).isEmpty (Fault.invalid "name" "is required"),
   failIf (Text.trim input.audio).isEmpty (Fault.invalid "audioUrl" "is required"),
   failIf input.genreId.isNone (Fault.invalid "genreId" "is required"),
   failIf (input.likes.any (· < 0)) (Fault.invalid "likes" "must not be negative")]

/-- The checks a song creation makes inside its transaction, against the store before it: the
genre exists, then the artist slot and the album slot raise no failure. -/
def creationStoreChecks (s : Store) (input : SongInput) : List (Option Fault) :=
  [failIf (input.genreId.any fun g => (s.genre? g).isNone) (Fault.notFound "genreId"),
   artistRefFault s input.artist,
   albumRefFault s input.artist.given input.album]

/-- Every check of a song creation in the order it makes them: those on the input, then the
request still live and the store checks, whose failures are put in context. -/
def creationChecks (cancelled : Bool) (s : Store) (input : SongInput) : List (Option Fault) :=
  creationInputChecks input ++
    (failIf cancelled Fault.canceled :: creationStoreChecks s input).map
      (·.map (.wrapped "create song"))

/-- The song a creation that passes its checks stores, with the genre `genreId`, and the store it
leaves: the artist slot and then the album slot resolved, and the row appended under the next
song id, with its name and audio reference trimmed, no likes unless given, and its cover
trimmed and dropped when empty. -/
def createdSong (s : Store) (input : SongInput) (genreId : Int) : Song × Store :=
  let artist := artistSlot s input.artist
  let album := albumSlot artist.2 artist.1 input.album
  let song : Song := ⟨s.next.song + 1, Text.trim input.name, artist.1, album.1, genreId,
    (input.likes.getD 0).toInt, Text.trim input.audio, nonEmpty (trimmed input.cover)⟩
  (song,
    { album.2 with
      next := { album.2.next with song := s.next.song + 1 }
      songs := s.songs ++ [song] })

/-- The transaction of a song creation whose input passed its first checks. -/
def creationTx (input : SongInput) (name audio : String) (genreId : Int) : Tx ShownSong := do
  requireRow "genreId" ((← get).genreById genreId)
  let artistId ← resolveArtist input.artist
  let albumId ← resolveAlbum artistId input.album
  Store.createSong {
    name := name
    artistId := artistId
    albumId := albumId
    genreId := genreId
    likes := input.likes.getD 0
    audio := audio
    cover := trimmed input.cover }

/-- An input that passes the checks made on it alone. -/
theorem creationInputChecks_pass (h : firstFailure (creationInputChecks input) = none) :
    (Text.trim input.name).isEmpty = false ∧ (Text.trim input.audio).isEmpty = false ∧
      (∃ g, input.genreId = some g) ∧ input.likes.any (· < 0) = false := by
  simp only [creationInputChecks, firstFailure_cons, firstFailure_nil, Option.or_eq_none_iff,
    failIf_eq_none] at h
  obtain ⟨hname, haudio, hg, hlikes, -⟩ := h
  exact ⟨hname, haudio, Option.isSome_iff_exists.1 (by simpa using hg), hlikes⟩

/-- An input check that fails is the answer, and nothing is written. -/
theorem createSong_of_input_failure {e : Fault}
    (h : firstFailure (creationInputChecks input) = some e) :
    createSong cancelled input s = (.error e, s) := by
  simp only [creationInputChecks, firstFailure_cons, firstFailure_nil] at h
  unfold createSong
  -- the checks are made one after the other; each case rewrites the one that decides
  cases hname : (Text.trim input.name).isEmpty with
  | true =>
    rw [hname, failIf_true, Option.some_or] at h
    cases h
    rw [requireText_of_blank hname]
    rfl
  | false =>
  rw [hname, failIf_false, Option.none_or] at h
  rw [requireText_of_filled hname]
  cases haudio : (Text.trim input.audio).isEmpty with
  | true =>
    rw [haudio, failIf_true, Option.some_or] at h
    cases h
    rw [requireText_of_blank haudio]
    rfl
  | false =>
  rw [haudio, failIf_false, Option.none_or] at h
  rw [requireText_of_filled haudio]
  cases hg : input.genreId with
  | none =>
    rw [hg, Option.isNone_none, failIf_true, Option.some_or] at h
    cases h
    rfl
  | some g =>
  rw [hg, Option.isNone_some, failIf_false, Option.none_or] at h
  cases hlikes : input.likes.any (· < 0) with
  | true =>
    rw [hlikes, failIf_true, Option.some_or] at h
    cases h
    rw [checkLikes_of_negative hlikes]
    rfl
  | false =>
    rw [hlikes, failIf_false, Option.none_or] at h
    cases h

/-- An input that passes its checks is written by the creation transaction. -/
theorem createSong_of_input_pass {g : Int} (hname : (Text.trim input.name).isEmpty = false)
    (haudio : (Text.trim input.audio).isEmpty = false) (hg : input.genreId = some g)
    (hlikes : input.likes.any (· < 0) = false) :
    createSong cancelled input s =
      (commitFor cancelled (creationTx input (Text.trim input.name) (Text.trim input.audio) g)
        s).within "create song" := by
  unfold createSong
  rw [requireText_of_filled hname, requireText_of_filled haudio, hg, checkLikes_of_ok hlikes]
  rfl

/-- The row a creation stores passes the store's checks in the store its slots leave: the
genre was checked, a filled slot names a row and the likes are not negative. -/
theorem createdSong_check {g : Int} (hg : (s.genre? g).isSome)
    (hlikes : input.likes.any (· < 0) = false) (hartist : artistRefFault s input.artist = none)
    (halbum : albumRefFault (artistSlot s input.artist).2 (artistSlot s input.artist).1.isSome
      input.album = none) :
    (albumSlot (artistSlot s input.artist).2 (artistSlot s input.artist).1 input.album).2.checkSong
      (createdSong s input g).1 = .ok () := by
  refine Store.checkSong_ok ?_ ?_ ?_ ?_
  · rw [albumSlot_genres, artistSlot_genres]
    exact (s.genre?_isSome_iff g).1 hg
  · intro a ha
    rw [albumSlot_artists]
    exact artistSlot_exists s hartist a ha
  · exact albumSlot_exists _ halbum
  · cases hl : input.likes with
    | none => simp [createdSong, hl]
    | some l => simpa [createdSong, hl, Int64.lt_iff_toInt_lt] using hlikes

/-- The creation transaction fails with the first store check that fails, and otherwise leaves
`createdSong`. -/
theorem creationTx_run {g : Int} (hg : input.genreId = some g)
    (hlikes : input.likes.any (· < 0) = false) (s : Store) :
    (creationTx input (Text.trim input.name) (Text.trim input.audio) g).run s =
      (firstFailure (creationStoreChecks s input)).elim
        (.ok ((createdSong s input g).2.showSong (createdSong s input g).1,
          (createdSong s input g).2)) .error := by
  unfold creationTx
  rw [Tx.run_bind_of_ok get_run]
  rcases hgenre : s.genre? g with _ | genre
  · -- a missing genre is reported under the input field
    have hread : s.genreById g = .error (Fault.notFound "genre") := by
      simp [Store.genreById, hgenre]
    rw [Tx.run_bind_of_error (requireRow_run_error hread)]
    simp [creationStoreChecks, hg, hgenre]
  have hread : s.genreById g = .ok genre := by simp [Store.genreById, hgenre]
  rw [Tx.run_bind_of_ok (requireRow_run_ok hread)]
  rcases hartist : artistRefFault s input.artist with _ | e
  swap
  · rw [Tx.run_bind_of_error (resolveArtist_run_of_fault hartist)]
    simp [creationStoreChecks, hg, hgenre, hartist]
  have hresolved : (resolveArtist input.artist).run s =
      .ok ((artistSlot s input.artist).1, (artistSlot s input.artist).2) :=
    resolveArtist_run hartist
  rw [Tx.run_bind_of_ok hresolved]
  -- the album slot is resolved in the store the artist slot left, which has the same albums
  have hkeyed : albumRefFault (artistSlot s input.artist).2 (artistSlot s input.artist).1.isSome
      input.album = albumRefFault s input.artist.given input.album := by
    rw [artistSlot_isSome, albumRefFault_of_albums (artistSlot_albums s input.artist)]
  rcases halbum : albumRefFault s input.artist.given input.album with _ | e
  swap
  · rw [Tx.run_bind_of_error (resolveAlbum_run_of_fault (hkeyed.trans halbum))]
    simp [creationStoreChecks, hg, hgenre, hartist, halbum]
  have hnone := hkeyed.trans halbum
  have hresolved : (resolveAlbum (artistSlot s input.artist).1 input.album).run
        (artistSlot s input.artist).2 =
      .ok ((albumSlot (artistSlot s input.artist).2 (artistSlot s input.artist).1 input.album).1,
        (albumSlot (artistSlot s input.artist).2 (artistSlot s input.artist).1 input.album).2) :=
    resolveAlbum_run (fun a ha => (Store.artist?_isSome_iff _ a).2 (artistSlot_exists s hartist a ha))
      hnone
  rw [Tx.run_bind_of_ok hresolved]
  -- the row the draft makes is the one `createdSong` describes, in a store with the same songs
  have hnext : (albumSlot (artistSlot s input.artist).2 (artistSlot s input.artist).1
      input.album).2.next.song = s.next.song := by simp
  have hsongs : (albumSlot (artistSlot s input.artist).2 (artistSlot s input.artist).1
      input.album).2.songs = s.songs := by simp
  have hrow : SongDraft.row
      { name := Text.trim input.name
        artistId := (artistSlot s input.artist).1
        albumId := (albumSlot (artistSlot s input.artist).2 (artistSlot s input.artist).1
          input.album).1
        genreId := g
        likes := input.likes.getD 0
        audio := Text.trim input.audio
        cover := trimmed input.cover }
      ((albumSlot (artistSlot s input.artist).2 (artistSlot s input.artist).1
        input.album).2.next.song + 1) = (createdSong s input g).1 := by
    rw [hnext]
    rfl
  have hknown : (s.genre? g).isSome := by simp [hgenre]
  have hcheck := createdSong_check hknown hlikes hartist hnone
  rw [← hrow] at hcheck
  rw [Store.createSong_run hcheck, hrow, hnext, hsongs]
  simp only [creationStoreChecks, hg, hgenre, hartist, halbum, Option.any_some,
    Option.isNone_some, failIf_false, firstFailure_cons, firstFailure_nil, Option.or_self,
    Option.elim_none]
  rfl

/-- A transaction whose run follows a list of checks, committed for a request and put in
context, answers the first failure among the request's own check and those, in context. -/
theorem within_commitFor_of_run {α : Type} {t : Tx α} {checks : List (Option Fault)} {a : α}
    {s' : Store} (h : t.run s = (firstFailure checks).elim (.ok (a, s')) .error)
    (cancelled : Bool) (context : String) :
    (commitFor cancelled t s).within context =
      (firstFailure ((failIf cancelled Fault.canceled :: checks).map
        (·.map (.wrapped context)))).elim (.ok a, s') fun e => (.error e, s) := by
  rw [firstFailure_map]
  cases cancelled with
  | true => rfl
  | false =>
    simp only [commitFor, Bool.false_eq_true, ↓reduceIte, failIf_false, firstFailure_cons,
      Option.none_or]
    unfold Tx.commit
    rw [h]
    cases firstFailure checks <;> rfl

/-- A creation whose checks fail answers the first failure and writes nothing. -/
theorem createSong_of_failure {e : Fault}
    (h : firstFailure (creationChecks cancelled s input) = some e) :
    createSong cancelled input s = (.error e, s) := by
  rw [creationChecks, firstFailure_append] at h
  rcases hin : firstFailure (creationInputChecks input) with _ | e'
  · obtain ⟨hname, haudio, ⟨g, hg⟩, hlikes⟩ := creationInputChecks_pass hin
    rw [hin, Option.none_or] at h
    rw [createSong_of_input_pass hname haudio hg hlikes,
      within_commitFor_of_run (creationTx_run hg hlikes s), h]
    rfl
  · rw [hin, Option.some_or] at h
    cases h
    exact createSong_of_input_failure hin

/-- A creation whose checks all pass stores `createdSong` and answers it as shown. -/
theorem createSong_of_pass (h : firstFailure (creationChecks cancelled s input) = none) :
    ∃ g, input.genreId = some g ∧
      createSong cancelled input s =
        (.ok ((createdSong s input g).2.showSong (createdSong s input g).1),
          (createdSong s input g).2) := by
  rw [creationChecks, firstFailure_append, Option.or_eq_none_iff] at h
  obtain ⟨hin, hstore⟩ := h
  obtain ⟨hname, haudio, ⟨g, hg⟩, hlikes⟩ := creationInputChecks_pass hin
  refine ⟨g, hg, ?_⟩
  rw [createSong_of_input_pass hname haudio hg hlikes,
    within_commitFor_of_run (creationTx_run hg hlikes s), hstore]
  rfl

/-- A song creation answers the first of its checks that fails, in the order name, audio
reference, genre given, likes, request live, genre exists, artist slot and album slot, and then
changes nothing; when none fails it stores `createdSong` and answers it as the store shows it. -/
theorem song_creation_checks_in_order (cancelled : Bool) (input : SongInput) (s : Store) :
    (∀ e, firstFailure (creationChecks cancelled s input) = some e →
      createSong cancelled input s = (.error e, s)) ∧
    (firstFailure (creationChecks cancelled s input) = none →
      ∃ g, input.genreId = some g ∧
        createSong cancelled input s =
          (.ok ((createdSong s input g).2.showSong (createdSong s input g).1),
            (createdSong s input g).2)) :=
  ⟨fun _ h => createSong_of_failure h, createSong_of_pass⟩

end Service

/-! ## Changing a song -/

namespace Service

variable {cancelled : Bool} {id : Int} {patch : SongPatch} {s : Store}

/-- The checks a song update makes on its patch alone, before its transaction: a given name or
audio reference is not blank once trimmed, and given likes are not negative. -/
def updateInputChecks (patch : SongPatch) : List (Option Fault) :=
  [failIf (patch.name.any fun n => (Text.trim n).isEmpty) (Fault.invalid "name" "is required"),
   failIf (patch.audio.any fun a => (Text.trim a).isEmpty)
     (Fault.invalid "audioUrl" "is required"),
   failIf (patch.likes.any (· < 0)) (Fault.invalid "likes" "must not be negative")]

/-- The artist a stored song shows: its own, else its album's. -/
def shownArtist (s : Store) (id : Int) : Option Int :=
  (s.song? id).bind fun x => (s.display x).artistId

/-- The checks a song update makes inside its transaction, against the store before it: the
song exists, a given genre exists, the artist slot raises no failure, and the album slot raises
none, keyed when the patch names an artist or the song shows one. -/
def updateStoreChecks (s : Store) (id : Int) (patch : SongPatch) : List (Option Fault) :=
  [failIf (s.song? id).isNone (Fault.notFound "song"),
   failIf (patch.genreId.any fun g => (s.genre? g).isNone) (Fault.notFound "genreId"),
   artistRefFault s patch.artist,
   albumRefFault s (patch.artist.given || (shownArtist s id).isSome) patch.album]

/-- Every check of a song update in the order it makes them: those on the patch, then the
request still live and the store checks, whose failures are put in context. -/
def updateChecks (cancelled : Bool) (s : Store) (id : Int) (patch : SongPatch) :
    List (Option Fault) :=
  updateInputChecks patch ++
    (failIf cancelled Fault.canceled :: updateStoreChecks s id patch).map
      (·.map (.wrapped ("update song " ++ toString id)))

/-- The row an update that passes its checks stores in place of `previous`, and the store it
leaves: the artist slot resolved, then the album slot keyed on that artist or else on the one
the song showed, and the row replaced. A field the patch gives replaces the stored one (the name
and the audio reference trimmed, the cover trimmed and dropped when empty, a slot by what it
resolves to); every other field keeps its value. -/
def updatedSong (s : Store) (previous : Song) (patch : SongPatch) : Song × Store :=
  let artist := artistSlot s patch.artist
  let album := albumSlot artist.2 (artist.1.or (s.display previous).artistId) patch.album
  let song : Song :=
    { previous with
      name := (patch.name.map Text.trim).getD previous.name
      artistId := artist.1.or previous.artistId
      albumId := album.1.or previous.albumId
      genreId := patch.genreId.getD previous.genreId
      likes := (patch.likes.map Int64.toInt).getD previous.likes
      audio := (patch.audio.map Text.trim).getD previous.audio
      cover := (patch.cover.map fun c => nonEmpty (some (Text.trim c))).getD previous.cover }
  (song, { album.2 with songs := replaceById (·.id) song s.songs })

/-- What a song update does once its artist slot resolved to `artistId`: it resolves the album
slot keyed on `albumArtist` and writes the row. -/
def updateRow (id : Int) (patch : SongPatch) (name audio : Option String) (previous : ShownSong)
    (artistId albumArtist : Option Int) : Tx SongUpdate := do
  let albumId ← resolveAlbum albumArtist patch.album
  let updated ← Store.updateSong id {
    name := name
    artistId := artistId
    albumId := albumId
    genreId := patch.genreId
    likes := patch.likes
    audio := audio
    cover := trimmed patch.cover }
  pure ⟨updated, staleFiles previous.song updated.song⟩

/-- What a song update does once it has read the song and checked the genre. -/
def updateSlots (id : Int) (patch : SongPatch) (name audio : Option String)
    (previous : ShownSong) : Tx SongUpdate := do
  let artistId ← resolveArtist patch.artist
  let albumArtist := match artistId with
    | some a => some a
    | none => previous.display.artistId
  updateRow id patch name audio previous artistId albumArtist

/-- The transaction of a song update whose patch passed its first checks. -/
def updateTx (id : Int) (patch : SongPatch) (name audio : Option String) : Tx SongUpdate := do
  let previous ← Tx.read fun st => st.songById id
  match patch.genreId with
  | some g => requireRow "genreId" ((← get).genreById g)
  | none => pure ()
  updateSlots id patch name audio previous

/-- A patch that passes the checks made on it alone. -/
theorem updateInputChecks_pass (h : firstFailure (updateInputChecks patch) = none) :
    (∀ n, patch.name = some n → (Text.trim n).isEmpty = false) ∧
      (∀ a, patch.audio = some a → (Text.trim a).isEmpty = false) ∧
      patch.likes.any (· < 0) = false := by
  simp only [updateInputChecks, firstFailure_cons, firstFailure_nil, Option.or_eq_none_iff,
    failIf_eq_none] at h
  obtain ⟨hname, haudio, hlikes, -⟩ := h
  exact ⟨fun n hn => by simpa [hn] using hname, fun a ha => by simpa [ha] using haudio, hlikes⟩

/-- A patch that passes its checks is written by the update transaction, on its texts
trimmed. -/
theorem updateSong_of_input_pass (h : firstFailure (updateInputChecks patch) = none) :
    updateSong cancelled id patch s =
      (commitFor cancelled
        (updateTx id patch (patch.name.map Text.trim) (patch.audio.map Text.trim)) s).within
        ("update song " ++ toString id) := by
  obtain ⟨hname, haudio, hlikes⟩ := updateInputChecks_pass h
  unfold updateSong
  rw [checkLikes_of_ok hlikes]
  -- the audio's check stands in both arms of the name's `match`
  rcases hn : patch.name with _ | n <;> rcases ha : patch.audio with _ | a <;> dsimp only
  · rfl
  · rw [requireText_of_filled (haudio a ha)]
    rfl
  · rw [requireText_of_filled (hname n hn)]
    rfl
  · rw [requireText_of_filled (hname n hn), requireText_of_filled (haudio a ha)]
    rfl

/-- A given name that is blank once trimmed is refused before anything else. -/
theorem updateSong_of_blank_name {n : String} (hn : patch.name = some n)
    (hb : (Text.trim n).isEmpty = true) :
    updateSong cancelled id patch s = (.error (Fault.invalid "name" "is required"), s) := by
  unfold updateSong
  rw [hn]
  dsimp only
  rw [requireText_of_blank hb]
  rfl

/-- Once the name passes, a given audio reference that is blank once trimmed is refused. -/
theorem updateSong_of_blank_audio
    (hname : ∀ n, patch.name = some n → (Text.trim n).isEmpty = false) {a : String}
    (ha : patch.audio = some a) (hb : (Text.trim a).isEmpty = true) :
    updateSong cancelled id patch s = (.error (Fault.invalid "audioUrl" "is required"), s) := by
  unfold updateSong
  rw [ha]
  rcases hn : patch.name with _ | n <;> dsimp only
  · rw [requireText_of_blank hb]
    rfl
  · rw [requireText_of_filled (hname n hn), requireText_of_blank hb]
    rfl

/-- Once the texts pass, negative likes are refused. -/
theorem updateSong_of_negative_likes
    (hname : ∀ n, patch.name = some n → (Text.trim n).isEmpty = false)
    (haudio : ∀ a, patch.audio = some a → (Text.trim a).isEmpty = false)
    (hl : patch.likes.any (· < 0) = true) :
    updateSong cancelled id patch s =
      (.error (Fault.invalid "likes" "must not be negative"), s) := by
  unfold updateSong
  rw [checkLikes_of_negative hl]
  rcases hn : patch.name with _ | n <;> rcases ha : patch.audio with _ | a <;> dsimp only
  · rfl
  · rw [requireText_of_filled (haudio a ha)]
    rfl
  · rw [requireText_of_filled (hname n hn)]
    rfl
  · rw [requireText_of_filled (hname n hn), requireText_of_filled (haudio a ha)]
    rfl

/-- A patch check that fails is the answer, and nothing is written. -/
theorem updateSong_of_input_failure {e : Fault}
    (h : firstFailure (updateInputChecks patch) = some e) :
    updateSong cancelled id patch s = (.error e, s) := by
  simp only [updateInputChecks, firstFailure_cons, firstFailure_nil] at h
  cases hname : (patch.name.any fun n => (Text.trim n).isEmpty) with
  | true =>
    rw [hname, failIf_true, Option.some_or] at h
    cases h
    obtain ⟨n, hn, hb⟩ := Option.any_eq_true _ _ |>.1 hname
    exact updateSong_of_blank_name hn hb
  | false =>
  rw [hname, failIf_false, Option.none_or] at h
  have hnames : ∀ n, patch.name = some n → (Text.trim n).isEmpty = false :=
    fun n hn => by simpa [hn] using hname
  cases haudio : (patch.audio.any fun a => (Text.trim a).isEmpty) with
  | true =>
    rw [haudio, failIf_true, Option.some_or] at h
    cases h
    obtain ⟨a, ha, hb⟩ := Option.any_eq_true _ _ |>.1 haudio
    exact updateSong_of_blank_audio hnames ha hb
  | false =>
  rw [haudio, failIf_false, Option.none_or] at h
  have haudios : ∀ a, patch.audio = some a → (Text.trim a).isEmpty = false :=
    fun a ha => by simpa [ha] using haudio
  cases hlikes : patch.likes.any (· < 0) with
  | true =>
    rw [hlikes, failIf_true, Option.some_or] at h
    cases h
    exact updateSong_of_negative_likes hnames haudios hlikes
  | false =>
    rw [hlikes, failIf_false, Option.none_or] at h
    cases h

/-- The row an update stores passes the store's checks in the store its slots leave: a given
genre was checked, a resolved slot names a row, and whatever the patch does not give was
already fine in a valid store. -/
theorem updatedSong_check {previous : Song} (hv : s.Valid) (hprev : s.song? id = some previous)
    (hlikes : patch.likes.any (· < 0) = false)
    (hgenre : ∀ g ∈ patch.genreId, g ∈ s.genres.map (·.id))
    (hartist : artistRefFault s patch.artist = none)
    (halbum : albumRefFault (artistSlot s patch.artist).2
      ((artistSlot s patch.artist).1.or (s.display previous).artistId).isSome patch.album = none) :
    (albumSlot (artistSlot s patch.artist).2
        ((artistSlot s patch.artist).1.or (s.display previous).artistId) patch.album).2.checkSong
      (updatedSong s previous patch).1 = .ok () := by
  have hfits := hv.songs previous (List.mem_of_find?_eq_some hprev)
  refine Store.checkSong_ok ?_ ?_ ?_ ?_
  · -- the genre: given and checked, or kept
    rw [albumSlot_genres, artistSlot_genres]
    cases hg : patch.genreId with
    | none => simpa [updatedSong, hg] using hfits.genre
    | some g => simpa [updatedSong, hg] using hgenre g hg
  · -- the artist: resolved by the slot, or kept from a valid row
    intro a ha
    rcases h₁ : (artistSlot s patch.artist).1 with _ | a₁
    · simp only [updatedSong, h₁, Option.none_or] at ha
      rw [albumSlot_artists]
      exact artistSlot_keeps_artist s (hfits.artist a ha)
    · simp only [updatedSong, h₁, Option.some_or, Option.mem_def, Option.some.injEq] at ha
      subst ha
      rw [albumSlot_artists]
      exact artistSlot_exists s hartist a₁ h₁
  · -- the album: resolved by the slot, or kept from a valid row
    intro b hb
    rcases h₂ : (albumSlot (artistSlot s patch.artist).2
        ((artistSlot s patch.artist).1.or (s.display previous).artistId) patch.album).1 with _ | b₂
    · simp only [updatedSong, h₂, Option.none_or] at hb
      have hkept : b ∈ (artistSlot s patch.artist).2.albums.map (·.id) := by
        rw [artistSlot_albums]
        exact hfits.album b hb
      exact albumSlot_keeps_album _ hkept
    · simp only [updatedSong, h₂, Option.some_or, Option.mem_def, Option.some.injEq] at hb
      subst hb
      exact albumSlot_exists _ halbum b₂ h₂
  · -- the likes: given and checked, or kept
    cases hl : patch.likes with
    | none => simpa [updatedSong, hl] using hfits.likes
    | some l => simpa [updatedSong, hl, Int64.lt_iff_toInt_lt] using hlikes

/-- Once the artist slot resolved, an update keyed on the resolved artist, else on the one the
song showed, fails with its album slot's failure, and otherwise stores `updatedSong`. -/
theorem updateRow_run {previous : Song} (hv : s.Valid) (hprev : s.song? id = some previous)
    (hlikes : patch.likes.any (· < 0) = false)
    (hgenre : ∀ g ∈ patch.genreId, g ∈ s.genres.map (·.id))
    (hartist : artistRefFault s patch.artist = none) {artistId key : Option Int}
    (hid : artistId = (artistSlot s patch.artist).1)
    (hkey : key = (artistSlot s patch.artist).1.or (s.display previous).artistId) :
    (updateRow id patch (patch.name.map Text.trim) (patch.audio.map Text.trim)
        (s.showSong previous) artistId key).run (artistSlot s patch.artist).2 =
      (albumRefFault s (patch.artist.given || (s.display previous).artistId.isSome)
          patch.album).elim
        (.ok (⟨(updatedSong s previous patch).2.showSong (updatedSong s previous patch).1,
            staleFiles previous (updatedSong s previous patch).1⟩,
          (updatedSong s previous patch).2)) .error := by
  subst hid hkey
  unfold updateRow
  -- the album slot is keyed when the patch names an artist or the song shows one
  have hkeyed : albumRefFault (artistSlot s patch.artist).2
        ((artistSlot s patch.artist).1.or (s.display previous).artistId).isSome patch.album =
      albumRefFault s (patch.artist.given || (s.display previous).artistId.isSome)
        patch.album := by
    rw [albumRefFault_of_albums (artistSlot_albums s patch.artist), Option.isSome_or,
      artistSlot_isSome]
  rcases halbum : albumRefFault s (patch.artist.given || (s.display previous).artistId.isSome)
      patch.album with _ | e
  swap
  · rw [Tx.run_bind_of_error (resolveAlbum_run_of_fault (hkeyed.trans halbum))]
    rfl
  -- the key names an artist of the store the artist slot left
  have hkeyExists : ∀ a ∈ (artistSlot s patch.artist).1.or (s.display previous).artistId,
      ((artistSlot s patch.artist).2.artist? a).isSome := by
    intro a ha
    rw [Store.artist?_isSome_iff]
    rcases h₁ : (artistSlot s patch.artist).1 with _ | a₁
    · rw [h₁, Option.none_or] at ha
      exact artistSlot_keeps_artist s (hv.display_artist (List.mem_of_find?_eq_some hprev) a ha)
    · rw [h₁, Option.some_or, Option.mem_def, Option.some.injEq] at ha
      subst ha
      exact artistSlot_exists s hartist a₁ h₁
  have hresolved : (resolveAlbum ((artistSlot s patch.artist).1.or (s.display previous).artistId)
        patch.album).run (artistSlot s patch.artist).2 =
      .ok ((albumSlot (artistSlot s patch.artist).2
          ((artistSlot s patch.artist).1.or (s.display previous).artistId) patch.album).1,
        (albumSlot (artistSlot s patch.artist).2
          ((artistSlot s patch.artist).1.or (s.display previous).artistId) patch.album).2) :=
    resolveAlbum_run hkeyExists (hkeyed.trans halbum)
  rw [Tx.run_bind_of_ok hresolved]
  -- the row the change makes is the one `updatedSong` describes, in a store with the same songs
  have hsongs : (albumSlot (artistSlot s patch.artist).2
      ((artistSlot s patch.artist).1.or (s.display previous).artistId) patch.album).2.songs =
      s.songs := by
    simp
  have hsong : (albumSlot (artistSlot s patch.artist).2
      ((artistSlot s patch.artist).1.or (s.display previous).artistId) patch.album).2.song? id =
      some previous := by
    simpa only [Store.song?, hsongs] using hprev
  have hrow : SongChange.apply
      { name := patch.name.map Text.trim
        artistId := (artistSlot s patch.artist).1
        albumId := (albumSlot (artistSlot s patch.artist).2
          ((artistSlot s patch.artist).1.or (s.display previous).artistId) patch.album).1
        genreId := patch.genreId
        likes := patch.likes
        audio := patch.audio.map Text.trim
        cover := trimmed patch.cover } previous = (updatedSong s previous patch).1 := by
    rw [SongChange.apply_eq]
    simp only [trimmed, Option.map_map]
    rfl
  have hcheck := updatedSong_check hv hprev hlikes hgenre hartist (hkeyed.trans halbum)
  rw [← hrow] at hcheck
  rw [Tx.run_bind_of_ok (Store.updateSong_run hsong hcheck), hrow, hsongs]
  rfl

/-- Once the song is read and a given genre checked, an update fails with its artist slot's
failure, then its album slot's, and otherwise stores `updatedSong`. -/
theorem updateSlots_run {previous : Song} (hv : s.Valid) (hprev : s.song? id = some previous)
    (hlikes : patch.likes.any (· < 0) = false)
    (hgenre : ∀ g ∈ patch.genreId, g ∈ s.genres.map (·.id)) :
    (updateSlots id patch (patch.name.map Text.trim) (patch.audio.map Text.trim)
        (s.showSong previous)).run s =
      ((artistRefFault s patch.artist).or
          (albumRefFault s (patch.artist.given || (s.display previous).artistId.isSome)
            patch.album)).elim
        (.ok (⟨(updatedSong s previous patch).2.showSong (updatedSong s previous patch).1,
            staleFiles previous (updatedSong s previous patch).1⟩,
          (updatedSong s previous patch).2)) .error := by
  unfold updateSlots
  rcases hartist : artistRefFault s patch.artist with _ | e
  swap
  · rw [Tx.run_bind_of_error (resolveArtist_run_of_fault hartist)]
    rfl
  have hresolved : (resolveArtist patch.artist).run s =
      .ok ((artistSlot s patch.artist).1, (artistSlot s patch.artist).2) :=
    resolveArtist_run hartist
  rw [Tx.run_bind_of_ok hresolved, Option.none_or]
  -- the album key the transaction computes is the resolved artist, else the one shown
  refine (updateRow_run hv hprev hlikes hgenre hartist rfl ?_)
  cases (artistSlot s patch.artist).1 <;> rfl

/-- For a song that exists and a genre that exists if given, the store checks come down to the
slots'. -/
theorem updateStoreChecks_of_found {previous : Song} (hprev : s.song? id = some previous)
    (hgenre : (patch.genreId.any fun g => (s.genre? g).isNone) = false) :
    firstFailure (updateStoreChecks s id patch) =
      (artistRefFault s patch.artist).or
        (albumRefFault s (patch.artist.given || (s.display previous).artistId.isSome)
          patch.album) := by
  have hshown : shownArtist s id = (s.display previous).artistId := by
    simp [shownArtist, hprev]
  simp only [updateStoreChecks, hprev, Option.isNone_some, failIf_false, hgenre, hshown,
    firstFailure_cons, firstFailure_nil, Option.none_or, Option.or_none]

/-- An update of a song that is missing fails before anything else of its transaction. -/
theorem updateTx_run_of_missing (hprev : s.song? id = none) (name audio : Option String) :
    (updateTx id patch name audio).run s = .error (Fault.notFound "song") := by
  have hread : s.songById id = .error (Fault.notFound "song") := by
    simp [Store.songById, hprev]
  unfold updateTx
  rw [Tx.run_bind_of_error (Tx.read_run_error hread)]

/-- An update of a song that exists fails with the first of its store checks that fails, and
otherwise stores `updatedSong`. -/
theorem updateTx_run {previous : Song} (hv : s.Valid) (hprev : s.song? id = some previous)
    (hlikes : patch.likes.any (· < 0) = false) :
    (updateTx id patch (patch.name.map Text.trim) (patch.audio.map Text.trim)).run s =
      (firstFailure (updateStoreChecks s id patch)).elim
        (.ok (⟨(updatedSong s previous patch).2.showSong (updatedSong s previous patch).1,
            staleFiles previous (updatedSong s previous patch).1⟩,
          (updatedSong s previous patch).2)) .error := by
  have hread : s.songById id = .ok (s.showSong previous) := by simp [Store.songById, hprev]
  unfold updateTx
  rw [Tx.run_bind_of_ok (Tx.read_run_ok hread)]
  rcases hg : patch.genreId with _ | g
  · dsimp only
    have hgenre : ∀ g ∈ patch.genreId, g ∈ s.genres.map (·.id) := by simp [hg]
    rw [updateSlots_run hv hprev hlikes hgenre, updateStoreChecks_of_found hprev (by simp [hg])]
  · dsimp only
    rw [Tx.run_bind_of_ok get_run]
    rcases hknown : s.genre? g with _ | genre
    · have hmiss : s.genreById g = .error (Fault.notFound "genre") := by
        simp [Store.genreById, hknown]
      rw [Tx.run_bind_of_error (requireRow_run_error hmiss)]
      simp [updateStoreChecks, hprev, hg, hknown]
    have hfound : s.genreById g = .ok genre := by simp [Store.genreById, hknown]
    have hgenre : ∀ g ∈ patch.genreId, g ∈ s.genres.map (·.id) := by
      intro g' hg'
      rw [hg, Option.mem_def, Option.some.injEq] at hg'
      subst hg'
      exact (s.genre?_isSome_iff _).1 (by simp [hknown])
    rw [Tx.run_bind_of_ok (requireRow_run_ok hfound), updateSlots_run hv hprev hlikes hgenre,
      updateStoreChecks_of_found hprev (by simp [hg, hknown])]

/-- A transaction that fails, committed for a request and put in context, answers the
request's own check if that fails and else the transaction's failure, in context. -/
theorem within_commitFor_of_error {α : Type} {t : Tx α} {e : Fault} (h : t.run s = .error e)
    (cancelled : Bool) (context : String) :
    (commitFor cancelled t s).within context =
      (.error (Fault.wrapped context ((failIf cancelled Fault.canceled).getD e)), s) := by
  cases cancelled with
  | true => rfl
  | false =>
    simp only [commitFor, Bool.false_eq_true, ↓reduceIte, failIf_false, Option.getD_none]
    unfold Tx.commit
    rw [h]
    rfl

/-- An update whose checks fail answers the first failure and writes nothing. -/
theorem updateSong_of_failure {e : Fault} (hv : s.Valid)
    (h : firstFailure (updateChecks cancelled s id patch) = some e) :
    updateSong cancelled id patch s = (.error e, s) := by
  rw [updateChecks, firstFailure_append] at h
  rcases hin : firstFailure (updateInputChecks patch) with _ | e'
  swap
  · rw [hin, Option.some_or] at h
    cases h
    exact updateSong_of_input_failure hin
  rw [hin, Option.none_or] at h
  rw [updateSong_of_input_pass hin]
  rcases hprev : s.song? id with _ | previous
  · -- a missing song is the first store check
    rw [within_commitFor_of_error (updateTx_run_of_missing hprev _ _)]
    simp only [firstFailure_map, firstFailure_cons, updateStoreChecks, hprev, Option.isNone_none,
      failIf_true, Option.some_or, Option.or_some, Option.map_some, Option.some.injEq] at h
    rw [h]
  · rw [within_commitFor_of_run (updateTx_run hv hprev (updateInputChecks_pass hin).2.2), h]
    rfl

/-- An update whose checks all pass stores `updatedSong` and answers it as shown, with the
files the song no longer holds in their slots. -/
theorem updateSong_of_pass (hv : s.Valid)
    (h : firstFailure (updateChecks cancelled s id patch) = none) :
    ∃ previous, s.song? id = some previous ∧
      updateSong cancelled id patch s =
        (.ok ⟨(updatedSong s previous patch).2.showSong (updatedSong s previous patch).1,
            staleFiles previous (updatedSong s previous patch).1⟩,
          (updatedSong s previous patch).2) := by
  rw [updateChecks, firstFailure_append, Option.or_eq_none_iff] at h
  obtain ⟨hin, hstore⟩ := h
  rcases hprev : s.song? id with _ | previous
  · -- a missing song is the first store check, which passed
    simp [updateStoreChecks, hprev] at hstore
  refine ⟨previous, rfl, ?_⟩
  rw [updateSong_of_input_pass hin,
    within_commitFor_of_run (updateTx_run hv hprev (updateInputChecks_pass hin).2.2), hstore]
  rfl

/-- An update replaces the song's row in place, adds at most one artist and one album with
their counters, and leaves every other table as it was. -/
theorem updatedSong_frame (previous : Song) : ∃ n₁ n₂ added₁ added₂,
    (updatedSong s previous patch).2 =
      { s with
        next := { s.next with artist := n₁, album := n₂ }
        artists := s.artists ++ added₁
        albums := s.albums ++ added₂
        songs := replaceById (·.id) (updatedSong s previous patch).1 s.songs } ∧
      added₁.length ≤ 1 ∧ added₂.length ≤ 1 := by
  obtain ⟨n₁, added₁, hs₁, hl₁⟩ := artistSlot_frame s patch.artist
  obtain ⟨n₂, added₂, hs₂, hl₂⟩ := albumSlot_frame (artistSlot s patch.artist).2
    ((artistSlot s patch.artist).1.or (s.display previous).artistId) patch.album
  refine ⟨n₁, n₂, added₁, added₂, ?_, hl₁, hl₂⟩
  have hshape : (updatedSong s previous patch).2 =
      { (albumSlot (artistSlot s patch.artist).2
          ((artistSlot s patch.artist).1.or (s.display previous).artistId) patch.album).2 with
        songs := replaceById (·.id) (updatedSong s previous patch).1 s.songs } := rfl
  rw [hshape, hs₂, hs₁]

/-- After an update the song's id finds the row it stored. -/
theorem updatedSong_song? {previous : Song} (hprev : s.song? id = some previous) :
    (updatedSong s previous patch).2.song? id = some (updatedSong s previous patch).1 :=
  find?_replaceById (fun x : Song => x.id) hprev rfl

/-- After an update the song reads back as the row it stored. -/
theorem updatedSong_songById {previous : Song} (hprev : s.song? id = some previous) :
    (updatedSong s previous patch).2.songById id =
      .ok ((updatedSong s previous patch).2.showSong (updatedSong s previous patch).1) := by
  simp only [Store.songById, updatedSong_song? hprev]

/-- An empty patch stores the song as it was, which leaves a valid store as it was. -/
theorem updatedSong_empty {previous : Song} (hv : s.Valid) (hprev : s.song? id = some previous) :
    updatedSong s previous {} = (previous, s) := by
  have hrow : replaceById (·.id) previous s.songs = s.songs :=
    replaceById_of_mem _ hv.songIds.nodup (List.mem_of_find?_eq_some hprev)
  have hshape : updatedSong s previous {} =
      (previous, { s with songs := replaceById (·.id) previous s.songs }) := rfl
  rw [hshape, hrow]

/-- A song update answers the first of its checks that fails, in the order given name, given
audio reference, likes, request live, song exists, given genre exists, artist slot and album
slot, and then changes nothing. When none fails it stores `updatedSong`: the song with each field
the patch gives replaced, the album slot keyed on the artist the patch gives, else on the one the
song showed. The stored song is the one read back and answered; no other song and no membership
changes, and at most one artist and one album are added. An empty patch changes nothing. -/
theorem song_update_follows_patch (cancelled : Bool) (id : Int) (patch : SongPatch) {s : Store}
    (hv : s.Valid) :
    (∀ e, firstFailure (updateChecks cancelled s id patch) = some e →
      updateSong cancelled id patch s = (.error e, s)) ∧
    (firstFailure (updateChecks cancelled s id patch) = none →
      ∃ previous, s.song? id = some previous ∧
        updateSong cancelled id patch s =
          (.ok ⟨(updatedSong s previous patch).2.showSong (updatedSong s previous patch).1,
              staleFiles previous (updatedSong s previous patch).1⟩,
            (updatedSong s previous patch).2) ∧
        (updatedSong s previous patch).2.songById id =
          .ok ((updatedSong s previous patch).2.showSong (updatedSong s previous patch).1) ∧
        (updatedSong s previous patch).2.songs.filter (·.id != id) =
          s.songs.filter (·.id != id) ∧
        ∃ n₁ n₂ added₁ added₂,
          (updatedSong s previous patch).2 =
            { s with
              next := { s.next with artist := n₁, album := n₂ }
              artists := s.artists ++ added₁
              albums := s.albums ++ added₂
              songs := replaceById (·.id) (updatedSong s previous patch).1 s.songs } ∧
          added₁.length ≤ 1 ∧ added₂.length ≤ 1) ∧
    (updateSong cancelled id {} s).2 = s := by
  refine ⟨fun _ h => updateSong_of_failure hv h, fun h => ?_, ?_⟩
  · obtain ⟨previous, hprev, hrun⟩ := updateSong_of_pass hv h
    -- the stored row keeps the song's id, so only its own row is replaced
    have hprevId : previous.id = id := by simpa using List.find?_some hprev
    have hid : (updatedSong s previous patch).1.id = id := hprevId
    have hothers := filter_replaceById (·.id) (updatedSong s previous patch).1 s.songs
    rw [hid] at hothers
    exact ⟨previous, hprev, hrun, updatedSong_songById hprev, hothers,
      updatedSong_frame previous⟩
  · rcases h : firstFailure (updateChecks cancelled s id {}) with _ | e
    · obtain ⟨previous, hprev, hrun⟩ := updateSong_of_pass hv h
      rw [hrun, updatedSong_empty hv hprev]
    · rw [updateSong_of_failure hv h]

/-- In the store a genre, an artist, an album of the artist and a song on that album make, a
patch that renames the song and names an album that does not exist yet succeeds: the album is
created for the artist the song showed through its album, and the song is stored renamed, on the
new album, with every other field as it was. -/
theorem renamed_song_moves_to_new_album :
    let s : Store :=
      { next := { genre := 1, artist := 1, album := 1, song := 1 }
        genres := [⟨1, "Folk"⟩]
        artists := [⟨1, "Joni Mitchell", none⟩]
        albums := [⟨1, "Blue", 1, none⟩]
        songs := [⟨1, "River", none, some 1, 1, 0, "river.mp3", none⟩] }
    let patch : SongPatch := { name := some " Both Sides Now ", album := .byName "Clouds" }
    s.Valid ∧ firstFailure (updateChecks false s 1 patch) = none ∧
      ∃ previous, s.song? 1 = some previous ∧
        (updateSong false 1 patch s).2 = (updatedSong s previous patch).2 ∧
        (updatedSong s previous patch).1 =
          ⟨1, "Both Sides Now", none, some 2, 1, 0, "river.mp3", none⟩ ∧
        (updatedSong s previous patch).2.albums =
          [⟨1, "Blue", 1, none⟩, ⟨2, "Clouds", 1, none⟩] := by
  intro s patch
  have hreach : Reachable s :=
    .call .refusing false
      (.storeCreateSong { name := "River", albumId := some 1, genreId := 1, audio := "river.mp3" })
      (.call .refusing false (.storeCreateAlbum "Blue" 1 none)
        (.call .refusing false (.storeCreateArtist "Joni Mitchell" none)
          (.call .refusing false (.storeCreateGenre "Folk") .empty)))
  have hchecks : firstFailure (updateChecks false s 1 patch) = none := rfl
  obtain ⟨previous, hprev, hrun, -⟩ :=
    (song_update_follows_patch false 1 patch hreach.valid).2.1 hchecks
  have hriver : previous = ⟨1, "River", none, some 1, 1, 0, "river.mp3", none⟩ :=
    (Option.some_inj.1 hprev).symm
  subst hriver
  exact ⟨hreach.valid, hchecks, _, hprev, by rw [hrun], rfl, rfl⟩

end Service

end Jukebox
