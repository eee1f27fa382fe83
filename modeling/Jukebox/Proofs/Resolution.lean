import Jukebox.Proofs.Transaction
import Jukebox.Service.Songs

set_option autoImplicit false

/-! # Finding or creating a row by name

Over the catalog's own store a resolution settles in its first round. The look-up either finds
the row, or finds nothing, and then the insert adds it, since nothing writes between the two
inside one transaction. So resolving a non-blank name is one *find or add*
(`Store.findOrAddArtist`, `Store.findOrAddAlbum`): the store is unchanged when the row is there
and gains exactly that row when it is not, and the bounded retry never gives up. An album's
insert fails only when its artist is missing, and that failure is put in context
`insert <noun>`.

For a song's reference slots this gives, per slot, the failure it raises (`artistRefFault`,
`albumRefFault`) and, when it raises none, the id it resolves to and the store after it
(`artistSlot`, `albumSlot`).
-/

namespace Jukebox

open Catalog

namespace Catalog

namespace Store

/-- The artist named `key` and the store holding it: the artist already there, or a new one. -/
def findOrAddArtist (s : Store) (key : String) : Artist × Store :=
  match s.artistNamed? key with
  | some a => (a, s)
  | none => s.addArtist key none

/-- The album of an artist with the name `key` and the store holding it: the album already
there, or a new one without a cover. -/
def findOrAddAlbum (s : Store) (key : String) (artistId : Int) : Album × Store :=
  match s.albumKeyed? key artistId with
  | some b => (b, s)
  | none => s.addAlbum key artistId none

end Store

/-! ## One round of look-up and insert -/

/-- A caught read answers what it read and leaves the store. -/
theorem Tx.attempt_read_run {α : Type} (f : Store → Except Fault α) (s : Store) :
    (Tx.attempt (Tx.read f)).run s = .ok (f s, s) := by
  cases h : f s <;> simp [Tx.attempt, Tx.read, StateT.run, h]

theorem artistFinder_lookup_run (key : String) (s : Store) :
    (artistFinder.lookup key).run s = .ok ((s.artistByName key).map Artist.ref, s) :=
  Tx.attempt_read_run _ s

theorem albumFinder_lookup_run (artistId : Int) (key : String) (s : Store) :
    ((albumFinder artistId).lookup key).run s =
      .ok ((s.albumByKey key artistId).map (·.album.ref), s) :=
  Tx.attempt_read_run _ s

/-- The insert of an artist that is not there adds it. -/
theorem artistFinder_insert_run {key : String} {s : Store} (h : s.artistNamed? key = none) :
    (artistFinder.insert key).run s =
      .ok (.ok (some (s.addArtist key none).1.ref), (s.addArtist key none).2) := by
  simp only [StateT.run, artistFinder, Tx.attempt, StateT.map, Store.insertArtistIfAbsent, h,
    Option.isSome_none, Bool.false_eq_true, ↓reduceIte, bind_pure_comp]
  rfl

/-- The insert of an album that is not there adds it when its artist exists. -/
theorem albumFinder_insert_run {artistId : Int} {key : String} {s : Store}
    (ha : (s.artist? artistId).isSome) (h : s.albumKeyed? key artistId = none) :
    ((albumFinder artistId).insert key).run s =
      .ok (.ok (some (s.addAlbum key artistId none).1.ref), (s.addAlbum key artistId none).2) := by
  have ha' : (s.artist? artistId).isNone = false := by simpa using ha
  simp only [StateT.run, albumFinder, Tx.attempt, StateT.map, Store.insertAlbumIfAbsent, ha',
    Bool.false_eq_true, ↓reduceIte, h, Option.isSome_none, bind_pure_comp]
  rfl

/-- The insert of an album fails when its artist is missing. -/
theorem albumFinder_insert_run_missing {artistId : Int} {key : String} {s : Store}
    (ha : s.artist? artistId = none) :
    ((albumFinder artistId).insert key).run s = .ok (.error (Fault.notFound "artist"), s) := by
  simp only [StateT.run, albumFinder, Tx.attempt, StateT.map, Store.insertAlbumIfAbsent, ha,
    Option.isNone_none, ↓reduceIte, bind_pure_comp]
  rfl

/-! ## A resolution over the store -/

/-- The first round over the store finds the artist or adds it, so it never asks for another. -/
theorem artistFinder_rounds_run (noun key : String) (n : Nat) (s : Store) :
    (artistFinder.rounds noun key (n + 1)).run s =
      .ok (.ok (s.findOrAddArtist key).1.ref, (s.findOrAddArtist key).2) := by
  rw [Finder.rounds, Tx.run_bind_of_ok (artistFinder_lookup_run key s)]
  rcases hnamed : s.artistNamed? key with _ | a
  · have hlookup : (s.artistByName key).map Artist.ref = .error (Fault.notFound "artist") := by
      simp only [Store.artistByName, hnamed]
      rfl
    have hmissing : (Fault.notFound "artist").isKind .notFound = true := rfl
    simp only [hlookup]
    rw [if_pos hmissing, Tx.run_bind_of_ok (artistFinder_insert_run hnamed)]
    simp only [Store.findOrAddArtist, hnamed]
    rfl
  · have hlookup : (s.artistByName key).map Artist.ref = .ok a.ref := by
      simp only [Store.artistByName, hnamed]
      rfl
    simp only [hlookup, Store.findOrAddArtist, hnamed]
    rfl

/-- The first round over the store finds the album or adds it, unless it would have to add an
album to a missing artist. -/
theorem albumFinder_rounds_run (noun key : String) (artistId : Int) (n : Nat) (s : Store) :
    ((albumFinder artistId).rounds noun key (n + 1)).run s =
      if (s.albumKeyed? key artistId).isNone ∧ (s.artist? artistId).isNone then
        .ok (.error (.wrapped ("insert " ++ noun) (Fault.notFound "artist")), s)
      else .ok (.ok (s.findOrAddAlbum key artistId).1.ref, (s.findOrAddAlbum key artistId).2) := by
  rw [Finder.rounds, Tx.run_bind_of_ok (albumFinder_lookup_run artistId key s)]
  rcases hkeyed : s.albumKeyed? key artistId with _ | b
  · have hlookup : (s.albumByKey key artistId).map (·.album.ref) =
        .error (Fault.notFound "album") := by
      simp only [Store.albumByKey, hkeyed]
      rfl
    have hmissing : (Fault.notFound "album").isKind .notFound = true := rfl
    simp only [hlookup]
    rw [if_pos hmissing]
    -- the insert decides: it fails only for a missing artist
    rcases hartist : s.artist? artistId with _ | x
    · rw [Tx.run_bind_of_ok (albumFinder_insert_run_missing hartist)]
      simp only [Option.isNone_none, and_self, ↓reduceIte]
      rfl
    · rw [Tx.run_bind_of_ok (albumFinder_insert_run (by simp [hartist]) hkeyed)]
      simp only [Option.isNone_none, Option.isNone_some, Bool.false_eq_true, and_false,
        ↓reduceIte, Store.findOrAddAlbum, hkeyed]
      rfl
  · have hlookup : (s.albumByKey key artistId).map (·.album.ref) = .ok b.ref := by
      simp only [Store.albumByKey, hkeyed]
      rfl
    simp only [hlookup, Option.isNone_some, Bool.false_eq_true, false_and, ↓reduceIte,
      Store.findOrAddAlbum, hkeyed]
    rfl

/-- Resolving a name over the store: a blank name is refused, any other is found or added. -/
theorem artistFinder_resolve_run (noun name : String) (s : Store) :
    (artistFinder.resolve noun name).run s =
      if (Text.trim name).isEmpty then .ok (.error (Fault.invalid noun "name is required"), s)
      else .ok (.ok (s.findOrAddArtist (Text.trim name)).1.ref,
        (s.findOrAddArtist (Text.trim name)).2) := by
  unfold Finder.resolve
  dsimp only
  by_cases hblank : (Text.trim name).isEmpty = true
  · rw [if_pos hblank, if_pos hblank]
    rfl
  · rw [if_neg hblank, if_neg hblank]
    exact artistFinder_rounds_run noun _ 2 s

/-- Resolving an album name over the store: a blank name is refused, any other is found or
added, and adding fails when the artist is missing. -/
theorem albumFinder_resolve_run (noun name : String) (artistId : Int) (s : Store) :
    ((albumFinder artistId).resolve noun name).run s =
      if (Text.trim name).isEmpty then .ok (.error (Fault.invalid noun "name is required"), s)
      else if (s.albumKeyed? (Text.trim name) artistId).isNone ∧ (s.artist? artistId).isNone then
        .ok (.error (.wrapped ("insert " ++ noun) (Fault.notFound "artist")), s)
      else .ok (.ok (s.findOrAddAlbum (Text.trim name) artistId).1.ref,
        (s.findOrAddAlbum (Text.trim name) artistId).2) := by
  unfold Finder.resolve
  dsimp only
  by_cases hblank : (Text.trim name).isEmpty = true
  · rw [if_pos hblank, if_pos hblank]
    rfl
  · rw [if_neg hblank, if_neg hblank]
    exact albumFinder_rounds_run noun _ artistId 2 s

end Catalog

/-! ## The reference slots of a song -/

namespace Service

/-- The failure an artist slot raises in a store: an id that names no artist, or a name that is
blank once trimmed. -/
def artistRefFault (s : Store) : Ref → Option Fault
  | .absent => none
  | .byId id => if (s.artist? id).isSome then none else some (Fault.notFound "artistId")
  | .byName n =>
    if (Text.trim n).isEmpty then some (Fault.invalid "artist" "name is required") else none

/-- The artist a filled slot names and the store after resolving it: an id is taken as given,
a name is found or added. -/
def artistSlot (s : Store) : Ref → Option Int × Store
  | .absent => (none, s)
  | .byId id => (some id, s)
  | .byName n =>
    (some (s.findOrAddArtist (Text.trim n)).1.id, (s.findOrAddArtist (Text.trim n)).2)

/-- The failure an album slot raises in a store where the artist it is keyed on, if any, exists
(`keyed` says whether there is one): an id that names no album, a name with no artist to key
it on, or a name that is blank once trimmed. -/
def albumRefFault (s : Store) (keyed : Bool) : Ref → Option Fault
  | .absent => none
  | .byId id => if (s.album? id).isSome then none else some (Fault.notFound "albumId")
  | .byName n =>
    if !keyed then some (Fault.invalid "artist" "is required to resolve an album by name")
    else if (Text.trim n).isEmpty then some (Fault.invalid "album" "name is required")
    else none

/-- The album a filled slot names and the store after resolving it: an id is taken as given, a
name is found or added among the albums of the artist it is keyed on. -/
def albumSlot (s : Store) (artistId : Option Int) : Ref → Option Int × Store
  | .absent => (none, s)
  | .byId id => (some id, s)
  | .byName n =>
    match artistId with
    | some a =>
      (some (s.findOrAddAlbum (Text.trim n) a).1.id, (s.findOrAddAlbum (Text.trim n) a).2)
    | none => (none, s)

variable {s : Store}

/-- A missing row is reported under the input field that named it. -/
@[simp] theorem renameMissing_notFound (field entity : String) :
    renameMissing field (Fault.notFound entity) = Fault.notFound field := rfl

theorem requireRow_run_ok {α : Type} {field : String} {r : Except Fault α} {a : α}
    (h : r = .ok a) : (requireRow field r).run s = .ok ((), s) := by
  rw [h]
  rfl

theorem requireRow_run_error {α : Type} {field : String} {r : Except Fault α} {e : Fault}
    (h : r = .error e) : (requireRow field r).run s = .error (renameMissing field e) := by
  rw [h]
  rfl

theorem orFail_run_ok {α : Type} {r : Except Fault α} {a : α} (h : r = .ok a) :
    (Service.Tx.orFail r).run s = .ok (a, s) := by
  rw [h]
  rfl

theorem orFail_run_error {α : Type} {r : Except Fault α} {e : Fault} (h : r = .error e) :
    (Service.Tx.orFail r).run s = .error e := by
  rw [h]
  rfl

theorem get_run : (get : Catalog.Tx Store).run s = .ok (s, s) := rfl

/-- An artist slot that raises a failure fails the transaction with it. -/
theorem resolveArtist_run_of_fault {ref : Ref} {e : Fault} (h : artistRefFault s ref = some e) :
    (resolveArtist ref).run s = .error e := by
  cases ref with
  | absent => cases h
  | byId id =>
    rcases hartist : s.artist? id with _ | a
    · simp only [artistRefFault, hartist, Option.isSome_none, Bool.false_eq_true, ↓reduceIte,
        Option.some.injEq] at h
      have hread : s.artistById id = .error (Fault.notFound "artist") := by
        simp [Store.artistById, hartist]
      rw [resolveArtist, Tx.run_bind_of_ok get_run, Tx.run_bind_of_error (requireRow_run_error hread),
        renameMissing_notFound, h]
    · simp [artistRefFault, hartist] at h
  | byName n =>
    by_cases hblank : (Text.trim n).isEmpty = true
    · simp only [artistRefFault, hblank, ↓reduceIte, Option.some.injEq] at h
      have hres : (artistFinder.resolve "artist" n).run s =
          .ok (.error (Fault.invalid "artist" "name is required"), s) := by
        rw [artistFinder_resolve_run, if_pos hblank]
      rw [resolveArtist, Tx.run_bind_of_ok hres, Tx.run_bind_of_error (orFail_run_error rfl), h]
    · simp [artistRefFault, hblank] at h

/-- An artist slot that raises no failure resolves to `artistSlot`. -/
theorem resolveArtist_run {ref : Ref} (h : artistRefFault s ref = none) :
    (resolveArtist ref).run s = .ok (artistSlot s ref) := by
  cases ref with
  | absent => rfl
  | byId id =>
    rcases hartist : s.artist? id with _ | a
    · simp [artistRefFault, hartist] at h
    · have hread : s.artistById id = .ok a := by simp [Store.artistById, hartist]
      rw [resolveArtist, Tx.run_bind_of_ok get_run, Tx.run_bind_of_ok (requireRow_run_ok hread)]
      rfl
  | byName n =>
    by_cases hblank : (Text.trim n).isEmpty = true
    · simp [artistRefFault, hblank] at h
    · have hres : (artistFinder.resolve "artist" n).run s =
          .ok (.ok (s.findOrAddArtist (Text.trim n)).1.ref, (s.findOrAddArtist (Text.trim n)).2) := by
        rw [artistFinder_resolve_run, if_neg hblank]
      rw [resolveArtist, Tx.run_bind_of_ok hres, Tx.run_bind_of_ok (orFail_run_ok rfl)]
      rfl

/-- An album name keyed on an artist is refused when blank, fails when the album would have to
be added to a missing artist, and is found or added otherwise. -/
theorem resolveAlbum_byName_run (artistId : Int) (n : String) :
    (resolveAlbum (some artistId) (.byName n)).run s =
      if (Text.trim n).isEmpty then .error (Fault.invalid "album" "name is required")
      else if (s.albumKeyed? (Text.trim n) artistId).isNone ∧ (s.artist? artistId).isNone then
        .error (.wrapped "insert album" (Fault.notFound "artist"))
      else .ok (albumSlot s (some artistId) (.byName n)) := by
  by_cases hblank : (Text.trim n).isEmpty = true
  · have hres : ((albumFinder artistId).resolve "album" n).run s =
        .ok (.error (Fault.invalid "album" "name is required"), s) := by
      rw [albumFinder_resolve_run, if_pos hblank]
    rw [resolveAlbum, Tx.run_bind_of_ok hres, Tx.run_bind_of_error (orFail_run_error rfl),
      if_pos hblank]
  · by_cases hmissing :
        (s.albumKeyed? (Text.trim n) artistId).isNone ∧ (s.artist? artistId).isNone
    · have hres : ((albumFinder artistId).resolve "album" n).run s =
          .ok (.error (.wrapped "insert album" (Fault.notFound "artist")), s) := by
        rw [albumFinder_resolve_run, if_neg hblank, if_pos hmissing]
        rfl
      rw [resolveAlbum, Tx.run_bind_of_ok hres, Tx.run_bind_of_error (orFail_run_error rfl),
        if_neg hblank, if_pos hmissing]
    · have hres : ((albumFinder artistId).resolve "album" n).run s =
          .ok (.ok (s.findOrAddAlbum (Text.trim n) artistId).1.ref,
            (s.findOrAddAlbum (Text.trim n) artistId).2) := by
        rw [albumFinder_resolve_run, if_neg hblank, if_neg hmissing]
      rw [resolveAlbum, Tx.run_bind_of_ok hres, Tx.run_bind_of_ok (orFail_run_ok rfl),
        if_neg hblank, if_neg hmissing]
      rfl

/-- An album id must name an album; the slot keeps it as given. -/
theorem resolveAlbum_byId_run (artistId : Option Int) (id : Int) :
    (resolveAlbum artistId (.byId id)).run s =
      if (s.album? id).isSome then .ok (some id, s) else .error (Fault.notFound "albumId") := by
  rcases halbum : s.album? id with _ | b
  · have hread : s.albumById id = .error (Fault.notFound "album") := by
      simp [Store.albumById, halbum]
    rw [resolveAlbum, Tx.run_bind_of_ok get_run, Tx.run_bind_of_error (requireRow_run_error hread),
      renameMissing_notFound]
    rfl
  · have hread : s.albumById id = .ok (s.showAlbum b) := by simp [Store.albumById, halbum]
    rw [resolveAlbum, Tx.run_bind_of_ok get_run, Tx.run_bind_of_ok (requireRow_run_ok hread)]
    rfl

/-- An album slot keyed on an artist that exists, if on any, fails exactly with its
`albumRefFault`. -/
theorem resolveAlbum_run_of_fault {artistId : Option Int} {ref : Ref} {e : Fault}
    (h : albumRefFault s artistId.isSome ref = some e) :
    (resolveAlbum artistId ref).run s = .error e := by
  cases ref with
  | absent => cases h
  | byId id =>
    rw [resolveAlbum_byId_run]
    by_cases halbum : (s.album? id).isSome = true
    · simp [albumRefFault, halbum] at h
    · simp only [albumRefFault, halbum, Bool.false_eq_true, ↓reduceIte, Option.some.injEq] at h
      rw [if_neg halbum, h]
  | byName n =>
    cases artistId with
    | none =>
      simp only [albumRefFault, Option.isSome_none, Bool.not_false, ↓reduceIte,
        Option.some.injEq] at h
      rw [← h]
      rfl
    | some a =>
      by_cases hblank : (Text.trim n).isEmpty = true
      · simp only [albumRefFault, Option.isSome_some, Bool.not_true, Bool.false_eq_true,
          ↓reduceIte, hblank, Option.some.injEq] at h
        rw [resolveAlbum_byName_run, if_pos hblank, h]
      · simp [albumRefFault, hblank] at h

/-- An album slot that raises no failure, keyed on an artist that exists, resolves to
`albumSlot`. -/
theorem resolveAlbum_run {artistId : Option Int} {ref : Ref}
    (hkey : ∀ a ∈ artistId, (s.artist? a).isSome)
    (h : albumRefFault s artistId.isSome ref = none) :
    (resolveAlbum artistId ref).run s = .ok (albumSlot s artistId ref) := by
  cases ref with
  | absent => rfl
  | byId id =>
    rw [resolveAlbum_byId_run]
    by_cases halbum : (s.album? id).isSome = true
    · rw [if_pos halbum]
      rfl
    · simp [albumRefFault, halbum] at h
  | byName n =>
    cases artistId with
    | none => simp [albumRefFault] at h
    | some a =>
      have hblank : ¬(Text.trim n).isEmpty = true := by
        intro hblank
        simp [albumRefFault, hblank] at h
      have hartist : (s.artist? a).isNone = false := by simpa using hkey a rfl
      rw [resolveAlbum_byName_run, if_neg hblank, if_neg (by simp [hartist])]

/-- A failed album slot reports its `albumRefFault`, or, keyed on a missing artist, the failed
insert. -/
theorem resolveAlbum_fails {artistId : Option Int} {ref : Ref} {e : Fault}
    (h : (resolveAlbum artistId ref).run s = .error e) :
    albumRefFault s artistId.isSome ref = some e ∨
      e = .wrapped "insert album" (Fault.notFound "artist") := by
  cases ref with
  | absent => cases h
  | byId id =>
    rw [resolveAlbum_byId_run] at h
    by_cases halbum : (s.album? id).isSome = true
    · rw [if_pos halbum] at h
      cases h
    · rw [if_neg halbum] at h
      cases h
      exact .inl (by simp [albumRefFault, halbum])
  | byName n =>
    cases artistId with
    | none =>
      cases h
      exact .inl rfl
    | some a =>
      rw [resolveAlbum_byName_run] at h
      by_cases hblank : (Text.trim n).isEmpty = true
      · rw [if_pos hblank] at h
        cases h
        exact .inl (by simp [albumRefFault, hblank])
      · rw [if_neg hblank] at h
        split at h
        · cases h
          exact .inr rfl
        · cases h

/-- A failed artist slot reports its `artistRefFault`. -/
theorem resolveArtist_fails {ref : Ref} {e : Fault} (h : (resolveArtist ref).run s = .error e) :
    artistRefFault s ref = some e := by
  rcases hfault : artistRefFault s ref with _ | e'
  · rw [resolveArtist_run hfault] at h
    cases h
  · rw [resolveArtist_run_of_fault hfault] at h
    cases h
    rfl

end Service

end Jukebox
