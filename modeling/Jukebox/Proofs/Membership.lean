import Jukebox.Proofs.Calls
import Mathlib.Data.Finset.Card

set_option autoImplicit false

/-! # Playlist memberships as a set

The store keeps memberships as a list; what it stands for is a finite set of (playlist, song)
pairs, `Store.memberSet`, and the songs a playlist holds are `Store.heldBy`. Main statement
(`memberships_refine_a_set`):

* adding a song checks the playlist, then the song, then that the pair is new, and on success
  adds exactly that pair to the set; a failure changes nothing;
* removing a song succeeds exactly when the pair is in the set, whatever else exists, and takes
  exactly that pair out;
* in every reachable store, each playlist's song count, as a read, a rename and a listing by owner
  report it, is the number of songs it holds, and listing its songs gives exactly those songs,
  once each, in increasing id order.

The count and the list are computed from the memberships by two different scans. They agree
because the store invariant keeps memberships distinct, song ids distinct and every
membership's song in the store.
-/

namespace Jukebox

open Catalog Service

namespace Catalog.Store

/-- The memberships of a store, as a set of (playlist, song) pairs. -/
def memberSet (s : Store) : Finset Membership := s.members.toFinset

/-- The songs a playlist holds: `{q | (p, q) ∈ memberSet}`. -/
def heldBy (s : Store) (p : Int) : Finset Int :=
  (s.memberSet.filter (·.playlistId = p)).image (·.songId)

variable {s : Store}

@[simp] theorem mem_memberSet {m : Membership} : m ∈ s.memberSet ↔ m ∈ s.members :=
  List.mem_toFinset

theorem mem_heldBy {p q : Int} : q ∈ s.heldBy p ↔ ⟨p, q⟩ ∈ s.members := by
  simp only [heldBy, Finset.mem_image, Finset.mem_filter, mem_memberSet]
  constructor
  · rintro ⟨⟨p', q'⟩, ⟨hm, rfl⟩, rfl⟩
    exact hm
  · intro hm
    exact ⟨⟨p, q⟩, ⟨hm, rfl⟩, rfl⟩

/-- Appending a membership adds its pair to the set. -/
theorem memberSet_append (m : Membership) :
    { s with members := s.members ++ [m] }.memberSet = insert m s.memberSet := by
  ext x
  simp [or_comm]

/-- Filtering out a membership takes its pair out of the set. -/
theorem memberSet_filter_ne (m : Membership) :
    { s with members := s.members.filter (· != m) }.memberSet = s.memberSet.erase m := by
  ext x
  simp [and_comm]

theorem playlist?_eq_none {p : Int} : s.playlist? p = none ↔ p ∉ s.playlists.map (·.id) := by
  rw [← find?_id_isNone, Option.isNone_iff_eq_none]
  rfl

theorem song?_eq_none {q : Int} : s.song? q = none ↔ q ∉ s.songs.map (·.id) := by
  rw [← find?_id_isNone, Option.isNone_iff_eq_none]
  rfl

/-- With distinct memberships, a playlist's song count is the number of songs it holds: the
memberships of one playlist differ in their song. -/
theorem songCount_eq_card (hnodup : s.members.Nodup) (p : Int) :
    s.songCount p = (s.heldBy p).card := by
  have hheld : s.heldBy p = ((s.members.filter (·.playlistId == p)).map (·.songId)).toFinset := by
    ext q
    simp only [mem_heldBy, List.mem_toFinset, List.mem_map, List.mem_filter, beq_iff_eq]
    constructor
    · intro hm
      exact ⟨⟨p, q⟩, ⟨hm, rfl⟩, rfl⟩
    · rintro ⟨⟨p', q'⟩, ⟨hm, rfl⟩, rfl⟩
      exact hm
  have hsongs : ((s.members.filter (·.playlistId == p)).map (·.songId)).Nodup := by
    refine (hnodup.filter _).map_on fun x hx y hy hxy => ?_
    have hxp := (List.mem_filter.1 hx).2
    have hyp := (List.mem_filter.1 hy).2
    simp only [beq_iff_eq] at hxp hyp
    cases x
    cases y
    simp_all
  rw [hheld, List.toFinset_card_of_nodup hsongs, List.length_map, songCount,
    List.countP_eq_length_filter]

end Catalog.Store

/-! ## Adding and removing a song -/

namespace Service

/-- Adding a song to a playlist for a live request: the playlist, then the song, then the pair
are checked, and only a new pair is added; nothing else changes. -/
theorem addToPlaylist_live (p q : Int) (s : Store) :
    addToPlaylist false p q s =
      (if p ∉ s.playlists.map (·.id) then (.error (Fault.notFound "playlist"), s)
       else if q ∉ s.songs.map (·.id) then (.error (Fault.notFound "song"), s)
       else if ⟨p, q⟩ ∈ s.memberSet then
         (.error (Fault.conflict "membership" "song already in playlist"), s)
       else (.ok (), { s with members := s.members ++ [⟨p, q⟩] }) : Outcome Unit).within
        ("add song " ++ toString q ++ " to playlist " ++ toString p) := by
  unfold addToPlaylist
  simp only [commitFor, Bool.false_eq_true, ↓reduceIte, Store.mem_memberSet]
  -- the playlist is read first
  rcases hpl : s.playlist? p with _ | pl
  · have hread : s.playlistById p = .error (Fault.notFound "playlist") := by
      simp [Store.playlistById, hpl]
    rw [Tx.commit_error _ _ _ (Tx.run_bind_of_error (Tx.read_run_error hread)),
      if_pos (Store.playlist?_eq_none.1 hpl)]
  have hp : ¬p ∉ s.playlists.map (·.id) := fun h => by
    rw [Store.playlist?_eq_none.2 h] at hpl
    cases hpl
  have hread : s.playlistById p = .ok (s.showPlaylist pl) := by simp [Store.playlistById, hpl]
  rw [if_neg hp]
  unfold Tx.commit
  rw [Tx.run_bind_of_ok (Tx.read_run_ok hread)]
  -- then the song
  rcases hsong : s.song? q with _ | song
  · have hread' : s.songById q = .error (Fault.notFound "song") := by
      simp [Store.songById, hsong]
    rw [Tx.run_bind_of_error (Tx.read_run_error hread'), if_pos (Store.song?_eq_none.1 hsong)]
  have hq : ¬q ∉ s.songs.map (·.id) := fun h => by
    rw [Store.song?_eq_none.2 h] at hsong
    cases hsong
  have hread' : s.songById q = .ok (s.showSong song) := by simp [Store.songById, hsong]
  rw [if_neg hq, Tx.run_bind_of_ok (Tx.read_run_ok hread'),
    Tx.run_bind_of_ok (show (get : Tx Store).run s = .ok (s, s) from rfl)]
  -- then the pair
  by_cases hheld : (⟨p, q⟩ : Membership) ∈ s.members
  · have hholds : s.holds p q = true := List.contains_iff_mem.2 hheld
    rw [if_pos hheld]
    simp only [hholds, ↓reduceIte]
    rfl
  · have hholds : s.holds p q = false := by simpa [Store.holds] using hheld
    rw [if_neg hheld]
    simp only [hholds, Bool.false_eq_true, ↓reduceIte]
    simp [Store.addMembership, StateT.run, hpl, hsong, hholds]

/-- Removing a song from a playlist for a live request succeeds exactly when the playlist holds
it, whether or not the playlist and the song exist, and then takes out only that pair. -/
theorem removeFromPlaylist_live (p q : Int) (s : Store) :
    removeFromPlaylist false p q s =
      (if ⟨p, q⟩ ∈ s.memberSet then
         (.ok (), { s with members := s.members.filter (· != ⟨p, q⟩) })
       else (.error (Fault.notFound "membership"), s) : Outcome Unit).within
        ("remove song " ++ toString q ++ " from playlist " ++ toString p) := by
  unfold removeFromPlaylist
  simp only [commitFor, Bool.false_eq_true, ↓reduceIte, Store.mem_memberSet]
  unfold Tx.commit
  by_cases hheld : (⟨p, q⟩ : Membership) ∈ s.members
  · have hholds : s.holds p q = true := List.contains_iff_mem.2 hheld
    have hrun : (Store.removeMembership p q).run s =
        .ok (true, { s with members := s.members.filter (· != ⟨p, q⟩) }) := by
      simp [Store.removeMembership, StateT.run, hholds]
    rw [Tx.run_bind_of_ok hrun, if_pos hheld]
    rfl
  · have hholds : s.holds p q = false := by simpa [Store.holds] using hheld
    have hrun : (Store.removeMembership p q).run s = .ok (false, s) := by
      simp [Store.removeMembership, StateT.run, hholds]
    rw [Tx.run_bind_of_ok hrun, if_neg hheld]
    rfl

end Service

/-! ## Song counts and song lists -/

namespace Catalog.Store

variable {s : Store}

/-- Rows sorted by id, from a table with distinct ids, have strictly increasing ids. -/
theorem byId_ids_lt {α : Type} (id : α → Int) (xs : List α) (h : (xs.map id).Nodup) :
    ((byId id xs).map id).Pairwise (· < ·) := by
  have hsorted : (byId id xs).Pairwise fun a b => decide (id a ≤ id b) :=
    List.pairwise_mergeSort (fun a b c hab hbc => by simp at hab hbc ⊢; omega)
      (fun a b => by simp; omega) xs
  have hle : ((byId id xs).map id).Pairwise (· ≤ ·) :=
    List.pairwise_map.2 (hsorted.imp fun hab => by simpa using hab)
  have hnodup : ((byId id xs).map id).Nodup := ((List.mergeSort_perm xs _).map id).nodup_iff.2 h
  exact (hle.and hnodup).imp fun hab => lt_of_le_of_ne hab.1 hab.2

/-- The ids of the songs a playlist lists, in list order. -/
theorem playlistSongs_ids (p : Int) :
    (s.playlistSongs p).map (·.song.id) =
      (byId (·.id) (s.songs.filter fun x => s.holds p x.id)).map (·.id) := by
  simp only [playlistSongs, List.map_map]
  rfl

/-- A playlist lists a song exactly when it holds it: every membership's song is in the store. -/
theorem Valid.mem_playlistSongs_ids (hv : s.Valid) (p q : Int) :
    q ∈ (s.playlistSongs p).map (·.song.id) ↔ q ∈ s.heldBy p := by
  rw [playlistSongs_ids, mem_heldBy]
  simp only [List.mem_map, byId, List.mem_mergeSort, List.mem_filter, holds,
    List.contains_iff_mem]
  constructor
  · rintro ⟨x, ⟨-, hx⟩, rfl⟩
    exact hx
  · intro hm
    obtain ⟨x, hx, hxq⟩ := List.mem_map.1 (hv.memberSong _ hm)
    exact ⟨x, ⟨hx, hxq ▸ hm⟩, hxq⟩

theorem Valid.playlistSongs_ids_lt (hv : s.Valid) (p : Int) :
    ((s.playlistSongs p).map (·.song.id)).Pairwise (· < ·) := by
  rw [playlistSongs_ids]
  exact byId_ids_lt _ _ ((List.filter_sublist.map _).nodup hv.songIds.nodup)

/-- A playlist lists as many songs as it holds. -/
theorem Valid.length_playlistSongs (hv : s.Valid) (p : Int) :
    (s.playlistSongs p).length = (s.heldBy p).card := by
  have hnodup := (hv.playlistSongs_ids_lt p).imp (fun hab => Int.ne_of_lt hab)
  have hset : ((s.playlistSongs p).map (·.song.id)).toFinset = s.heldBy p := by
    ext q
    rw [List.mem_toFinset, hv.mem_playlistSongs_ids]
  rw [← hset, List.toFinset_card_of_nodup hnodup, List.length_map]

/-- Every song a playlist lists is a song of the store, shown as reads show it. -/
theorem mem_playlistSongs {p : Int} {x : ShownSong} (hx : x ∈ s.playlistSongs p) :
    x.song ∈ s.songs ∧ x = s.showSong x.song := by
  simp only [playlistSongs, List.mem_map, byId, List.mem_mergeSort, List.mem_filter] at hx
  obtain ⟨y, ⟨hy, -⟩, rfl⟩ := hx
  exact ⟨hy, rfl⟩

end Catalog.Store

namespace Service

open Catalog.Store

variable {s : Store}

theorem getPlaylist_of_mem (hv : s.Valid) {p : Playlist} (hp : p ∈ s.playlists) :
    getPlaylist false p.id s = .ok (s.showPlaylist p) := by
  simp [getPlaylist, readFor, Store.playlistById, Store.playlist?,
    find?_id_of_mem hv.playlistIds.nodup hp]

theorem playlistSongs_of_mem (hv : s.Valid) {p : Playlist} (hp : p ∈ s.playlists) :
    Service.playlistSongs false p.id s = .ok (s.playlistSongs p.id) := by
  simp [Service.playlistSongs, readFor, Store.playlistById, Store.playlist?,
    find?_id_of_mem hv.playlistIds.nodup hp, bind, Except.bind, pure, Except.pure]

/-- A rename reports the song count of the playlist it renamed. -/
theorem renamePlaylist_songCount (hnodup : s.members.Nodup) {p : Int} {name : String}
    {r : ShownPlaylist} (h : (renamePlaylist false p name s).1 = .ok r) :
    r.songCount = (s.heldBy p).card := by
  unfold renamePlaylist at h
  dsimp only at h
  split at h
  · cases h
  simp only [commitFor, Bool.false_eq_true, ↓reduceIte, Outcome.within_fst_eq_ok] at h
  -- the rename committed: it found the playlist and kept the memberships
  have hrun := Tx.run_of_commit_ok h
  obtain ⟨q, -, hq, hs', rfl⟩ := Store.renamePlaylist_ok hrun
  rw [hs', ← hq, ← songCount_eq_card hnodup]
  rfl

/-- Listing an owner's playlists reports each one's song count. -/
theorem playlistsOf_songCount (hnodup : s.members.Nodup) {o : Int} {xs : List ShownPlaylist}
    (h : playlistsOf false o s = .ok xs) :
    ∀ r ∈ xs, r.playlist ∈ s.playlists ∧ r.songCount = (s.heldBy r.playlist.id).card := by
  unfold playlistsOf at h
  cases hown : requireOwner false o s with
  | error e => simp [hown, bind, Except.bind] at h
  | ok u =>
    simp only [hown, bind, Except.bind, pure, Except.pure, Except.ok.injEq] at h
    subst h
    intro r hr
    simp only [Store.playlistsOf, List.mem_map, byId, List.mem_mergeSort, List.mem_filter] at hr
    obtain ⟨pl, ⟨hpl, -⟩, rfl⟩ := hr
    exact ⟨hpl, songCount_eq_card hnodup pl.id⟩

end Service

/-- Playlist memberships behave as a finite set of (playlist, song) pairs. Adding a song checks
the playlist, then the song, then that the pair is new, and adds exactly that pair; removing one
succeeds exactly when the pair is in the set and takes out exactly that pair; a cancelled request
and every failure leave the store as it was. In every reachable store, each playlist reports, as
read, renamed or listed by owner, the number of songs it holds as its song count, and its song
list holds exactly those songs, once each, by increasing id. -/
theorem memberships_refine_a_set :
    (∀ (p q : Int) (s : Store),
      addToPlaylist false p q s =
        (if p ∉ s.playlists.map (·.id) then (.error (Fault.notFound "playlist"), s)
         else if q ∉ s.songs.map (·.id) then (.error (Fault.notFound "song"), s)
         else if ⟨p, q⟩ ∈ s.memberSet then
           (.error (Fault.conflict "membership" "song already in playlist"), s)
         else (.ok (), { s with members := s.members ++ [⟨p, q⟩] }) : Outcome Unit).within
          ("add song " ++ toString q ++ " to playlist " ++ toString p) ∧
      ({ s with members := s.members ++ [⟨p, q⟩] } : Store).memberSet =
        insert ⟨p, q⟩ s.memberSet ∧
      removeFromPlaylist false p q s =
        (if ⟨p, q⟩ ∈ s.memberSet then
           (.ok (), { s with members := s.members.filter (· != ⟨p, q⟩) })
         else (.error (Fault.notFound "membership"), s) : Outcome Unit).within
          ("remove song " ++ toString q ++ " from playlist " ++ toString p) ∧
      ({ s with members := s.members.filter (· != ⟨p, q⟩) } : Store).memberSet =
        s.memberSet.erase ⟨p, q⟩ ∧
      (∃ e, addToPlaylist true p q s = (.error e, s)) ∧
      (∃ e, removeFromPlaylist true p q s = (.error e, s))) ∧
    ∀ s, Reachable s →
      (∀ pl ∈ s.playlists,
        getPlaylist false pl.id s = .ok ⟨pl, (s.heldBy pl.id).card⟩ ∧
        ∃ xs, Service.playlistSongs false pl.id s = .ok xs ∧
          xs.length = (s.heldBy pl.id).card ∧
          (xs.map (·.song.id)).Pairwise (· < ·) ∧
          (∀ q, q ∈ xs.map (·.song.id) ↔ q ∈ s.heldBy pl.id) ∧
          ∀ x ∈ xs, x.song ∈ s.songs ∧ x = s.showSong x.song) ∧
      (∀ p name r, (Service.renamePlaylist false p name s).1 = .ok r →
        r.songCount = (s.heldBy p).card) ∧
      (∀ o xs, Service.playlistsOf false o s = .ok xs →
        ∀ r ∈ xs, r.playlist ∈ s.playlists ∧ r.songCount = (s.heldBy r.playlist.id).card) := by
  refine ⟨fun p q s => ⟨addToPlaylist_live p q s, Store.memberSet_append _,
    removeFromPlaylist_live p q s, Store.memberSet_filter_ne _, ⟨_, rfl⟩, ⟨_, rfl⟩⟩,
    fun s hs => ?_⟩
  have hv := hs.valid
  refine ⟨fun pl hpl => ⟨?_, _, playlistSongs_of_mem hv hpl, hv.length_playlistSongs pl.id,
    hv.playlistSongs_ids_lt pl.id, hv.mem_playlistSongs_ids pl.id,
    fun x hx => Store.mem_playlistSongs hx⟩,
    fun p name r h => renamePlaylist_songCount hv.members h,
    fun o xs h => playlistsOf_songCount hv.members h⟩
  rw [getPlaylist_of_mem hv hpl, Store.showPlaylist, Store.songCount_eq_card hv.members]

end Jukebox
