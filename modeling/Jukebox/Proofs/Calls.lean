import Jukebox.Proofs.Valid

set_option autoImplicit false

/-! # Calls and the stores they reach

Every call of the catalog either leaves the store as it was or commits one transaction made of
queries. So a relation that holds across the queries a call may run holds between the store
before and the store after the call (`Call.follows`). The queries a call may run come in two
kinds: a call that deletes catalog rows creates none, and every other call deletes none
(`Call.removes`), which lets facts about the id counters be proved per kind.

Three consequences are stated here:

* a call that fails, and a transaction that fails, leave the store exactly as it was, counters
  included (`failed_calls_change_nothing`);
* the invariant `Store.Valid` holds in the empty store and is kept by every call and every
  transaction made of queries, hence in every store the catalog can reach
  (`store_invariant_holds`);
* `Reachable` is that set of stores: the empty store, and whatever calls, live or cancelled, and
  transactions of queries make of it, in any number and order.

A call takes the password hashing it runs with as a parameter (`PasswordScheme`); none of these
facts depends on what the hashing answers, so each holds for every scheme.
-/

namespace Jukebox

open Catalog Service

/-! ## Outcomes -/

@[simp]
theorem Service.Outcome.within_snd {α : Type} (context : String) (o : Outcome α) :
    (o.within context).2 = o.2 := by
  obtain ⟨r, s⟩ := o
  cases r <;> rfl

/-- A context changes only failures. -/
theorem Service.Outcome.within_fst_eq_ok {α : Type} (context : String) (o : Outcome α) (a : α) :
    (o.within context).1 = .ok a ↔ o.1 = .ok a := by
  obtain ⟨r, s⟩ := o
  cases r <;> simp [Service.Outcome.within]

@[simp]
theorem Call.shape_snd {α : Type} (f : α → Json) (o : Outcome α) : (Call.shape f o).2 = o.2 := by
  obtain ⟨r, s⟩ := o
  rfl

@[simp]
theorem Call.reading_snd {α : Type} (f : α → Json) (r : Except Fault α) (s : Store) :
    (Call.reading f r s).2 = s := rfl

/-! ## What a call's transaction does to the store -/

section Follows

variable {R : Store → Store → Prop}

theorem Service.commitFor_follows [Std.Refl R] {α : Type} {t : Tx α} (ht : t.Moves R)
    (cancelled : Bool) (s : Store) : R s (commitFor cancelled t s).2 := by
  unfold commitFor
  split
  · exact refl_of R s
  · exact ht.commit s

theorem Service.writeFor_follows [Std.Refl R] {α β : Type} {t : β → Tx α}
    (ht : ∀ b, (t b).Moves R) (cancelled : Bool) (checks : Except Fault β) (s : Store) :
    R s (writeFor cancelled checks t s).2 := by
  unfold writeFor
  split
  · exact refl_of R s
  · split
    · exact refl_of R s
    · exact (ht _).commit s

theorem Service.requireRow_moves [Std.Refl R] {α : Type} (field : String) (r : Except Fault α) :
    (requireRow field r).Moves R := by
  cases r with
  | ok a => exact .pure _
  | error e => exact .fail _

theorem Service.orFail_moves [Std.Refl R] {α : Type} (r : Except Fault α) :
    (Service.Tx.orFail r).Moves R := by
  cases r with
  | ok a => exact .pure _
  | error e => exact .fail _

theorem Service.deleteOrMissing_moves [Std.Refl R] [IsTrans Store R] (entity : String)
    {t : Tx Bool} (ht : t.Moves R) : (deleteOrMissing entity t).Moves R := by
  refine .bind ht fun b => ?_
  cases b with
  | true => exact .pure _
  | false => exact .fail _

/-- Every round of a resolution only looks up and inserts. -/
theorem Catalog.Finder.rounds_moves [Std.Refl R] [IsTrans Store R] {α : Type} (f : Finder Tx α)
    (hl : ∀ k, (f.lookup k).Moves R) (hi : ∀ k, (f.insert k).Moves R) (noun key : String)
    (n : Nat) : (f.rounds noun key n).Moves R := by
  induction n with
  | zero => exact .pure _
  | succ n ih =>
    rw [Finder.rounds]
    refine .bind (hl key) fun r => ?_
    split
    · exact .pure _
    · split
      · refine .bind (hi key) fun r' => ?_
        split
        · exact .pure _
        · exact .pure _
        · exact ih
      · exact .pure _

theorem Catalog.Finder.resolve_moves [Std.Refl R] [IsTrans Store R] {α : Type} (f : Finder Tx α)
    (hl : ∀ k, (f.lookup k).Moves R) (hi : ∀ k, (f.insert k).Moves R) (noun name : String) :
    (f.resolve noun name).Moves R := by
  unfold Finder.resolve
  dsimp only
  split
  · exact .pure _
  · exact f.rounds_moves hl hi noun _ _

variable [Std.Refl R] [IsTrans Store R]

/-! ### Calls that create or change rows

These run no query that deletes a row, so they need `R` across the other queries only. -/

section Creating

variable (hq : ∀ q : Query, q.removes = false → q.tx.Moves R)
include hq

theorem Catalog.artistFinder_resolve_moves (noun name : String) :
    (artistFinder.resolve noun name).Moves R :=
  artistFinder.resolve_moves (fun _ => .attempt (.read _))
    (fun k => .attempt (.map (hq (.insertArtistIfAbsent k) rfl) _)) noun name

theorem Catalog.albumFinder_resolve_moves (artistId : Int) (noun name : String) :
    ((albumFinder artistId).resolve noun name).Moves R :=
  (albumFinder artistId).resolve_moves (fun _ => .attempt (.read _))
    (fun k => .attempt (.map (hq (.insertAlbumIfAbsent k artistId) rfl) _)) noun name

theorem Service.resolveArtist_moves (ref : Ref) : (resolveArtist ref).Moves R := by
  cases ref with
  | absent => exact .pure _
  | byId id => exact .bind .get fun _ => .bind (requireRow_moves _ _) fun _ => .pure _
  | byName n =>
    exact .bind (artistFinder_resolve_moves hq _ _) fun r => .bind (orFail_moves r) fun _ => .pure _

theorem Service.resolveAlbum_moves (artistId : Option Int) (ref : Ref) :
    (resolveAlbum artistId ref).Moves R := by
  cases ref with
  | absent => exact .pure _
  | byId id => exact .bind .get fun _ => .bind (requireRow_moves _ _) fun _ => .pure _
  | byName n =>
    cases artistId with
    | none => exact .fail _
    | some a =>
      exact .bind (albumFinder_resolve_moves hq a _ _) fun r =>
        .bind (orFail_moves r) fun _ => .pure _

theorem Service.createSong_follows (cancelled : Bool) (input : SongInput) (s : Store) :
    R s (createSong cancelled input s).2 := by
  unfold createSong
  dsimp only
  split
  · exact refl_of R s
  · rw [Outcome.within_snd]
    refine commitFor_follows ?_ cancelled s
    refine .bind .get fun _ => .bind (requireRow_moves _ _) fun _ => ?_
    refine .bind (resolveArtist_moves hq _) fun a => .bind (resolveAlbum_moves hq a _) fun _ => ?_
    exact hq (.createSong _) rfl

theorem Service.updateSong_follows (cancelled : Bool) (id : Int) (patch : SongPatch) (s : Store) :
    R s (updateSong cancelled id patch s).2 := by
  unfold updateSong
  dsimp only
  split
  · exact refl_of R s
  · rw [Outcome.within_snd]
    refine commitFor_follows ?_ cancelled s
    refine .bind (.read _) fun previous => ?_
    -- the rest of the transaction follows the genre check in both arms of its `match`
    split
    · refine .bind .get fun _ => .bind (requireRow_moves _ _) fun _ => ?_
      refine .bind (resolveArtist_moves hq _) fun _ => .bind (resolveAlbum_moves hq _ _) fun _ => ?_
      exact .bind (hq (.updateSong _ _) rfl) fun _ => .pure _
    · refine .bind (resolveArtist_moves hq _) fun _ => .bind (resolveAlbum_moves hq _ _) fun _ => ?_
      exact .bind (hq (.updateSong _ _) rfl) fun _ => .pure _

omit [IsTrans Store R] in
theorem Service.addLikes_follows (cancelled : Bool) (id : Int) (delta : Int64) (s : Store) :
    R s (addLikes cancelled id delta s).2 := by
  unfold addLikes
  rw [Outcome.within_snd]
  exact commitFor_follows (hq (.addSongLikes id delta.toInt) rfl) cancelled s

omit [IsTrans Store R] in
theorem Service.createPlaylist_follows (cancelled : Bool) (name : String) (ownerId : Int)
    (s : Store) : R s (Service.createPlaylist cancelled name ownerId s).2 := by
  unfold Service.createPlaylist
  dsimp only
  split
  · exact refl_of R s
  · split
    · exact refl_of R s
    · rw [Outcome.within_snd]
      exact commitFor_follows (hq (.createPlaylist _ ownerId) rfl) cancelled s

theorem Service.addToPlaylist_follows (cancelled : Bool) (playlistId songId : Int) (s : Store) :
    R s (addToPlaylist cancelled playlistId songId s).2 := by
  unfold addToPlaylist
  rw [Outcome.within_snd]
  refine commitFor_follows ?_ cancelled s
  refine .bind (.read _) fun _ => .bind (.read _) fun _ => .bind .get fun st => ?_
  split
  · exact .fail _
  · exact hq (.addMembership playlistId songId) rfl

theorem Service.removeFromPlaylist_follows (cancelled : Bool) (playlistId songId : Int)
    (s : Store) : R s (removeFromPlaylist cancelled playlistId songId s).2 := by
  unfold removeFromPlaylist
  rw [Outcome.within_snd]
  refine commitFor_follows (.bind (hq (.removeMembership playlistId songId) rfl) fun b => ?_)
    cancelled s
  cases b with
  | true => exact .pure _
  | false => exact .fail _

omit [IsTrans Store R] in
theorem Service.renamePlaylist_follows (cancelled : Bool) (playlistId : Int) (name : String)
    (s : Store) : R s (Service.renamePlaylist cancelled playlistId name s).2 := by
  unfold Service.renamePlaylist
  dsimp only
  split
  · exact refl_of R s
  · rw [Outcome.within_snd]
    exact commitFor_follows (hq (.renamePlaylist playlistId _) rfl) cancelled s

omit [IsTrans Store R] in
theorem Service.registerUser_follows (scheme : PasswordScheme) (cancelled : Bool)
    (name email password : String) (s : Store) :
    R s (registerUser scheme cancelled name email password s).2 := by
  unfold registerUser
  split
  · exact refl_of R s
  · dsimp only
    split
    · exact refl_of R s
    · split
      · exact refl_of R s
      · split
        · exact refl_of R s
        · split
          · exact refl_of R s
          · exact (hq (.createUser _ _ _) rfl).commit s

omit [IsTrans Store R] in
theorem Service.createGenre_follows (cancelled : Bool) (name : String) (s : Store) :
    R s (Service.createGenre cancelled name s).2 :=
  writeFor_follows (fun n => hq (.createGenre n) rfl) cancelled _ s

omit [IsTrans Store R] in
theorem Service.createArtist_follows (cancelled : Bool) (name : String) (photo : Option String)
    (s : Store) : R s (Service.createArtist cancelled name photo s).2 :=
  writeFor_follows (fun n => hq (.createArtist n photo) rfl) cancelled _ s

omit [IsTrans Store R] in
theorem Service.updateArtist_follows (cancelled : Bool) (id : Int) (name photo : Option String)
    (s : Store) : R s (Service.updateArtist cancelled id name photo s).2 :=
  writeFor_follows (fun n => hq (.updateArtist id n photo) rfl) cancelled _ s

omit [IsTrans Store R] in
theorem Service.createAlbum_follows (cancelled : Bool) (name : String) (artistId : Int)
    (cover : Option String) (s : Store) :
    R s (Service.createAlbum cancelled name artistId cover s).2 :=
  writeFor_follows (fun n => hq (.createAlbum n artistId cover) rfl) cancelled _ s

omit [IsTrans Store R] in
theorem Service.updateAlbum_follows (cancelled : Bool) (id : Int) (name : Option String)
    (artistId : Option Int) (cover : Option String) (s : Store) :
    R s (Service.updateAlbum cancelled id name artistId cover s).2 :=
  writeFor_follows (fun n => hq (.updateAlbum id n artistId cover) rfl) cancelled _ s

end Creating

/-! ### Calls that delete rows

These create no row, so they need `R` across the queries that create none. -/

section Removing

variable (hq : ∀ q : Query, q.creates = false → q.tx.Moves R)
include hq

theorem Service.deleteSong_follows (cancelled : Bool) (id : Int) (s : Store) :
    R s (Service.deleteSong cancelled id s).2 := by
  unfold Service.deleteSong
  rw [Outcome.within_snd]
  refine commitFor_follows (.bind (.read _) fun _ => ?_) cancelled s
  refine .bind (hq (.unlinkSong id) rfl) fun _ => .bind (hq (.deleteSong id) rfl) fun b => ?_
  cases b with
  | true => exact .pure _
  | false => exact .fail _

theorem Service.deletePlaylist_follows (cancelled : Bool) (playlistId : Int) (s : Store) :
    R s (Service.deletePlaylist cancelled playlistId s).2 := by
  unfold Service.deletePlaylist
  rw [Outcome.within_snd]
  refine commitFor_follows (.bind (.read _) fun _ => ?_) cancelled s
  refine .bind (hq (.clearPlaylist playlistId) rfl) fun _ => ?_
  refine .bind (hq (.deletePlaylist playlistId) rfl) fun b => ?_
  cases b with
  | true => exact .pure _
  | false => exact .fail _

theorem Service.deleteGenre_follows (cancelled : Bool) (id : Int) (s : Store) :
    R s (Service.deleteGenre cancelled id s).2 :=
  writeFor_follows (fun _ => deleteOrMissing_moves _ (hq (.deleteGenre id) rfl)) cancelled _ s

theorem Service.deleteArtist_follows (cancelled : Bool) (id : Int) (s : Store) :
    R s (Service.deleteArtist cancelled id s).2 :=
  writeFor_follows (fun _ => deleteOrMissing_moves _ (hq (.deleteArtist id) rfl)) cancelled _ s

theorem Service.deleteAlbum_follows (cancelled : Bool) (id : Int) (s : Store) :
    R s (Service.deleteAlbum cancelled id s).2 :=
  writeFor_follows (fun _ => deleteOrMissing_moves _ (hq (.deleteAlbum id) rfl)) cancelled _ s

end Removing

end Follows

/-! ## Every call -/

/-- Whether a call may delete catalog rows (memberships aside). -/
def Call.removes : Call → Bool
  | .genreDelete .. | .artistDelete .. | .albumDelete .. | .songDelete .. | .playlistDelete ..
  | .storeDeleteSong .. | .storeDeletePlaylist .. | .storeDeleteArtist .. | .storeDeleteAlbum ..
  | .storeDeleteGenre .. => true
  | _ => false

/-- A relation that holds across the queries a call may run holds between the store before the
call and the store after it: a deleting call runs no creating query, any other call no deleting
one. -/
theorem Call.follows {R : Store → Store → Prop} [Std.Refl R] [IsTrans Store R] (call : Call)
    (hq : ∀ q : Query, (bif call.removes then q.creates else q.removes) = false → q.tx.Moves R)
    (scheme : PasswordScheme) (cancelled : Bool) (s : Store) :
    R s (call.run scheme cancelled s).2 := by
  cases call <;> simp only [Call.run, Call.shape_snd, Call.reading_snd, Call.removes,
    cond_true, cond_false] at hq ⊢
  case genreCreate name => exact createGenre_follows hq cancelled name s
  case genreDelete id => exact deleteGenre_follows hq cancelled id s
  case artistCreate name photo => exact createArtist_follows hq cancelled name photo s
  case artistUpdate id name photo => exact updateArtist_follows hq cancelled id name photo s
  case artistDelete id => exact deleteArtist_follows hq cancelled id s
  case albumCreate name artistId cover => exact createAlbum_follows hq cancelled name artistId cover s
  case albumUpdate id name artistId cover =>
    exact updateAlbum_follows hq cancelled id name artistId cover s
  case albumDelete id => exact deleteAlbum_follows hq cancelled id s
  case songCreate input => exact createSong_follows hq cancelled input s
  case songUpdate id patch => exact updateSong_follows hq cancelled id patch s
  case songDelete id => exact deleteSong_follows hq cancelled id s
  case songLike id => exact addLikes_follows hq cancelled id 1 s
  case songUnlike id => exact addLikes_follows hq cancelled id (-1) s
  case playlistCreate name ownerId => exact createPlaylist_follows hq cancelled name ownerId s
  case playlistAddSong p song => exact addToPlaylist_follows hq cancelled p song s
  case playlistRemoveSong p song => exact removeFromPlaylist_follows hq cancelled p song s
  case playlistDelete p => exact deletePlaylist_follows hq cancelled p s
  case playlistRename p name => exact renamePlaylist_follows hq cancelled p name s
  case userRegister name email password =>
    exact registerUser_follows hq scheme cancelled name email password s
  case resolveArtist name =>
    split
    · exact (artistFinder_resolve_moves hq _ _).apply ‹_›
    · exact refl_of R s
  case resolveAlbum name artistId =>
    split
    · exact (albumFinder_resolve_moves hq artistId _ _).apply ‹_›
    · exact refl_of R s
  case storeCreateUser name email => exact (hq (.createUser name email none) rfl).commit s
  case storeCreateGenre name => exact (hq (.createGenre name) rfl).commit s
  case storeCreateArtist name photo => exact (hq (.createArtist name photo) rfl).commit s
  case storeInsertArtistIfAbsent name => exact (hq (.insertArtistIfAbsent name) rfl).commit s
  case storeCreateAlbum name artistId cover =>
    exact (hq (.createAlbum name artistId cover) rfl).commit s
  case storeInsertAlbumIfAbsent name artistId =>
    exact (hq (.insertAlbumIfAbsent name artistId) rfl).commit s
  case storeCreateSong draft => exact (hq (.createSong draft) rfl).commit s
  case storeUpdateSong id change => exact (hq (.updateSong id change) rfl).commit s
  case storeAddSongLikes id delta => exact (hq (.addSongLikes id delta.toInt) rfl).commit s
  case storeDeleteSong id => exact (hq (.deleteSong id) rfl).commit s
  case storeDeletePlaylist id => exact (hq (.deletePlaylist id) rfl).commit s
  case storeDeleteArtist id => exact (hq (.deleteArtist id) rfl).commit s
  case storeDeleteAlbum id => exact (hq (.deleteAlbum id) rfl).commit s
  case storeDeleteGenre id => exact (hq (.deleteGenre id) rfl).commit s
  case storeCreatePlaylist name ownerId => exact (hq (.createPlaylist name ownerId) rfl).commit s
  case storeRenamePlaylist id name => exact (hq (.renamePlaylist id name) rfl).commit s
  case storeAddMembership p song => exact (hq (.addMembership p song) rfl).commit s
  case storeRemoveMembership p song => exact (hq (.removeMembership p song) rfl).commit s
  case storeDeletePlaylistMemberships p => exact (hq (.clearPlaylist p) rfl).commit s
  case storeDeleteSongMemberships song => exact (hq (.unlinkSong song) rfl).commit s
  -- the remaining calls only read
  all_goals exact refl_of R s

/-! ## Failures change nothing -/

/-- An outcome that, when it is a failure, leaves the store `s` it started from. -/
def Service.Outcome.Atomic {α : Type} (s : Store) (o : Outcome α) : Prop :=
  ∀ e, o.1 = .error e → o.2 = s

namespace Service.Outcome

theorem atomic_error {α : Type} (e : Fault) (s : Store) : Atomic s ((.error e, s) : Outcome α) :=
  fun _ _ => rfl

theorem atomic_commitFor {α : Type} (cancelled : Bool) (t : Tx α) (s : Store) :
    Atomic s (commitFor cancelled t s) :=
  fun e h => commitFor_store_of_error cancelled t s e h

theorem atomic_commit {α : Type} (t : Tx α) (s : Store) : Atomic s (t.commit s) :=
  atomic_commitFor false t s

theorem Atomic.within {α : Type} {s : Store} {o : Outcome α} (h : Atomic s o) (context : String) :
    Atomic s (o.within context) := by
  obtain ⟨r, s'⟩ := o
  cases r with
  | error e => exact fun _ _ => h e rfl
  | ok a => exact fun _ he => nomatch he

theorem atomic_writeFor {α β : Type} (cancelled : Bool) (checks : Except Fault β) (t : β → Tx α)
    (s : Store) : Atomic s (writeFor cancelled checks t s) := by
  unfold writeFor
  split
  · exact atomic_error _ s
  · split
    · exact atomic_error _ s
    · exact atomic_commit _ s

end Service.Outcome

open Service.Outcome

theorem Service.createSong_atomic (cancelled : Bool) (input : SongInput) (s : Store) :
    Atomic s (createSong cancelled input s) := by
  unfold createSong
  dsimp only
  split
  · exact atomic_error _ s
  · exact (atomic_commitFor _ _ s).within _

theorem Service.updateSong_atomic (cancelled : Bool) (id : Int) (patch : SongPatch) (s : Store) :
    Atomic s (updateSong cancelled id patch s) := by
  unfold updateSong
  dsimp only
  split
  · exact atomic_error _ s
  · exact (atomic_commitFor _ _ s).within _

theorem Service.createPlaylist_atomic (cancelled : Bool) (name : String) (ownerId : Int)
    (s : Store) : Atomic s (Service.createPlaylist cancelled name ownerId s) := by
  unfold Service.createPlaylist
  dsimp only
  split
  · exact atomic_error _ s
  · split
    · exact atomic_error _ s
    · exact (atomic_commitFor _ _ s).within _

theorem Service.renamePlaylist_atomic (cancelled : Bool) (playlistId : Int) (name : String)
    (s : Store) : Atomic s (Service.renamePlaylist cancelled playlistId name s) := by
  unfold Service.renamePlaylist
  dsimp only
  split
  · exact atomic_error _ s
  · exact (atomic_commitFor _ _ s).within _

theorem Service.registerUser_atomic (scheme : PasswordScheme) (cancelled : Bool)
    (name email password : String) (s : Store) :
    Atomic s (registerUser scheme cancelled name email password s) := by
  unfold registerUser
  split
  · exact atomic_error _ s
  · dsimp only
    split
    · exact atomic_error _ s
    · split
      · exact atomic_error _ s
      · split
        · exact atomic_error _ s
        · split
          · exact atomic_error _ s
          · exact atomic_commit _ s

/-- A resolution that answers a failure has written nothing, when its look-ups never write and its
inserts write only when they insert a row. -/
theorem Catalog.Finder.rounds_store_of_error {α : Type} (f : Finder Tx α)
    (hl : ∀ k, (f.lookup k).Moves Eq)
    (hi : ∀ k s r s', (f.insert k).run s = .ok (r, s') → (∀ a, r ≠ .ok (some a)) → s = s')
    (noun key : String) (n : Nat) {s s' : Store} {e : Fault}
    (h : f.rounds noun key n s = .ok (.error e, s')) : s = s' := by
  induction n generalizing s with
  | zero => cases h; rfl
  | succ n ih =>
    rw [Finder.rounds] at h
    obtain ⟨r, s₁, h₁, h₂⟩ := Tx.run_bind_eq_ok h
    obtain rfl := hl key s r s₁ h₁
    split at h₂
    · cases h₂
    · split at h₂
      · obtain ⟨r', s₂, h₃, h₄⟩ := Tx.run_bind_eq_ok h₂
        split at h₄
        · cases h₄; exact hi key s _ s' h₃ (fun _ => nofun)
        · cases h₄
        · obtain rfl := hi key s _ s₂ h₃ (fun _ => nofun)
          exact ih h₄
      · cases h₂; rfl

/-- The artist finder's insert writes only when it inserts. -/
theorem Catalog.artistFinder_insert_store {k : String} {s s' : Store}
    {r : Except Fault (Option ArtistRef)} (h : (artistFinder.insert k).run s = .ok (r, s'))
    (hr : ∀ a, r ≠ .ok (some a)) : s = s' := by
  simp only [artistFinder, Tx.attempt, StateT.run, Store.insertArtistIfAbsent, StateT.map] at h
  split at h
  · rename_i x s₁ heq
    cases h
    split at heq
    · simp only [bind, Except.bind, pure, Except.pure, Except.ok.injEq, Prod.mk.injEq] at heq
      exact heq.2
    · simp only [Store.addArtist, bind, Except.bind, pure, Except.pure, Except.ok.injEq,
        Prod.mk.injEq, Option.map_some] at heq
      exact (hr _ (by rw [← heq.1])).elim
  · cases h; rfl

/-- The album finder's insert writes only when it inserts. -/
theorem Catalog.albumFinder_insert_store {artistId : Int} {k : String} {s s' : Store}
    {r : Except Fault (Option AlbumRef)} (h : ((albumFinder artistId).insert k).run s = .ok (r, s'))
    (hr : ∀ a, r ≠ .ok (some a)) : s = s' := by
  simp only [albumFinder, Tx.attempt, StateT.run, Store.insertAlbumIfAbsent, StateT.map] at h
  split at h
  · rename_i x s₁ heq
    cases h
    split at heq
    · cases heq
    · split at heq
      · simp only [bind, Except.bind, pure, Except.pure, Except.ok.injEq, Prod.mk.injEq] at heq
        exact heq.2
      · simp only [Store.addAlbum, bind, Except.bind, pure, Except.pure, Except.ok.injEq,
          Prod.mk.injEq, Option.map_some] at heq
        exact (hr _ (by rw [← heq.1])).elim
  · cases h; rfl

theorem Catalog.artistFinder_resolve_store_of_error {noun name : String} {s s' : Store}
    {e : Fault} (h : artistFinder.resolve noun name s = .ok (.error e, s')) : s = s' := by
  unfold Finder.resolve at h
  split at h
  · cases h; rfl
  · exact artistFinder.rounds_store_of_error (fun _ => .attempt (.read _))
      (fun _ _ _ _ h hr => artistFinder_insert_store h hr) noun _ _ h

theorem Catalog.albumFinder_resolve_store_of_error {artistId : Int} {noun name : String}
    {s s' : Store} {e : Fault}
    (h : (albumFinder artistId).resolve noun name s = .ok (.error e, s')) : s = s' := by
  unfold Finder.resolve at h
  split at h
  · cases h; rfl
  · exact (albumFinder artistId).rounds_store_of_error (fun _ => .attempt (.read _))
      (fun _ _ _ _ h hr => albumFinder_insert_store h hr) noun _ _ h

theorem Service.Outcome.Atomic.shape {α : Type} {s : Store} {o : Outcome α} (h : Atomic s o)
    (f : α → Json) : Atomic s (Call.shape f o) := by
  obtain ⟨r, s'⟩ := o
  cases r with
  | error e => exact fun _ _ => h e rfl
  | ok a => exact fun _ he => nomatch he

/-- Every call that fails leaves the store it started from. -/
theorem Call.atomic (scheme : PasswordScheme) (cancelled : Bool) (call : Call) (s : Store) :
    Atomic s (call.run scheme cancelled s) := by
  cases call <;> simp only [Call.run]
  case genreCreate name => exact (atomic_writeFor _ _ _ s).shape _
  case genreDelete id => exact (atomic_writeFor _ _ _ s).shape _
  case artistCreate name photo => exact (atomic_writeFor _ _ _ s).shape _
  case artistUpdate id name photo => exact (atomic_writeFor _ _ _ s).shape _
  case artistDelete id => exact (atomic_writeFor _ _ _ s).shape _
  case albumCreate name artistId cover => exact (atomic_writeFor _ _ _ s).shape _
  case albumUpdate id name artistId cover => exact (atomic_writeFor _ _ _ s).shape _
  case albumDelete id => exact (atomic_writeFor _ _ _ s).shape _
  case songCreate input => exact (createSong_atomic cancelled input s).shape _
  case songUpdate id patch => exact (updateSong_atomic cancelled id patch s).shape _
  case songDelete id => exact ((atomic_commitFor _ _ s).within _).shape _
  case songLike id => exact ((atomic_commitFor _ _ s).within _).shape _
  case songUnlike id => exact ((atomic_commitFor _ _ s).within _).shape _
  case playlistCreate name ownerId =>
    exact (createPlaylist_atomic cancelled name ownerId s).shape _
  case playlistAddSong p song => exact ((atomic_commitFor _ _ s).within _).shape _
  case playlistRemoveSong p song => exact ((atomic_commitFor _ _ s).within _).shape _
  case playlistDelete p => exact ((atomic_commitFor _ _ s).within _).shape _
  case playlistRename p name => exact (renamePlaylist_atomic cancelled p name s).shape _
  case userRegister name email password =>
    exact (registerUser_atomic scheme cancelled name email password s).shape _
  case resolveArtist name =>
    split
    · rename_i r s' heq
      intro e he
      cases r with
      | error e' => exact (artistFinder_resolve_store_of_error heq).symm
      | ok a => cases he
    · exact fun _ _ => rfl
  case resolveAlbum name artistId =>
    split
    · rename_i r s' heq
      intro e he
      cases r with
      | error e' => exact (albumFinder_resolve_store_of_error heq).symm
      | ok a => cases he
    · exact fun _ _ => rfl
  case storeCreateUser name email => exact (atomic_commit _ s).shape _
  case storeCreateGenre name => exact (atomic_commit _ s).shape _
  case storeCreateArtist name photo => exact (atomic_commit _ s).shape _
  case storeInsertArtistIfAbsent name => exact (atomic_commit _ s).shape _
  case storeCreateAlbum name artistId cover => exact (atomic_commit _ s).shape _
  case storeInsertAlbumIfAbsent name artistId => exact (atomic_commit _ s).shape _
  case storeCreateSong draft => exact (atomic_commit _ s).shape _
  case storeUpdateSong id change => exact (atomic_commit _ s).shape _
  case storeAddSongLikes id delta => exact (atomic_commit _ s).shape _
  case storeDeleteSong id => exact (atomic_commit _ s).shape _
  case storeDeletePlaylist id => exact (atomic_commit _ s).shape _
  case storeDeleteArtist id => exact (atomic_commit _ s).shape _
  case storeDeleteAlbum id => exact (atomic_commit _ s).shape _
  case storeDeleteGenre id => exact (atomic_commit _ s).shape _
  case storeCreatePlaylist name ownerId => exact (atomic_commit _ s).shape _
  case storeRenamePlaylist id name => exact (atomic_commit _ s).shape _
  case storeAddMembership p song => exact (atomic_commit _ s).shape _
  case storeRemoveMembership p song => exact (atomic_commit _ s).shape _
  case storeDeletePlaylistMemberships p => exact (atomic_commit _ s).shape _
  case storeDeleteSongMemberships song => exact (atomic_commit _ s).shape _
  -- the remaining calls only read
  all_goals exact fun _ _ => rfl

/-- Performs calls one after another from a store, collecting their answers, and returns the
store they leave. -/
def Call.runAll (scheme : PasswordScheme) :
    List (Bool × Call) → Store → List (Except Fault Json) × Store
  | [], s => ([], s)
  | (cancelled, call) :: rest, s =>
    let r := call.run scheme cancelled s
    let later := runAll scheme rest r.2
    (r.1 :: later.1, later.2)

/-- A call that fails leaves the store exactly as it was, counters included, so the calls after it
answer exactly as if it had never been made; a transaction that fails leaves the store as well. -/
theorem failed_calls_change_nothing :
    (∀ (scheme : PasswordScheme) (cancelled : Bool) (call : Call) (s : Store) (e : Fault),
      (call.run scheme cancelled s).1 = .error e →
        (call.run scheme cancelled s).2 = s ∧
        ∀ later, Call.runAll scheme ((cancelled, call) :: later) s =
          (.error e :: (Call.runAll scheme later s).1, (Call.runAll scheme later s).2)) ∧
    ∀ {α : Type} (t : Tx α) (s : Store) (e : Fault),
      (t.commit s).1 = .error e → (t.commit s).2 = s := by
  refine ⟨fun scheme cancelled call s e he => ?_, fun t s e he => atomic_commit t s e he⟩
  have hs := Call.atomic scheme cancelled call s e he
  refine ⟨hs, fun later => ?_⟩
  simp only [Call.runAll, he, hs]

/-! ## The stores the catalog reaches -/

/-- The stores the catalog reaches from the empty one: by calls, for live or cancelled requests
and under any password hashing, and by committing transactions made of queries, in any number
and order. -/
inductive Reachable : Store → Prop where
  | empty : Reachable {}
  | call {s : Store} (scheme : PasswordScheme) (cancelled : Bool) (call : Call) :
      Reachable s → Reachable (call.run scheme cancelled s).2
  | commit {s : Store} {α : Type} {t : Tx α} : Composed t → Reachable s → Reachable (t.commit s).2

/-- A password hashing that refuses every password, with plain text. Calls that register no user
reach the same store under every scheme, and this is the simplest one to name; it has both
properties the catalog asks of a scheme. -/
def Catalog.PasswordScheme.refusing : PasswordScheme where
  hash _ := .error (.plain "password hashing is unavailable")
  admits _ _ := false

theorem Catalog.PasswordScheme.refusing_failsPlainly : refusing.FailsPlainly :=
  fun _ _ h => ⟨_, (Except.error.inj h).symm⟩

theorem Catalog.PasswordScheme.refusing_refusesLong : refusing.RefusesLong :=
  fun _ _ => ⟨_, rfl⟩

theorem Catalog.Store.Valid.call {s : Store} (hv : s.Valid) (scheme : PasswordScheme)
    (cancelled : Bool) (call : Call) : (call.run scheme cancelled s).2.Valid :=
  call.follows (R := Store.KeepsValid) (fun q _ => q.moves_valid) scheme cancelled s hv

theorem Catalog.Store.Valid.commit {s : Store} (hv : s.Valid) {α : Type} {t : Tx α}
    (ht : Composed t) : (t.commit s).2.Valid :=
  (ht.moves Query.moves_valid).commit s hv

theorem Reachable.valid {s : Store} (h : Reachable s) : s.Valid := by
  induction h with
  | empty => exact Store.valid_empty
  | call scheme cancelled c _ ih => exact ih.call scheme cancelled c
  | commit ht _ ih => exact ih.commit ht

/-- The store invariant holds in the empty store and is kept by every call and by every
transaction made of queries, so it holds in every store the catalog reaches. -/
theorem store_invariant_holds :
    Store.Valid {} ∧
    (∀ (s : Store) (scheme : PasswordScheme) (cancelled : Bool) (call : Call),
      s.Valid → (call.run scheme cancelled s).2.Valid) ∧
    (∀ (s : Store) {α : Type} (t : Tx α), Composed t → s.Valid → (t.commit s).2.Valid) ∧
    ∀ s, Reachable s → s.Valid :=
  ⟨Store.valid_empty, fun _ scheme cancelled call hv => hv.call scheme cancelled call,
    fun _ _ _ ht hv => hv.commit ht, fun _ h => h.valid⟩

end Jukebox
