import Jukebox.Call
import Mathlib.Order.Defs.Unbundled

set_option autoImplicit false

/-! # Transactions judged by what they do to the store

A transaction is judged by its successful runs: `Tx.Moves R t` says that whenever `t` succeeds
from `s` and leaves `s'`, then `R s s'`. A failed run leaves no store, so it is not judged at all;
`Tx.commit` then keeps the old store, which is why a preorder `R` holds between the stores before
and after every commit (`Tx.Moves.commit`).

For a preorder, `Moves` is closed under the ways transactions are built: `pure`, `bind`, reads,
failures and `Tx.attempt`. The units of a transaction are the store's own operations, listed as
`Query`; `Composed` is every transaction made of queries and reads in any order, as a caller may
run them inside one transaction of its own. A fact proved once per query is then a fact about
every such transaction (`Composed.moves`).

Queries fall in three groups for the id counters: those that create rows (`Query.creates`), those
that delete rows of a table with a counter (`Query.removes`), and the others.
-/

namespace Jukebox.Catalog

variable {α β : Type}

/-- Every successful run of `t` relates the store before to the store after by `R`. -/
def Tx.Moves (R : Store → Store → Prop) (t : Tx α) : Prop :=
  ∀ s a s', t.run s = .ok (a, s') → R s s'

/-- A bound transaction succeeds only through a success of its first part. -/
theorem Tx.run_bind_eq_ok {t : Tx α} {k : α → Tx β} {s s'' : Store} {b : β}
    (h : (t >>= k).run s = .ok (b, s'')) :
    ∃ a s', t.run s = .ok (a, s') ∧ (k a).run s' = .ok (b, s'') := by
  rw [StateT.run_bind] at h
  cases ht : t.run s with
  | error e => rw [ht] at h; cases h
  | ok p => rw [ht] at h; exact ⟨p.1, p.2, rfl, h⟩

theorem Tx.run_bind_of_ok {t : Tx α} {k : α → Tx β} {s s' : Store} {a : α}
    (h : t.run s = .ok (a, s')) : (t >>= k).run s = (k a).run s' := by
  rw [StateT.run_bind, h]
  rfl

theorem Tx.run_bind_of_error {t : Tx α} {k : α → Tx β} {s : Store} {e : Fault}
    (h : t.run s = .error e) : (t >>= k).run s = .error e := by
  rw [StateT.run_bind, h]
  rfl

theorem Tx.read_run_ok {f : Store → Except Fault α} {s : Store} {a : α} (h : f s = .ok a) :
    (Tx.read f).run s = .ok (a, s) := by
  simp only [StateT.run, Tx.read, h]

theorem Tx.read_run_error {f : Store → Except Fault α} {s : Store} {e : Fault}
    (h : f s = .error e) : (Tx.read f).run s = .error e := by
  simp only [StateT.run, Tx.read, h]

/-- A commit answers a value only when the run did, and then keeps the run's store. -/
theorem Tx.run_of_commit_ok {t : Tx α} {s : Store} {a : α} (h : (t.commit s).1 = .ok a) :
    t.run s = .ok (a, (t.commit s).2) := by
  unfold Tx.commit at h ⊢
  split at h <;> rename_i hrun
  · cases h
    rw [hrun]
  · cases h

/-- `Tx.Moves` read off a run written as an application, the form a `match` on a transaction's
result leaves. -/
theorem Tx.Moves.apply {R : Store → Store → Prop} {t : Tx α} (ht : t.Moves R) {s s' : Store}
    {a : α} (h : t s = .ok (a, s')) : R s s' :=
  ht s a s' h

/-! ## Closure under the ways transactions are built -/

section Closure

variable {R : Store → Store → Prop}

theorem Tx.Moves.pure [Std.Refl R] (a : α) : (pure a : Tx α).Moves R := by
  intro s b s' h
  cases h
  exact refl_of R s

theorem Tx.Moves.bind [IsTrans Store R] {t : Tx α} {k : α → Tx β} (ht : t.Moves R)
    (hk : ∀ a, (k a).Moves R) : (t >>= k).Moves R := by
  intro s b s'' h
  obtain ⟨a, s', h₁, h₂⟩ := Tx.run_bind_eq_ok h
  exact trans_of R (ht s a s' h₁) (hk a s' b s'' h₂)

theorem Tx.Moves.fail (e : Fault) : (Tx.fail e : Tx α).Moves R := by
  intro s a s' h
  cases h

theorem Tx.Moves.read [Std.Refl R] (f : Store → Except Fault α) : (Tx.read f).Moves R := by
  intro s a s' h
  cases hf : f s with
  | ok b =>
    rw [Tx.read_run_ok hf] at h
    cases h
    exact refl_of R s
  | error e =>
    rw [Tx.read_run_error hf] at h
    cases h

theorem Tx.Moves.get [Std.Refl R] : (get : Tx Store).Moves R :=
  Tx.Moves.read .ok

/-- A caught failure leaves the store where the attempt started. -/
theorem Tx.Moves.attempt [Std.Refl R] {t : Tx α} (ht : t.Moves R) : (Tx.attempt t).Moves R := by
  intro s a s' h
  simp only [StateT.run, Tx.attempt] at h
  cases hrun : t s with
  | ok p =>
    rw [hrun] at h
    cases h
    exact ht s p.1 p.2 hrun
  | error e =>
    rw [hrun] at h
    cases h
    exact refl_of R s

theorem Tx.Moves.map {t : Tx α} (ht : t.Moves R) (f : α → β) : (f <$> t).Moves R := by
  intro s b s' h
  simp only [StateT.run_map] at h
  cases ht' : t.run s with
  | error e => rw [ht'] at h; cases h
  | ok p => rw [ht'] at h; cases h; exact ht s p.1 p.2 ht'

/-- A committed transaction relates the old store to the one it leaves, failed or not. -/
theorem Tx.Moves.commit [Std.Refl R] {t : Tx α} (ht : t.Moves R) (s : Store) :
    R s (t.commit s).2 := by
  unfold Tx.commit
  split
  · exact ht s _ _ ‹_›
  · exact refl_of R s

end Closure

/-! ## Queries and the transactions made of them -/

/-- The store's operations, each one query inside a transaction. -/
inductive Query where
  | createGenre (name : String)
  | deleteGenre (id : Int)
  | createArtist (name : String) (photo : Option String)
  | insertArtistIfAbsent (name : String)
  | updateArtist (id : Int) (name photo : Option String)
  | deleteArtist (id : Int)
  | createAlbum (name : String) (artistId : Int) (cover : Option String)
  | insertAlbumIfAbsent (name : String) (artistId : Int)
  | updateAlbum (id : Int) (name : Option String) (artistId : Option Int) (cover : Option String)
  | deleteAlbum (id : Int)
  | createSong (d : SongDraft)
  | updateSong (id : Int) (c : SongChange)
  | addSongLikes (id delta : Int)
  | deleteSong (id : Int)
  | createPlaylist (name : String) (ownerId : Int)
  | renamePlaylist (id : Int) (name : String)
  | deletePlaylist (id : Int)
  | addMembership (playlistId songId : Int)
  | removeMembership (playlistId songId : Int)
  | clearPlaylist (playlistId : Int)
  | unlinkSong (songId : Int)
  | createUser (name email : String) (credential : Option Credential)

namespace Query

/-- The type of a query's answer. -/
def Answer : Query → Type
  | createGenre .. => Genre
  | createArtist .. | updateArtist .. => Artist
  | insertArtistIfAbsent .. => Option Artist
  | createAlbum .. | updateAlbum .. => ShownAlbum
  | insertAlbumIfAbsent .. => Option ShownAlbum
  | createSong .. | updateSong .. | addSongLikes .. => ShownSong
  | createPlaylist .. | renamePlaylist .. => ShownPlaylist
  | addMembership .. => Unit
  | clearPlaylist .. | unlinkSong .. => Nat
  | createUser .. => User
  | deleteGenre .. | deleteArtist .. | deleteAlbum .. | deleteSong .. | deletePlaylist ..
  | removeMembership .. => Bool

/-- The transaction a query runs. -/
def tx : (q : Query) → Tx q.Answer
  | createGenre name => Store.createGenre name
  | deleteGenre id => Store.deleteGenre id
  | createArtist name photo => Store.createArtist name photo
  | insertArtistIfAbsent name => Store.insertArtistIfAbsent name
  | updateArtist id name photo => Store.updateArtist id name photo
  | deleteArtist id => Store.deleteArtist id
  | createAlbum name artistId cover => Store.createAlbum name artistId cover
  | insertAlbumIfAbsent name artistId => Store.insertAlbumIfAbsent name artistId
  | updateAlbum id name artistId cover => Store.updateAlbum id name artistId cover
  | deleteAlbum id => Store.deleteAlbum id
  | createSong d => Store.createSong d
  | updateSong id c => Store.updateSong id c
  | addSongLikes id delta => Store.addSongLikes id delta
  | deleteSong id => Store.deleteSong id
  | createPlaylist name ownerId => Store.createPlaylist name ownerId
  | renamePlaylist id name => Store.renamePlaylist id name
  | deletePlaylist id => Store.deletePlaylist id
  | addMembership p song => Store.addMembership p song
  | removeMembership p song => Store.removeMembership p song
  | clearPlaylist p => Store.clearPlaylist p
  | unlinkSong song => Store.unlinkSong song
  | createUser name email credential => Store.createUser name email credential

/-- Whether a query may add a row to a table. -/
def creates : Query → Bool
  | createGenre .. | createArtist .. | insertArtistIfAbsent .. | createAlbum ..
  | insertAlbumIfAbsent .. | createSong .. | createPlaylist .. | createUser .. => true
  | _ => false

/-- Whether a query may delete a row of a table (memberships aside). -/
def removes : Query → Bool
  | deleteGenre .. | deleteArtist .. | deleteAlbum .. | deleteSong .. | deletePlaylist .. => true
  | _ => false

end Query

/-- The transactions made of queries and reads: a caller's own transaction may run any queries in
any order, read the store in between, branch on what it saw and catch a failure. -/
inductive Composed : {α : Type} → Tx α → Prop where
  | pure {α : Type} (a : α) : Composed (pure a : Tx α)
  | fail {α : Type} (e : Fault) : Composed (Tx.fail e : Tx α)
  | read {α : Type} (f : Store → Except Fault α) : Composed (Tx.read f)
  | query (q : Query) : Composed q.tx
  | attempt {α : Type} {t : Tx α} : Composed t → Composed (Tx.attempt t)
  | bind {α β : Type} {t : Tx α} {k : α → Tx β} :
      Composed t → (∀ a, Composed (k a)) → Composed (t >>= k)

/-- What every query does to the store, every composed transaction does. -/
theorem Composed.moves {R : Store → Store → Prop} [Std.Refl R] [IsTrans Store R]
    (hq : ∀ q : Query, q.tx.Moves R) {t : Tx α} (ht : Composed t) :
    t.Moves R := by
  induction ht with
  | pure a => exact .pure a
  | fail e => exact .fail e
  | read f => exact .read f
  | query q => exact hq q
  | attempt _ ih => exact .attempt ih
  | bind _ _ ih ihk => exact .bind ih ihk

end Jukebox.Catalog
