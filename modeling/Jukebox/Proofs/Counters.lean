import Jukebox.Proofs.Calls

set_option autoImplicit false

/-! # Id counters

Each table has a counter, the last id it issued; a new row takes the id after it and the counter
moves on. `idsBetween n m` are the ids a counter issues going from `n` to `m`: `n + 1, …, m`.

No call both creates and deletes rows (`Call.follows`), so across one call a table either grows
(`Table.Grows`: its rows before, then rows with the ids its counter issued meanwhile, in that
order) or shrinks (`Table.Shrinks`: some of its rows are gone and the counter stayed). Main
statement (`ids_issued_in_order`): along every run of calls from the empty store, the ids each
table gains, call after call, are exactly `1, 2, …` up to its counter; so the counter counts the
rows ever created, ids rise in commit order and no id is issued twice, not even after its row was
deleted. No query deletes a user, so every store the catalog reaches holds exactly the users
`1, …, next.user`.
-/

namespace Jukebox

open Catalog

namespace Catalog

/-- The tables whose rows take their ids from a counter. -/
inductive Table where
  | genre | artist | album | song | user | playlist
deriving DecidableEq, Repr

namespace Table

/-- The ids of a table's rows, in table order. -/
def ids : Table → Store → List Int
  | genre, s => s.genres.map (·.id)
  | artist, s => s.artists.map (·.id)
  | album, s => s.albums.map (·.id)
  | song, s => s.songs.map (·.id)
  | user, s => s.users.map (·.id)
  | playlist, s => s.playlists.map (·.id)

/-- A table's counter: the last id it issued. -/
def counter : Table → Store → Nat
  | genre, s => s.next.genre
  | artist, s => s.next.artist
  | album, s => s.next.album
  | song, s => s.next.song
  | user, s => s.next.user
  | playlist, s => s.next.playlist

end Table

/-! ## The ids a counter issues -/

/-- The ids a counter issues as it moves from `n` to `m`: `n + 1, …, m`. -/
def idsBetween (n m : Nat) : List Int := (List.range' (n + 1) (m - n)).map (↑)

@[simp] theorem idsBetween_self (n : Nat) : idsBetween n n = [] := by
  simp [idsBetween]

@[simp] theorem idsBetween_succ (n : Nat) : idsBetween n (n + 1) = [(n : Int) + 1] := by
  simp [idsBetween]

theorem mem_idsBetween {n m : Nat} {i : Int} : i ∈ idsBetween n m ↔ (n : Int) < i ∧ i ≤ m := by
  simp only [idsBetween, List.mem_map, List.mem_range'_1]
  constructor
  · rintro ⟨j, ⟨hj₁, hj₂⟩, rfl⟩
    omega
  · rintro ⟨h₁, h₂⟩
    exact ⟨i.toNat, by omega, by omega⟩

/-- Issuing from `n` to `m` and then to `k` issues from `n` to `k`. -/
theorem idsBetween_append {n m k : Nat} (h₁ : n ≤ m) (h₂ : m ≤ k) :
    idsBetween n m ++ idsBetween m k = idsBetween n k := by
  have hsplit : k - n = (m - n) + (k - m) := by omega
  have hstart : n + 1 + (m - n) = m + 1 := by omega
  rw [idsBetween, idsBetween, idsBetween, ← List.map_append, hsplit, ← List.range'_append_1,
    hstart]

theorem idsBetween_pairwise_lt (n m : Nat) : (idsBetween n m).Pairwise (· < ·) := by
  rw [idsBetween, List.pairwise_map]
  exact (List.pairwise_lt_range' 1).imp fun h => by omega

@[simp] theorem length_idsBetween (n m : Nat) : (idsBetween n m).length = m - n := by
  simp [idsBetween]

/-! ## Growing and shrinking tables -/

namespace Table

variable {k : Table} {s s' s'' : Store}

/-- From `s` to `s'` table `k` only gained rows: its rows before, then rows with the ids its
counter issued meanwhile, in that order. -/
structure Grows (k : Table) (s s' : Store) : Prop where
  counter_le : k.counter s ≤ k.counter s'
  ids_eq : k.ids s' = k.ids s ++ idsBetween (k.counter s) (k.counter s')

/-- From `s` to `s'` table `k` only lost rows, and its counter stayed. -/
structure Shrinks (k : Table) (s s' : Store) : Prop where
  counter_eq : k.counter s' = k.counter s
  ids_sublist : (k.ids s').Sublist (k.ids s)

theorem Grows.trans (h₁ : k.Grows s s') (h₂ : k.Grows s' s'') : k.Grows s s'' where
  counter_le := Nat.le_trans h₁.counter_le h₂.counter_le
  ids_eq := by
    rw [h₂.ids_eq, h₁.ids_eq, List.append_assoc, idsBetween_append h₁.counter_le h₂.counter_le]

instance : Std.Refl k.Grows := ⟨fun _ => ⟨Nat.le_refl _, by simp⟩⟩

instance : IsTrans Store k.Grows := ⟨fun _ _ _ => Grows.trans⟩

instance : Std.Refl k.Shrinks := ⟨fun _ => ⟨rfl, List.Sublist.refl _⟩⟩

instance : IsTrans Store k.Shrinks :=
  ⟨fun _ _ _ h₁ h₂ => ⟨h₂.counter_eq.trans h₁.counter_eq, h₂.ids_sublist.trans h₁.ids_sublist⟩⟩

/-- A table whose ids and counter did not change both grows and shrinks. -/
theorem Grows.of_eq (hids : k.ids s' = k.ids s) (hc : k.counter s' = k.counter s) :
    k.Grows s s' :=
  ⟨Nat.le_of_eq hc.symm, by rw [hids, hc, idsBetween_self, List.append_nil]⟩

theorem Shrinks.of_eq (hids : k.ids s' = k.ids s) (hc : k.counter s' = k.counter s) :
    k.Shrinks s s' :=
  ⟨hc, hids ▸ List.Sublist.refl _⟩

/-- A table that got one row with the id after its counter grows. -/
theorem Grows.of_append (hids : k.ids s' = k.ids s ++ [(k.counter s : Int) + 1])
    (hc : k.counter s' = k.counter s + 1) : k.Grows s s' :=
  ⟨hc ▸ Nat.le_succ _, by rw [hids, hc, idsBetween_succ]⟩

/-- A table that lost the rows failing a test shrinks. -/
theorem Shrinks.of_filter {ρ : Type} (id : ρ → Int) (rows : List ρ) (p : ρ → Bool)
    (hids : k.ids s' = (rows.filter p).map id) (hrows : k.ids s = rows.map id)
    (hc : k.counter s' = k.counter s) : k.Shrinks s s' :=
  ⟨hc, hids ▸ hrows ▸ (List.filter_sublist).map id⟩

end Table

/-! ## What each query does to the tables -/

/-- The table whose rows a query may delete. -/
def Query.deletesFrom : Query → Option Table
  | .deleteGenre _ => some .genre
  | .deleteArtist _ => some .artist
  | .deleteAlbum _ => some .album
  | .deleteSong _ => some .song
  | .deletePlaylist _ => some .playlist
  | _ => none

theorem Query.deletesFrom_of_removes {q : Query} (hq : q.removes = false) :
    q.deletesFrom = none := by
  cases q <;> simp [Query.removes, Query.deletesFrom] at hq ⊢

/-- A query that neither creates nor deletes rows leaves every table's ids and counter as they
were: an update keeps the id of the row it replaces, and memberships have no counter. -/
theorem Query.keeps (q : Query) (hc : q.creates = false) (hr : q.removes = false) (k : Table)
    {s s' : Store} {a : q.Answer} (h : q.tx.run s = .ok (a, s')) :
    k.ids s' = k.ids s ∧ k.counter s' = k.counter s := by
  cases q with
  | createGenre _ | createArtist _ _ | insertArtistIfAbsent _ | createAlbum _ _ _
  | insertAlbumIfAbsent _ _ | createSong _ | createPlaylist _ _ | createUser _ _ _ => cases hc
  | deleteGenre _ | deleteArtist _ | deleteAlbum _ | deleteSong _ | deletePlaylist _ => cases hr
  | updateArtist id name photo =>
    obtain ⟨a, -, -, -, rfl, rfl⟩ := Store.updateArtist_ok h
    cases k <;> exact ⟨by simp [Table.ids, map_replaceById], rfl⟩
  | updateAlbum id name artistId cover =>
    obtain ⟨a, -, -, -, b, -, -, rfl, -⟩ := Store.updateAlbum_ok h
    cases k <;> exact ⟨by simp [Table.ids, map_replaceById], rfl⟩
  | updateSong id c =>
    obtain ⟨x, -, -, -, rfl, -⟩ := Store.updateSong_ok h
    cases k <;> exact ⟨by simp [Table.ids, map_replaceById], rfl⟩
  | addSongLikes id delta =>
    obtain ⟨x, -, -, -, rfl, -⟩ := Store.addSongLikes_ok h
    cases k <;> exact ⟨by simp [Table.ids, map_replaceById], rfl⟩
  | renamePlaylist id name =>
    obtain ⟨p, -, -, rfl, -⟩ := Store.renamePlaylist_ok h
    cases k <;> exact ⟨by simp [Table.ids, map_replaceById], rfl⟩
  | addMembership p song =>
    obtain ⟨-, -, -, rfl⟩ := Store.addMembership_ok h
    cases k <;> exact ⟨rfl, rfl⟩
  | removeMembership p song =>
    rcases Store.removeMembership_ok h with ⟨-, -, rfl⟩ | ⟨-, -, rfl⟩
    all_goals cases k <;> exact ⟨rfl, rfl⟩
  | clearPlaylist p =>
    obtain ⟨-, rfl⟩ := Store.clearPlaylist_ok h
    cases k <;> exact ⟨rfl, rfl⟩
  | unlinkSong song =>
    obtain ⟨-, rfl⟩ := Store.unlinkSong_ok h
    cases k <;> exact ⟨rfl, rfl⟩

/-- A query grows every table it does not delete rows of. -/
theorem Query.grows (q : Query) (k : Table) (hk : q.deletesFrom ≠ some k) :
    q.tx.Moves k.Grows := by
  intro s a s' h
  -- a creation appends one row to its table; a delete keeps the other tables
  cases q with
  | createGenre name =>
    obtain ⟨-, rfl, rfl⟩ := Store.createGenre_ok h
    cases k
    case genre => exact .of_append (by simp [Table.ids, Table.counter]) rfl
    all_goals exact .of_eq rfl rfl
  | createArtist name photo =>
    obtain ⟨-, -, rfl⟩ := Store.createArtist_ok h
    cases k
    case artist => exact .of_append (by simp [Table.ids, Table.counter, Store.addArtist]) rfl
    all_goals exact .of_eq rfl rfl
  | insertArtistIfAbsent name =>
    rcases Store.insertArtistIfAbsent_ok h with ⟨-, -, rfl⟩ | ⟨-, -, rfl⟩
    · exact refl_of _ _
    · cases k
      case artist => exact .of_append (by simp [Table.ids, Table.counter, Store.addArtist]) rfl
      all_goals exact .of_eq rfl rfl
  | createAlbum name artistId cover =>
    obtain ⟨-, -, rfl, -⟩ := Store.createAlbum_ok h
    cases k
    case album => exact .of_append (by simp [Table.ids, Table.counter, Store.addAlbum]) rfl
    all_goals exact .of_eq rfl rfl
  | insertAlbumIfAbsent name artistId =>
    obtain ⟨-, ⟨-, -, rfl⟩ | ⟨-, rfl, -⟩⟩ := Store.insertAlbumIfAbsent_ok h
    · exact refl_of _ _
    · cases k
      case album => exact .of_append (by simp [Table.ids, Table.counter, Store.addAlbum]) rfl
      all_goals exact .of_eq rfl rfl
  | createSong d =>
    obtain ⟨-, rfl, -⟩ := Store.createSong_ok h
    cases k
    case song => exact .of_append (by simp [Table.ids, Table.counter, SongDraft.row]) rfl
    all_goals exact .of_eq rfl rfl
  | createPlaylist name ownerId =>
    obtain ⟨-, rfl, -⟩ := Store.createPlaylist_ok h
    cases k
    case playlist => exact .of_append (by simp [Table.ids, Table.counter]) rfl
    all_goals exact .of_eq rfl rfl
  | createUser name email credential =>
    obtain ⟨-, rfl, rfl⟩ := Store.createUser_ok h
    cases k
    case user => exact .of_append (by simp [Table.ids, Table.counter]) rfl
    all_goals exact .of_eq rfl rfl
  | deleteGenre id =>
    rcases Store.deleteGenre_ok h with ⟨-, -, rfl⟩ | ⟨-, -, -, rfl⟩
    · exact refl_of _ _
    · cases k
      case genre => exact absurd rfl hk
      all_goals exact .of_eq rfl rfl
  | deleteArtist id =>
    rcases Store.deleteArtist_ok h with ⟨-, -, rfl⟩ | ⟨-, -, -, -, rfl⟩
    · exact refl_of _ _
    · cases k
      case artist => exact absurd rfl hk
      all_goals exact .of_eq rfl rfl
  | deleteAlbum id =>
    rcases Store.deleteAlbum_ok h with ⟨-, -, rfl⟩ | ⟨-, -, -, rfl⟩
    · exact refl_of _ _
    · cases k
      case album => exact absurd rfl hk
      all_goals exact .of_eq rfl rfl
  | deleteSong id =>
    rcases Store.deleteSong_ok h with ⟨-, -, rfl⟩ | ⟨-, -, -, rfl⟩
    · exact refl_of _ _
    · cases k
      case song => exact absurd rfl hk
      all_goals exact .of_eq rfl rfl
  | deletePlaylist id =>
    rcases Store.deletePlaylist_ok h with ⟨-, -, rfl⟩ | ⟨-, -, -, rfl⟩
    · exact refl_of _ _
    · cases k
      case playlist => exact absurd rfl hk
      all_goals exact .of_eq rfl rfl
  | updateArtist _ _ _ | updateAlbum _ _ _ _ | updateSong _ _ | addSongLikes _ _
  | renamePlaylist _ _ | addMembership _ _ | removeMembership _ _ | clearPlaylist _
  | unlinkSong _ =>
    obtain ⟨hids, hc⟩ := Query.keeps _ rfl rfl k h
    exact .of_eq hids hc

/-- A query that creates no row shrinks every table. -/
theorem Query.shrinks (q : Query) (hq : q.creates = false) (k : Table) : q.tx.Moves k.Shrinks := by
  intro s a s' h
  -- a delete filters its own table and keeps the others
  cases q with
  | createGenre _ | createArtist _ _ | insertArtistIfAbsent _ | createAlbum _ _ _
  | insertAlbumIfAbsent _ _ | createSong _ | createPlaylist _ _ | createUser _ _ _ => cases hq
  | deleteGenre id =>
    rcases Store.deleteGenre_ok h with ⟨-, -, rfl⟩ | ⟨-, -, -, rfl⟩
    · exact refl_of _ _
    · cases k
      case genre => exact .of_filter _ _ _ rfl rfl rfl
      all_goals exact .of_eq rfl rfl
  | deleteArtist id =>
    rcases Store.deleteArtist_ok h with ⟨-, -, rfl⟩ | ⟨-, -, -, -, rfl⟩
    · exact refl_of _ _
    · cases k
      case artist => exact .of_filter _ _ _ rfl rfl rfl
      all_goals exact .of_eq rfl rfl
  | deleteAlbum id =>
    rcases Store.deleteAlbum_ok h with ⟨-, -, rfl⟩ | ⟨-, -, -, rfl⟩
    · exact refl_of _ _
    · cases k
      case album => exact .of_filter _ _ _ rfl rfl rfl
      all_goals exact .of_eq rfl rfl
  | deleteSong id =>
    rcases Store.deleteSong_ok h with ⟨-, -, rfl⟩ | ⟨-, -, -, rfl⟩
    · exact refl_of _ _
    · cases k
      case song => exact .of_filter _ _ _ rfl rfl rfl
      all_goals exact .of_eq rfl rfl
  | deletePlaylist id =>
    rcases Store.deletePlaylist_ok h with ⟨-, -, rfl⟩ | ⟨-, -, -, rfl⟩
    · exact refl_of _ _
    · cases k
      case playlist => exact .of_filter _ _ _ rfl rfl rfl
      all_goals exact .of_eq rfl rfl
  | updateArtist _ _ _ | updateAlbum _ _ _ _ | updateSong _ _ | addSongLikes _ _
  | renamePlaylist _ _ | addMembership _ _ | removeMembership _ _ | clearPlaylist _
  | unlinkSong _ =>
    obtain ⟨hids, hc⟩ := Query.keeps _ rfl rfl k h
    exact .of_eq hids hc

/-- No query deletes a user. -/
theorem Query.grows_user (q : Query) : q.tx.Moves Table.user.Grows :=
  q.grows .user (by cases q <;> simp [Query.deletesFrom])

end Catalog

/-! ## What each call does to the tables -/

namespace Call

open Table

/-- A call that deletes nothing grows every table. -/
theorem grows (call : Call) (hc : call.removes = false) (k : Table) (scheme : PasswordScheme)
    (cancelled : Bool) (s : Store) : k.Grows s (call.run scheme cancelled s).2 :=
  call.follows (fun q hq => q.grows k (by
    rw [hc, cond_false] at hq
    rw [Query.deletesFrom_of_removes hq]
    exact Option.some_ne_none k ∘ Eq.symm)) scheme cancelled s

/-- A call that deletes shrinks every table. -/
theorem shrinks (call : Call) (hc : call.removes = true) (k : Table) (scheme : PasswordScheme)
    (cancelled : Bool) (s : Store) : k.Shrinks s (call.run scheme cancelled s).2 :=
  call.follows (fun q hq => q.shrinks (by rwa [hc, cond_true] at hq) k) scheme cancelled s

/-- No call deletes a user. -/
theorem grows_user (call : Call) (scheme : PasswordScheme) (cancelled : Bool) (s : Store) :
    Table.user.Grows s (call.run scheme cancelled s).2 :=
  call.follows (fun q _ => q.grows_user) scheme cancelled s

end Call

/-! ## The ids gained along a run -/

/-- The ids of table `k` that are in `s'` and were not in `s`. -/
def Catalog.Table.added (k : Table) (s s' : Store) : List Int :=
  (k.ids s').filter fun i => i ∉ k.ids s

/-- The ids table `k` gains along a run of calls, call after call. -/
def Catalog.Table.gained (k : Table) (scheme : PasswordScheme) :
    List (Bool × Call) → Store → List Int
  | [], _ => []
  | (cancelled, call) :: rest, s =>
    k.added s (call.run scheme cancelled s).2 ++ k.gained scheme rest (call.run scheme cancelled s).2

namespace Catalog

variable {k : Table} {s s' : Store}

@[simp] theorem Table.counter_empty (k : Table) : k.counter {} = 0 := by
  cases k <;> rfl

/-- A counter is never behind the ids of its table. -/
theorem Numbered.ids_le {ρ : Type} {id : ρ → Int} {rows : List ρ} {next : Nat}
    (h : Numbered id rows next) : ∀ i ∈ rows.map id, i ≤ next := by
  intro i hi
  obtain ⟨x, hx, rfl⟩ := List.mem_map.1 hi
  exact (h.within x hx).2

theorem Store.Valid.ids_le (hv : s.Valid) : ∀ k : Table, ∀ i ∈ k.ids s, i ≤ k.counter s
  | .genre => hv.genreIds.ids_le
  | .artist => hv.artistIds.ids_le
  | .album => hv.albumIds.ids_le
  | .song => hv.songIds.ids_le
  | .user => hv.userIds.ids_le
  | .playlist => hv.playlistIds.ids_le

/-- A table that grows from a store whose ids its counter covers gains exactly the ids the
counter issued: they are above every id it had. -/
theorem Table.Grows.added_eq (h : k.Grows s s') (hle : ∀ i ∈ k.ids s, i ≤ k.counter s) :
    k.added s s' = idsBetween (k.counter s) (k.counter s') := by
  have hold : (k.ids s).filter (fun i => i ∉ k.ids s) = [] :=
    List.filter_eq_nil_iff.2 fun i hi => by rw [decide_eq_true_iff, not_not]; exact hi
  have hnew : (idsBetween (k.counter s) (k.counter s')).filter (fun i => i ∉ k.ids s) =
      idsBetween (k.counter s) (k.counter s') := by
    refine List.filter_eq_self.2 fun i hi => ?_
    have habove := (mem_idsBetween.1 hi).1
    simp only [decide_eq_true_eq]
    intro hmem
    have := hle i hmem
    omega
  rw [Table.added, h.ids_eq, List.filter_append, hold, hnew, List.nil_append]

theorem Table.Shrinks.added_eq_nil (h : k.Shrinks s s') : k.added s s' = [] :=
  List.filter_eq_nil_iff.2 fun i hi => by
    rw [decide_eq_true_iff, not_not]
    exact h.ids_sublist.subset hi

/-- A table holding exactly the ids `1, …, counter` keeps that form as it grows. -/
theorem Table.Grows.ids_from_one (h : k.Grows s s') (hs : k.ids s = idsBetween 0 (k.counter s)) :
    k.ids s' = idsBetween 0 (k.counter s') := by
  rw [h.ids_eq, hs, idsBetween_append (Nat.zero_le _) h.counter_le]

end Catalog

/-- One call from a valid store adds to each table the ids its counter issued. -/
theorem Call.added_eq {s : Store} (hv : s.Valid) (call : Call) (scheme : PasswordScheme)
    (cancelled : Bool) (k : Table) :
    k.counter s ≤ k.counter (call.run scheme cancelled s).2 ∧
      k.added s (call.run scheme cancelled s).2 =
        idsBetween (k.counter s) (k.counter (call.run scheme cancelled s).2) := by
  cases hc : call.removes
  · have hg := call.grows hc k scheme cancelled s
    exact ⟨hg.counter_le, hg.added_eq (hv.ids_le k)⟩
  · have hs := call.shrinks hc k scheme cancelled s
    rw [hs.counter_eq, hs.added_eq_nil, idsBetween_self]
    exact ⟨Nat.le_refl _, rfl⟩

/-- Along a run of calls from a valid store, each table gains exactly the ids its counter issues,
in order. -/
theorem Catalog.Table.gained_eq (k : Table) (scheme : PasswordScheme) :
    ∀ (calls : List (Bool × Call)) (s : Store),
    s.Valid → k.counter s ≤ k.counter (Call.runAll scheme calls s).2 ∧
      k.gained scheme calls s =
        idsBetween (k.counter s) (k.counter (Call.runAll scheme calls s).2)
  | [], s, _ => by simp [Table.gained, Call.runAll]
  | (cancelled, call) :: rest, s, hv => by
    -- the first call, then the rest of the run from the valid store it left
    obtain ⟨hle, hadded⟩ := Call.added_eq hv call scheme cancelled k
    obtain ⟨hle', hrest⟩ := k.gained_eq scheme rest _ (hv.call scheme cancelled call)
    simp only [Table.gained, Call.runAll]
    rw [hadded, hrest, idsBetween_append hle hle']
    exact ⟨Nat.le_trans hle hle', rfl⟩

/-- Every store the catalog reaches holds exactly the users `1, …, next.user`. -/
theorem Reachable.user_ids {s : Store} (h : Reachable s) :
    Table.user.ids s = idsBetween 0 (Table.user.counter s) := by
  induction h with
  | empty => rfl
  | call scheme cancelled c _ ih => exact (c.grows_user scheme cancelled _).ids_from_one ih
  | commit ht _ ih => exact ((ht.moves Query.grows_user).commit _).ids_from_one ih

/-- Ids are issued in order and once: across one call each table either only gains rows, whose
ids follow its counter one by one, or only loses rows while its counter stays; along every run of
calls from the empty store, the ids each table gains are exactly `1, 2, …` up to its counter, so
the counter counts the rows ever created, ids rise in commit order and none comes back after a
delete; and every store the catalog reaches holds exactly the users `1, …, next.user`. -/
theorem ids_issued_in_order :
    (∀ (scheme : PasswordScheme) (cancelled : Bool) (call : Call) (s : Store) (k : Table),
      (call.removes = false → k.Grows s (call.run scheme cancelled s).2) ∧
      (call.removes = true → k.Shrinks s (call.run scheme cancelled s).2)) ∧
    (∀ (scheme : PasswordScheme) (calls : List (Bool × Call)) (k : Table),
      k.gained scheme calls {} = idsBetween 0 (k.counter (Call.runAll scheme calls {}).2) ∧
      (k.gained scheme calls {}).length = k.counter (Call.runAll scheme calls {}).2 ∧
      (k.gained scheme calls {}).Pairwise (· < ·)) ∧
    ∀ s, Reachable s → s.users.map (·.id) = idsBetween 0 s.next.user := by
  refine ⟨fun scheme cancelled call s k =>
    ⟨fun hc => call.grows hc k scheme cancelled s, fun hc => call.shrinks hc k scheme cancelled s⟩,
    fun scheme calls k => ?_, fun s h => h.user_ids⟩
  have hrun := (k.gained_eq scheme calls {} Store.valid_empty).2
  rw [Table.counter_empty] at hrun
  refine ⟨hrun, ?_, ?_⟩
  · rw [hrun, length_idsBetween, Nat.sub_zero]
  · rw [hrun]
    exact idsBetween_pairwise_lt _ _

end Jukebox
