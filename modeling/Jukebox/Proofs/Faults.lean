import Jukebox.Proofs.Resolution
import Jukebox.Proofs.Calls

set_option autoImplicit false

/-! # One classification per failure

A failure is a chain: contexts put before it (`Fault.wrapped`), down to a classified failure,
which may wrap a cause, or down to plain text. Callers classify a failure in ways that look at
different parts of the chain. Its kind and field come from the *first* classified failure
(`Fault.kind`, `Fault.field`, `Fault.isKind`). Comparing it with the bare failure of a kind
(`Fault.sentinel`) succeeds when *any* classified failure along the chain has that kind
(`Fault.is`). The readings agree on a chain with exactly one classified failure.

Main statement (`call_failures_classify_consistently`): every failure a call answers, for any
store and any request, under a password hashing that fails only with plain text
(`PasswordScheme.FailsPlainly`), has at most one classified failure along its chain and is not
itself the bare failure of a kind (`Fault.Single`). So, with one classified failure `c` on the
chain, the failure has kind `K` exactly when `isKind K` holds, exactly when it matches the bare
failure of `K`, exactly when `c` has kind `K`; its field is `c`'s; and its text is its contexts
followed by `c`'s own text. With none (a cancelled request), its kind is storage, its field is
empty and it matches no kind. A bare failure of a kind is matched only by itself, so it matches no
failure a call answers.

No operation builds a classified failure around another: contexts are plain text, the storage
failures made by the catalog wrap plain causes (the hashing's own failures among them, by that
hypothesis), and a missing row renamed after an input field is replaced, not wrapped. That is
checked once per query (`Query.fails_single`) and then carried through the ways transactions and
answers are built. Under a hashing that refuses passwords past 72 bytes, such a password is one of
those storage failures, and registers no user (`registerUser_of_long_password`).
-/

namespace Jukebox

open Catalog Service

namespace Fault

/-! ## Reading a chain -/

/-- The bare failure of a kind: no field, no message and no cause. Failures are compared by kind
against it. -/
def sentinel (k : Kind) : Fault := classified k "" ""

/-- Whether a failure is the bare failure of kind `k`. -/
def isSentinelOf (k : Kind) : Fault → Bool
  | classified k' f m => k' == k && f.isEmpty && m.isEmpty
  | _ => false

/-- Whether some failure along the chain of `e` accepts `target`. A classified failure of kind
`k` accepts the bare failure of kind `k` and nothing else; contexts and plain text accept
nothing. This is the comparison of two failures whenever `target` is classified or `e` is a bare
failure of a kind, the only comparisons the catalog makes. -/
def is : Fault → Fault → Bool
  | classified k _ _, target => target.isSentinelOf k
  | caused k _ _ e, target => target.isSentinelOf k || is e target
  | plain _, _ => false
  | wrapped _ e, target => is e target

/-- The contexts put before a failure, outermost first. -/
def contexts : Fault → List String
  | wrapped c e => c :: contexts e
  | _ => []

/-- The failure under all of its contexts. -/
def core : Fault → Fault
  | wrapped _ e => core e
  | e => e

@[simp] theorem isSentinelOf_iff (k : Kind) (t : Fault) :
    t.isSentinelOf k = true ↔ t = sentinel k := by
  cases t with
  | classified k' f m =>
    simp only [isSentinelOf, Bool.and_eq_true, beq_iff_eq, String.isEmpty_iff, sentinel,
      classified.injEq]
    tauto
  | caused => simp [isSentinelOf, sentinel]
  | plain => simp [isSentinelOf, sentinel]
  | wrapped => simp [isSentinelOf, sentinel]

@[simp] theorem sentinel_isSentinelOf (k k' : Kind) :
    (sentinel k).isSentinelOf k' = (k' == k) := by
  have hempty : "".isEmpty = true := rfl
  by_cases h : k = k'
  · simp [isSentinelOf, sentinel, hempty, h]
  · simp [isSentinelOf, sentinel, hempty, h, Ne.symm h]

/-- Comparing with the bare failure of a kind asks whether any classified failure along the
chain has that kind. -/
@[simp] theorem is_sentinel (k : Kind) (e : Fault) : e.is (sentinel k) = e.hasKind k := by
  induction e with
  | classified k' f m => simp [is, hasKind]
  | caused k' f m e ih => simp [is, hasKind, ih]
  | plain t => rfl
  | wrapped c e ih => exact ih

/-- The bare failure of a kind matches exactly itself. -/
theorem sentinel_is (k : Kind) (t : Fault) :
    (sentinel k).is t = true ↔ t = sentinel k :=
  isSentinelOf_iff k t

/-- A failure's text is its contexts, each followed by `": "`, then the text of its core. -/
theorem message_eq_contexts_core (e : Fault) :
    e.message = String.join (e.contexts.map (· ++ ": ")) ++ e.core.message := by
  induction e with
  | wrapped c e ih =>
    rw [message_wrapped, ih, contexts, List.map_cons, String.join_cons, core]
    simp only [String.append_assoc]
  | classified => simp [contexts, core]
  | caused => simp [contexts, core]
  | plain => simp [contexts, core]

@[simp] theorem classification_core (e : Fault) : e.core.classification = e.classification := by
  induction e with
  | wrapped c e ih => exact ih
  | classified | caused | plain => rfl

@[simp] theorem depth_core (e : Fault) : e.core.depth = e.depth := by
  induction e with
  | wrapped c e ih => exact ih
  | classified | caused | plain => rfl

@[simp] theorem hasKind_core (k : Kind) (e : Fault) : e.core.hasKind k = e.hasKind k := by
  induction e with
  | wrapped c e ih => exact ih
  | classified | caused | plain => rfl

/-! ## Chains with at most one classified failure -/

/-- A chain with one classified failure has it at its core. -/
theorem core_of_depth_one {e : Fault} (h : e.depth = 1) :
    ∃ k f, e.core.classification = some (k, f) ∧ ∀ K, e.hasKind K = (k == K) := by
  induction e with
  | classified k f m => exact ⟨k, f, rfl, fun K => rfl⟩
  | caused k f m e _ =>
    have h0 : e.depth = 0 := by simpa [depth] using h
    refine ⟨k, f, rfl, fun K => ?_⟩
    simp [hasKind, hasKind_of_depth_zero K e h0]
  | plain t => simp [depth] at h
  | wrapped c e ih => exact ih h

/-- With exactly one classified failure along the chain, the kind read off the chain, the test by
kind and the comparison with the bare failure of a kind all agree with that failure's kind, and
the field is that failure's field. -/
theorem classified_once {e : Fault} (h : e.depth = 1) :
    ∃ k f, e.core.classification = some (k, f) ∧ e.field = f ∧
      ∀ K, (e.kind = K ↔ e.isKind K = true) ∧
        (e.isKind K = true ↔ e.is (sentinel K) = true) ∧
        (e.is (sentinel K) = true ↔ k = K) := by
  obtain ⟨k, f, hcore, hkind⟩ := core_of_depth_one h
  have hclass : e.classification = some (k, f) := by rwa [classification_core] at hcore
  refine ⟨k, f, hcore, by simp [field, hclass], fun K => ⟨?_, ?_, ?_⟩⟩
  · simp [kind, isKind, hclass]
  · simp [isKind, hclass, hkind]
  · simp [hkind]

/-- With no classified failure along the chain, a failure is of kind storage, names no field
and matches no kind. -/
theorem unclassified {e : Fault} (h : e.depth = 0) :
    e.kind = .storage ∧ e.field = "" ∧ ∀ K, e.isKind K = false ∧ e.is (sentinel K) = false := by
  have hclass : e.classification = none := by
    induction e with
    | classified => simp [depth] at h
    | caused => simp [depth] at h
    | plain => rfl
    | wrapped c e ih => exact ih h
  refine ⟨by simp [kind, hclass], by simp [field, hclass], fun K => ⟨by simp [isKind, hclass], ?_⟩⟩
  rw [is_sentinel, hasKind_of_depth_zero K e h]

/-! ## The failures the catalog answers with -/

/-- Whether a failure is the bare failure of its kind: classified, with no field, no message and
no cause. -/
def bare : Fault → Bool
  | classified _ f m => f.isEmpty && m.isEmpty
  | _ => false

/-- A failure with at most one classified failure along its chain, and not itself the bare
failure of a kind. -/
structure Single (e : Fault) : Prop where
  depth_le : e.depth ≤ 1
  not_bare : e.bare = false

instance (e : Fault) : Decidable e.Single :=
  decidable_of_iff (e.depth ≤ 1 ∧ e.bare = false) ⟨fun h => ⟨h.1, h.2⟩, fun h => ⟨h.1, h.2⟩⟩

namespace Single

theorem of_caused {k : Kind} {f m : String} {e : Fault} (h : e.depth = 0) :
    (caused k f m e).Single :=
  ⟨by simp [depth, h], rfl⟩

theorem wrapped {c : String} {e : Fault} (h : e.Single) : (wrapped c e).Single :=
  ⟨h.depth_le, rfl⟩

/-- A failure that is not bare is matched by no bare failure of a kind. -/
theorem unmatched {e : Fault} (h : e.Single) (k : Kind) : (sentinel k).is e = false := by
  rw [Bool.eq_false_iff]
  intro hk
  rw [Fault.sentinel_is] at hk
  subst hk
  have hbare : (sentinel k).bare = true := rfl
  rw [h.not_bare] at hbare
  cases hbare

end Single

theorem single_notFound {field : String} (h : field ≠ "") : (notFound field).Single :=
  ⟨by simp [notFound, depth], by simp [notFound, bare, h]⟩

theorem single_invalid (field msg : String) : (invalid field msg).Single :=
  ⟨by simp [invalid, depth], by simp [invalid, bare]⟩

theorem single_canceled : canceled.Single := ⟨by simp [canceled, depth], rfl⟩

end Fault

/-! ## Failures of transactions and answers -/

/-- Every failure a transaction can end in satisfies `P`. -/
def Catalog.Tx.FailsWith {α : Type} (P : Fault → Prop) (t : Tx α) : Prop :=
  ∀ s e, t.run s = .error e → P e

/-- An answer that, when it is a failure, satisfies `P`. -/
def ErrorsWith {α : Type} (P : Fault → Prop) (r : Except Fault α) : Prop :=
  ∀ e, r = .error e → P e

section Closure

variable {P : Fault → Prop} {α β : Type}

theorem ErrorsWith.ok (a : α) : ErrorsWith P (.ok a : Except Fault α) := by
  intro e h
  cases h

theorem ErrorsWith.error {e : Fault} (h : P e) : ErrorsWith P (.error e : Except Fault α) := by
  intro e' h'
  cases h'
  exact h

theorem ErrorsWith.bind {r : Except Fault α} {k : α → Except Fault β} (hr : ErrorsWith P r)
    (hk : ∀ a, ErrorsWith P (k a)) : ErrorsWith P (r >>= k) := by
  cases r with
  | error e =>
    intro e' h
    cases h
    exact hr _ rfl
  | ok a => exact hk a

theorem ErrorsWith.map {r : Except Fault α} (hr : ErrorsWith P r) (f : α → β) :
    ErrorsWith P (f <$> r) := by
  cases r with
  | error e =>
    intro e' h
    cases h
    exact hr _ rfl
  | ok a => exact .ok _

namespace Catalog.Tx.FailsWith

theorem pure (a : α) : (pure a : Tx α).FailsWith P := by
  intro s e h
  cases h

theorem bind {t : Tx α} {k : α → Tx β} (ht : t.FailsWith P) (hk : ∀ a, (k a).FailsWith P) :
    (t >>= k).FailsWith P := by
  intro s e h
  cases hrun : t.run s with
  | error e' =>
    rw [Tx.run_bind_of_error hrun] at h
    cases h
    exact ht s _ hrun
  | ok p =>
    rw [Tx.run_bind_of_ok hrun] at h
    exact hk p.1 p.2 e h

theorem fail {e : Fault} (h : P e) : (Tx.fail e : Tx α).FailsWith P := by
  intro s e' h'
  cases h'
  exact h

theorem read {f : Store → Except Fault α} (hf : ∀ s, ErrorsWith P (f s)) :
    (Tx.read f).FailsWith P := by
  intro s e h
  cases hs : f s with
  | ok a =>
    rw [Tx.read_run_ok hs] at h
    cases h
  | error e' =>
    rw [Tx.read_run_error hs] at h
    cases h
    exact hf s _ hs

theorem get : (get : Tx Store).FailsWith P := by
  intro s e h
  cases h

/-- A caught transaction never fails. -/
theorem attempt (t : Tx α) : (Tx.attempt t).FailsWith P := by
  intro s e h
  simp only [StateT.run, Tx.attempt] at h
  split at h <;> cases h

theorem map {t : Tx α} (ht : t.FailsWith P) (f : α → β) : (f <$> t).FailsWith P := by
  intro s e h
  simp only [StateT.run_map] at h
  cases hrun : t.run s with
  | error e' =>
    rw [hrun] at h
    cases h
    exact ht s _ hrun
  | ok p =>
    rw [hrun] at h
    cases h

end Catalog.Tx.FailsWith

end Closure

/-! ## Every query fails with a single classification -/

/-- A song row is refused with a missing genre, artist or album, or negative likes. -/
theorem Catalog.Store.checkSong_fails (s : Store) (x : Song) :
    ErrorsWith Fault.Single (s.checkSong x) := by
  unfold Store.checkSong
  split
  · exact .error (by decide)
  split
  · exact .error (by decide)
  split
  · exact .error (by decide)
  split
  · exact .error (by decide)
  · exact .ok ()

theorem Catalog.Query.fails_single (q : Query) : q.tx.FailsWith Fault.Single := by
  intro s e h
  cases q
  -- the song writes fail through `checkSong`
  case createSong d =>
    simp only [Query.tx, Store.createSong, StateT.run] at h
    split at h
    · cases h
      exact s.checkSong_fails _ _ ‹_›
    · cases h
  case updateSong id c =>
    simp only [Query.tx, Store.updateSong, StateT.run] at h
    split at h
    · cases h
      decide
    · split at h
      · cases h
        exact s.checkSong_fails _ _ ‹_›
      · cases h
  -- every other query fails, if at all, with a failure written out in its definition
  all_goals
    simp only [Query.tx, StateT.run, Store.createGenre, Store.deleteGenre, Store.createArtist,
      Store.insertArtistIfAbsent, Store.updateArtist, Store.deleteArtist, Store.createAlbum,
      Store.insertAlbumIfAbsent, Store.updateAlbum, Store.deleteAlbum, Store.addSongLikes,
      Store.deleteSong, Store.createPlaylist, Store.renamePlaylist, Store.deletePlaylist,
      Store.addMembership, Store.removeMembership, Store.clearPlaylist, Store.unlinkSong,
      Store.createUser] at h
    repeat' split at h
    all_goals cases h
    all_goals decide

/-! ## Reads and reference slots -/

section Reads

variable (s : Store) (id : Int)

theorem Catalog.Store.genreById_fails : ErrorsWith Fault.Single (s.genreById id) := by
  unfold Store.genreById
  split
  · exact .ok _
  · exact .error (by decide)

theorem Catalog.Store.artistById_fails : ErrorsWith Fault.Single (s.artistById id) := by
  unfold Store.artistById
  split
  · exact .ok _
  · exact .error (by decide)

theorem Catalog.Store.albumById_fails : ErrorsWith Fault.Single (s.albumById id) := by
  unfold Store.albumById
  split
  · exact .ok _
  · exact .error (by decide)

theorem Catalog.Store.songById_fails : ErrorsWith Fault.Single (s.songById id) := by
  unfold Store.songById
  split
  · exact .ok _
  · exact .error (by decide)

theorem Catalog.Store.playlistById_fails : ErrorsWith Fault.Single (s.playlistById id) := by
  unfold Store.playlistById
  split
  · exact .ok _
  · exact .error (by decide)

theorem Catalog.Store.userById_fails : ErrorsWith Fault.Single (s.userById id) := by
  unfold Store.userById
  split
  · exact .ok _
  · exact .error (by decide)

theorem Catalog.Store.artistByName_fails (name : String) :
    ErrorsWith Fault.Single (s.artistByName name) := by
  unfold Store.artistByName
  split
  · exact .ok _
  · exact .error (by decide)

theorem Catalog.Store.albumByKey_fails (name : String) :
    ErrorsWith Fault.Single (s.albumByKey name id) := by
  unfold Store.albumByKey
  split
  · exact .ok _
  · exact .error (by decide)

end Reads

section Slots

variable {s : Store}

theorem Service.artistRefFault_single {ref : Ref} {e : Fault} (h : artistRefFault s ref = some e) :
    e.Single := by
  cases ref with
  | absent => cases h
  | byId id =>
    simp only [artistRefFault] at h
    split at h
    · cases h
    · cases h
      decide
  | byName n =>
    simp only [artistRefFault] at h
    split at h
    · cases h
      exact Fault.single_invalid _ _
    · cases h

theorem Service.albumRefFault_single {keyed : Bool} {ref : Ref} {e : Fault}
    (h : albumRefFault s keyed ref = some e) : e.Single := by
  cases ref with
  | absent => cases h
  | byId id =>
    simp only [albumRefFault] at h
    split at h
    · cases h
    · cases h
      decide
  | byName n =>
    simp only [albumRefFault] at h
    split at h
    · cases h
      exact Fault.single_invalid _ _
    · split at h
      · cases h
        exact Fault.single_invalid _ _
      · cases h

theorem Service.resolveArtist_fails_single (ref : Ref) :
    (resolveArtist ref).FailsWith Fault.Single :=
  fun _ _ h => artistRefFault_single (resolveArtist_fails h)

theorem Service.resolveAlbum_fails_single (artistId : Option Int) (ref : Ref) :
    (resolveAlbum artistId ref).FailsWith Fault.Single := by
  intro s e h
  rcases resolveAlbum_fails h with h | rfl
  · exact albumRefFault_single h
  · exact (by decide : Fault.Single (.wrapped "insert album" (Fault.notFound "artist")))

/-- A row that must exist fails, when missing, with a failure named after the input field. -/
theorem Service.requireRow_fails {α : Type} {field : String} (hfield : field ≠ "")
    {r : Except Fault α} (hr : ErrorsWith Fault.Single r) :
    (requireRow field r).FailsWith Fault.Single := by
  cases r with
  | ok a => exact .pure _
  | error e =>
    refine .fail ?_
    unfold renameMissing
    split
    · exact Fault.single_notFound hfield
    · exact hr e rfl

end Slots

/-! ## Answers of requests -/

section Answers

variable {α β : Type}

/-- A failure the checks before a transaction found. -/
theorem ErrorsWith.error_of {P : Fault → Prop} {r : Except Fault α} {e : Fault}
    (hr : ErrorsWith P r) (heq : r = .error e) : ErrorsWith P (.error e : Except Fault β) :=
  .error (hr e heq)

theorem ErrorsWith.within {o : Outcome α} (h : ErrorsWith Fault.Single o.1) (context : String) :
    ErrorsWith Fault.Single ((o.within context).1) := by
  obtain ⟨r, s⟩ := o
  cases r with
  | error e => exact .error (h e rfl).wrapped
  | ok a => exact .ok a

theorem Catalog.Tx.FailsWith.commit {t : Tx α} (ht : t.FailsWith Fault.Single) (s : Store) :
    ErrorsWith Fault.Single ((t.commit s).1) := by
  unfold Tx.commit
  split
  · exact .ok _
  · exact .error (ht s _ ‹_›)

theorem Service.commitFor_fails {t : Tx α} (ht : t.FailsWith Fault.Single) (cancelled : Bool)
    (s : Store) : ErrorsWith Fault.Single ((commitFor cancelled t s).1) := by
  unfold commitFor
  split
  · exact .error Fault.single_canceled
  · exact ht.commit s

theorem Service.readFor_fails {r : Except Fault α} (hr : ErrorsWith Fault.Single r)
    (cancelled : Bool) : ErrorsWith Fault.Single (readFor cancelled r) := by
  unfold readFor
  split
  · exact .error Fault.single_canceled
  · exact hr

theorem Service.writeFor_fails {checks : Except Fault β} {t : β → Tx α}
    (hc : ErrorsWith Fault.Single checks) (ht : ∀ b, (t b).FailsWith Fault.Single)
    (cancelled : Bool) (s : Store) : ErrorsWith Fault.Single ((writeFor cancelled checks t s).1) := by
  unfold writeFor
  split
  · exact .error Fault.single_canceled
  · split
    · exact .error (hc _ rfl)
    · exact (ht _).commit s

theorem Service.requireText_fails (field value : String) :
    ErrorsWith Fault.Single (requireText field value) := by
  unfold requireText
  dsimp only
  split
  · exact .error (Fault.single_invalid _ _)
  · exact .ok _

theorem Service.requireName_fails (name : String) : ErrorsWith Fault.Single (requireName name) := by
  unfold requireName
  dsimp only
  split
  · exact .error (Fault.single_invalid _ _)
  · exact .ok _

theorem Service.checkLikes_fails (likes : Option Int64) :
    ErrorsWith Fault.Single (checkLikes likes) := by
  unfold checkLikes
  split
  · split
    · exact .error (Fault.single_invalid _ _)
    · exact .ok _
  · exact .ok _

theorem Service.requireOwner_fails (cancelled : Bool) (ownerId : Int) (s : Store) :
    ErrorsWith Fault.Single (requireOwner cancelled ownerId s) := by
  unfold requireOwner
  split
  · exact .error Fault.single_canceled.wrapped
  · split
    · exact .ok _
    · exact .error (by decide)

end Answers

/-! ## Every service fails with a single classification -/

section Services

variable (cancelled : Bool) (s : Store)

theorem Service.deleteOrMissing_fails {entity : String} (hentity : entity ≠ "") {t : Tx Bool}
    (ht : t.FailsWith Fault.Single) : (deleteOrMissing entity t).FailsWith Fault.Single := by
  refine .bind ht fun deleted => ?_
  cases deleted with
  | true => exact .pure _
  | false => exact .fail (Fault.single_notFound hentity)

/-- A trimmed name, when given. -/
theorem Service.optionalName_fails (name : Option String) :
    ErrorsWith Fault.Single (match name with
      | some n => some <$> requireName n
      | none => pure none) := by
  split
  · exact .map (requireName_fails _) _
  · exact .ok _

theorem Service.createSong_fails (input : SongInput) :
    ErrorsWith Fault.Single (createSong cancelled input s).1 := by
  unfold createSong
  dsimp only
  split
  · -- the input checks, before the transaction
    rename_i e heq
    refine ErrorsWith.error_of ?_ heq
    refine .bind (requireText_fails _ _) fun _ => .bind (requireText_fails _ _) fun _ => ?_
    -- the likes are checked in both arms of the genre's `match`
    split <;> refine .bind ?_ fun _ => .bind (checkLikes_fails _) fun _ => .ok _
    · exact .ok _
    · exact .error (Fault.single_invalid _ _)
  · refine ErrorsWith.within (commitFor_fails ?_ cancelled s) _
    refine .bind .get fun st => .bind (requireRow_fails (by decide) (st.genreById_fails _)) fun _ => ?_
    refine .bind (resolveArtist_fails_single _) fun a =>
      .bind (resolveAlbum_fails_single a _) fun _ => ?_
    exact Query.fails_single (.createSong _)

theorem Service.updateSong_fails (id : Int) (patch : SongPatch) :
    ErrorsWith Fault.Single (updateSong cancelled id patch s).1 := by
  unfold updateSong
  dsimp only
  split
  · rename_i e heq
    refine ErrorsWith.error_of ?_ heq
    -- the audio and the likes are checked in both arms of the name's `match`
    split <;> [refine .bind (.map (requireText_fails _ _) _) fun _ => ?_;
      refine .bind (.ok _) fun _ => ?_]
    all_goals
      split <;> refine .bind ?_ fun _ => .bind (checkLikes_fails _) fun _ => .ok _
      · exact .map (requireText_fails _ _) _
      · exact .ok _
  · refine ErrorsWith.within (commitFor_fails ?_ cancelled s) _
    refine .bind (.read fun st => st.songById_fails id) fun previous => ?_
    -- the rest of the transaction follows the genre check in both arms of its `match`
    split
    · refine .bind .get fun st => .bind (requireRow_fails (by decide) (st.genreById_fails _)) fun _ => ?_
      refine .bind (resolveArtist_fails_single _) fun _ =>
        .bind (resolveAlbum_fails_single _ _) fun _ => ?_
      exact .bind (Query.fails_single (.updateSong _ _)) fun _ => .pure _
    · refine .bind (resolveArtist_fails_single _) fun _ =>
        .bind (resolveAlbum_fails_single _ _) fun _ => ?_
      exact .bind (Query.fails_single (.updateSong _ _)) fun _ => .pure _

theorem Service.deleteSong_fails (id : Int) :
    ErrorsWith Fault.Single (Service.deleteSong cancelled id s).1 := by
  unfold Service.deleteSong
  refine ErrorsWith.within (commitFor_fails ?_ cancelled s) _
  refine .bind (.read fun st => st.songById_fails id) fun _ => ?_
  refine .bind (Query.fails_single (.unlinkSong id)) fun _ =>
    .bind (Query.fails_single (.deleteSong id)) fun deleted => ?_
  cases deleted with
  | true => exact .pure _
  | false => exact .fail (by decide)

theorem Service.addLikes_fails (id : Int) (delta : Int64) :
    ErrorsWith Fault.Single (addLikes cancelled id delta s).1 :=
  ErrorsWith.within
    (commitFor_fails (Query.fails_single (.addSongLikes id delta.toInt)) cancelled s) _

theorem Service.songsOfAlbum_fails (albumId : Int) :
    ErrorsWith Fault.Single (songsOfAlbum cancelled albumId s) :=
  readFor_fails (.bind (s.albumById_fails albumId) fun _ => .ok _) cancelled

theorem Service.createPlaylist_fails (name : String) (ownerId : Int) :
    ErrorsWith Fault.Single (Service.createPlaylist cancelled name ownerId s).1 := by
  unfold Service.createPlaylist
  dsimp only
  split
  · exact .error (Fault.single_invalid _ _)
  · split
    · rename_i e heq
      exact ErrorsWith.error_of (requireOwner_fails cancelled ownerId s) heq
    · exact ErrorsWith.within
        (commitFor_fails (Query.fails_single (.createPlaylist _ ownerId)) cancelled s) _

theorem Service.addToPlaylist_fails (playlistId songId : Int) :
    ErrorsWith Fault.Single (addToPlaylist cancelled playlistId songId s).1 := by
  unfold addToPlaylist
  refine ErrorsWith.within (commitFor_fails ?_ cancelled s) _
  refine .bind (.read fun st => st.playlistById_fails playlistId) fun _ =>
    .bind (.read fun st => st.songById_fails songId) fun _ => .bind .get fun st => ?_
  split
  · exact .fail (by decide)
  · exact Query.fails_single (.addMembership playlistId songId)

theorem Service.removeFromPlaylist_fails (playlistId songId : Int) :
    ErrorsWith Fault.Single (removeFromPlaylist cancelled playlistId songId s).1 := by
  unfold removeFromPlaylist
  refine ErrorsWith.within (commitFor_fails ?_ cancelled s) _
  refine .bind (Query.fails_single (.removeMembership playlistId songId)) fun removed => ?_
  cases removed with
  | true => exact .pure _
  | false => exact .fail (by decide)

theorem Service.deletePlaylist_fails (playlistId : Int) :
    ErrorsWith Fault.Single (Service.deletePlaylist cancelled playlistId s).1 := by
  unfold Service.deletePlaylist
  refine ErrorsWith.within (commitFor_fails ?_ cancelled s) _
  refine .bind (.read fun st => st.playlistById_fails playlistId) fun _ =>
    .bind (Query.fails_single (.clearPlaylist playlistId)) fun _ =>
      .bind (Query.fails_single (.deletePlaylist playlistId)) fun deleted => ?_
  cases deleted with
  | true => exact .pure _
  | false => exact .fail (by decide)

theorem Service.renamePlaylist_fails (playlistId : Int) (name : String) :
    ErrorsWith Fault.Single (Service.renamePlaylist cancelled playlistId name s).1 := by
  unfold Service.renamePlaylist
  dsimp only
  split
  · exact .error (Fault.single_invalid _ _)
  · exact ErrorsWith.within
      (commitFor_fails (Query.fails_single (.renamePlaylist playlistId _)) cancelled s) _

/-- Registering fails with a single classification, provided the password hashing fails only
with plain text. -/
theorem Service.registerUser_fails {scheme : PasswordScheme} (hplain : scheme.FailsPlainly)
    (name email password : String) :
    ErrorsWith Fault.Single (registerUser scheme cancelled name email password s).1 := by
  unfold registerUser
  split
  · exact .error Fault.single_canceled
  dsimp only
  split
  · exact .error (Fault.single_invalid _ _)
  split
  · exact .error (Fault.single_invalid _ _)
  split
  · exact .error (Fault.single_invalid _ _)
  split
  · -- a password the hashing refuses is a storage failure around the hashing's own text
    rename_i e heq
    obtain ⟨text, rfl⟩ := hplain password e heq
    exact .error (Fault.Single.of_caused rfl)
  · exact (Query.fails_single (.createUser _ _ _)).commit s

/-- Under a scheme that refuses passwords of more than 72 bytes, such a password is refused once
the name and email pass their checks: registering fails with a storage failure around the scheme's
own failure under `hash password`, and stores no user. -/
theorem Service.registerUser_of_long_password {scheme : PasswordScheme}
    (hlong : scheme.RefusesLong) {name email password : String} (hname : Text.trim name ≠ "")
    (hemail : Text.lower (Text.trim email) ≠ "")
    (hbytes : maxPasswordBytes < password.utf8ByteSize) :
    ∃ e, registerUser scheme false name email password s =
      (.error (Fault.storage (.wrapped "hash password" e)), s) := by
  obtain ⟨e, he⟩ := hlong password hbytes
  have hpassword : password ≠ "" := by
    rintro rfl
    simp at hbytes
  refine ⟨e, ?_⟩
  simp [registerUser, hname, hemail, hpassword, he]

/-- A password of 73 bytes is refused under the scheme that refuses every password. -/
theorem long_password_refused :
    PasswordScheme.refusing.RefusesLong ∧ Text.trim "Ana" ≠ "" ∧
      Text.lower (Text.trim "ana@example.com") ≠ "" ∧
      maxPasswordBytes < (String.ofList (List.replicate 73 'x')).utf8ByteSize ∧
      ∃ e, registerUser .refusing false "Ana" "ana@example.com"
          (String.ofList (List.replicate 73 'x')) {} =
        (.error (Fault.storage (.wrapped "hash password" e)), {}) :=
  have hname : Text.trim "Ana" ≠ "" := by decide
  have hemail : Text.lower (Text.trim "ana@example.com") ≠ "" := by decide
  have hbytes : maxPasswordBytes < (String.ofList (List.replicate 73 'x')).utf8ByteSize := by
    decide
  ⟨PasswordScheme.refusing_refusesLong, hname, hemail, hbytes,
    Service.registerUser_of_long_password {} PasswordScheme.refusing_refusesLong hname hemail
      hbytes⟩

theorem Service.playlistsOf_fails (ownerId : Int) :
    ErrorsWith Fault.Single (Service.playlistsOf cancelled ownerId s) :=
  .bind (requireOwner_fails cancelled ownerId s) fun _ => .ok _

theorem Service.checkPassword_fails (scheme : PasswordScheme) (id : Int) (password : String) :
    ErrorsWith Fault.Single (checkPassword scheme id password s) :=
  .bind (s.userById_fails id) fun _ => .ok _

end Services

/-! ## Every call -/

/-- Resolving an artist name answers a single classification when it fails. -/
theorem Catalog.artistFinder_resolve_answers (noun name : String) (s : Store) :
    ∃ r s', artistFinder.resolve noun name s = .ok (r, s') ∧ ErrorsWith Fault.Single r := by
  have hrun := artistFinder_resolve_run noun name s
  simp only [StateT.run] at hrun
  rw [hrun]
  split
  · exact ⟨_, _, rfl, .error (Fault.single_invalid _ _)⟩
  · exact ⟨_, _, rfl, .ok _⟩

/-- Resolving an album name answers a single classification when it fails. -/
theorem Catalog.albumFinder_resolve_answers (noun name : String) (artistId : Int) (s : Store) :
    ∃ r s', (albumFinder artistId).resolve noun name s = .ok (r, s') ∧
      ErrorsWith Fault.Single r := by
  have hrun := albumFinder_resolve_run noun name artistId s
  simp only [StateT.run] at hrun
  rw [hrun]
  split
  · exact ⟨_, _, rfl, .error (Fault.single_invalid _ _)⟩
  split
  · exact ⟨_, _, rfl, .error (Fault.single_notFound (by decide)).wrapped⟩
  · exact ⟨_, _, rfl, .ok _⟩

theorem Call.shape_fails {α : Type} (f : α → Json) {o : Service.Outcome α}
    (h : ErrorsWith Fault.Single o.1) : ErrorsWith Fault.Single (Call.shape f o).1 := by
  obtain ⟨r, s⟩ := o
  exact .map h f

theorem Call.reading_fails {α : Type} (f : α → Json) {r : Except Fault α}
    (h : ErrorsWith Fault.Single r) (s : Store) : ErrorsWith Fault.Single (Call.reading f r s).1 :=
  .map h f

/-- Every failure a call answers, for any store and any request, has a single classification,
under a password hashing that fails only with plain text. -/
theorem Call.fails_single {scheme : PasswordScheme} (hplain : scheme.FailsPlainly)
    (cancelled : Bool) (call : Call) (s : Store) :
    ErrorsWith Fault.Single (call.run scheme cancelled s).1 := by
  cases call <;> dsimp only [Call.run]
  case genreCreate name =>
    exact shape_fails _ (writeFor_fails (requireName_fails name)
      (fun n => Query.fails_single (.createGenre n)) cancelled s)
  case genreGet id => exact reading_fails _ (readFor_fails (s.genreById_fails id) cancelled) s
  case genreDelete id =>
    exact shape_fails _ (writeFor_fails (.ok ())
      (fun _ => deleteOrMissing_fails (by decide) (Query.fails_single (.deleteGenre id))) cancelled s)
  case artistCreate name photo =>
    exact shape_fails _ (writeFor_fails (requireName_fails name)
      (fun n => Query.fails_single (.createArtist n photo)) cancelled s)
  case artistGet id => exact reading_fails _ (readFor_fails (s.artistById_fails id) cancelled) s
  case artistUpdate id name photo =>
    exact shape_fails _ (writeFor_fails (optionalName_fails name)
      (fun n => Query.fails_single (.updateArtist id n photo)) cancelled s)
  case artistDelete id =>
    exact shape_fails _ (writeFor_fails (.ok ())
      (fun _ => deleteOrMissing_fails (by decide) (Query.fails_single (.deleteArtist id))) cancelled s)
  case albumCreate name artistId cover =>
    exact shape_fails _ (writeFor_fails (requireName_fails name)
      (fun n => Query.fails_single (.createAlbum n artistId cover)) cancelled s)
  case albumGet id => exact reading_fails _ (readFor_fails (s.albumById_fails id) cancelled) s
  case albumUpdate id name artistId cover =>
    exact shape_fails _ (writeFor_fails (optionalName_fails name)
      (fun n => Query.fails_single (.updateAlbum id n artistId cover)) cancelled s)
  case albumDelete id =>
    exact shape_fails _ (writeFor_fails (.ok ())
      (fun _ => deleteOrMissing_fails (by decide) (Query.fails_single (.deleteAlbum id))) cancelled s)
  case songCreate input => exact shape_fails _ (createSong_fails cancelled s input)
  case songUpdate id patch => exact shape_fails _ (updateSong_fails cancelled s id patch)
  case songDelete id => exact shape_fails _ (deleteSong_fails cancelled s id)
  case songGet id => exact reading_fails _ (readFor_fails (s.songById_fails id) cancelled) s
  case songListByAlbum albumId => exact reading_fails _ (songsOfAlbum_fails cancelled s albumId) s
  case songLike id => exact shape_fails _ (addLikes_fails cancelled s id 1)
  case songUnlike id => exact shape_fails _ (addLikes_fails cancelled s id (-1))
  case playlistCreate name ownerId =>
    exact shape_fails _ (createPlaylist_fails cancelled s name ownerId)
  case playlistAddSong p song => exact shape_fails _ (addToPlaylist_fails cancelled s p song)
  case playlistRemoveSong p song =>
    exact shape_fails _ (removeFromPlaylist_fails cancelled s p song)
  case playlistListSongs p =>
    exact reading_fails _
      (readFor_fails (.bind (s.playlistById_fails p) fun _ => .ok _) cancelled) s
  case playlistDelete p => exact shape_fails _ (deletePlaylist_fails cancelled s p)
  case playlistGet p => exact reading_fails _ (readFor_fails (s.playlistById_fails p) cancelled) s
  case playlistListByOwner o => exact reading_fails _ (playlistsOf_fails cancelled s o) s
  case playlistRename p name => exact shape_fails _ (renamePlaylist_fails cancelled s p name)
  case userRegister name email password =>
    exact shape_fails _ (registerUser_fails cancelled s hplain name email password)
  case userGet id => exact reading_fails _ (readFor_fails (s.userById_fails id) cancelled) s
  case userCheckPassword id password =>
    exact reading_fails _ (checkPassword_fails s scheme id password) s
  -- a resolution answers its failure as a value, which the call passes on
  case resolveArtist name =>
    obtain ⟨r, s', hrun, hr⟩ := artistFinder_resolve_answers "artist" name s
    rw [hrun]
    exact .map hr _
  case resolveAlbum name artistId =>
    obtain ⟨r, s', hrun, hr⟩ := albumFinder_resolve_answers "album" name artistId s
    rw [hrun]
    exact .map hr _
  case storeCreateUser name email =>
    exact shape_fails _ ((Query.fails_single (.createUser name email none)).commit s)
  case storeCreateGenre name => exact shape_fails _ ((Query.fails_single (.createGenre name)).commit s)
  case storeCreateArtist name photo =>
    exact shape_fails _ ((Query.fails_single (.createArtist name photo)).commit s)
  case storeInsertArtistIfAbsent name =>
    exact shape_fails _ ((Query.fails_single (.insertArtistIfAbsent name)).commit s)
  case storeArtistByName name => exact reading_fails _ (s.artistByName_fails name) s
  case storeCreateAlbum name artistId cover =>
    exact shape_fails _ ((Query.fails_single (.createAlbum name artistId cover)).commit s)
  case storeInsertAlbumIfAbsent name artistId =>
    exact shape_fails _ ((Query.fails_single (.insertAlbumIfAbsent name artistId)).commit s)
  case storeAlbumByNameAndArtist name artistId =>
    exact reading_fails _ (s.albumByKey_fails artistId name) s
  case storeCreateSong draft =>
    exact shape_fails _ ((Query.fails_single (.createSong draft)).commit s)
  case storeUpdateSong id change =>
    exact shape_fails _ ((Query.fails_single (.updateSong id change)).commit s)
  case storeAddSongLikes id delta =>
    exact shape_fails _ ((Query.fails_single (.addSongLikes id delta.toInt)).commit s)
  case storeDeleteSong id => exact shape_fails _ ((Query.fails_single (.deleteSong id)).commit s)
  case storeDeletePlaylist id =>
    exact shape_fails _ ((Query.fails_single (.deletePlaylist id)).commit s)
  case storeDeleteArtist id => exact shape_fails _ ((Query.fails_single (.deleteArtist id)).commit s)
  case storeDeleteAlbum id => exact shape_fails _ ((Query.fails_single (.deleteAlbum id)).commit s)
  case storeDeleteGenre id => exact shape_fails _ ((Query.fails_single (.deleteGenre id)).commit s)
  case storeCreatePlaylist name ownerId =>
    exact shape_fails _ ((Query.fails_single (.createPlaylist name ownerId)).commit s)
  case storeRenamePlaylist id name =>
    exact shape_fails _ ((Query.fails_single (.renamePlaylist id name)).commit s)
  case storeAddMembership p song =>
    exact shape_fails _ ((Query.fails_single (.addMembership p song)).commit s)
  case storeRemoveMembership p song =>
    exact shape_fails _ ((Query.fails_single (.removeMembership p song)).commit s)
  case storeDeletePlaylistMemberships p =>
    exact shape_fails _ ((Query.fails_single (.clearPlaylist p)).commit s)
  case storeDeleteSongMemberships song =>
    exact shape_fails _ ((Query.fails_single (.unlinkSong song)).commit s)
  case userExists id => exact reading_fails _ (readFor_fails (.ok _) cancelled) s
  -- the remaining calls are listings, which fail only for a cancelled request
  all_goals first
    | exact reading_fails _ (readFor_fails (.ok _) cancelled) s
    | exact reading_fails _ (.ok _) s

/-- The ways of classifying a failure agree on every failure a call answers. At most one
classified failure stands on its chain. With one, its kind is `K` exactly when `isKind K` holds,
exactly when it matches the bare failure of `K`, exactly when that classified failure has kind
`K`, and its field is that failure's field. With none, it has kind storage, no field, and matches
no kind. Its text is its contexts followed by the text of what they wrap, and no bare failure of
a kind matches it. This holds under every password hashing that fails only with plain text. -/
theorem call_failures_classify_consistently (scheme : PasswordScheme)
    (hscheme : scheme.FailsPlainly) (cancelled : Bool) (call : Call) (s : Store) (e : Fault)
    (h : (call.run scheme cancelled s).1 = .error e) :
    e.depth ≤ 1 ∧
      (e.depth = 1 → ∃ k f, e.core.classification = some (k, f) ∧ e.field = f ∧
        ∀ K, (e.kind = K ↔ e.isKind K = true) ∧
          (e.isKind K = true ↔ e.is (Fault.sentinel K) = true) ∧
          (e.is (Fault.sentinel K) = true ↔ k = K)) ∧
      (e.depth = 0 → e.kind = .storage ∧ e.field = "" ∧
        ∀ K, e.isKind K = false ∧ e.is (Fault.sentinel K) = false) ∧
      e.message = String.join (e.contexts.map (· ++ ": ")) ++ e.core.message ∧
      ∀ K, (Fault.sentinel K).is e = false := by
  have hsingle : e.Single := Call.fails_single hscheme cancelled call s e h
  exact ⟨hsingle.depth_le, Fault.classified_once, Fault.unclassified,
    e.message_eq_contexts_core, hsingle.unmatched⟩

/-- Deleting a missing song fails with one classification under the context of its call. -/
theorem missing_song_delete_classifies :
    PasswordScheme.refusing.FailsPlainly ∧
      (Call.run .refusing false (.songDelete 3) {}).1 =
        .error (.wrapped "delete song 3" (Fault.notFound "song")) ∧
      let e := Fault.wrapped "delete song 3" (Fault.notFound "song")
      e.depth ≤ 1 ∧
      (e.depth = 1 → ∃ k f, e.core.classification = some (k, f) ∧ e.field = f ∧
        ∀ K, (e.kind = K ↔ e.isKind K = true) ∧
          (e.isKind K = true ↔ e.is (Fault.sentinel K) = true) ∧
          (e.is (Fault.sentinel K) = true ↔ k = K)) ∧
      (e.depth = 0 → e.kind = .storage ∧ e.field = "" ∧
        ∀ K, e.isKind K = false ∧ e.is (Fault.sentinel K) = false) ∧
      e.message = String.join (e.contexts.map (· ++ ": ")) ++ e.core.message ∧
      ∀ K, (Fault.sentinel K).is e = false :=
  have hrun : (Call.run .refusing false (.songDelete 3) {}).1 =
      .error (.wrapped "delete song 3" (Fault.notFound "song")) := rfl
  ⟨PasswordScheme.refusing_failsPlainly, hrun,
    call_failures_classify_consistently .refusing PasswordScheme.refusing_failsPlainly false
      (.songDelete 3) {} _ hrun⟩

end Jukebox
