import Jukebox.Proofs.SongWrites

set_option autoImplicit false

/-! # Cancelled requests

A write for a request that was cancelled before it reached the store changes nothing. What it
answers depends on how far it gets. Each write first makes the checks that need no store: song
creation its name, audio reference, genre and likes (`creationInputChecks`), a song update the
texts and likes of its patch (`updateInputChecks`), a playlist rename or creation its name. A
failure there is the answer, exactly as for a live request. Past them the write opens its
transaction, which a cancelled request fails at its start, so the answer is `context canceled`
in the write's own context, whatever rows the request names. Creating a playlist checks its
owner before its transaction, through the user directory, which answers a cancelled request
with `check owner: context canceled`.

Main statement: `cancelled_writes_change_nothing`.
-/

namespace Jukebox

/-- What a cancellation in context prints. -/
theorem Fault.message_wrapped_canceled (context : String) :
    (Fault.wrapped context Fault.canceled).message = context ++ ": context canceled" := by
  rw [Fault.message_wrapped, String.append_assoc]
  rfl

end Jukebox

namespace Jukebox.Service

open Catalog

variable {s : Store}

/-- A cancelled request's transaction fails with `context canceled`, put in the write's context,
and leaves the store as it was. -/
theorem commitFor_cancelled_within {α : Type} (t : Tx α) (context : String) (s : Store) :
    (commitFor true t s).within context = (.error (.wrapped context Fault.canceled), s) := rfl

/-- A song creation whose input passes its own checks fails on the cancellation. -/
theorem createSong_cancelled {input : SongInput}
    (h : firstFailure (creationInputChecks input) = none) :
    createSong true input s = (.error (.wrapped "create song" Fault.canceled), s) := by
  obtain ⟨hname, haudio, ⟨g, hg⟩, hlikes⟩ := creationInputChecks_pass h
  rw [createSong_of_input_pass hname haudio hg hlikes, commitFor_cancelled_within]

/-- A song update whose patch passes its own checks fails on the cancellation. -/
theorem updateSong_cancelled {id : Int} {patch : SongPatch}
    (h : firstFailure (updateInputChecks patch) = none) :
    updateSong true id patch s =
      (.error (.wrapped ("update song " ++ toString id) Fault.canceled), s) := by
  rw [updateSong_of_input_pass h, commitFor_cancelled_within]

/-- A playlist name blank once trimmed is refused before anything else. -/
theorem renamePlaylist_of_blank {cancelled : Bool} {p : Int} {name : String}
    (h : Text.trim name = "") :
    renamePlaylist cancelled p name s = (.error (Fault.invalid "name" "is required"), s) := by
  simp [renamePlaylist, h]

theorem renamePlaylist_cancelled {p : Int} {name : String} (h : Text.trim name ≠ "") :
    renamePlaylist true p name s =
      (.error (.wrapped ("rename playlist " ++ toString p) Fault.canceled), s) := by
  have hfilled : (Text.trim name).isEmpty = false := by simpa using h
  simp only [renamePlaylist, hfilled, Bool.false_eq_true, ↓reduceIte]
  rfl

theorem createPlaylist_of_blank {cancelled : Bool} {o : Int} {name : String}
    (h : Text.trim name = "") :
    createPlaylist cancelled name o s = (.error (Fault.invalid "name" "is required"), s) := by
  simp [createPlaylist, h]

/-- Past its name, a playlist creation asks the user directory for the owner, which refuses a
cancelled request before the transaction is reached. -/
theorem createPlaylist_cancelled {o : Int} {name : String} (h : Text.trim name ≠ "") :
    createPlaylist true name o s = (.error (.wrapped "check owner" Fault.canceled), s) := by
  have hfilled : (Text.trim name).isEmpty = false := by simpa using h
  simp only [createPlaylist, hfilled, Bool.false_eq_true, ↓reduceIte]
  rfl

end Jukebox.Service

namespace Jukebox

open Catalog Service

/-- A transactional write for a cancelled request leaves the store as it was, whatever it holds.
A song creation or update whose input fails the checks made before the transaction answers that
failure, as it does for a live request; a playlist rename or creation with a blank name answers
`name: is required`, as it does for a live request. Every other such write answers
`context canceled` in its own context (`create song`, `update song <id>`, `delete song <id>`,
`like song <id>` for likes and unlikes, `add song <song> to playlist <playlist>`,
`remove song <song> from playlist <playlist>`, `delete playlist <playlist>`,
`rename playlist <playlist>`), except a playlist creation, which answers
`check owner: context canceled`. -/
theorem cancelled_writes_change_nothing (s : Store) :
    (∀ input e, firstFailure (creationInputChecks input) = some e →
      createSong true input s = (.error e, s) ∧ createSong false input s = (.error e, s)) ∧
    (∀ input, firstFailure (creationInputChecks input) = none →
      createSong true input s = (.error (.wrapped "create song" Fault.canceled), s)) ∧
    (∀ id patch e, firstFailure (updateInputChecks patch) = some e →
      updateSong true id patch s = (.error e, s) ∧ updateSong false id patch s = (.error e, s)) ∧
    (∀ id patch, firstFailure (updateInputChecks patch) = none →
      updateSong true id patch s =
        (.error (.wrapped ("update song " ++ toString id) Fault.canceled), s)) ∧
    (∀ id, deleteSong true id s =
      (.error (.wrapped ("delete song " ++ toString id) Fault.canceled), s)) ∧
    (∀ id, likeSong true id s =
        (.error (.wrapped ("like song " ++ toString id) Fault.canceled), s) ∧
      unlikeSong true id s = (.error (.wrapped ("like song " ++ toString id) Fault.canceled), s)) ∧
    (∀ p q, addToPlaylist true p q s =
      (.error (.wrapped ("add song " ++ toString q ++ " to playlist " ++ toString p)
        Fault.canceled), s)) ∧
    (∀ p q, removeFromPlaylist true p q s =
      (.error (.wrapped ("remove song " ++ toString q ++ " from playlist " ++ toString p)
        Fault.canceled), s)) ∧
    (∀ p, Service.deletePlaylist true p s =
      (.error (.wrapped ("delete playlist " ++ toString p) Fault.canceled), s)) ∧
    (∀ p name, Text.trim name = "" →
      Service.renamePlaylist true p name s = (.error (Fault.invalid "name" "is required"), s) ∧
      Service.renamePlaylist false p name s = (.error (Fault.invalid "name" "is required"), s)) ∧
    (∀ p name, Text.trim name ≠ "" →
      Service.renamePlaylist true p name s =
        (.error (.wrapped ("rename playlist " ++ toString p) Fault.canceled), s)) ∧
    (∀ name o, Text.trim name = "" →
      createPlaylist true name o s = (.error (Fault.invalid "name" "is required"), s) ∧
      createPlaylist false name o s = (.error (Fault.invalid "name" "is required"), s)) ∧
    (∀ name o, Text.trim name ≠ "" →
      createPlaylist true name o s = (.error (.wrapped "check owner" Fault.canceled), s)) ∧
    ∀ context, (Fault.wrapped context Fault.canceled).message = context ++ ": context canceled" :=
  ⟨fun _ _ h => ⟨createSong_of_input_failure h, createSong_of_input_failure h⟩,
    fun _ h => createSong_cancelled h,
    fun _ _ _ h => ⟨updateSong_of_input_failure h, updateSong_of_input_failure h⟩,
    fun _ _ h => updateSong_cancelled h,
    -- the writes with no checks of their own open their transaction at once
    fun _ => rfl, fun _ => ⟨rfl, rfl⟩, fun _ _ => rfl, fun _ _ => rfl, fun _ => rfl,
    fun _ _ h => ⟨renamePlaylist_of_blank h, renamePlaylist_of_blank h⟩,
    fun _ _ h => renamePlaylist_cancelled h,
    fun _ _ h => ⟨createPlaylist_of_blank h, createPlaylist_of_blank h⟩,
    fun _ _ h => createPlaylist_cancelled h,
    Fault.message_wrapped_canceled⟩

/-- A cancelled update of a song that does not exist, with a name that passes its check, answers
the cancellation and not the missing song. -/
theorem cancelled_update_of_missing_song :
    firstFailure (updateInputChecks { name := some " River " }) = none ∧
      updateSong true 7 { name := some " River " } {} =
        (.error (.wrapped "update song 7" Fault.canceled), {}) :=
  ⟨by decide, ((cancelled_writes_change_nothing {}).2.2.2.1 7 _ (by decide)).trans rfl⟩

end Jukebox
