import Jukebox.Proofs.Calls
import Jukebox.Proofs.SongWrites

set_option autoImplicit false

/-! # The files an update makes stale

An update reports the file references of the song before it that the caller may now delete
(`staleFiles`). The report compares slot with slot: the old audio reference when the audio
changed, then the old own cover when the cover changed or went. A file that moves from one slot
to the other, or that both slots held, is therefore reported although the song still holds it,
and a file both slots held is reported twice. What holds is the slot-wise reading.

Main statement: `update_reports_replaced_slots`. After an update that succeeds, the report
lists the old song's files in order, each once when its two slots differ; it holds every file
the stored song no longer holds; and it lists a file exactly when a slot of the old row held it
and the same slot of the new row holds something else. `swapped_files_reported_stale` is an
update after which both reported files are still held.
-/

namespace Jukebox

open Catalog Service

variable {before after song : Song} {x : String}

/-- The files a row holds: its audio reference and its own cover, when not empty. -/
theorem Catalog.Song.mem_files :
    x ∈ song.files ↔ (song.audio = x ∨ song.cover = some x) ∧ x ≠ "" := by
  unfold Song.files
  rcases hc : song.cover with _ | c <;> simp [String.isEmpty_iff] <;> grind

/-- A row whose cover is not its audio reference holds each of its files once. -/
theorem Catalog.Song.files_nodup (h : song.cover ≠ some song.audio) : song.files.Nodup := by
  unfold Song.files
  rcases hc : song.cover with _ | c
  · by_cases ha : song.audio.isEmpty <;> simp [ha]
  · have hne : song.audio ≠ c := fun hac => h (by rw [hc, hac])
    by_cases ha : song.audio.isEmpty <;> by_cases hcb : c.isEmpty <;> simp [ha, hcb, hne]

namespace Service

/-- A file is reported exactly when the audio slot or the own cover slot of the old row held it,
not empty, and the same slot of the new row holds something else. -/
theorem mem_staleFiles :
    x ∈ staleFiles before after ↔
      (before.audio = x ∧ x ≠ "" ∧ after.audio ≠ x) ∨
        (before.cover = some x ∧ x ≠ "" ∧ after.cover ≠ some x) := by
  unfold staleFiles
  rcases hc : before.cover with _ | c <;> simp <;> grind

/-- The report lists files of the old row, in the row's order. -/
theorem staleFiles_sublist : (staleFiles before after).Sublist before.files := by
  unfold staleFiles Song.files
  refine List.Sublist.append ?_ ?_
  · -- the audio slot: reported only if held
    by_cases ha : before.audio.isEmpty <;> by_cases hb : before.audio = after.audio <;>
      simp [ha, hb]
  · -- the own cover slot: reported only if held
    rcases before.cover with _ | c
    · exact List.Sublist.refl []
    · by_cases hc : c.isEmpty <;> by_cases hb : after.cover = some c <;> simp [hc, hb]

/-- Every file the old row held and the new row does not is reported. -/
theorem staleFiles_complete (hx : x ∈ before.files) (hgone : x ∉ after.files) :
    x ∈ staleFiles before after := by
  rw [Song.mem_files] at hx hgone
  obtain ⟨hslot, hblank⟩ := hx
  rw [mem_staleFiles]
  -- the slot that held the file holds something else now, or the file would still be held
  rcases hslot with ha | hc
  · exact .inl ⟨ha, hblank, fun h => hgone ⟨.inl h, hblank⟩⟩
  · exact .inr ⟨hc, hblank, fun h => hgone ⟨.inr h, hblank⟩⟩

/-- After an update that succeeds, the report holds files of the song before it, in order and
each once when its audio and cover differ; it holds every file the stored row no longer holds,
and it lists a file exactly when a slot of the old row held it and the same slot of the stored
row holds something else. -/
theorem update_reports_replaced_slots (cancelled : Bool) (id : Int) (patch : SongPatch)
    {s : Store} (hv : s.Valid) {r : SongUpdate} {s' : Store}
    (h : updateSong cancelled id patch s = (.ok r, s')) :
    ∃ previous, s.song? id = some previous ∧ s'.song? id = some r.song.song ∧
      r.stale.Sublist previous.files ∧
      (previous.cover ≠ some previous.audio → r.stale.Nodup) ∧
      (∀ x ∈ previous.files, x ∉ r.song.song.files → x ∈ r.stale) ∧
      ∀ x, x ∈ r.stale ↔
        (previous.audio = x ∧ x ≠ "" ∧ r.song.song.audio ≠ x) ∨
          (previous.cover = some x ∧ x ≠ "" ∧ r.song.song.cover ≠ some x) := by
  rcases hchecks : firstFailure (updateChecks cancelled s id patch) with _ | e
  swap
  · rw [updateSong_of_failure hv hchecks] at h
    simp at h
  obtain ⟨previous, hprev, hrun⟩ := updateSong_of_pass hv hchecks
  rw [hrun, Prod.mk.injEq, Except.ok.injEq] at h
  obtain ⟨rfl, rfl⟩ := h
  exact ⟨previous, hprev, updatedSong_song? hprev, staleFiles_sublist,
    fun hfiles => staleFiles_sublist.nodup (Song.files_nodup hfiles),
    fun _ hx hgone => staleFiles_complete hx hgone, fun _ => mem_staleFiles⟩

/-- A store reached by creating a genre and a song with audio `a` and cover `c` is valid, and
the update that swaps the two files succeeds, so the slot-wise reading applies to it. -/
theorem swapped_files_update_applies :
    let s := (Call.run .refusing false
      (.songCreate { name := "s", genreId := some 1, audio := "a", cover := some "c" })
      (Call.run .refusing false (.genreCreate "G") {}).2).2
    s.Valid ∧ ∃ r s', updateSong false 1 { audio := some "c", cover := some "a" } s = (.ok r, s') ∧
      ∃ previous, s.song? 1 = some previous ∧ r.stale.Sublist previous.files := by
  intro s
  have hv : s.Valid := (Store.valid_empty.call .refusing false (.genreCreate "G")).call .refusing
    false (.songCreate { name := "s", genreId := some 1, audio := "a", cover := some "c" })
  refine ⟨hv, _, _, rfl, ?_⟩
  obtain ⟨previous, hprev, -, hsub, -⟩ :=
    update_reports_replaced_slots false 1 { audio := some "c", cover := some "a" } hv rfl
  exact ⟨previous, hprev, hsub⟩

/-- Swapping the audio and cover files of a song reports both as stale, although the stored
song still holds both. -/
theorem swapped_files_reported_stale :
    let s := (Call.run .refusing false
      (.songCreate { name := "s", genreId := some 1, audio := "a", cover := some "c" })
      (Call.run .refusing false (.genreCreate "G") {}).2).2
    ∃ r s', updateSong false 1 { audio := some "c", cover := some "a" } s = (.ok r, s') ∧
      r.stale = ["a", "c"] ∧ ∀ x ∈ r.stale, x ∈ r.song.song.files :=
  ⟨_, _, rfl, rfl, by decide⟩

end Service

end Jukebox
