import Jukebox.Proofs.Writes

set_option autoImplicit false

/-! # Likes

A song's likes are a signed 64-bit counter. The store adds a delta to them as the machine adds,
wrapping around at 64 bits (`wrap64`), and refuses a result below zero. The check is written on
the wrapped sum, yet it decides the exact one: a stored count lies in `0 ‥ 2^63-1` and a delta in
the signed 64-bit range, so the exact sum lies in `-2^63 ‥ 2^64-2`. Below `2^63` nothing wraps,
and from `2^63` on the sum wraps into the negative half, where the check catches it. So an
addition succeeds exactly when the exact sum is a count again, and then stores that sum
(`wrap64_likes_nonneg_iff`, `wrap64_likes_of_fits`).

Main statement: `likes_add_exact_sums`, with liking and unliking as the cases `+1` and `-1`.
-/

namespace Jukebox

open Catalog Service

namespace Catalog

/-! ## Sums at 64 bits -/

/-- A sum in the signed 64-bit range does not wrap. -/
theorem wrap64_of_fits {x : Int} (hlo : Int64.minValue.toInt ≤ x) (hhi : x ≤ Int64.maxValue.toInt) :
    wrap64 x = x := by
  rw [Int64.toInt_minValue] at hlo
  rw [Int64.toInt_maxValue] at hhi
  have hwidth : Nat.pow 2 64 = 18446744073709551616 := rfl
  rw [wrap64, hwidth]
  exact Int.bmod_eq_of_le (by omega) (by omega)

/-- A sum past the signed 64-bit range, by less than the range's width, wraps to a negative
value. -/
theorem wrap64_neg_of_overflow {x : Int} (hlo : Int64.maxValue.toInt < x)
    (hhi : x ≤ 2 * Int64.maxValue.toInt) : wrap64 x < 0 := by
  rw [Int64.toInt_maxValue] at hlo hhi
  have hwidth : Nat.pow 2 64 = 18446744073709551616 := rfl
  rw [wrap64, hwidth, Int.bmod_neg_iff (by omega) (by omega)]
  omega

/-- Whatever is added, the sum taken at 64 bits is at most the largest count: the store never
holds likes past the signed 64-bit range. -/
theorem wrap64_le_maxValue (x : Int) : wrap64 x ≤ Int64.maxValue.toInt := by
  have hlt : wrap64 x < (Nat.pow 2 64 + 1 : Nat) / 2 := Int.bmod_lt (by decide)
  have hhalf : ((Nat.pow 2 64 + 1 : Nat) : Int) / 2 = 9223372036854775808 := by decide
  rw [Int64.toInt_maxValue]
  omega

/-- A count plus a 64-bit delta, taken at 64 bits, is not negative exactly when the exact sum is
a count again. -/
theorem wrap64_likes_nonneg_iff {likes delta : Int} (hlikes : 0 ≤ likes)
    (hcap : likes ≤ Int64.maxValue.toInt) (hlo : Int64.minValue.toInt ≤ delta)
    (hhi : delta ≤ Int64.maxValue.toInt) :
    0 ≤ wrap64 (likes + delta) ↔ 0 ≤ likes + delta ∧ likes + delta ≤ Int64.maxValue.toInt := by
  have hmin : Int64.minValue.toInt = -Int64.maxValue.toInt - 1 := by decide
  by_cases hfit : likes + delta ≤ Int64.maxValue.toInt
  · rw [wrap64_of_fits (by omega) hfit]
    exact ⟨fun h => ⟨h, hfit⟩, And.left⟩
  · -- past the cap the sum wraps into the negative half
    have hneg := wrap64_neg_of_overflow (x := likes + delta) (by omega) (by omega)
    exact iff_of_false (by omega) fun h => hfit h.2

/-- A count plus a delta that is again a count is stored as it is. -/
theorem wrap64_likes_of_fits {likes delta : Int} (hlikes : 0 ≤ likes)
    (hlo : Int64.minValue.toInt ≤ delta) (hfit : likes + delta ≤ Int64.maxValue.toInt) :
    wrap64 (likes + delta) = likes + delta :=
  wrap64_of_fits (by omega) hfit

/-! ## Adding to a song's likes -/

namespace Store

variable {s : Store} {id : Int} {x : Song}

/-- Adding a 64-bit delta to a song whose likes are a count: the exact sum is stored in the
song's row when it is a count again, and refused otherwise. -/
theorem addSongLikes_run_of_count (hx : s.song? id = some x) (hlikes : 0 ≤ x.likes)
    (hcap : x.likes ≤ Int64.maxValue.toInt) (delta : Int64) :
    (addSongLikes id delta.toInt).run s =
      if 0 ≤ x.likes + delta.toInt ∧ x.likes + delta.toInt ≤ Int64.maxValue.toInt then
        .ok (({ s with
              songs := (replaceById (·.id) { x with likes := x.likes + delta.toInt } s.songs) }
            ).showSong { x with likes := x.likes + delta.toInt },
          { s with songs := replaceById (·.id) { x with likes := x.likes + delta.toInt } s.songs })
      else .error (Fault.invalid "likes" "must not be negative") := by
  have hlo : Int64.minValue.toInt ≤ delta.toInt := Int64.minValue_le_toInt delta
  have hhi : delta.toInt ≤ Int64.maxValue.toInt := Int64.toInt_le delta
  simp only [addSongLikes, StateT.run, hx]
  by_cases hfit : 0 ≤ x.likes + delta.toInt ∧ x.likes + delta.toInt ≤ Int64.maxValue.toInt
  · -- the machine sum is the exact one, and it passes the check
    have hnonneg := (wrap64_likes_nonneg_iff hlikes hcap hlo hhi).2 hfit
    rw [if_neg (Int.not_lt.2 hnonneg), if_pos hfit, wrap64_likes_of_fits hlikes hlo hfit.2]
  · have hneg : wrap64 (x.likes + delta.toInt) < 0 :=
      Int.not_le.1 (mt (wrap64_likes_nonneg_iff hlikes hcap hlo hhi).1 hfit)
    rw [if_pos hneg, if_neg hfit]

theorem addSongLikes_run_of_missing (hx : s.song? id = none) (delta : Int) :
    (addSongLikes id delta).run s = .error (Fault.notFound "song") := by
  simp only [addSongLikes, StateT.run, hx]

end Store

end Catalog

namespace Service

variable {s : Store} {id : Int} {x : Song}

/-- A like request for a live request fails exactly with the failure of the store's addition,
put in context. -/
theorem addLikes_fst_eq_error {delta : Int64} {e : Fault} :
    (addLikes false id delta s).1 = .error e ↔
      ∃ e', (Store.addSongLikes id delta.toInt).run s = .error e' ∧
        e = .wrapped ("like song " ++ toString id) e' := by
  simp only [addLikes, commitFor, Bool.false_eq_true, ↓reduceIte, Tx.commit]
  split <;> rename_i hrun <;> simp [Outcome.within, hrun, eq_comm]

/-- Adding a 64-bit delta to a count fails, for a live request, exactly when the sum would leave
the range of counts; the failure is the refusal of a negative count, put in context. -/
theorem addLikes_fails_iff (hx : s.song? id = some x) (hlikes : 0 ≤ x.likes)
    (hcap : x.likes ≤ Int64.maxValue.toInt) (delta : Int64) (e : Fault) :
    (addLikes false id delta s).1 = .error e ↔
      ¬(0 ≤ x.likes + delta.toInt ∧ x.likes + delta.toInt ≤ Int64.maxValue.toInt) ∧
        e = .wrapped ("like song " ++ toString id)
          (Fault.invalid "likes" "must not be negative") := by
  rw [addLikes_fst_eq_error, Store.addSongLikes_run_of_count hx hlikes hcap delta]
  split_ifs with hfit <;> simp [hfit]

end Service

/-- Likes move by exact sums. For a song whose likes are a count (`0 ‥ 2^63-1`) and any 64-bit
delta, the store's addition succeeds exactly when the exact sum is a count again; it then stores
that sum in the song's row, every other row as it was, and answers the song so changed. Otherwise
it fails, `song not found` for a missing song and `likes: must not be negative` for a sum out of
range, and the store stays as it was. So, for a live request, liking a song fails (with that
refusal, in context) exactly when its likes are `2^63-1`, the wrap to a negative value being
caught and never stored, and unliking fails exactly when its likes are `0`. Every song of a
valid store has likes that are a count (`Store.SongFits.likes`, `Store.SongFits.likesCap`). -/
theorem likes_add_exact_sums (s : Store) (id : Int) (delta : Int64) :
    (s.song? id = none →
      (Store.addSongLikes id delta.toInt).commit s = (.error (Fault.notFound "song"), s)) ∧
    ∀ x, s.song? id = some x → 0 ≤ x.likes → x.likes ≤ Int64.maxValue.toInt →
      (0 ≤ x.likes + delta.toInt → x.likes + delta.toInt ≤ Int64.maxValue.toInt →
        (Store.addSongLikes id delta.toInt).commit s =
          (.ok (({ s with
                songs := (replaceById (·.id) { x with likes := x.likes + delta.toInt } s.songs) }
              ).showSong { x with likes := x.likes + delta.toInt }),
            { s with
              songs := (replaceById (·.id) { x with likes := x.likes + delta.toInt } s.songs) })) ∧
      (¬(0 ≤ x.likes + delta.toInt ∧ x.likes + delta.toInt ≤ Int64.maxValue.toInt) →
        (Store.addSongLikes id delta.toInt).commit s =
          (.error (Fault.invalid "likes" "must not be negative"), s)) ∧
      (∀ e, (likeSong false id s).1 = .error e ↔ x.likes = Int64.maxValue.toInt ∧
        e = .wrapped ("like song " ++ toString id) (Fault.invalid "likes" "must not be negative")) ∧
      ∀ e, (unlikeSong false id s).1 = .error e ↔ x.likes = 0 ∧
        e = .wrapped ("like song " ++ toString id) (Fault.invalid "likes" "must not be negative") := by
  refine ⟨fun hx => by simp [Tx.commit, Store.addSongLikes_run_of_missing hx],
    fun x hx hlikes hcap => ⟨fun hpos hfit => ?_, fun hout => ?_, fun e => ?_, fun e => ?_⟩⟩
  · rw [Tx.commit, Store.addSongLikes_run_of_count hx hlikes hcap delta, if_pos ⟨hpos, hfit⟩]
  · rw [Tx.commit, Store.addSongLikes_run_of_count hx hlikes hcap delta, if_neg hout]
  · -- one more like leaves the counts exactly at the cap
    have hcapped : ¬(0 ≤ x.likes + (1 : Int64).toInt ∧
        x.likes + (1 : Int64).toInt ≤ Int64.maxValue.toInt) ↔ x.likes = Int64.maxValue.toInt := by
      rw [Int64.toInt_one]
      omega
    rw [likeSong, addLikes_fails_iff hx hlikes hcap, hcapped]
  · -- one like less leaves them exactly at zero
    have hzero : ¬(0 ≤ x.likes + (-1 : Int64).toInt ∧
        x.likes + (-1 : Int64).toInt ≤ Int64.maxValue.toInt) ↔ x.likes = 0 := by
      have hminus : (-1 : Int64).toInt = -1 := by decide
      rw [hminus]
      omega
    rw [unlikeSong, addLikes_fails_iff hx hlikes hcap, hzero]

/-- A song liked `2^63-1` times cannot be liked again: the machine sum wraps to `-2^63`, which
the store refuses. -/
theorem capped_song_like_refused :
    (likeSong false 1
        { songs := [⟨1, "Hymn", none, none, 1, 9223372036854775807, "hymn.mp3", none⟩] }).1 =
      .error (.wrapped ("like song " ++ toString (1 : Int))
        (Fault.invalid "likes" "must not be negative")) :=
  (((likes_add_exact_sums _ 1 1).2 ⟨1, "Hymn", none, none, 1, 9223372036854775807, "hymn.mp3", none⟩
    rfl (by decide) (by decide)).2.2.1 _).2 ⟨by decide, rfl⟩

end Jukebox
