import Jukebox.Proofs.Display

set_option autoImplicit false

/-! # Partial updates of artists and albums

An artist or album update changes the fields its patch gives and keeps the others; a photo or
cover given as the empty text is cleared. The request is checked in a fixed order. A given name
is trimmed and must not be blank, and that is refused before the store is read; then the row
must exist; then, for an album, a given artist must exist; and last the patched row must not take
the key of another row: an artist's name, an album's name together with its artist. The key
check leaves out exactly the row being updated and is made on the key the row will have, so an
album whose name, artist or both change is checked on the pair that results.

`PatchLaw` states that order, with the store each answer leaves. The store writes follow one
shape (`PatchRuns`): a missing row, then the references of the patch, then the key, then the
row replaced in its table. In a valid store keys are unique, so a patch that keeps a row's own
key is never refused as a conflict (`PatchLaw.keeps_own_key`), and every song read after the
update shows the new names (`Store.CreditsArtist`, `Store.ShowsAlbum`).

Main statement: `partial_updates_change_one_row`.
-/

namespace Jukebox

open Catalog Service

namespace Catalog

/-- The artist row a patch leaves: a given name and photo replace the stored ones, and a photo
given as the empty text clears it. -/
def Artist.patch (a : Artist) (name photo : Option String) : Artist :=
  { a with name := name.getD a.name, photo := photo.elim a.photo fun p => nonEmpty (some p) }

/-- The album row a patch leaves: a given name, artist and cover replace the stored ones, and a
cover given as the empty text clears it. -/
def Album.patch (a : Album) (name : Option String) (artistId : Option Int)
    (cover : Option String) : Album :=
  { a with
    name := name.getD a.name
    artistId := artistId.getD a.artistId
    cover := cover.elim a.cover fun c => nonEmpty (some c) }

end Catalog

/-! ## The law of a partial update -/

section Law

variable {α ρ κ : Type}

/-- The answers of a partial update of the row with id `key` of `rows`, for a live request, as
its caller sees them from store `s` (`o` is the answer with the store after). A `blank` name is
refused first, whatever the store holds; then a missing row with `missing`; then a failed
reference of the patch (`references`, an album's artist). Once those pass, with `r` the row, the
update refuses with `conflict` exactly when another row has the key (`rowKey`) that `patch r`
would have, and otherwise answers for `patch r` with the store `put` makes of the table where
`patch r` stands in place of `r`. Every refusal leaves `s` as it was. -/
structure PatchLaw (o : Except Fault α × Store) (s : Store) (blank : Prop) (rows : List ρ)
    (id : ρ → Int) (key : Int) (rowKey : ρ → κ) (missing : Fault) (references : Option Fault)
    (conflict : Fault) (patch : ρ → ρ) (answer : ρ → Store → α) (put : List ρ → Store) :
    Prop where
  blank_first : blank → o = (.error (Fault.invalid "name" "is required"), s)
  missing_next : ¬blank → key ∉ rows.map id → o = (.error missing, s)
  references_next : ¬blank → key ∈ rows.map id → ∀ e, references = some e → o = (.error e, s)
  conflict_iff : ¬blank → references = none → ∀ r ∈ rows, id r = key →
    (o = (.error conflict, s) ↔ ∃ x ∈ rows, id x ≠ key ∧ rowKey x = rowKey (patch r))
  written : ¬blank → references = none → ∀ r ∈ rows, id r = key →
    (∀ x ∈ rows, id x ≠ key → rowKey x ≠ rowKey (patch r)) →
    o = (.ok (answer (patch r) (put (replaceById id (patch r) rows))),
      put (replaceById id (patch r) rows))

/-- The runs of a store write that patches the row with id `key`: a missing row fails with
`missing`, then a failed reference, then a key another row has with `conflict`; otherwise the
patched row replaces the row in its table. -/
structure PatchRuns (t : Tx α) (s : Store) (rows : List ρ) (id : ρ → Int) (key : Int)
    (rowKey : ρ → κ) (missing : Fault) (references : Option Fault) (conflict : Fault)
    (patch : ρ → ρ) (answer : ρ → Store → α) (put : List ρ → Store) : Prop where
  row_missing : key ∉ rows.map id → t.run s = .error missing
  reference_fails : key ∈ rows.map id → ∀ e, references = some e → t.run s = .error e
  key_taken : references = none → ∀ r ∈ rows, id r = key →
    (∃ x ∈ rows, id x ≠ key ∧ rowKey x = rowKey (patch r)) → t.run s = .error conflict
  key_free : references = none → ∀ r ∈ rows, id r = key →
    (∀ x ∈ rows, id x ≠ key → rowKey x ≠ rowKey (patch r)) →
    t.run s = .ok (answer (patch r) (put (replaceById id (patch r) rows)),
      put (replaceById id (patch r) rows))

variable {t : Tx α} {o : Except Fault α × Store} {s : Store} {blank : Prop} {rows : List ρ}
  {id : ρ → Int} {key : Int} {rowKey : ρ → κ} {missing : Fault} {references : Option Fault}
  {conflict : Fault} {patch : ρ → ρ} {answer : ρ → Store → α} {put : List ρ → Store}

/-- A service that refuses a blank name and otherwise commits the store write follows the law. -/
theorem PatchRuns.law
    (h : PatchRuns t s rows id key rowKey missing references conflict patch answer put)
    (hblank : blank → o = (.error (Fault.invalid "name" "is required"), s))
    (hfilled : ¬blank → o = t.commit s) :
    PatchLaw o s blank rows id key rowKey missing references conflict patch answer put := by
  refine ⟨hblank, fun hb hkey => ?_, fun hb hkey e he => ?_, fun hb hnone r hr hid => ⟨?_, ?_⟩,
    fun hb hnone r hr hid hfree => ?_⟩
  · rw [hfilled hb, Tx.commit_error _ _ _ (h.row_missing hkey)]
  · rw [hfilled hb, Tx.commit_error _ _ _ (h.reference_fails hkey e he)]
  · -- a written row is not a refusal
    intro ho
    by_contra htaken
    have hfree : ∀ x ∈ rows, id x ≠ key → rowKey x ≠ rowKey (patch r) :=
      fun x hx hxid hxkey => htaken ⟨x, hx, hxid, hxkey⟩
    rw [hfilled hb, Tx.commit, h.key_free hnone r hr hid hfree] at ho
    cases ho
  · intro htaken
    rw [hfilled hb, Tx.commit_error _ _ _ (h.key_taken hnone r hr hid htaken)]
  · rw [hfilled hb, Tx.commit, h.key_free hnone r hr hid hfree]

/-- In a table whose keys are unique, a patch that keeps the row's own key takes no other row's
key, so once the name and the references pass the patched row is written. -/
theorem PatchLaw.keeps_own_key
    (h : PatchLaw o s blank rows id key rowKey missing references conflict patch answer put)
    (hkeys : (rows.map rowKey).Nodup) (hb : ¬blank) (hnone : references = none) {r : ρ}
    (hr : r ∈ rows) (hid : id r = key) (hkeep : rowKey (patch r) = rowKey r) :
    o = (.ok (answer (patch r) (put (replaceById id (patch r) rows))),
      put (replaceById id (patch r) rows)) := by
  refine h.written hb hnone r hr hid fun x hx hxid hxkey => hxid ?_
  -- a row with the key the patched row keeps is the row itself
  have hxr : x = r := List.inj_on_of_nodup_map hkeys hx hr (hxkey.trans hkeep)
  rw [hxr, hid]

/-- A patch that keeps the row's own key is never answered with the conflict, whether its name
is refused or not. -/
theorem PatchLaw.not_conflict_of_keeps_own_key
    (h : PatchLaw o s blank rows id key rowKey missing references conflict patch answer put)
    (hkeys : (rows.map rowKey).Nodup) (hconflict : conflict ≠ Fault.invalid "name" "is required")
    (hnone : references = none) {r : ρ} (hr : r ∈ rows) (hid : id r = key)
    (hkeep : rowKey (patch r) = rowKey r) : o.1 ≠ .error conflict := by
  by_cases hb : blank
  · rw [h.blank_first hb]
    exact fun he => hconflict (Except.error.inj he).symm
  · rw [h.keeps_own_key hkeys hb hnone hr hid hkeep]
    simp

end Law

/-! ## The checks on a given name -/

namespace Service

/-- A given name that is blank once trimmed. -/
def NameBlank (name : Option String) : Prop := ∃ n ∈ name, Text.trim n = ""

variable {s : Store} {key : Int} {name : Option String}

theorem trim_isEmpty_of_not_blank {n : String} (h : ¬NameBlank (some n)) :
    (Text.trim n).isEmpty = false := by
  rw [Bool.eq_false_iff, ne_eq, String.isEmpty_iff]
  exact fun hblank => h ⟨n, rfl, hblank⟩

theorem updateArtist_of_blank {photo : Option String} (h : NameBlank name) :
    Service.updateArtist false key name photo s =
      (.error (Fault.invalid "name" "is required"), s) := by
  obtain ⟨n, hn, hblank⟩ := h
  rw [Option.mem_def] at hn
  subst hn
  simp [Service.updateArtist, writeFor, requireName, hblank]

theorem updateArtist_of_filled {photo : Option String} (h : ¬NameBlank name) :
    Service.updateArtist false key name photo s =
      (Store.updateArtist key (name.map Text.trim) photo).commit s := by
  cases name with
  | none => rfl
  | some n => simp [Service.updateArtist, writeFor, requireName, trim_isEmpty_of_not_blank h]

theorem updateAlbum_of_blank {artistId : Option Int} {cover : Option String}
    (h : NameBlank name) :
    Service.updateAlbum false key name artistId cover s =
      (.error (Fault.invalid "name" "is required"), s) := by
  obtain ⟨n, hn, hblank⟩ := h
  rw [Option.mem_def] at hn
  subst hn
  simp [Service.updateAlbum, writeFor, requireName, hblank]

theorem updateAlbum_of_filled {artistId : Option Int} {cover : Option String}
    (h : ¬NameBlank name) :
    Service.updateAlbum false key name artistId cover s =
      (Store.updateAlbum key (name.map Text.trim) artistId cover).commit s := by
  cases name with
  | none => rfl
  | some n => simp [Service.updateAlbum, writeFor, requireName, trim_isEmpty_of_not_blank h]

end Service

/-! ## The store writes -/

namespace Catalog.Store

variable {s : Store}

theorem artist?_eq_none {a : Int} : s.artist? a = none ↔ a ∉ s.artists.map (·.id) := by
  rw [← find?_id_isNone, Option.isNone_iff_eq_none]
  rfl

theorem Valid.artist?_of_mem (hv : s.Valid) {a : Artist} (ha : a ∈ s.artists) :
    s.artist? a.id = some a :=
  find?_id_of_mem hv.artistIds.nodup ha

theorem Valid.album?_of_mem (hv : s.Valid) {b : Album} (hb : b ∈ s.albums) :
    s.album? b.id = some b :=
  find?_id_of_mem hv.albumIds.nodup hb

/-- The album update asks whether a given artist id finds no artist. -/
theorem artistId_unknown_eq (artistId : Option Int) :
    ((artistId.map fun x => (s.artist? x).isNone) == some true) =
      artistId.any fun x => (s.artist? x).isNone := by
  cases artistId <;> simp

variable (hv : s.Valid) (key : Int)
include hv

theorem Valid.updateArtist_runs (name photo : Option String) :
    PatchRuns (Store.updateArtist key name photo) s s.artists (·.id) key (·.name)
      (Fault.notFound "artist") none (Fault.conflict "artist" "artist name already exists")
      (fun a => a.patch name photo) (fun a _ => a) (fun rows => { s with artists := rows }) where
  row_missing hkey := by
    simp [Store.updateArtist, StateT.run, artist?_eq_none.2 hkey]
  reference_fails _ _ he := nomatch he
  key_taken _ r hr hid htaken := by
    obtain ⟨x, hx, hxid, hxname⟩ := htaken
    have hfind : s.artist? key = some r := hid ▸ hv.artist?_of_mem hr
    cases name with
    | none =>
      -- the row keeps its own name, which no other artist has
      have hxr : x = r := List.inj_on_of_nodup_map hv.artistNames hx hr hxname
      exact absurd (hxr ▸ hid) hxid
    | some n =>
      have hclash : (s.artists.any fun o => o.name == n && o.id != key) = true :=
        List.any_eq_true.2 ⟨x, hx, by simpa [Artist.patch] using ⟨hxname, hxid⟩⟩
      simp [Store.updateArtist, StateT.run, hfind, hclash]
  key_free _ r hr hid hfree := by
    have hfind : s.artist? key = some r := hid ▸ hv.artist?_of_mem hr
    cases name with
    | none =>
      simp only [Store.updateArtist, StateT.run, hfind]
      cases photo <;> rfl
    | some n =>
      have hclash : (s.artists.any fun o => o.name == n && o.id != key) = false := by
        rw [List.any_eq_false]
        intro x hx
        simpa [Artist.patch] using fun hxname hxid => hfree x hx hxid hxname
      simp only [Store.updateArtist, StateT.run, hfind, hclash]
      cases photo <;> rfl

theorem Valid.updateAlbum_runs (name : Option String) (artistId : Option Int)
    (cover : Option String) :
    PatchRuns (Store.updateAlbum key name artistId cover) s s.albums (·.id) key
      (fun b => (b.name, b.artistId)) (Fault.notFound "album")
      (failIf (artistId.any fun x => (s.artist? x).isNone) (Fault.notFound "artist"))
      (Fault.conflict "album" "album already exists for this artist")
      (fun b => b.patch name artistId cover) (fun b s' => s'.showAlbum b)
      (fun rows => { s with albums := rows }) where
  row_missing hkey := by
    simp [Store.updateAlbum, StateT.run, album?_eq_none.2 hkey]
  reference_fails hkey e he := by
    obtain ⟨r, hr, hid⟩ := List.mem_map.1 hkey
    have hfind : s.album? key = some r := hid ▸ hv.album?_of_mem hr
    -- only an unknown artist makes the reference check fail
    have hunknown : (artistId.any fun x => (s.artist? x).isNone) = true := by
      by_contra hknown
      rw [Bool.not_eq_true] at hknown
      rw [hknown, failIf_false] at he
      cases he
    rw [hunknown, failIf_true] at he
    cases he
    simp only [Store.updateAlbum, StateT.run, hfind, artistId_unknown_eq, hunknown, if_true]
  key_taken hnone r hr hid htaken := by
    obtain ⟨x, hx, hxid, hxkey⟩ := htaken
    have hfind : s.album? key = some r := hid ▸ hv.album?_of_mem hr
    have hknown : (artistId.any fun x => (s.artist? x).isNone) = false :=
      failIf_eq_none.1 hnone
    simp only [Album.patch, Prod.mk.injEq] at hxkey
    have hclash : (s.albums.any fun o => o.name == name.getD r.name &&
        o.artistId == artistId.getD r.artistId && o.id != key) = true :=
      List.any_eq_true.2 ⟨x, hx, by simpa using ⟨hxkey, hxid⟩⟩
    simp only [Store.updateAlbum, StateT.run, hfind, artistId_unknown_eq, hknown, hclash,
      Bool.false_eq_true, ↓reduceIte]
  key_free hnone r hr hid hfree := by
    have hfind : s.album? key = some r := hid ▸ hv.album?_of_mem hr
    have hknown : (artistId.any fun x => (s.artist? x).isNone) = false :=
      failIf_eq_none.1 hnone
    have hclash : (s.albums.any fun o => o.name == name.getD r.name &&
        o.artistId == artistId.getD r.artistId && o.id != key) = false := by
      rw [List.any_eq_false]
      intro x hx
      simpa using fun hxname hxartist hxid =>
        hfree x hx hxid (by simp only [Album.patch, hxname, hxartist])
    simp only [Store.updateAlbum, StateT.run, hfind, artistId_unknown_eq, hknown, hclash,
      Bool.false_eq_true, ↓reduceIte]
    cases cover <;> rfl

end Catalog.Store

/-! ## What songs show after an update -/

namespace Catalog.Store

variable {s : Store}

/-- Every song of `s` credited to the artist `a` shows `a`'s name. -/
def CreditsArtist (s : Store) (a : Artist) : Prop :=
  ∀ x ∈ s.songs, (s.display x).artistId = some a.id → (s.display x).artist = a.name

/-- Every song of `s` on the album `b` shows `b`'s name and, with no artist of its own, is
credited to `b`'s artist under that artist's name. -/
def ShowsAlbum (s : Store) (b : Album) : Prop :=
  ∀ x ∈ s.songs, x.albumId = some b.id → (s.display x).album = b.name ∧
    (x.artistId = none →
      (s.display x).artistId = some b.artistId ∧ (s.display x).artist = s.artistName b.artistId)

/-- In a valid store a song credited to an artist shows that artist's current name. -/
theorem Valid.creditsArtist (hv : s.Valid) {a : Artist} (ha : a ∈ s.artists) :
    s.CreditsArtist a := by
  intro x hx hcredit
  obtain ⟨r, hr, hrid, hname⟩ := (hv.shows hx).artist a.id hcredit
  rw [hname, List.inj_on_of_nodup_map hv.artistIds.nodup hr ha hrid]

/-- In a valid store a song on an album shows the album's current name and artist. -/
theorem Valid.showsAlbum (hv : s.Valid) {b : Album} (hb : b ∈ s.albums) : s.ShowsAlbum b := by
  intro x hx hon
  obtain ⟨r, hr, hrid, hname, hcredit, -⟩ := (hv.shows hx).onAlbum b.id hon
  rw [List.inj_on_of_nodup_map hv.albumIds.nodup hr hb hrid] at hname hcredit
  refine ⟨hname, fun hown => ⟨hcredit hown, ?_⟩⟩
  rw [display_artist_eq_name, hcredit hown]
  rfl

end Catalog.Store

namespace Service

variable {s s' : Store} {cancelled : Bool} {key : Int}

/-- A write that answers was asked for a live request whose checks passed, and its transaction
ran to the answer. -/
theorem writeFor_eq_ok {α β : Type} {checks : Except Fault β} {t : β → Tx α} {a : α}
    (h : writeFor cancelled checks t s = (.ok a, s')) :
    ∃ b, checks = .ok b ∧ (t b).run s = .ok (a, s') := by
  cases cancelled with
  | true => cases h
  | false =>
    cases checks with
    | error e => cases h
    | ok b =>
      have hcommit : (t b).commit s = (.ok a, s') := h
      have hrun := Tx.run_of_commit_ok (congrArg Prod.fst hcommit)
      rw [congrArg Prod.snd hcommit] at hrun
      exact ⟨b, rfl, hrun⟩

/-- After an artist update, every song credited to the artist shows the new name. -/
theorem updateArtist_credits (hv : s.Valid) {name photo : Option String} {a : Artist}
    (h : Service.updateArtist cancelled key name photo s = (.ok a, s')) : s'.CreditsArtist a := by
  obtain ⟨n, -, hrun⟩ := writeFor_eq_ok h
  have hv' : s'.Valid := hv.updateArtist hrun
  obtain ⟨r, hr, -, -, rfl, rfl⟩ := Store.updateArtist_ok hrun
  exact hv'.creditsArtist (mem_replaceById_of_mem hr rfl)

/-- After an album update, every song on the album shows its new name and artist. -/
theorem updateAlbum_shows (hv : s.Valid) {name : Option String} {artistId : Option Int}
    {cover : Option String} {b : ShownAlbum}
    (h : Service.updateAlbum cancelled key name artistId cover s = (.ok b, s')) :
    s'.ShowsAlbum b.album := by
  obtain ⟨n, -, hrun⟩ := writeFor_eq_ok h
  have hv' : s'.Valid := hv.updateAlbum hrun
  obtain ⟨r, hr, -, -, a', rfl, -, rfl, rfl⟩ := Store.updateAlbum_ok hrun
  exact hv'.showsAlbum (mem_replaceById_of_mem hr rfl)

end Service

/-! ## Partial updates -/

/-- A given value equal to the default leaves the default. -/
theorem getD_eq_of_forall_mem {β : Type} {o : Option β} {v : β} (h : ∀ a ∈ o, a = v) :
    o.getD v = v := by
  cases o with
  | none => rfl
  | some a => exact h a rfl

/-- A given name that trims to the stored one leaves the stored name. -/
theorem trimmed_getD_of_keeps {name : Option String} {v : String}
    (h : ∀ n ∈ name, Text.trim n = v) : (name.map Text.trim).getD v = v :=
  getD_eq_of_forall_mem fun m hm => by
    obtain ⟨n, hn, rfl⟩ := Option.mem_map.1 hm
    exact h n hn

/-- A conflict is not the refusal of a name. -/
theorem conflict_ne_invalid (entity msg field msg' : String) :
    Fault.conflict entity msg ≠ Fault.invalid field msg' := by
  simp [Fault.invalid, Fault.conflict, Kind.validation, Kind.conflict]

namespace Catalog.Store

variable {s : Store} (hv : s.Valid) (key : Int)
include hv

/-- The law of the artist update: the name, then the row, then the new name against the other
artists. -/
theorem Valid.updateArtist_law (name photo : Option String) :
    PatchLaw (Service.updateArtist false key name photo s) s (NameBlank name) s.artists (·.id)
      key (·.name) (Fault.notFound "artist") none
      (Fault.conflict "artist" "artist name already exists")
      (fun a => a.patch (name.map Text.trim) photo) (fun a _ => a)
      (fun rows => { s with artists := rows }) :=
  (hv.updateArtist_runs key (name.map Text.trim) photo).law updateArtist_of_blank
    updateArtist_of_filled

/-- The law of the album update: the name, then the row, then the artist, then the new pair of
name and artist against the other albums. -/
theorem Valid.updateAlbum_law (name : Option String) (artistId : Option Int)
    (cover : Option String) :
    PatchLaw (Service.updateAlbum false key name artistId cover s) s (NameBlank name) s.albums
      (·.id) key (fun b => (b.name, b.artistId)) (Fault.notFound "album")
      (failIf (artistId.any fun a => (s.artist? a).isNone) (Fault.notFound "artist"))
      (Fault.conflict "album" "album already exists for this artist")
      (fun b => b.patch (name.map Text.trim) artistId cover) (fun b s' => s'.showAlbum b)
      (fun rows => { s with albums := rows }) :=
  (hv.updateAlbum_runs key (name.map Text.trim) artistId cover).law updateAlbum_of_blank
    updateAlbum_of_filled

/-- Renaming an artist to its own name is never a conflict. -/
theorem Valid.updateArtist_keeps_own_name {name photo : Option String} {r : Artist}
    (hr : r ∈ s.artists) (hid : r.id = key) (hname : ∀ n ∈ name, Text.trim n = r.name) :
    (Service.updateArtist false key name photo s).1 ≠
      .error (Fault.conflict "artist" "artist name already exists") :=
  (hv.updateArtist_law key name photo).not_conflict_of_keeps_own_key hv.artistNames
    (conflict_ne_invalid _ _ _ _) rfl hr hid (trimmed_getD_of_keeps hname)

/-- Giving an album its own name and artist is never a conflict. -/
theorem Valid.updateAlbum_keeps_own_key {name : Option String} {artistId : Option Int}
    {cover : Option String} {r : Album} (hr : r ∈ s.albums) (hid : r.id = key)
    (hname : ∀ n ∈ name, Text.trim n = r.name) (hartist : ∀ a ∈ artistId, a = r.artistId) :
    (Service.updateAlbum false key name artistId cover s).1 ≠
      .error (Fault.conflict "album" "album already exists for this artist") := by
  -- the album's own artist exists, so the patch's reference passes
  have hknown : (artistId.any fun a => (s.artist? a).isNone) = false := by
    cases artistId with
    | none => rfl
    | some a =>
      rw [hartist a rfl]
      have hfound := (artist?_isSome_iff s r.artistId).2 (hv.albumArtist r hr)
      simpa [Option.isSome_iff_ne_none] using hfound
  refine (hv.updateAlbum_law key name artistId cover).not_conflict_of_keeps_own_key hv.albumKeys
    (conflict_ne_invalid _ _ _ _) (by rw [hknown, failIf_false]) hr hid ?_
  exact Prod.ext (trimmed_getD_of_keeps hname) (getD_eq_of_forall_mem hartist)

end Catalog.Store

/-- An artist or album update refuses a blank given name first, then a missing row, then (for an
album) a given artist that does not exist, and then checks the key the patched row will have
against the other rows only: it refuses exactly when another row has that key, and otherwise
replaces the row and no other, answering the patched row. Every refusal leaves the store as it
was. An update that keeps a row's own key is never refused as a conflict, and after an update
every song credited to the artist, or on the album, shows the new names. -/
theorem partial_updates_change_one_row {s : Store} (hv : s.Valid) (key : Int) :
    (∀ name photo : Option String,
      PatchLaw (Service.updateArtist false key name photo s) s (NameBlank name) s.artists (·.id)
        key (·.name) (Fault.notFound "artist") none
        (Fault.conflict "artist" "artist name already exists")
        (fun a => a.patch (name.map Text.trim) photo) (fun a _ => a)
        (fun rows => { s with artists := rows })) ∧
    (∀ (name : Option String) (artistId : Option Int) (cover : Option String),
      PatchLaw (Service.updateAlbum false key name artistId cover s) s (NameBlank name) s.albums
        (·.id) key (fun b => (b.name, b.artistId)) (Fault.notFound "album")
        (failIf (artistId.any fun a => (s.artist? a).isNone) (Fault.notFound "artist"))
        (Fault.conflict "album" "album already exists for this artist")
        (fun b => b.patch (name.map Text.trim) artistId cover) (fun b s' => s'.showAlbum b)
        (fun rows => { s with albums := rows })) ∧
    (∀ name photo : Option String, ∀ r ∈ s.artists, r.id = key →
      (∀ n ∈ name, Text.trim n = r.name) →
      (Service.updateArtist false key name photo s).1 ≠
        .error (Fault.conflict "artist" "artist name already exists")) ∧
    (∀ (name : Option String) (artistId : Option Int) (cover : Option String), ∀ r ∈ s.albums,
      r.id = key → (∀ n ∈ name, Text.trim n = r.name) → (∀ a ∈ artistId, a = r.artistId) →
      (Service.updateAlbum false key name artistId cover s).1 ≠
        .error (Fault.conflict "album" "album already exists for this artist")) ∧
    (∀ (cancelled : Bool) (name photo : Option String) (a : Artist) (s' : Store),
      Service.updateArtist cancelled key name photo s = (.ok a, s') → s'.CreditsArtist a) ∧
    (∀ (cancelled : Bool) (name : Option String) (artistId : Option Int) (cover : Option String)
      (b : ShownAlbum) (s' : Store),
      Service.updateAlbum cancelled key name artistId cover s = (.ok b, s') →
        s'.ShowsAlbum b.album) :=
  ⟨hv.updateArtist_law key, hv.updateAlbum_law key,
    fun _ _ _ hr hid hname => hv.updateArtist_keeps_own_name key hr hid hname,
    fun _ _ _ _ hr hid hname hartist => hv.updateAlbum_keeps_own_key key hr hid hname hartist,
    fun _ _ _ _ _ h => updateArtist_credits hv h, fun _ _ _ _ _ _ h => updateAlbum_shows hv h⟩

/-- Renaming an artist to another artist's name, given with blanks around it, is refused as a
conflict and leaves the store; giving an album its own name the same way is not a conflict. -/
theorem renaming_onto_another_artist_conflicts :
    Service.updateArtist false 1 (some " Nina Simone ") none
        { next := { artist := 2, album := 1 }
          artists := [⟨1, "Joni Mitchell", none⟩, ⟨2, "Nina Simone", none⟩]
          albums := [⟨1, "Blue", 1, none⟩] } =
      (.error (Fault.conflict "artist" "artist name already exists"),
        { next := { artist := 2, album := 1 }
          artists := [⟨1, "Joni Mitchell", none⟩, ⟨2, "Nina Simone", none⟩]
          albums := [⟨1, "Blue", 1, none⟩] }) ∧
    (Service.updateAlbum false 1 (some " Blue ") none none
        { next := { artist := 2, album := 1 }
          artists := [⟨1, "Joni Mitchell", none⟩, ⟨2, "Nina Simone", none⟩]
          albums := [⟨1, "Blue", 1, none⟩] }).1 ≠
      .error (Fault.conflict "album" "album already exists for this artist") := by
  -- the store two artists and an album of the first make
  have hreach : Reachable
      { next := { artist := 2, album := 1 }
        artists := [⟨1, "Joni Mitchell", none⟩, ⟨2, "Nina Simone", none⟩]
        albums := [⟨1, "Blue", 1, none⟩] } :=
    .call .refusing false (.storeCreateAlbum "Blue" 1 none)
      (.call .refusing false (.storeCreateArtist "Nina Simone" none)
        (.call .refusing false (.storeCreateArtist "Joni Mitchell" none) .empty))
  have hupdates := partial_updates_change_one_row hreach.valid 1
  have hnina : Text.trim " Nina Simone " = "Nina Simone" := by decide
  have hblue : Text.trim " Blue " = "Blue" := by decide
  have hfilled : ¬NameBlank (some " Nina Simone ") := by
    rintro ⟨n, hn, hblank⟩
    rw [Option.mem_def, Option.some.injEq] at hn
    subst hn
    rw [hnina] at hblank
    exact absurd hblank (by decide)
  refine ⟨((hupdates.1 (some " Nina Simone ") none).conflict_iff hfilled rfl
      ⟨1, "Joni Mitchell", none⟩ (by simp) rfl).2
      ⟨⟨2, "Nina Simone", none⟩, by simp, by decide, by simp [Artist.patch, hnina]⟩,
    hupdates.2.2.2.1 (some " Blue ") none none ⟨1, "Blue", 1, none⟩ (by simp) rfl
      (fun n hn => ?_) (fun a ha => nomatch ha)⟩
  rw [Option.mem_def, Option.some.injEq] at hn
  rw [← hn, hblue]

end Jukebox
