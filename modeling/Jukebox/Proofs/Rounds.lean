import Jukebox.Catalog.Script

set_option autoImplicit false

/-! # Resolution against any store

A resolution trims the name, refuses a blank one without calling the store, and then runs at
most `attempts` rounds of a look-up and an insert with the trimmed name. Here the store is a
script: any answers at all, given in advance, one per call (`Catalog.Script`). Every store's
answers to one resolution form such a script, so what holds for every script holds for every
store.

A round *passes* when its look-up finds nothing (a failure whose outermost kind is not found)
and its insert reports the row as already there. Rounds run on while they pass; the first round
that does not pass decides the answer:

* its look-up finds a row: that row, after the look-up only;
* its look-up fails otherwise: that failure in context `find <noun>`, without an insert;
* its insert fails: that failure in context `insert <noun>`;
* its insert creates the row: that row.

When all `attempts` rounds pass, the resolution gives up with a storage failure after exactly
`attempts` look-ups and as many inserts.

Each way a round ends is a lemma about `Finder.rounds` (`Script.rounds_found`,
`Script.rounds_find_fails`, `Script.rounds_of_not_found`); the rounds that pass are run off by induction on their number
(`Script.rounds_after_passes`). Main statement: `resolution_follows_scripted_answers`, for
artists and albums alike (the noun is a parameter; an album's artist is fixed for the whole
resolution).
-/

namespace Jukebox.Catalog

/-- The calls of `k` whole rounds with a key: a look-up and an insert each. -/
def roundCalls (key : String) (k : Nat) : List ScriptCall :=
  (List.replicate k [.lookup key, .insert key]).flatten

@[simp] theorem roundCalls_zero (key : String) : roundCalls key 0 = [] := rfl

theorem roundCalls_succ (key : String) (k : Nat) :
    roundCalls key (k + 1) = .lookup key :: .insert key :: roundCalls key k := rfl

namespace Script

/-! ## One call -/

/-- The script after a look-up with `key`: one look-up answer used, the call recorded. -/
def afterLookup (key : String) (σ : Script) : Script :=
  { σ with lookups := σ.lookups.drop 1, received := .lookup key :: σ.received }

/-- The script after an insert with `key`: one insert answer used, the call recorded. -/
def afterInsert (key : String) (σ : Script) : Script :=
  { σ with inserts := σ.inserts.drop 1, received := .insert key :: σ.received }

@[simp] theorem afterLookup_inserts (key : String) (σ : Script) :
    (σ.afterLookup key).inserts = σ.inserts := rfl

/-- A scripted run of two parts: the second runs from the script the first left. -/
theorem run_bind {α β : Type} (x : StateM Script α) (f : α → StateM Script β) (σ : Script) :
    (x >>= f).run σ = (f (x.run σ).1).run (x.run σ).2 := rfl

theorem lookup_run (noun key : String) (σ : Script) :
    (lookup noun key).run σ = (LookupAnswer.reply noun σ.lookups.head?, σ.afterLookup key) := rfl

theorem insert_run (key : String) (σ : Script) :
    (insert key).run σ = (InsertAnswer.reply σ.inserts.head?, σ.afterInsert key) := rfl

/-! ## One round -/

variable {noun key : String} {n : Nat} {σ : Script}

theorem rounds_found {row : ScriptRow} (h : LookupAnswer.reply noun σ.lookups.head? = .ok row) :
    ((finder noun).rounds noun key (n + 1)).run σ = (.ok row, σ.afterLookup key) := by
  rw [Finder.rounds, run_bind]
  simp only [finder]
  rw [lookup_run, h]
  rfl

theorem rounds_find_fails {e : Fault} (h : LookupAnswer.reply noun σ.lookups.head? = .error e)
    (hkind : e.isKind .notFound = false) :
    ((finder noun).rounds noun key (n + 1)).run σ =
      (.error (.wrapped ("find " ++ noun) e), σ.afterLookup key) := by
  rw [Finder.rounds, run_bind]
  simp only [finder]
  rw [lookup_run, h]
  dsimp only
  rw [if_neg (by rw [hkind]; decide)]
  rfl

/-- A round whose look-up finds nothing goes on to insert, and the insert's answer decides: its
failure in context, the row it created, or, when the row was already there, the rounds left,
from the script after both calls. -/
theorem rounds_of_not_found {e : Fault} (h : LookupAnswer.reply noun σ.lookups.head? = .error e)
    (hkind : e.isKind .notFound = true) :
    (∀ e', InsertAnswer.reply σ.inserts.head? = .error e' →
      ((finder noun).rounds noun key (n + 1)).run σ =
        (.error (.wrapped ("insert " ++ noun) e'), (σ.afterLookup key).afterInsert key)) ∧
    (∀ row, InsertAnswer.reply σ.inserts.head? = .ok (some row) →
      ((finder noun).rounds noun key (n + 1)).run σ =
        (.ok row, (σ.afterLookup key).afterInsert key)) ∧
    (InsertAnswer.reply σ.inserts.head? = .ok none →
      ((finder noun).rounds noun key (n + 1)).run σ =
        ((finder noun).rounds noun key n).run ((σ.afterLookup key).afterInsert key)) := by
  rw [Finder.rounds, run_bind]
  simp only [finder]
  rw [lookup_run, h]
  dsimp only
  rw [if_pos hkind, run_bind, insert_run, afterLookup_inserts]
  refine ⟨fun e' hi => ?_, fun row hi => ?_, fun hi => ?_⟩ <;> rw [hi] <;> rfl

/-! ## Rounds that pass -/

/-- Round `i` of a script passes: its look-up answers a failure whose outermost kind is not
found (as it does once the look-up answers have run out), and its insert reports the row as
already there (as it does once the insert answers have run out). -/
def Passes (noun : String) (σ : Script) (i : Nat) : Prop :=
  (∃ e, LookupAnswer.reply noun σ.lookups[i]? = .error e ∧ e.isKind .notFound = true) ∧
    InsertAnswer.reply σ.inserts[i]? = .ok none

/-- The script after `k` rounds with `key`: `k` answers of each kind used, the rounds' calls
recorded. -/
def advance (key : String) (k : Nat) (σ : Script) : Script :=
  { lookups := σ.lookups.drop k
    inserts := σ.inserts.drop k
    received := (roundCalls key k).reverse ++ σ.received }

theorem advance_succ (k : Nat) (σ : Script) :
    advance key (k + 1) σ = advance key k ((σ.afterLookup key).afterInsert key) := by
  simp [advance, afterLookup, afterInsert, roundCalls_succ]

theorem passes_after_round {i : Nat} :
    ((σ.afterLookup key).afterInsert key).Passes noun i ↔ σ.Passes noun (i + 1) := by
  simp [Passes, afterLookup, afterInsert]

/-- Rounds that pass only use up answers: after `k` of them the rounds left run from the
script advanced by `k` rounds. -/
theorem rounds_after_passes (k : Nat) (hpass : ∀ i < k, σ.Passes noun i) :
    ((finder noun).rounds noun key (n + k)).run σ =
      ((finder noun).rounds noun key n).run (σ.advance key k) := by
  -- induction on the number of passing rounds, each one the first round of the script left
  induction k generalizing σ with
  | zero => simp [advance]
  | succ k ih =>
    obtain ⟨⟨e, hlookup, hkind⟩, hinsert⟩ := hpass 0 (Nat.zero_lt_succ k)
    rw [← List.head?_eq_getElem?] at hlookup hinsert
    rw [← Nat.add_assoc, (rounds_of_not_found hlookup hkind).2.2 hinsert, advance_succ]
    exact ih fun i hi => passes_after_round.2 (hpass (i + 1) (Nat.succ_lt_succ hi))

/-! ## The resolution -/

/-- A blank name is refused before any call. -/
theorem resolve_of_blank {name : String} (h : (Text.trim name).isEmpty = true) (σ : Script) :
    Script.resolve noun name σ = (.error (Fault.invalid noun "name is required"), σ.received.reverse) := by
  simp [Script.resolve, Finder.resolve, h]
  rfl

/-- Any other name is trimmed and resolved in up to `attempts` rounds. -/
theorem resolve_of_filled {name : String} (h : (Text.trim name).isEmpty = false) (σ : Script) :
    Script.resolve noun name σ =
      ((((finder noun).rounds noun (Text.trim name) attempts).run σ).1,
        (((finder noun).rounds noun (Text.trim name) attempts).run σ).2.received.reverse) := by
  simp [Script.resolve, Finder.resolve, h]
  rfl

/-- The round after `k` passing rounds sees the `k`-th answers of the script. -/
theorem advance_heads (k : Nat) (σ : Script) :
    (σ.advance key k).lookups.head? = σ.lookups[k]? ∧
      (σ.advance key k).inserts.head? = σ.inserts[k]? := by
  simp [advance]

/-- When every round passes, the resolution gives up after the calls of `attempts` rounds. -/
theorem resolve_of_all_pass {name : String} (h : (Text.trim name).isEmpty = false)
    (hpass : ∀ i < attempts, σ.Passes noun i) :
    Script.resolve noun name σ =
      (.error (unstable noun (Text.trim name)),
        σ.received.reverse ++ roundCalls (Text.trim name) attempts) := by
  -- every round passes and no round is left
  have hround : ((finder noun).rounds noun (Text.trim name) attempts).run σ =
      ((finder noun).rounds noun (Text.trim name) 0).run (σ.advance (Text.trim name) attempts) := by
    rw [← rounds_after_passes attempts hpass, Nat.zero_add]
  rw [resolve_of_filled h, hround, Finder.rounds]
  refine Prod.ext rfl ?_
  change ((roundCalls (Text.trim name) attempts).reverse ++ σ.received).reverse = _
  rw [List.reverse_append, List.reverse_reverse]

end Script

open Script in
/-- A resolution against any store follows its answers. A blank name is refused as
`<noun>: name is required` before any call. Any other name is trimmed, and rounds of a look-up
and an insert with the trimmed name run while they pass; the first of the `attempts` rounds that
does not pass decides, after the calls of the rounds before it: a row its look-up finds, its
look-up's failure in context `find <noun>` (with no insert), its insert's failure in context
`insert <noun>`, or the row its insert created. When every round passes, the resolution gives up
with a storage failure after `attempts` look-ups and as many inserts. -/
theorem resolution_follows_scripted_answers (noun name : String) (lookups : List LookupAnswer)
    (inserts : List InsertAnswer) :
    ((Text.trim name).isEmpty = true →
      Script.resolve noun name { lookups, inserts } =
        (.error (Fault.invalid noun "name is required"), [])) ∧
    ((Text.trim name).isEmpty = false →
      (∀ k < attempts, (∀ i < k, Script.Passes noun { lookups, inserts } i) →
        (∀ row, LookupAnswer.reply noun lookups[k]? = .ok row →
          Script.resolve noun name { lookups, inserts } =
            (.ok row, roundCalls (Text.trim name) k ++ [.lookup (Text.trim name)])) ∧
        (∀ e, LookupAnswer.reply noun lookups[k]? = .error e → e.isKind .notFound = false →
          Script.resolve noun name { lookups, inserts } =
            (.error (.wrapped ("find " ++ noun) e),
              roundCalls (Text.trim name) k ++ [.lookup (Text.trim name)])) ∧
        (∀ e, LookupAnswer.reply noun lookups[k]? = .error e → e.isKind .notFound = true →
          (∀ e', InsertAnswer.reply inserts[k]? = .error e' →
            Script.resolve noun name { lookups, inserts } =
              (.error (.wrapped ("insert " ++ noun) e'),
                roundCalls (Text.trim name) k ++ [.lookup (Text.trim name), .insert (Text.trim name)])) ∧
          (∀ row, InsertAnswer.reply inserts[k]? = .ok (some row) →
            Script.resolve noun name { lookups, inserts } =
              (.ok row,
                roundCalls (Text.trim name) k ++
                  [.lookup (Text.trim name), .insert (Text.trim name)])))) ∧
      ((∀ i < attempts, Script.Passes noun { lookups, inserts } i) →
        Script.resolve noun name { lookups, inserts } =
          (.error (unstable noun (Text.trim name)), roundCalls (Text.trim name) attempts))) := by
  refine ⟨fun hblank => resolve_of_blank hblank _, fun hfilled => ⟨fun k hk hpass => ?_, ?_⟩⟩
  · -- the rounds before `k` pass, so round `k` runs from the script advanced by `k` rounds
    obtain ⟨m, hm⟩ : ∃ m, attempts = m + 1 + k := ⟨attempts - k - 1, by unfold attempts at *; omega⟩
    have hround : ((finder noun).rounds noun (Text.trim name) (m + 1 + k)).run { lookups, inserts } =
        ((finder noun).rounds noun (Text.trim name) (m + 1)).run
          (Script.advance (Text.trim name) k { lookups, inserts }) :=
      rounds_after_passes k hpass
    obtain ⟨hlookup, hinsert⟩ : (Script.advance (Text.trim name) k { lookups, inserts }).lookups.head? =
          lookups[k]? ∧
        (Script.advance (Text.trim name) k { lookups, inserts }).inserts.head? = inserts[k]? :=
      advance_heads k _
    rw [resolve_of_filled hfilled, hm, hround]
    refine ⟨fun row h => ?_, fun e h hkind => ?_, fun e h hkind => ⟨fun e' hi => ?_, fun row hi => ?_⟩⟩
    · rw [rounds_found (hlookup ▸ h)]
      simp [afterLookup, advance]
    · rw [rounds_find_fails (hlookup ▸ h) hkind]
      simp [afterLookup, advance]
    · rw [(rounds_of_not_found (hlookup ▸ h) hkind).1 e' (hinsert ▸ hi)]
      simp [afterLookup, afterInsert, advance]
    · rw [(rounds_of_not_found (hlookup ▸ h) hkind).2.1 row (hinsert ▸ hi)]
      simp [afterLookup, afterInsert, advance]
  · intro hpass
    rw [resolve_of_all_pass hfilled hpass]
    rfl

/-- A store that loses the insert race to another writer: the first look-up finds nothing, the
insert finds the row already there, and the second round's look-up finds it, after three calls
with the trimmed name. -/
theorem lost_insert_race_reads_again :
    Script.resolve "artist" " Nina Simone "
        { lookups := [.fails (Fault.notFound "artist"), .finds ⟨7, "Nina Simone", 0⟩]
          inserts := [.answers false {}] } =
      (.ok ⟨7, "Nina Simone", 0⟩,
        [.lookup "Nina Simone", .insert "Nina Simone", .lookup "Nina Simone"]) := by
  have htrim : Text.trim " Nina Simone " = "Nina Simone" := by decide
  have hlaw := (resolution_follows_scripted_answers "artist" " Nina Simone "
    [.fails (Fault.notFound "artist"), .finds ⟨7, "Nina Simone", 0⟩] [.answers false {}]).2
    (by rw [htrim]; rfl)
  -- round 0 passes: nothing found, and the row turned out to be there already
  have hpass : ∀ i < 1, Script.Passes "artist"
      { lookups := [.fails (Fault.notFound "artist"), .finds ⟨7, "Nina Simone", 0⟩]
        inserts := [.answers false {}] } i := by
    intro i hi
    rw [Nat.lt_one_iff.1 hi]
    exact ⟨⟨Fault.notFound "artist", rfl, rfl⟩, rfl⟩
  rw [(hlaw.1 1 (by decide) hpass).1 ⟨7, "Nina Simone", 0⟩ rfl, htrim]
  rfl

end Jukebox.Catalog
