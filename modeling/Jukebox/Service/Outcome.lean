import Jukebox.Catalog.Store

set_option autoImplicit false

/-! # Outcomes of requests

An operation on the catalog runs for a request, which may have been cancelled before it
reaches the store. Reads check the request first and answer `context canceled`. Writes make
their own input checks first and then open one transaction, which a cancelled request fails at
its start, so a cancelled write changes nothing (`commitFor_cancelled`).

An operation's answer is an `Outcome`: a value or a failure, and the store afterwards.
-/

namespace Jukebox.Service

open Catalog

/-- The answer of an operation and the store it leaves. -/
abbrev Outcome (α : Type) := Except Fault α × Store

/-- A request's transaction: cancelled requests fail before it starts, others commit it. -/
def commitFor {α : Type} (cancelled : Bool) (t : Tx α) (s : Store) : Outcome α :=
  if cancelled then (.error Fault.canceled, s) else t.commit s

/-- Puts a context before the failure of an outcome. -/
def Outcome.within {α : Type} (context : String) : Outcome α → Outcome α
  | (.error e, s) => (.error (.wrapped context e), s)
  | r => r

/-- A read for a request: cancelled requests fail, others read the store. -/
def readFor {α : Type} (cancelled : Bool) (r : Except Fault α) : Except Fault α :=
  if cancelled then .error Fault.canceled else r

/-- A cancelled request's transaction leaves the store as it was. -/
theorem commitFor_cancelled {α : Type} (t : Tx α) (s : Store) :
    commitFor true t s = (.error Fault.canceled, s) := rfl

/-- A failed transaction leaves the store as it was. -/
theorem commitFor_store_of_error {α : Type} (cancelled : Bool) (t : Tx α) (s : Store)
    (e : Fault) (h : (commitFor cancelled t s).1 = .error e) : (commitFor cancelled t s).2 = s := by
  unfold commitFor at *
  split
  · rfl
  · unfold Tx.commit at *
    split <;> simp_all

end Jukebox.Service
