import Jukebox.Catalog.Resolve

set_option autoImplicit false

/-! # A scripted store for name resolution

A `Script` answers the look-ups and inserts of a resolution from two lists given in advance, one
answer per call, and records every call it receives. When the look-up answers run out, a look-up
finds nothing (`<noun> not found`); when the insert answers run out, an insert reports the row as
already there. Running `Finder.resolve` over `Script.finder` shows exactly which calls the
resolution makes and what it concludes from each answer.
-/

namespace Jukebox.Catalog

/-- A row as a scripted store returns it. -/
structure ScriptRow where
  id : Int := 0
  name : String := ""
  artistId : Int := 0
deriving DecidableEq, Repr

/-- A scripted answer to a look-up. -/
inductive LookupAnswer where
  | fails (e : Fault)
  | finds (row : ScriptRow)

/-- A scripted answer to an insert. -/
inductive InsertAnswer where
  | fails (e : Fault)
  | answers (created : Bool) (row : ScriptRow)

/-- A call a scripted store received, with the name it was given. -/
inductive ScriptCall where
  | lookup (name : String)
  | insert (name : String)
deriving DecidableEq, Repr

/-- What a look-up answers from the next scripted answer: the failure or the row, or
`<noun> not found` when the answers have run out. -/
def LookupAnswer.reply (noun : String) : Option LookupAnswer → Except Fault ScriptRow
  | some (.fails e) => .error e
  | some (.finds row) => .ok row
  | none => .error (Fault.notFound noun)

/-- What an insert answers from the next scripted answer: the failure, the row when it was
created, or nothing when it was already there, which is also the answer once they have run
out. -/
def InsertAnswer.reply : Option InsertAnswer → Except Fault (Option ScriptRow)
  | some (.fails e) => .error e
  | some (.answers created row) => .ok (if created then some row else none)
  | none => .ok none

/-- The answers still to give and the calls received so far, latest first. -/
structure Script where
  lookups : List LookupAnswer
  inserts : List InsertAnswer
  received : List ScriptCall := []

namespace Script

/-- Answers a look-up with the next scripted answer. -/
def lookup (noun name : String) : StateM Script (Except Fault ScriptRow) := do
  let s ← get
  let rest := s.lookups.drop 1
  set { s with lookups := rest, received := .lookup name :: s.received }
  pure (LookupAnswer.reply noun s.lookups.head?)

/-- Answers an insert with the next scripted answer. -/
def insert (name : String) : StateM Script (Except Fault (Option ScriptRow)) := do
  let s ← get
  set { s with inserts := s.inserts.drop 1, received := .insert name :: s.received }
  pure (InsertAnswer.reply s.inserts.head?)

/-- The scripted store as a finder of rows named `noun`. -/
def finder (noun : String) : Finder (StateM Script) ScriptRow where
  lookup := lookup noun
  insert := insert

/-- Resolves a name against a script: the result and the calls made, in order. -/
def resolve (noun name : String) (script : Script) :
    Except Fault ScriptRow × List ScriptCall :=
  let (r, s) := ((finder noun).resolve noun name).run script
  (r, s.received.reverse)

end Script

end Jukebox.Catalog
