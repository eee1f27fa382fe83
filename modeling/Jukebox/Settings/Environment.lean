set_option autoImplicit false

/-! # Environments

An environment is a list of variables in the order they were first set. Setting a variable
again replaces its value in place. A variable can be set to the empty text, which is different
from not being set at all; `Environment.valueOr` treats both alike, as settings do.

Only a non-empty name without `=` or a NUL character, with a value without NUL, can be set;
`Environment.set` leaves the environment unchanged for any other pair.
-/

namespace Jukebox.Settings

/-- Variables and their values, in the order they were first set. -/
structure Environment where
  vars : List (String × String) := []
deriving DecidableEq, Repr

namespace Environment

/-- The empty environment. -/
def empty : Environment := {}

/-- The value of a variable, if it is set. -/
def get? (e : Environment) (name : String) : Option String :=
  (e.vars.find? (·.1 = name)).map (·.2)

/-- Whether a variable is set (possibly to the empty text). -/
def has (e : Environment) (name : String) : Bool := (e.get? name).isSome

/-- The value of a variable, or the empty text. -/
def getD (e : Environment) (name : String) : String := (e.get? name).getD ""

/-- The value of a variable when it is set and not empty, otherwise the fallback. -/
def valueOr (e : Environment) (name fallback : String) : String :=
  match e.get? name with
  | some v => if v = "" then fallback else v
  | none => fallback

/-- Whether a name and value can be stored: a non-empty name without `=` or NUL and a value
without NUL. -/
def settable (name value : String) : Bool :=
  name ≠ "" && !name.toList.any (fun c => c = '=' || c = Char.ofNat 0) &&
    !value.toList.contains (Char.ofNat 0)

/-- Replaces the value of a variable in a list of pairs, or appends the pair. -/
def assign (vars : List (String × String)) (name value : String) : List (String × String) :=
  if vars.any (·.1 = name) then vars.map fun p => if p.1 = name then (name, value) else p
  else vars ++ [(name, value)]

/-- Sets a variable, if the pair can be stored. -/
def set (e : Environment) (name value : String) : Environment :=
  if settable name value then ⟨assign e.vars name value⟩ else e

/-- The environment holding the given pairs, later pairs replacing earlier ones. -/
def ofList (pairs : List (String × String)) : Environment :=
  pairs.foldl (fun e p => e.set p.1 p.2) empty

end Environment

end Jukebox.Settings
