import Jukebox.Catalog.Write
import Jukebox.Service.Outcome
import Jukebox.Text.Blank
import Jukebox.Text.Lower

set_option autoImplicit false

/-! # User accounts

Users register with a name, an email and a password. The name and email are trimmed, the email
is lowercased, and the password is kept only as the `Credential` that the password hashing makes
of it.

The hashing itself (bcrypt) is not part of the catalog: it is a `PasswordScheme`, given to every
operation that hashes or checks a password. What the catalog relies on of it is stated as named
properties of a scheme: it fails only with plain failures of its own (`FailsPlainly`), and it
refuses a password longer than 72 bytes (`RefusesLong`). A user without a credential accepts no
password, whatever the scheme.
-/

namespace Jukebox.Catalog

/-- The most password bytes the hashing takes. -/
def maxPasswordBytes : Nat := 72

/-- The password hashing the catalog uses, which lives outside it: the credential stored for a
password, or the failure that refuses the password, and whether a stored credential accepts a
password. -/
structure PasswordScheme where
  hash : String → Except Fault Credential
  admits : Credential → String → Bool

namespace PasswordScheme

/-- The hashing fails only with plain failures, never with a classified failure of the
catalog's. -/
def FailsPlainly (scheme : PasswordScheme) : Prop :=
  ∀ password e, scheme.hash password = .error e → ∃ text, e = .plain text

/-- The hashing refuses a password of more than 72 UTF-8 bytes. -/
def RefusesLong (scheme : PasswordScheme) : Prop :=
  ∀ password, maxPasswordBytes < password.utf8ByteSize → ∃ e, scheme.hash password = .error e

end PasswordScheme

end Jukebox.Catalog

namespace Jukebox.Service

open Catalog

variable (scheme : PasswordScheme)

/-- Registers a user, storing the credential the scheme makes of the password. -/
def registerUser (cancelled : Bool) (name email password : String) (s : Store) : Outcome User :=
  if cancelled then (.error Fault.canceled, s)
  else
    let n := Text.trim name
    let m := Text.lower (Text.trim email)
    if n.isEmpty then (.error (Fault.invalid "name" "is required"), s)
    else if m.isEmpty then (.error (Fault.invalid "email" "is required"), s)
    else if password.isEmpty then (.error (Fault.invalid "password" "is required"), s)
    else
      match scheme.hash password with
      | .error e => (.error (Fault.storage (.wrapped "hash password" e)), s)
      | .ok c => (Store.createUser n m (some c)).commit s

/-- Reads one user. -/
def getUser (cancelled : Bool) (id : Int) (s : Store) : Except Fault User :=
  readFor cancelled (s.userById id)

/-- Whether a user exists. -/
def userExists (cancelled : Bool) (id : Int) (s : Store) : Except Fault Bool :=
  readFor cancelled (.ok (s.userExists id))

/-- Whether a user's credential accepts a password; a user without one accepts none. The check
reads the store directly, so a cancelled call still answers. -/
def checkPassword (id : Int) (password : String) (s : Store) : Except Fault Bool := do
  let u ← s.userById id
  pure (match u.credential with
    | some c => scheme.admits c password
    | none => false)

end Jukebox.Service
