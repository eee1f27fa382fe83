import Jukebox.Catalog.Write
import Jukebox.Text.Blank
import Jukebox.Text.Quoted

set_option autoImplicit false

/-! # Resolving names to rows

Songs may name their artist and album instead of giving their ids. A name is resolved by
*find or create*: trim it, look the row up by that exact name, and if there is none, insert it.
An insert that finds the row already there (another writer won) starts the round again; after
`attempts` rounds without a stable row the resolution gives up with a storage failure.

The loop is written once, over any `Finder`: a look-up and an insert in some monad. The store
gives finders for artists (`artistFinder`) and for the albums of one artist (`albumFinder`);
a scripted finder (`Catalog.Script`) replays answers given in advance.

Failures keep their cause: a failed look-up other than "not found" is wrapped `find <noun>`,
a failed insert `insert <noun>`.
-/

namespace Jukebox.Catalog

/-- What resolving a name needs: an exact look-up, and an insert that answers `none` when the
row turned out to be there already. -/
structure Finder (m : Type → Type) (α : Type) where
  lookup : String → m (Except Fault α)
  insert : String → m (Except Fault (Option α))

/-- How many look-up and insert rounds a resolution makes before it gives up. -/
def attempts : Nat := 3

/-- The failure after every round found no stable row. -/
def unstable (noun key : String) : Fault :=
  Fault.storage (.plain ("resolve " ++ noun ++ " " ++ Text.quote key ++ ": no stable row after " ++
    toString attempts ++ " attempts"))

namespace Finder

variable {m : Type → Type} [Monad m] {α : Type}

/-- Up to `n` rounds of look-up and insert for an already trimmed name. -/
def rounds (f : Finder m α) (noun key : String) : Nat → m (Except Fault α)
  | 0 => pure (.error (unstable noun key))
  | n + 1 => do
    match ← f.lookup key with
    | .ok a => pure (.ok a)
    | .error e =>
      if e.isKind .notFound then
        match ← f.insert key with
        | .error e' => pure (.error (.wrapped ("insert " ++ noun) e'))
        | .ok (some a) => pure (.ok a)
        | .ok none => rounds f noun key n
      else pure (.error (.wrapped ("find " ++ noun) e))

/-- Resolves a name: a blank name is refused as `<noun>: name is required`, any other is
trimmed and found or created. -/
def resolve (f : Finder m α) (noun name : String) : m (Except Fault α) :=
  let key := Text.trim name
  if key.isEmpty then pure (.error (Fault.invalid noun "name is required"))
  else f.rounds noun key attempts

end Finder

/-- Runs a transaction and returns its failure as a value, keeping the store as it was. -/
def Tx.attempt {α : Type} (t : Tx α) : Tx (Except Fault α) := fun s =>
  match t s with
  | .ok (a, s') => .ok (.ok a, s')
  | .error e => .ok (.error e, s)

/-- Artists found by exact name and created by name. -/
def artistFinder : Finder Tx ArtistRef where
  lookup name := Tx.attempt (Tx.read fun s => (s.artistByName name).map Artist.ref)
  insert name := Tx.attempt ((Store.insertArtistIfAbsent name).map (·.map Artist.ref))

/-- The albums of one artist, found by exact name and created by name. -/
def albumFinder (artistId : Int) : Finder Tx AlbumRef where
  lookup name := Tx.attempt (Tx.read fun s => (s.albumByKey name artistId).map (·.album.ref))
  insert name := Tx.attempt ((Store.insertAlbumIfAbsent name artistId).map (·.map (·.album.ref)))

end Jukebox.Catalog
