set_option autoImplicit false

/-! # Failures

Every operation of the catalog either succeeds or fails with a `Fault`. A fault is built from
three pieces:

* a *classified* failure carries a `Kind`, the field or entity it names, its own message (empty
  for the kind's standard wording) and, optionally, the fault it wraps;
* a *plain* failure carries only text, such as a cancelled request;
* a *wrapped* failure puts a context before another fault and prints as `context: inner`.

A caller reads a fault through four views. `Fault.message` is its full text. `Fault.kind` and
`Fault.field` come from the first classified failure met when unwrapping from the outside in;
without one, the kind is storage and the field empty. `Fault.hasKind k` asks whether *any*
classified failure along the chain has kind `k`, the test used to compare with a bare failure
of that kind. For a chain with one classified failure the three answers agree
(`hasKind_iff_kind`).
-/

namespace Jukebox

/-- A failure's kind, a byte: 1 not found, 2 conflict, 3 validation; 0 and every other code
mean a storage failure. -/
structure Kind where
  code : Fin 256
deriving DecidableEq, Repr

namespace Kind

/-- A failure of the storage itself, or of anything outside the catalog's own checks. -/
def storage : Kind := ⟨0⟩
/-- A referenced entity does not exist. -/
def notFound : Kind := ⟨1⟩
/-- A write collides with existing state. -/
def conflict : Kind := ⟨2⟩
/-- An input is missing or malformed. -/
def validation : Kind := ⟨3⟩

/-- The kind with a code, taken modulo 256. -/
def ofNat (n : Nat) : Kind := ⟨Fin.ofNat 256 n⟩

/-- The kind's name as callers read it. -/
def name (k : Kind) : String :=
  match k.code.val with
  | 1 => "not found"
  | 2 => "conflict"
  | 3 => "validation"
  | _ => "storage"

/-- The status code of the equivalent web answer. -/
def status (k : Kind) : Nat :=
  match k.code.val with
  | 1 => 404
  | 2 => 409
  | 3 => 400
  | _ => 500

/-- The standard wording of a classified failure that has no message of its own. -/
def wording (k : Kind) (field : String) : String :=
  match k.code.val with
  | 1 => field ++ " not found"
  | 2 => field ++ " already exists"
  | 3 => "invalid " ++ field
  | _ => "storage failure"

end Kind

/-- Why an operation failed: a classified failure, plain text, or a failure with context. -/
inductive Fault where
  /-- A failure of a kind, naming a field or entity, with its message (empty for the kind's
  wording). -/
  | classified (kind : Kind) (field : String) (msg : String)
  /-- A classified failure that wraps the fault that caused it. -/
  | caused (kind : Kind) (field : String) (msg : String) (cause : Fault)
  /-- A failure that is only text. -/
  | plain (text : String)
  /-- A failure with a context before it. -/
  | wrapped (context : String) (inner : Fault)
deriving Inhabited, Repr

namespace Fault

/-- A referenced entity or field names nothing: `<field> not found`. -/
def notFound (field : String) : Fault := classified .notFound field ""

/-- A write collides with existing state. -/
def conflict (field msg : String) : Fault := classified .conflict field msg

/-- An input is missing or malformed: `<field>: <msg>`. -/
def invalid (field msg : String) : Fault := classified .validation field (field ++ ": " ++ msg)

/-- A failure below the catalog: `storage failure: <inner>`. -/
def storage (inner : Fault) : Fault := caused .storage "" "storage failure" inner

/-- The request was cancelled before the operation could start. -/
def canceled : Fault := plain "context canceled"

/-- The full text of a fault. -/
def message : Fault → String
  | classified k f m => if m.isEmpty then k.wording f else m
  | caused k f m e => (if m.isEmpty then k.wording f else m) ++ ": " ++ message e
  | plain t => t
  | wrapped c e => c ++ ": " ++ message e

/-- The kind and field of the outermost classified failure, if there is one. -/
def classification : Fault → Option (Kind × String)
  | classified k f _ => some (k, f)
  | caused k f _ _ => some (k, f)
  | plain _ => none
  | wrapped _ e => classification e

/-- The kind of a fault: that of its outermost classified failure, else storage. -/
def kind (e : Fault) : Kind :=
  match e.classification with
  | some (k, _) => k
  | none => .storage

/-- The field of a fault: that of its outermost classified failure, else empty. -/
def field (e : Fault) : String :=
  match e.classification with
  | some (_, f) => f
  | none => ""

/-- Whether the outermost classified failure has kind `k`. -/
def isKind (k : Kind) (e : Fault) : Bool :=
  match e.classification with
  | some (k', _) => k' == k
  | none => false

/-- Whether some classified failure along the chain has kind `k`. -/
def hasKind (k : Kind) : Fault → Bool
  | classified k' _ _ => k' == k
  | caused k' _ _ e => k' == k || hasKind k e
  | plain _ => false
  | wrapped _ e => hasKind k e

/-- The number of classified failures along the chain. -/
def depth : Fault → Nat
  | classified _ _ _ => 1
  | caused _ _ _ e => depth e + 1
  | plain _ => 0
  | wrapped _ e => depth e

@[simp] theorem message_wrapped (c : String) (e : Fault) :
    (wrapped c e).message = c ++ ": " ++ e.message := rfl

@[simp] theorem kind_wrapped (c : String) (e : Fault) : (wrapped c e).kind = e.kind := rfl

@[simp] theorem field_wrapped (c : String) (e : Fault) : (wrapped c e).field = e.field := rfl

@[simp] theorem isKind_wrapped (k : Kind) (c : String) (e : Fault) :
    (wrapped c e).isKind k = e.isKind k := rfl

@[simp] theorem hasKind_wrapped (k : Kind) (c : String) (e : Fault) :
    (wrapped c e).hasKind k = e.hasKind k := rfl

/-- A chain without classified failures has no kind anywhere. -/
theorem hasKind_of_depth_zero (k : Kind) (e : Fault) (h : e.depth = 0) : e.hasKind k = false := by
  induction e with
  | classified => simp [depth] at h
  | caused => simp [depth] at h
  | plain t => rfl
  | wrapped c e ih => exact ih h

/-- With exactly one classified failure on the chain, `hasKind` asks the same as `isKind`. -/
theorem hasKind_iff_kind (k : Kind) (e : Fault) (h : e.depth = 1) :
    e.hasKind k = true ↔ e.kind = k := by
  induction e with
  | classified k' f m => simp [hasKind, kind, classification]
  | caused k' f m e ih =>
    have h0 : e.depth = 0 := by simpa [depth] using h
    simp [hasKind, kind, classification, hasKind_of_depth_zero k e h0]
  | plain t => simp [depth] at h
  | wrapped c e ih => exact ih h

end Fault

end Jukebox
