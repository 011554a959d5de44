import FilmQuery.Text.Blank

/-!
# Templates

A value may refer to variables as `${name}`, or as `${name:-default}` with a text for the case that
there is no such variable. Without a default a missing variable is an empty text. What is no
complete reference stands for itself.
-/

namespace FilmQuery.Template

/-- A reference to a variable. -/
structure Reference where
  name : Text
  default : Text
  deriving DecidableEq, Repr

def opening : Text := lit "$\x7b"

def closing : CodePoint := '\x7d'.toNat

/-- The reference that stands here, and how many characters it takes after the first one. -/
def reference? (t : Text) : Option (Reference × Nat) :=
  match Text.after? opening t with
  | none => none
  | some rest =>
    let (name, rest) := rest.span fun c => c != closing && c != ':'.toNat
    match Text.after? (lit ":-") rest with
    | some rest =>
      match Text.splitAt? closing rest with
      | some (default, _) => some (⟨name, default⟩, name.length + default.length + 4)
      | none => none
    | none => if rest.head? = some closing then some (⟨name, []⟩, name.length + 2) else none

/-- Replaces the references of a text, of which the next `skip` characters belong to one. -/
def expandFrom (lookup : Text → Option Text) : (skip : Nat) → Text → Text
  | _, [] => []
  | skip + 1, _ :: t => expandFrom lookup skip t
  | 0, c :: t =>
    match reference? (c :: t) with
    | some (r, n) => (lookup r.name).getD r.default ++ expandFrom lookup n t
    | none => c :: expandFrom lookup 0 t

/-- A text with its references replaced. -/
def expand (lookup : Text → Option Text) (t : Text) : Text := expandFrom lookup 0 t

/-- The variables that a text refers to. -/
def references : Text → List Text
  | [] => []
  | c :: t =>
    match reference? (c :: t) with
    | some (r, _) => r.name :: references t
    | none => references t

end FilmQuery.Template
