import FilmQuery.Text.Basic

/-!
# The first object in a text

A model wraps its object in prose and code fences. The first object is what stands from the first
brace to the brace that balances it. Braces inside quotes do not count; single and double quotes
both quote, and a backslash inside quotes escapes the next character.
-/

namespace FilmQuery.Braces

/-- Where a scan stands with respect to quotes `q`. -/
inductive Mode where
  | bare
  | quoted (q : CodePoint)
  | escaped (q : CodePoint)
  deriving DecidableEq, Repr

def isQuote (c : CodePoint) : Bool := c == '"'.toNat || c == 0x27

def opening : CodePoint := '\x7b'.toNat

def closing : CodePoint := '\x7d'.toNat

/-- The mode after one more character. -/
def Mode.next (mode : Mode) (c : CodePoint) : Mode :=
  match mode with
  | bare => if isQuote c then quoted c else bare
  | quoted q => if c = '\\'.toNat then escaped q else if c = q then bare else quoted q
  | escaped q => quoted q

/-- The depth after one more character; only bare braces count. -/
def depthAfter (mode : Mode) (depth : Nat) (c : CodePoint) : Nat :=
  match mode with
  | .bare => if c = opening then depth + 1 else if c = closing then depth - 1 else depth
  | _ => depth

/-- The text up to the character at which the depth falls to zero. -/
def balanced? : (mode : Mode) → (depth : Nat) → Text → Option Text
  | _, _, [] => none
  | mode, depth, c :: t =>
    if depthAfter mode depth c = 0 then some [c]
    else (balanced? (mode.next c) (depthAfter mode depth c) t).map (c :: ·)

/-- What is cut out stands at the start of the text. -/
theorem prefix_of_balanced? {mode : Mode} {depth : Nat} {t s : Text}
    (h : balanced? mode depth t = some s) : s <+: t := by
  induction t generalizing mode depth s with
  | nil => simp [balanced?] at h
  | cons c t ih =>
    rw [balanced?] at h
    split at h
    · obtain rfl := Option.some.inj h
      exact ⟨t, rfl⟩
    · obtain ⟨u, hu, rfl⟩ := Option.map_eq_some_iff.1 h
      exact (List.cons_prefix_cons).2 ⟨rfl, ih hu⟩

/-- The first balanced object of a text. -/
def firstObject? (t : Text) : Option Text :=
  match t.dropWhile (· != opening) with
  | [] => none
  | t => balanced? .bare 0 t

end FilmQuery.Braces
