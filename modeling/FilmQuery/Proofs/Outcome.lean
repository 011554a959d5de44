/-!
# Steps that may fail

When a step succeeds or fails that is made of another step: its result is changed, or a second
step follows. The failures may be those of one kind only. Two steps may also be the same but for one
failure of the first.
-/

namespace FilmQuery

variable {ε α β : Type}

theorem exists_eq_ok_iff {x : Except ε α} : (∃ a, x = .ok a) ↔ ∀ e, x ≠ .error e := by
  cases x <;> simp

theorem map_eq_ok_iff {x : Except ε α} {f : α → β} {b : β} :
    x.map f = .ok b ↔ ∃ a, x = .ok a ∧ f a = b := by
  cases x <;> simp [Except.map]

theorem map_eq_error_iff {x : Except ε α} {f : α → β} {e : ε} :
    x.map f = .error e ↔ x = .error e := by
  cases x <;> simp [Except.map]

theorem bind_eq_ok_iff {x : Except ε α} {f : α → Except ε β} {b : β} :
    (x >>= f) = .ok b ↔ ∃ a, x = .ok a ∧ f a = .ok b := by
  cases x <;> simp [bind, Except.bind]

theorem bind_eq_error_iff {x : Except ε α} {f : α → Except ε β} {e : ε} :
    (x >>= f) = .error e ↔ x = .error e ∨ ∃ a, x = .ok a ∧ f a = .error e := by
  cases x <;> simp [bind, Except.bind]

/-- Fails, and in one of the ways of `p`. -/
def FailsWith (p : ε → Prop) (x : Except ε α) : Prop := ∃ e, x = .error e ∧ p e

section

variable {p : ε → Prop}

@[simp] theorem not_failsWith_ok (a : α) : ¬FailsWith p (.ok a) := by simp [FailsWith]

@[simp] theorem failsWith_error_iff {e : ε} : FailsWith p (.error e : Except ε α) ↔ p e := by
  simp [FailsWith]

theorem failsWith_eq_iff {x : Except ε α} {e : ε} : FailsWith (· = e) x ↔ x = .error e := by
  cases x <;> simp

theorem failsWith_map_iff {x : Except ε α} {f : α → β} :
    FailsWith p (x.map f) ↔ FailsWith p x := by
  cases x <;> simp [Except.map]

theorem failsWith_bind_iff {x : Except ε α} {f : α → Except ε β} :
    FailsWith p (x >>= f) ↔ FailsWith p x ∨ ∃ a, x = .ok a ∧ FailsWith p (f a) := by
  cases x <;> simp [bind, Except.bind]

end

/-- The second is the first, unless the first fails with `e`. -/
def SameUnless (e : ε) (x y : Except ε α) : Prop := x = .error e ∨ y = x

theorem SameUnless.refl (e : ε) (x : Except ε α) : SameUnless e x x := Or.inr rfl

theorem SameUnless.trans {e : ε} {x y z : Except ε α} (hxy : SameUnless e x y)
    (hyz : SameUnless e y z) : SameUnless e x z := by
  rcases hxy with hx | rfl
  · exact Or.inl hx
  · exact hyz

theorem SameUnless.map {e : ε} {x y : Except ε α} (h : SameUnless e x y) (f : α → β) :
    SameUnless e (x.map f) (y.map f) := by
  rcases h with rfl | rfl
  · exact Or.inl rfl
  · exact Or.inr rfl

theorem SameUnless.bind {e : ε} {x y : Except ε α} {f g : α → Except ε β}
    (h : SameUnless e x y) (hfg : ∀ a, SameUnless e (f a) (g a)) :
    SameUnless e (x >>= f) (y >>= g) := by
  rcases h with rfl | rfl
  · exact Or.inl rfl
  · cases y with
    | error e' => exact Or.inr rfl
    | ok a => exact hfg a

end FilmQuery
