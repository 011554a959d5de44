import FilmQuery.Braces

/-!
# What a scan for the first object passes over

A scan passes over a text when it reaches the end of it without the depth falling to zero on the
way. A text is neutral if a scan that is outside quotes and inside some object passes over it and
stands where it stood. Neutral texts may be put together and put into braces, so a text that is
built like a value is neutral, and the first object is cut out around exactly such a text.
-/

namespace FilmQuery.Braces

/-- Reading `u` takes the scan from one mode and depth to another, whatever follows. -/
def Passes (u : Text) (mode : Mode) (depth : Nat) (mode' : Mode) (depth' : Nat) : Prop :=
  ∀ r, balanced? mode depth (u ++ r) = (balanced? mode' depth' r).map (u ++ ·)

/-- Inside an object and outside quotes, the scan passes over `u` and is back where it was. -/
def Neutral (u : Text) : Prop := ∀ depth, 0 < depth → Passes u .bare depth .bare depth

/-- A code point that means nothing to a scan outside quotes. -/
def isInert (c : CodePoint) : Bool := !isQuote c && c != opening && c != closing

theorem isInert_iff {c : Nat} :
    isInert c = true ↔ c ≠ 0x22 ∧ c ≠ 0x27 ∧ c ≠ 0x7B ∧ c ≠ 0x7D := by
  simp [isInert, isQuote, opening, closing, and_assoc]

theorem Passes.refl (mode : Mode) (depth : Nat) : Passes [] mode depth mode depth := by
  intro r
  simp

theorem Passes.trans {u v : Text} {m₁ m₂ m₃ : Mode} {d₁ d₂ d₃ : Nat}
    (hu : Passes u m₁ d₁ m₂ d₂) (hv : Passes v m₂ d₂ m₃ d₃) :
    Passes (u ++ v) m₁ d₁ m₃ d₃ := by
  intro r
  rw [List.append_assoc, hu (v ++ r), hv r, Option.map_map]
  congr 1
  funext s
  exact (List.append_assoc u v s).symm

/-- A scan passes over one code point unless the depth falls to zero there. -/
theorem passes_singleton (mode : Mode) (depth : Nat) {c : CodePoint}
    (h : depthAfter mode depth c ≠ 0) :
    Passes [c] mode depth (mode.next c) (depthAfter mode depth c) := by
  intro r
  show balanced? mode depth (c :: r) = _
  rw [balanced?, if_neg h]
  rfl

theorem Passes.cons {c : CodePoint} {u : Text} {mode mode' : Mode} {depth depth' : Nat}
    (h : depthAfter mode depth c ≠ 0)
    (hu : Passes u (mode.next c) (depthAfter mode depth c) mode' depth') :
    Passes (c :: u) mode depth mode' depth' :=
  (passes_singleton mode depth h).trans hu

/-! ## Inside quotes: the depth stays, and only the quote in use ends the literal -/

@[simp] theorem depthAfter_quoted (q : CodePoint) (depth : Nat) (c : CodePoint) :
    depthAfter (.quoted q) depth c = depth := rfl

@[simp] theorem depthAfter_escaped (q : CodePoint) (depth : Nat) (c : CodePoint) :
    depthAfter (.escaped q) depth c = depth := rfl

/-- Inside quotes a code point that is neither the quote nor a backslash is passed over. -/
theorem Passes.quoted_cons {q c : CodePoint} {u : Text} {mode : Mode} {depth depth' : Nat}
    (hd : 0 < depth) (hc : c ≠ '\\'.toNat) (hq : c ≠ q)
    (hu : Passes u (.quoted q) depth mode depth') :
    Passes (c :: u) (.quoted q) depth mode depth' := by
  apply Passes.cons
  · exact Nat.ne_of_gt hd
  · simpa only [Mode.next, depthAfter_quoted, if_neg hc, if_neg hq] using hu

/-- A backslash takes the code point after it along. -/
theorem Passes.escape_cons {q c : CodePoint} {u : Text} {mode : Mode} {depth depth' : Nat}
    (hd : 0 < depth) (hu : Passes u (.quoted q) depth mode depth') :
    Passes ('\\'.toNat :: c :: u) (.quoted q) depth mode depth' := by
  apply Passes.cons
  · exact Nat.ne_of_gt hd
  · show Passes (c :: u) (.escaped q) depth mode depth'
    apply Passes.cons
    · exact Nat.ne_of_gt hd
    · exact hu

/-- The quote in use ends the literal. -/
theorem passes_closing_quote {q : CodePoint} {depth : Nat} (hd : 0 < depth)
    (hq : q ≠ '\\'.toNat) : Passes [q] (.quoted q) depth .bare depth := by
  have h := passes_singleton (.quoted q) depth (c := q) (Nat.ne_of_gt hd)
  simpa only [Mode.next, depthAfter_quoted, if_neg hq, if_true] using h

/-! ## Neutral texts -/

theorem neutral_nil : Neutral [] := fun depth _ => Passes.refl .bare depth

theorem Neutral.append {u v : Text} (hu : Neutral u) (hv : Neutral v) : Neutral (u ++ v) :=
  fun depth hd => (hu depth hd).trans (hv depth hd)

theorem neutral_singleton {c : CodePoint} (hc : isInert c = true) : Neutral [c] := by
  intro depth hd
  obtain ⟨⟨hquote, hopen⟩, hclose⟩ : (isQuote c = false ∧ c ≠ opening) ∧ c ≠ closing := by
    simpa [isInert] using hc
  have hdepth : depthAfter .bare depth c = depth := by
    simp only [depthAfter, if_neg hopen, if_neg hclose]
  have h := passes_singleton .bare depth (c := c) (hdepth.symm ▸ Nat.ne_of_gt hd)
  simpa only [hdepth, Mode.next, hquote, Bool.false_eq_true, if_false] using h

theorem Neutral.cons {c : CodePoint} {u : Text} (hc : isInert c = true) (hu : Neutral u) :
    Neutral (c :: u) := (neutral_singleton hc).append hu

theorem neutral_of_inert {u : Text} (h : ∀ c ∈ u, isInert c = true) : Neutral u := by
  induction u with
  | nil => exact neutral_nil
  | cons c u ih =>
      exact (ih fun d hd => h d (List.mem_cons_of_mem c hd)).cons (h c List.mem_cons_self)

/-- A literal in double quotes is neutral if the scan leaves it at its end. -/
theorem neutral_literal {u : Text}
    (hu : ∀ depth, 0 < depth → Passes u (.quoted '"'.toNat) depth .bare depth) :
    Neutral ('"'.toNat :: u) := by
  intro depth hd
  apply Passes.cons
  · exact Nat.ne_of_gt hd
  · exact hu depth hd

/-- What is neutral stays so inside braces. -/
theorem Neutral.braced {u : Text} (hu : Neutral u) : Neutral (opening :: (u ++ [closing])) := by
  intro depth hd
  apply Passes.cons
  · exact Nat.succ_ne_zero depth
  · show Passes (u ++ [closing]) .bare (depth + 1) .bare depth
    exact (hu (depth + 1) (Nat.succ_pos depth)).trans
      (passes_singleton .bare (depth + 1) (c := closing) (Nat.ne_of_gt hd))

/-- A neutral text in braces is balanced at the closing brace, and not before. -/
theorem balanced?_braced {u : Text} (hu : Neutral u) (s : Text) :
    balanced? .bare 0 (opening :: (u ++ [closing]) ++ s) =
      some (opening :: (u ++ [closing])) := by
  have hopen : Passes [opening] .bare 0 .bare 1 := passes_singleton .bare 0 (by decide)
  have hbody : Passes (opening :: u) .bare 0 .bare 1 := hopen.trans (hu 1 Nat.one_pos)
  have hend : balanced? .bare 1 (closing :: s) = some [closing] := rfl
  have h := hbody (closing :: s)
  rw [hend] at h
  simpa using h

/-- The first object of a text is the neutral text in braces that its first brace opens. -/
theorem firstObject?_surrounded {p u : Text} (hp : opening ∉ p) (hu : Neutral u) (s : Text) :
    firstObject? (p ++ (opening :: (u ++ [closing])) ++ s) =
      some (opening :: (u ++ [closing])) := by
  have hdrop : (p ++ (opening :: (u ++ [closing])) ++ s).dropWhile (· != opening) =
      opening :: (u ++ [closing]) ++ s := by
    rw [List.append_assoc, List.dropWhile_append_of_pos]
    · rfl
    · intro c hc
      exact bne_iff_ne.2 fun heq => hp (heq ▸ hc)
  rw [firstObject?, hdrop]
  exact balanced?_braced hu s

end FilmQuery.Braces
