import FilmQuery.Number.Display
import FilmQuery.Proofs.GraphQL.Lexer
import FilmQuery.Proofs.Number.Digits

/-!
# Number literals

The literal of every finite number is one number token: an integer in full, a fraction in
positional notation, or a decimal with an exponent, each with or without a minus sign.
-/

namespace FilmQuery.GraphQL

namespace NumberState

/-- The text is a number of which no part is missing. -/
def Numeral (t : Text) : Prop := ∃ s, start.run? t = some s ∧ s.isComplete = true

/-- The text is such a number behind a minus sign. -/
def Unsigned (t : Text) : Prop := ∃ s, minus.run? t = some s ∧ s.isComplete = true

theorem Unsigned.negative {t : Text} (h : Unsigned t) : Numeral ('-'.toNat :: t) := h

theorem ne_minus_of_integer? {c : CodePoint} {s : NumberState} (h : integer? c = some s) :
    c ≠ '-'.toNat := by
  rintro rfl
  have hnone : integer? '-'.toNat = none := by decide
  exact Option.some_ne_none s (h.symm.trans hnone)

/-- A number without a sign is one wherever a sign might stand. -/
theorem Unsigned.numeral {t : Text} (h : Unsigned t) : Numeral t := by
  obtain ⟨s, hrun, hs⟩ := h
  cases t with
  | nil =>
      obtain rfl : minus = s := Option.some.inj hrun
      exact absurd hs (by decide)
  | cons c t =>
      obtain ⟨s', hc, hrest⟩ := Option.bind_eq_some_iff.1 hrun
      have hstart : start.next? c = some s' := by
        rw [next?, if_neg (ne_minus_of_integer? hc)]
        exact hc
      exact ⟨s, by rw [run?, hstart, Option.bind_some, hrest], hs⟩

/-! ## Runs of digits -/

/-- Digits are read in a state that they lead back to. -/
theorem run?_of_loop {s : NumberState} (hloop : ∀ c, isAsciiDigit c = true → s.next? c = some s)
    {t : Text} (ht : ∀ c ∈ t, isAsciiDigit c = true) : s.run? t = some s := by
  induction t with
  | nil => rfl
  | cons c t ih =>
      rw [run?, hloop c (ht c List.mem_cons_self), Option.bind_some]
      exact ih fun d hd => ht d (List.mem_cons_of_mem c hd)

/-- Digits are read in a state that the first of them leads to such a state. -/
theorem run?_of_first {s loop : NumberState}
    (hfirst : ∀ c, isAsciiDigit c = true → s.next? c = some loop)
    (hloop : ∀ c, isAsciiDigit c = true → loop.next? c = some loop)
    {t : Text} (hne : t ≠ []) (ht : ∀ c ∈ t, isAsciiDigit c = true) : s.run? t = some loop := by
  obtain ⟨c, ds, rfl⟩ := List.exists_cons_of_ne_nil hne
  rw [run?, hfirst c (ht c List.mem_cons_self), Option.bind_some]
  exact run?_of_loop hloop fun d hd => ht d (List.mem_cons_of_mem c hd)

/-- Digits after a point. -/
theorem run?_point {t : Text} (hne : t ≠ []) (ht : ∀ c ∈ t, isAsciiDigit c = true) :
    point.run? t = some fraction := by
  apply run?_of_first _ _ hne ht <;> intro c hc <;> simp only [next?, hc, if_true]

/-- Digits after the sign of an exponent. -/
theorem run?_sign {t : Text} (hne : t ≠ []) (ht : ∀ c ∈ t, isAsciiDigit c = true) :
    sign.run? t = some exponent := by
  apply run?_of_first _ _ hne ht <;> intro c hc <;> simp only [next?, hc, if_true]

/-- Digits that begin with another digit than zero. -/
theorem run?_minus_digits {d : CodePoint} {ds : Text} (hd : d ≠ '0'.toNat)
    (hds : ∀ c ∈ d :: ds, isAsciiDigit c = true) : minus.run? (d :: ds) = some integer := by
  have hfirst : minus.next? d = some integer := by
    rw [next?, integer?, if_neg hd, if_pos (hds d List.mem_cons_self)]
  rw [run?, hfirst, Option.bind_some]
  apply run?_of_loop
  · intro c hc
    simp only [next?, hc, if_true]
  · exact fun c hc => hds c (List.mem_cons_of_mem d hc)

theorem unsigned_ofNat (n : Nat) : Unsigned (Text.ofNat n) := by
  rcases Nat.eq_zero_or_pos n with rfl | hn
  · exact ⟨zero, by rw [Text.ofNat_zero]; decide, rfl⟩
  · obtain ⟨d, ds, hds, hd⟩ := Text.exists_ofNat_eq_cons hn
    refine ⟨integer, ?_, rfl⟩
    rw [hds]
    exact run?_minus_digits hd fun c hc => Text.isAsciiDigit_of_mem_ofNat (hds ▸ hc)

theorem numeral_ofInt (i : Int) : Numeral (Text.ofInt i) := by
  unfold Text.ofInt
  split
  · exact (unsigned_ofNat _).negative
  · exact (unsigned_ofNat _).numeral

/-! ## Fractions and exponents -/

theorem digits_replicate (n : Nat) : ∀ c ∈ List.replicate n '0'.toNat, isAsciiDigit c = true := by
  intro c hc
  rw [List.eq_of_mem_replicate hc]
  decide

theorem digits_append {t u : Text} (ht : ∀ c ∈ t, isAsciiDigit c = true)
    (hu : ∀ c ∈ u, isAsciiDigit c = true) : ∀ c ∈ t ++ u, isAsciiDigit c = true :=
  List.forall_mem_append.2 ⟨ht, hu⟩

/-- Positional notation is a number if its digits do not begin with a zero that is followed by
another digit in front of the point. -/
theorem unsigned_positional {n : Nat} {point : Int} (h : 0 < n ∨ point ≤ 1) :
    Unsigned (Binary64.positional (Text.ofNat n) point) := by
  have hdigits : ∀ c ∈ Text.ofNat n, isAsciiDigit c = true := fun c hc =>
    Text.isAsciiDigit_of_mem_ofNat hc
  unfold Binary64.positional
  split
  · have hzero : minus.run? (lit "0.") = some .point := by decide
    refine ⟨fraction, ?_, rfl⟩
    rw [List.append_assoc, run?_append, hzero, Option.bind_some]
    apply run?_point
    · exact List.append_ne_nil_of_right_ne_nil _ (Text.ofNat_ne_nil n)
    · exact digits_append (digits_replicate _) hdigits
  · next hpoint =>
      rcases Nat.eq_zero_or_pos n with rfl | hn
      · -- a zero in front of the point stands alone
        obtain rfl : point = 1 := by omega
        exact ⟨fraction, by rw [Text.ofNat_zero]; decide, rfl⟩
      · obtain ⟨d, ds, hds, hd⟩ := Text.exists_ofNat_eq_cons hn
        obtain ⟨k, hk⟩ : ∃ k, point.toNat = k + 1 := ⟨point.toNat - 1, by omega⟩
        have hrest : ∀ c ∈ (Text.ofNat n).drop point.toNat, isAsciiDigit c = true := fun c hc =>
          hdigits c (List.mem_of_mem_drop hc)
        have hwhole : minus.run? ((Text.ofNat n).take point.toNat ++
            List.replicate (point.toNat - (Text.ofNat n).length) '0'.toNat) = some integer := by
          have hall := digits_append
            (fun c hc => hdigits c (List.mem_of_mem_take (i := point.toNat) hc))
            (digits_replicate (point.toNat - (Text.ofNat n).length))
          rw [hds, hk, List.take_succ_cons, List.cons_append] at hall ⊢
          exact run?_minus_digits hd hall
        have hdot : integer.run? (lit ".") = some .point := by decide
        refine ⟨fraction, ?_, rfl⟩
        simp only [run?_append, hwhole, hdot, Option.bind_some]
        split
        · decide
        · next hne =>
            exact run?_point (by simpa using hne) hrest

/-- An exponent behind a digit or a fraction. -/
theorem run?_scale {s : NumberState} (hs : s.next? 'e'.toNat = some mark) (negative : Prop)
    [Decidable negative] {t : Text} (hne : t ≠ []) (ht : ∀ c ∈ t, isAsciiDigit c = true) :
    s.run? (lit "e" ++ (if negative then lit "-" else lit "+") ++ t) = some exponent := by
  have hmark : s.run? (lit "e") = some mark := by
    show (s.next? 'e'.toNat).bind _ = _
    rw [hs]
    rfl
  have hsign : mark.run? (if negative then lit "-" else lit "+") = some sign := by
    split <;> decide
  rw [run?_append, run?_append, hmark, Option.bind_some, hsign, Option.bind_some]
  exact run?_sign hne ht

theorem unsigned_scientific (n : Nat) (e : Int) :
    Unsigned (Binary64.scientific (Text.ofNat n) e) := by
  have hexponent : ∀ c ∈ Text.ofNat e.natAbs, isAsciiDigit c = true := fun c hc =>
    Text.isAsciiDigit_of_mem_ofNat hc
  obtain ⟨padded, hpadded, hne, hall⟩ : ∃ t,
      (if (Text.ofNat e.natAbs).length < 2 then lit "0" ++ Text.ofNat e.natAbs
        else Text.ofNat e.natAbs) = t ∧ t ≠ [] ∧ ∀ c ∈ t, isAsciiDigit c = true := by
    refine ⟨_, rfl, ?_, ?_⟩
    · split
      · exact List.append_ne_nil_of_right_ne_nil _ (Text.ofNat_ne_nil _)
      · exact Text.ofNat_ne_nil _
    · split
      · exact digits_append (digits_replicate 1) hexponent
      · exact hexponent
  -- one digit may be a zero here: no other digit follows it before the point or the mark
  obtain ⟨d, ds, hds⟩ := List.exists_cons_of_ne_nil (Text.ofNat_ne_nil n)
  have hdigits : ∀ c ∈ d :: ds, isAsciiDigit c = true := fun c hc =>
    Text.isAsciiDigit_of_mem_ofNat (hds ▸ hc)
  obtain ⟨s, hfirst, hpoint, hmark⟩ : ∃ s, minus.run? [d] = some s ∧
      s.run? (lit ".") = some .point ∧ s.next? 'e'.toNat = some mark := by
    by_cases hd : d = '0'.toNat
    · exact ⟨zero, by rw [hd]; decide, by decide, by decide⟩
    · refine ⟨integer, run?_minus_digits hd ?_, by decide, by decide⟩
      exact List.forall_mem_singleton.2 (hdigits d List.mem_cons_self)
  refine ⟨exponent, ?_, rfl⟩
  simp only [Binary64.scientific, hpadded, hds, List.take_succ_cons, List.take_zero,
    List.drop_succ_cons, List.drop_zero]
  split
  · rw [List.append_nil, List.append_assoc, List.append_assoc, run?_append, hfirst,
      Option.bind_some, ← List.append_assoc]
    exact run?_scale hmark (e < 0) hne hall
  · next hlong =>
      have hds' : ds ≠ [] := by
        rintro rfl
        exact hlong (Nat.le_refl 1)
      have hfraction : point.run? ds = some fraction :=
        run?_point hds' fun c hc => hdigits c (List.mem_cons_of_mem d hc)
      rw [List.append_assoc, List.append_assoc, run?_append, run?_append, hfirst,
        Option.bind_some, run?_append, hpoint, Option.bind_some, hfraction, Option.bind_some,
        ← List.append_assoc]
      exact run?_scale (by decide) (e < 0) hne hall

/-- The shortest digits are zero only where they are written with an exponent, or before the
point all alone. -/
theorem unsigned_displayPositive {m : Nat} (hm : 0 < m) (q : Int) :
    Unsigned (Binary64.displayPositive m q) := by
  have hzero := Binary64.shortest_exponent_of_zero (q := q) hm
  obtain ⟨⟨d, e⟩, hshortest⟩ : ∃ s, Binary64.shortest m q = s := ⟨_, rfl⟩
  rw [hshortest] at hzero
  simp only [Binary64.displayPositive, hshortest]
  split
  · next hrange =>
      apply unsigned_positional
      rcases Nat.eq_zero_or_pos d with rfl | hd
      · have hlength : (Text.ofNat 0).length = 1 := by decide
        have hexponent := hzero rfl
        simp only [hlength] at hrange ⊢
        omega
      · exact .inl hd
  · exact unsigned_scientific d _

theorem pos_of_not_isIntegral {negative : Bool} {m : Nat} {q : Int}
    (h : ¬(Binary64.finite negative m q).isIntegral = true) : 0 < m := by
  apply Nat.pos_of_ne_zero
  rintro rfl
  exact h (by simp [Binary64.isIntegral])

/-- The literal of a finite number is a number, whole or with a fraction. -/
theorem numeral_literal {x : Binary64} (hx : x.isFinite = true) : Numeral x.literal := by
  unfold Binary64.literal
  split
  · exact numeral_ofInt _
  · next hfraction =>
      cases x with
      | finite negative m q =>
          have hm := pos_of_not_isIntegral hfraction
          have hdisplay := unsigned_displayPositive hm q
          simp only [Binary64.display, if_neg (Nat.ne_of_gt hm)]
          cases negative
          · exact hdisplay.numeral
          · exact hdisplay.negative
      | infinite negative => exact absurd hx (by simp [Binary64.isFinite])
      | nan => exact absurd hx (by simp [Binary64.isFinite])

end NumberState

/-! ## Numbers are read as one token -/

theorem run_number {s s' : NumberState} {t : Text} (h : s.run? t = some s') (w : Text) :
    (Mode.number s w).run t = some ([], .number s' (w ++ t)) := by
  induction t generalizing s w with
  | nil =>
      obtain rfl : s = s' := Option.some.inj h
      simp [Mode.run]
  | cons c t ih =>
      obtain ⟨s₁, hc, hrest⟩ := Option.bind_eq_some_iff.1 h
      have hstep : (Mode.number s w).step c = some ([], .number s₁ (w ++ [c])) := by
        simp only [Mode.step, hc]
      simpa using Mode.run_cons_of_eq_some hstep (ih hrest (w ++ [c]))

/-- The code points that a number can begin with. -/
def numberStarts : List CodePoint := '-'.toNat :: (List.range 10).map ('0'.toNat + ·)

theorem mem_numberStarts_of_next? {c : Nat} {s : NumberState}
    (h : NumberState.start.next? c = some s) : c ∈ numberStarts := by
  rw [NumberState.next?] at h
  split at h
  · next hminus =>
      rw [hminus]
      decide
  · unfold NumberState.integer? at h
    split at h
    · next hzero =>
        rw [hzero]
        decide
    · split at h
      · next hdigit =>
          have hrange : 48 ≤ c ∧ c ≤ 57 := by simpa [isAsciiDigit] using hdigit
          apply List.mem_cons_of_mem
          rw [List.mem_map]
          refine ⟨c - 48, List.mem_range.2 (by omega), ?_⟩
          show 48 + (c - 48) = c
          omega
      · exact absurd h (by simp)

theorem start?_of_next? {c : CodePoint} {s : NumberState}
    (h : NumberState.start.next? c = some s) : Mode.start? c = some ([], .number s [c]) := by
  have hall : ∀ c ∈ numberStarts, Mode.start? c =
      (NumberState.start.next? c).map fun s => ([], .number s [c]) := by decide
  rw [hall c (mem_numberStarts_of_next? h), h]
  rfl

theorem Reads.of_numeral {t : Text} (h : NumberState.Numeral t) : Reads t [.number t] := by
  obtain ⟨s, hrun, hs⟩ := h
  cases t with
  | nil =>
      obtain rfl : NumberState.start = s := Option.some.inj hrun
      exact absurd hs (by decide)
  | cons c t =>
      obtain ⟨s₁, hc, hrest⟩ := Option.bind_eq_some_iff.1 hrun
      have hword : (Mode.number s (c :: t)).word? = some [.number (c :: t)] := by
        rw [Mode.word?, if_pos hs]
      have hstep : Mode.gap.step c = some ([], .number s₁ [c]) := start?_of_next? hc
      exact reads_iff.2
        ⟨[], _, _, Mode.run_cons_of_eq_some hstep (run_number hrest [c]), hword, rfl⟩

/-- The literal of a finite number is one token. -/
theorem reads_literal {x : Binary64} (hx : x.isFinite = true) :
    Reads x.literal [.number x.literal] :=
  Reads.of_numeral (NumberState.numeral_literal hx)

end FilmQuery.GraphQL
