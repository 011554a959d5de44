import FilmQuery.Proofs.Number.Numeral
import FilmQuery.Proofs.Question.Slots
import Mathlib.Tactic.FieldSimp

/-!
# Ratings in a question

A rating is asked for with a sign, as in `rating >= 7.5`, or in words, as in `with rating above 8`.
A comparison with a sign is understood wherever it stands: the longest sign is taken, the numeral is
read to its end, and the value is the double nearest to it.
-/

namespace FilmQuery.Question

/-! ## Numerals as they are written -/

/-- A decimal numeral: digits, and perhaps more digits behind a point. -/
structure Decimal where
  whole : Text
  fraction : Text

namespace Decimal

/-- How a numeral is written; the point stands only in front of digits. -/
def text (n : Decimal) : Text :=
  if n.fraction = [] then n.whole else n.whole ++ '.'.toNat :: n.fraction

theorem text_of_fraction {whole fraction : Text} (h : fraction ≠ []) :
    text ⟨whole, fraction⟩ = whole ++ '.'.toNat :: fraction :=
  if_neg h

/-- The number that a numeral stands for. -/
def value (n : Decimal) : ℚ :=
  Text.decimalValue n.whole + Text.decimalValue n.fraction / 10 ^ n.fraction.length

/-- The digits of a numeral are of the class `p`, and one at least stands in front of the point. -/
structure OfDigits (p : CodePoint → Bool) (n : Decimal) : Prop where
  whole_ne_nil : n.whole ≠ []
  whole : ∀ c ∈ n.whole, p c = true
  fraction : ∀ c ∈ n.fraction, p c = true

/-- A numeral ends in front of `rest`, which goes on neither with a digit nor, if there is no
fraction yet, with a point and a digit. -/
def EndsBefore (n : Decimal) (rest : Text) : Prop :=
  rest.head?.any isDigit = false ∧
    (n.fraction = [] → ∀ r, rest = '.'.toNat :: r → r.head?.any isDigit = false)

/-- The double that is read from a numeral. -/
def double (n : Decimal) : Binary64 :=
  .ofDecimal false (Text.decimalValue (n.whole ++ n.fraction)) (-n.fraction.length)

variable {n : Decimal}

theorem OfDigits.mono {p q : CodePoint → Bool} (h : n.OfDigits p)
    (hpq : ∀ c, p c = true → q c = true) : n.OfDigits q :=
  ⟨h.whole_ne_nil, fun c hc => hpq c (h.whole c hc), fun c hc => hpq c (h.fraction c hc)⟩

theorem EndsBefore.append_blanks {rest w : Text} (h : n.EndsBefore rest)
    (hw : ∀ c ∈ w, isBlank c = true) : n.EndsBefore (rest ++ w) := by
  have hdigit : ∀ c, isDigit c = true → isBlank c = false := fun _ => not_isBlank_of_isDigit
  refine ⟨by rw [head?_append_blanks hdigit hw, h.1], fun hnone r hr => ?_⟩
  cases rest with
  | nil =>
      subst hr
      exact absurd (hw '.'.toNat List.mem_cons_self) (by decide)
  | cons c rest =>
      obtain ⟨rfl, rfl⟩ := List.cons.inj hr
      exact (head?_append_blanks hdigit hw rest).trans (h.2 hnone rest rfl)

theorem EndsBefore.of_append {rest w : Text} (h : n.EndsBefore (rest ++ w)) :
    n.EndsBefore rest := by
  have hhead : ∀ t : Text, (t ++ w).head?.any isDigit = false → t.head?.any isDigit = false := by
    rintro (_ | ⟨c, t⟩) ht
    · rfl
    · exact ht
  refine ⟨hhead rest h.1, fun hnone r hr => hhead r ?_⟩
  subst hr
  exact h.2 hnone (r ++ w) rfl

theorem OfDigits.exists_text_append_eq_cons {p : CodePoint → Bool} (h : n.OfDigits p)
    (rest : Text) : ∃ d t, n.text ++ rest = d :: t ∧ p d = true := by
  obtain ⟨d, whole, hwhole⟩ := List.exists_cons_of_ne_nil h.whole_ne_nil
  have hd : p d = true := h.whole d (hwhole ▸ List.mem_cons_self)
  unfold text
  split
  · exact ⟨d, whole ++ rest, by rw [hwhole]; rfl, hd⟩
  · exact ⟨d, whole ++ ('.'.toNat :: n.fraction ++ rest), by rw [hwhole]; simp, hd⟩

theorem OfDigits.exists_text_eq_concat {p : CodePoint → Bool} (h : n.OfDigits p) :
    ∃ t d, n.text = t ++ [d] ∧ p d = true := by
  unfold text
  split
  · next hnone =>
    exact ⟨_, _, (List.dropLast_append_getLast h.whole_ne_nil).symm, h.whole _ (List.getLast_mem _)⟩
  · next hsome =>
    refine ⟨n.whole ++ '.'.toNat :: n.fraction.dropLast, n.fraction.getLast hsome, ?_,
      h.fraction _ (List.getLast_mem _)⟩
    rw [List.append_assoc, List.cons_append, List.dropLast_append_getLast]

/-- The double that is read is the one nearest to the number. -/
theorem isNearest_double (n : Decimal) : n.double.IsNearest n.value := by
  have hnearest := Binary64.isNearest_ofDecimal (Text.decimalValue (n.whole ++ n.fraction))
    (-n.fraction.length)
  have hvalue : (Text.decimalValue (n.whole ++ n.fraction) : ℚ) * 10 ^ (-n.fraction.length : ℤ) =
      n.value := by
    rw [Text.decimalValue_append, zpow_neg, zpow_natCast, value]
    push_cast
    field_simp
  rwa [hvalue] at hnearest

end Decimal

/-! ## Reading a numeral -/

/-- The digits behind a point at the beginning of `rest`, if there is a point. -/
def fractionOf : (rest : Text) → Text
  | c :: r => if c = '.'.toNat then r.takeWhile isDigit else []
  | [] => []

theorem numeral?_eq_some_iff {t : Text} {x : Binary64} :
    numeral? t = some x ↔
      ∃ whole rest, t = whole ++ rest ∧ whole ≠ [] ∧ (∀ c ∈ whole, isDigit c = true) ∧
        rest.head?.any isDigit = false ∧ x = Decimal.double ⟨whole, fractionOf rest⟩ := by
  unfold numeral?
  constructor
  · intro h
    split at h
    · cases h
    · next whole rest hne hspan =>
      obtain ⟨rfl, hwhole, hstop⟩ := Text.span_eq_iff.1 hspan
      obtain rfl := Option.some.inj h
      refine ⟨whole, rest, rfl, fun hnil => hne hnil, hwhole, hstop, ?_⟩
      cases rest <;> rfl
  · rintro ⟨whole, rest, rfl, hne, hwhole, hstop, rfl⟩
    rw [Text.span_eq_iff.2 ⟨rfl, hwhole, hstop⟩]
    split
    · next heq => exact absurd (congrArg Prod.fst heq) hne
    · next heq =>
      obtain ⟨rfl, rfl⟩ := Prod.mk.inj heq
      cases rest <;> rfl

/-- What is read as a numeral goes on to the end of one. -/
theorem exists_of_numeral? {t : Text} {x : Binary64} (h : numeral? t = some x) :
    ∃ (n : Decimal) (rest : Text), t = n.text ++ rest ∧ n.OfDigits isDigit ∧
      n.EndsBefore rest ∧ x = n.double := by
  obtain ⟨whole, rest, rfl, hne, hwhole, hstop, rfl⟩ := numeral?_eq_some_iff.1 h
  cases hfraction : fractionOf rest with
  | nil =>
      refine ⟨⟨whole, []⟩, rest, rfl, ⟨hne, hwhole, by simp⟩, ⟨hstop, ?_⟩, rfl⟩
      rintro - r rfl
      obtain ⟨behind, rfl, -, hbehind⟩ := Text.takeWhile_eq_iff.1 hfraction
      exact hbehind
  | cons d fraction =>
      cases rest with
      | nil => cases hfraction
      | cons c r =>
          rw [fractionOf] at hfraction
          split_ifs at hfraction with hc
          · subst hc
            obtain ⟨behind, rfl, hdigits, hbehind⟩ := Text.takeWhile_eq_iff.1 hfraction
            refine ⟨⟨whole, d :: fraction⟩, behind, ?_, ⟨hne, hwhole, hdigits⟩,
              ⟨hbehind, by simp⟩, rfl⟩
            rw [Decimal.text_of_fraction (List.cons_ne_nil d fraction), List.append_assoc]
            rfl

/-- A numeral is read to its end. -/
theorem numeral?_text_append {n : Decimal} {rest : Text} (hn : n.OfDigits isDigit)
    (hends : n.EndsBefore rest) : numeral? (n.text ++ rest) = some n.double := by
  obtain ⟨whole, fraction⟩ := n
  rw [numeral?_eq_some_iff]
  cases fraction with
  | nil =>
      refine ⟨whole, rest, rfl, hn.whole_ne_nil, hn.whole, hends.1, ?_⟩
      have hnone : fractionOf rest = [] := by
        cases rest with
        | nil => rfl
        | cons c r =>
            rw [fractionOf]
            split_ifs with hc
            · exact Text.takeWhile_eq_iff.2 ⟨r, rfl, by simp, hends.2 rfl r (by rw [hc])⟩
            · rfl
      rw [hnone]
  | cons d fraction =>
      refine ⟨whole, '.'.toNat :: (d :: fraction ++ rest), ?_, hn.whole_ne_nil, hn.whole, rfl, ?_⟩
      · rw [Decimal.text_of_fraction (List.cons_ne_nil d fraction), List.append_assoc]
        rfl
      · have hsome : fractionOf ('.'.toNat :: (d :: fraction ++ rest)) = d :: fraction :=
          Text.takeWhile_eq_iff.2 ⟨rest, rfl, hn.fraction, hends.1⟩
        rw [hsome]

/-! ## Reading a comparison -/

theorem symbol_ofSymbol {sign : Text} (h : sign ∈ comparisonSigns) :
    (Comparison.ofSymbol sign).symbol = sign := by
  revert sign
  decide

theorem eq_append_of_comparison? {t rest : Text} {c : Comparison}
    (h : comparison? t = some (c, rest)) : t = c.symbol ++ rest := by
  obtain ⟨sign, hsign, hfound⟩ := List.exists_of_findSome?_eq_some h
  obtain ⟨rest', hafter, heq⟩ := Option.map_eq_some_iff.1 hfound
  obtain ⟨rfl, rfl⟩ := Prod.mk.inj heq
  rw [symbol_ofSymbol hsign]
  exact Text.after?_eq_some_iff.1 hafter

/-- A sign is taken whole if no equals sign follows it, since the longer signs are tried first. -/
theorem comparison?_symbol_append (c : Comparison) {rest : Text}
    (hrest : rest.head? ≠ some '='.toNat) : comparison? (c.symbol ++ rest) = some (c, rest) := by
  have hlonger : Text.after? ['='.toNat] rest = none := by
    cases rest with
    | nil => rfl
    | cons d rest =>
        rw [Text.after?, if_neg]
        rintro rfl
        exact hrest rfl
  cases c with
  | gte | lte | eq => rfl
  | gt =>
      have hgte : Text.after? (lit ">=") (Comparison.gt.symbol ++ rest) = none := hlonger
      rw [comparison?, comparisonSigns, List.findSome?_cons, hgte]
      rfl
  | lt =>
      have hlte : Text.after? (lit "<=") (Comparison.lt.symbol ++ rest) = none := hlonger
      rw [comparison?, comparisonSigns, List.findSome?_cons, List.findSome?_cons,
        List.findSome?_cons, hlte]
      rfl

/-- No sign begins with a blank. -/
theorem head?_symbol_append (c : Comparison) (rest : Text) :
    (c.symbol ++ rest).head?.any isBlank = false := by
  cases c <;> rfl

/-- A comparison of the rating stands at the beginning of `t`: the word `rating` in any case, the
sign of `c` and the numeral `n`, with or without blanks between them. -/
def ComparesRating (t : Text) (c : Comparison) (n : Decimal) : Prop :=
  ∃ word gap space rest, t = word ++ (gap ++ (c.symbol ++ (space ++ (n.text ++ rest)))) ∧
    word.map fold = lit "rating" ∧ (∀ b ∈ gap, isBlank b = true) ∧
    (∀ b ∈ space, isBlank b = true) ∧ n.OfDigits isDigit ∧ n.EndsBefore rest

theorem ratingComparison?_eq_some_iff {before : Option CodePoint} {t : Text} {c : Comparison}
    {x : Binary64} :
    ratingComparison? before t = some (c, x) ↔ ∃ n, ComparesRating t c n ∧ x = n.double := by
  simp only [ratingComparison?, Option.bind_eq_some_iff, Option.map_eq_some_iff,
    Text.afterFolded?_eq_some_iff, Prod.exists, Prod.mk.injEq]
  constructor
  · rintro ⟨rest, ⟨word, rfl, hword⟩, c, behind, hsign, x, hnumeral, rfl, rfl⟩
    obtain ⟨gap, hgap, hblanks⟩ := exists_skipBlanks_append rest
    obtain ⟨space, hspace, hspaces⟩ := exists_skipBlanks_append behind
    obtain ⟨n, tail, htail, hn, hends, hx⟩ := exists_of_numeral? hnumeral
    refine ⟨n, ⟨word, gap, space, tail, ?_, hword, hblanks, hspaces, hn, hends⟩, hx⟩
    rw [← htail, ← hspace, ← eq_append_of_comparison? hsign, ← hgap]
  · rintro ⟨n, ⟨word, gap, space, rest, rfl, hword, hgap, hspace, hn, hends⟩, rfl⟩
    obtain ⟨d, t, hdigit, hd⟩ := hn.exists_text_append_eq_cons rest
    have hnumeral := numeral?_text_append hn hends
    rw [hdigit] at hnumeral ⊢
    refine ⟨_, ⟨word, rfl, hword⟩, c, space ++ d :: t, ?_, n.double, ?_, rfl, rfl⟩
    · rw [skipBlanks_append hgap (head?_symbol_append c _)]
      refine comparison?_symbol_append c fun hequals => ?_
      -- neither a blank nor a digit is an equals sign
      cases space with
      | nil =>
          obtain rfl : d = '='.toNat := Option.some.inj hequals
          exact absurd hd (by decide)
      | cons b space =>
          obtain rfl : b = '='.toNat := Option.some.inj hequals
          exact absurd (hspace _ List.mem_cons_self) (by decide)
    · rwa [skipBlanks_append (t := d :: t) hspace (not_isBlank_of_isDigit hd)]

/-- A lower bound of the rating stands at the beginning of `t`: the words `with rating above` or
`with rating over` in any case, and the numeral `n`. -/
def RatesAbove (t : Text) (n : Decimal) : Prop :=
  ∃ start gap word gap' bound space rest,
    t = start ++ (gap ++ (word ++ (gap' ++ (bound ++ (space ++ (n.text ++ rest)))))) ∧
    start.map fold = lit "with" ∧ (gap ≠ [] ∧ ∀ b ∈ gap, isBlank b = true) ∧
    word.map fold = lit "rating" ∧ (gap' ≠ [] ∧ ∀ b ∈ gap', isBlank b = true) ∧
    (bound.map fold = lit "above" ∨ bound.map fold = lit "over") ∧
    (∀ b ∈ space, isBlank b = true) ∧ n.OfDigits isDigit ∧ n.EndsBefore rest

theorem ratesAbove_of_ratingAbove? {before : Option CodePoint} {t : Text} {x : Binary64}
    (h : ratingAbove? before t = some x) : ∃ n, RatesAbove t n ∧ x = n.double := by
  simp only [ratingAbove?, Option.bind_eq_bind, Option.bind_eq_some_iff,
    Text.afterFolded?_eq_some_iff, blanks?_eq_some_iff] at h
  obtain ⟨_, ⟨start, rfl, hstart⟩, _, ⟨gap, rfl, hne, hgap, -⟩, _, ⟨word, rfl, hword⟩,
    _, ⟨gap', rfl, hne', hgap', -⟩, behind, hbound, hnumeral⟩ := h
  obtain ⟨space, hspace, hspaces⟩ := exists_skipBlanks_append behind
  obtain ⟨n, rest, hrest, hn, hends, hx⟩ := exists_of_numeral? hnumeral
  rw [hrest] at hspace
  subst hspace
  rw [Option.or_eq_some_iff, Text.afterFolded?_eq_some_iff, Text.afterFolded?_eq_some_iff] at hbound
  have hrates : ∀ bound : Text, bound.map fold = lit "above" ∨ bound.map fold = lit "over" →
      RatesAbove (start ++ (gap ++ (word ++ (gap' ++ (bound ++ (space ++ (n.text ++ rest))))))) n :=
    fun bound hbound => ⟨start, gap, word, gap', bound, space, rest, rfl, hstart, ⟨hne, hgap⟩,
      hword, ⟨hne', hgap'⟩, hbound, hspaces, hn, hends⟩
  rcases hbound with ⟨bound, rfl, hbound⟩ | ⟨-, bound, rfl, hbound⟩
  · exact ⟨n, hrates bound (Or.inl hbound), hx⟩
  · exact ⟨n, hrates bound (Or.inr hbound), hx⟩

/-! ## A comparison anywhere in a question -/

/-- A question that compares the rating with a numeral. -/
def ratingQuestion (pre gap : Text) (c : Comparison) (space : Text) (n : Decimal) (post : Text) :
    Text :=
  pre ++ (lit "rating" ++ (gap ++ (c.symbol ++ (space ++ (n.text ++ post)))))

section

variable {pre gap space post : Text} {c : Comparison} {n : Decimal}

/-- The first word `rating` is the one that is read. -/
theorem rating?_ratingQuestion (hpre : ¬lit "rating" <:+: pre.map fold)
    (hgap : ∀ b ∈ gap, isBlank b = true) (hspace : ∀ b ∈ space, isBlank b = true)
    (hn : n.OfDigits isDigit) (hends : n.EndsBefore post) :
    rating? (ratingQuestion pre gap c space n post) =
      some ⟨some c.name, .number (.real n.double)⟩ := by
  have hfind : find? ratingComparison? (ratingQuestion pre gap c space n post) =
      some (c, n.double) := by
    rw [find?_eq_some_iff]
    refine ⟨pre, _, rfl, ratingComparison?_eq_some_iff.2 ⟨n, ⟨lit "rating", gap, space, post, rfl,
      by decide, hgap, hspace, hn, hends⟩, rfl⟩, fun pre' post' hsplit hlt => ?_⟩
    rw [Option.eq_none_iff_forall_not_mem]
    rintro ⟨c', x⟩ hsome
    obtain ⟨n', ⟨word, gap', space', rest', rfl, hword, -⟩, -⟩ :=
      ratingComparison?_eq_some_iff.1 hsome
    have hrating : Unbordered (lit "rating") := by decide
    exact absurd (hrating.length_le_of_eq hpre (by decide) hword hsplit) (Nat.not_le.2 hlt)
  rw [rating?, hfind]

theorem trim_ratingQuestion (hn : n.OfDigits isDigit) :
    Text.trim isBlank (ratingQuestion pre gap c space n post) =
      ratingQuestion (pre.dropWhile isBlank) gap c space n (Text.trimEnd isBlank post) := by
  obtain ⟨t, d, htext, hd⟩ := hn.exists_text_eq_concat
  have htrim := Text.trim_append_append (p := isBlank)
    (m := lit "rating" ++ (gap ++ (c.symbol ++ (space ++ n.text)))) (by simp [lit]) rfl
    (by simp [htext, not_isBlank_of_isDigit hd]) pre post
  simpa [ratingQuestion] using htrim

/-- **Every comparison with a sign is understood.** Whatever stands in front, as long as it does not
hold the word `rating`, and whatever follows, as long as the numeral ends there, a rating that is
not set becomes the comparison of the sign with the double nearest to the numeral. -/
theorem rating_of_comparison {i j : Intent} (hopen : i.filters.rating = none)
    (hpre : ¬lit "rating" <:+: pre.map fold) (hgap : ∀ b ∈ gap, isBlank b = true)
    (hspace : ∀ b ∈ space, isBlank b = true) (hn : n.OfDigits isAsciiDigit)
    (hpost : n.EndsBefore post) (h : enrich i (ratingQuestion pre gap c space n post) = .ok j) :
    ∃ x : Binary64, j.filters.rating = some ⟨some c.name, .number (.real x)⟩ ∧
      x.IsNearest n.value := by
  have hpre' : ¬lit "rating" <:+: (pre.dropWhile isBlank).map fold := fun hwithin =>
    hpre (hwithin.trans ((List.dropWhile_suffix isBlank).map fold).isInfix)
  have hpost' : n.EndsBefore (Text.trimEnd isBlank post) := by
    obtain ⟨w, hw, -⟩ := Text.exists_trimEnd_append isBlank post
    exact (hw ▸ hpost).of_append
  have hdigits : n.OfDigits isDigit := hn.mono fun _ => isDigit_of_isAsciiDigit
  have hpropose : Slot.rating.propose (Text.trim isBlank (ratingQuestion pre gap c space n post)) =
      .ok (some (.rating ⟨some c.name, .number (.real n.double)⟩)) := by
    rw [Slot.propose, trim_ratingQuestion hdigits,
      rating?_ratingQuestion hpre' hgap hspace hdigits hpost']
    rfl
  have hslot : Slot.rating.isOpen i = true := Option.isNone_iff_eq_none.2 hopen
  exact ⟨n.double, get_of_propose h hpropose hslot, n.isNearest_double⟩

/-- A second point and a second comparison follow the numeral, and an intent that is empty takes
the first one. -/
theorem rating_of_comparison_twoPoints :
    ¬lit "rating" <:+: (lit " A drama with ").map fold ∧
      Decimal.OfDigits isAsciiDigit ⟨lit "7", lit "35"⟩ ∧
      Decimal.EndsBefore ⟨lit "7", lit "35"⟩ (lit ".1, not rating < 9 ") ∧
      ∃ (j : Intent) (x : Binary64),
        enrich {} (lit " A drama with rating\t>=7.35.1, not rating < 9 ") = .ok j ∧
          j.filters.rating = some ⟨some (lit "GTE"), .number (.real x)⟩ ∧ x.IsNearest 7.35 := by
  have hpre : ¬lit "rating" <:+: (lit " A drama with ").map fold := by decide
  have hdigits : Decimal.OfDigits isAsciiDigit ⟨lit "7", lit "35"⟩ :=
    ⟨by decide, by decide, by decide⟩
  have hends : Decimal.EndsBefore ⟨lit "7", lit "35"⟩ (lit ".1, not rating < 9 ") :=
    ⟨by decide, fun hnone => absurd hnone (by decide)⟩
  have hvalue : Decimal.value ⟨lit "7", lit "35"⟩ = 7.35 := by
    have hwhole : Text.decimalValue (lit "7") = 7 := by decide
    have hfraction : Text.decimalValue (lit "35") = 35 := by decide
    rw [Decimal.value, hwhole, hfraction, show (lit "35").length = 2 from rfl]
    norm_num
  obtain ⟨j, hj⟩ : ∃ j, enrich {} (ratingQuestion (lit " A drama with ") (lit "\t") .gte []
    ⟨lit "7", lit "35"⟩ (lit ".1, not rating < 9 ")) = .ok j := ⟨_, rfl⟩
  obtain ⟨x, hrating, hx⟩ :=
    rating_of_comparison rfl hpre (by decide) (by decide) hdigits hends hj
  exact ⟨hpre, hdigits, hends, j, x, hj, hrating, hvalue ▸ hx⟩

end

end FilmQuery.Question
