import FilmQuery.Json.Decode
import FilmQuery.Proofs.Braces
import FilmQuery.Proofs.Outcome
import Mathlib.Data.List.TakeDrop
import Mathlib.Data.List.TakeWhile

/-!
# What the reader of JSON takes

Each part of the reader takes a piece off the front of a text and leaves the rest. What it takes is
neutral to the scan for the first object: a literal in quotes leaves the scan where it was, and a
container takes neutral texts between brackets or braces that match. So a value of JSON text is
balanced where the reader says that it ends, whatever stands in its strings.
-/

namespace FilmQuery.Json

open FilmQuery.Braces

/-- Between `t` and what is left of it, `r`, stands a neutral text. -/
def Takes (t r : Text) : Prop := ∃ u, t = u ++ r ∧ Neutral u

theorem Takes.refl (t : Text) : Takes t t := ⟨[], rfl, neutral_nil⟩

theorem Takes.trans {t r s : Text} (htr : Takes t r) (hrs : Takes r s) : Takes t s := by
  obtain ⟨u, rfl, hu⟩ := htr
  obtain ⟨v, rfl, hv⟩ := hrs
  exact ⟨u ++ v, (List.append_assoc u v s).symm, hu.append hv⟩

theorem Takes.cons {c : CodePoint} {t r : Text} (hc : isInert c = true) (h : Takes t r) :
    Takes (c :: t) r := by
  obtain ⟨u, rfl, hu⟩ := h
  exact ⟨c :: u, rfl, hu.cons hc⟩

theorem takes_of_inert {u r : Text} (h : ∀ c ∈ u, isInert c = true) : Takes (u ++ r) r :=
  ⟨u, rfl, neutral_of_inert h⟩

/-- A run of inert code points may be left behind. -/
theorem takes_dropWhile {p : CodePoint → Bool} (hp : ∀ c, p c = true → isInert c = true)
    (t : Text) : Takes t (t.dropWhile p) := by
  have htake := takes_of_inert (u := t.takeWhile p) (r := t.dropWhile p) fun c hc =>
    hp c (List.mem_takeWhile_imp hc)
  rwa [List.takeWhile_append_dropWhile] at htake

/-! ## Space and literals -/

theorem isInert_of_isSpace {c : CodePoint} (h : isSpace c = true) : isInert c = true := by
  simp only [isSpace, Bool.or_eq_true, beq_iff_eq] at h
  rcases h with ((rfl | rfl) | rfl) | rfl <;> decide

theorem isInert_of_isAsciiDigit {c : Nat} (h : isAsciiDigit c = true) :
    isInert c = true := by
  have hrange : 48 ≤ c ∧ c ≤ 57 := by simpa [isAsciiDigit] using h
  rw [isInert_iff]
  omega

theorem takes_skipSpace (t : Text) : Takes t (skipSpace t) :=
  takes_dropWhile (fun _ => isInert_of_isSpace) t

theorem ne_of_hexValue? {c : CodePoint} {n : Nat} (h : hexValue? c = some n) :
    c ≠ '\\'.toNat ∧ c ≠ '"'.toNat := by
  constructor <;> rintro rfl
  · have hnone : hexValue? '\\'.toNat = none := by decide
    exact Option.some_ne_none n (h.symm.trans hnone)
  · have hnone : hexValue? '"'.toNat = none := by decide
    exact Option.some_ne_none n (h.symm.trans hnone)

/-- The reader of a string and the scan leave the literal at the same quote. -/
theorem pieces_passes {start t r : Text} {ps : List Piece} (h : pieces start t = .ok (ps, r)) :
    ∃ u, t = u ++ r ∧
      ∀ depth, 0 < depth → Passes u (.quoted '"'.toNat) depth .bare depth := by
  fun_induction pieces start t generalizing ps with
  | case1 => simp at h
  | case2 t =>
      obtain ⟨-, rfl⟩ : [] = ps ∧ t = r := by simpa using h
      exact ⟨['"'.toNat], rfl, fun depth hd => passes_closing_quote hd (by decide)⟩
  | case3 => simp at h
  | case4 h₁ h₂ h₃ h₄ next t unit hunit _ ih =>
      obtain ⟨⟨ps', r'⟩, hrest, heq⟩ := map_eq_ok_iff.1 h
      obtain ⟨-, rfl⟩ := Prod.mk.inj heq
      obtain ⟨u, hu, hpass⟩ := ih hrest
      simp only [hexUnit?, bind, Option.bind_eq_some_iff] at hunit
      obtain ⟨_, hv₁, _, hv₂, _, hv₃, _, hv₄, -⟩ := hunit
      refine ⟨'\\'.toNat :: 'u'.toNat :: h₁ :: h₂ :: h₃ :: h₄ :: u, by simp [hu], ?_⟩
      intro depth hd
      apply Passes.escape_cons hd
      apply Passes.quoted_cons hd (ne_of_hexValue? hv₁).1 (ne_of_hexValue? hv₁).2
      apply Passes.quoted_cons hd (ne_of_hexValue? hv₂).1 (ne_of_hexValue? hv₂).2
      apply Passes.quoted_cons hd (ne_of_hexValue? hv₃).1 (ne_of_hexValue? hv₃).2
      apply Passes.quoted_cons hd (ne_of_hexValue? hv₄).1 (ne_of_hexValue? hv₄).2
      exact hpass depth hd
  | case5 => simp at h
  | case6 => simp at h
  | case7 e t _ s _ _ ih =>
      obtain ⟨⟨ps', r'⟩, hrest, heq⟩ := map_eq_ok_iff.1 h
      obtain ⟨-, rfl⟩ := Prod.mk.inj heq
      obtain ⟨u, rfl, hpass⟩ := ih hrest
      exact ⟨'\\'.toNat :: e :: u, rfl, fun depth hd => (hpass depth hd).escape_cons hd⟩
  | case8 => simp at h
  | case9 => simp at h
  | case10 c t hquote hback _ ih =>
      obtain ⟨⟨ps', r'⟩, hrest, heq⟩ := map_eq_ok_iff.1 h
      obtain ⟨-, rfl⟩ := Prod.mk.inj heq
      obtain ⟨u, rfl, hpass⟩ := ih hrest
      exact ⟨c :: u, rfl, fun depth hd => (hpass depth hd).quoted_cons hd hback hquote⟩

theorem takes_stringBody {start t r s : Text} (h : stringBody start t = .ok (s, r)) :
    Takes ('"'.toNat :: t) r := by
  obtain ⟨⟨ps, r'⟩, hpieces, heq⟩ := map_eq_ok_iff.1 h
  obtain ⟨-, rfl⟩ := Prod.mk.inj heq
  obtain ⟨u, rfl, hu⟩ := pieces_passes hpieces
  exact ⟨'"'.toNat :: u, rfl, neutral_literal hu⟩

/-! ## Numbers and words -/

theorem takes_digits (t : Text) : Takes t (t.span isAsciiDigit).2 := by
  rw [List.span_eq_takeWhile_dropWhile]
  exact takes_dropWhile (fun _ => isInert_of_isAsciiDigit) t

theorem takes_wholePart (t : Text) : Takes t (wholePart t).2 := by
  cases t with
  | nil => exact Takes.refl []
  | cons c t =>
      rw [wholePart]
      split
      · next hc => exact (Takes.refl t).cons (by rw [hc]; decide)
      · split
        · exact takes_digits (c :: t)
        · exact Takes.refl (c :: t)

theorem takes_fractionPart (t : Text) : Takes t (fractionPart t).2 := by
  cases t with
  | nil => exact Takes.refl []
  | cons c t =>
      rw [fractionPart]
      dsimp only
      split
      · next hc =>
        have hpoint : c = '.'.toNat := by
          simp only [Bool.and_eq_true, decide_eq_true_eq] at hc
          exact hc.1
        exact (takes_digits t).cons (by rw [hpoint]; decide)
      · exact Takes.refl (c :: t)

theorem takes_sign (t : Text) : Takes t (Numeral.sign t).2 := by
  cases t with
  | nil => exact Takes.refl []
  | cons c t =>
      rw [Numeral.sign]
      split
      · next hc => exact (Takes.refl t).cons (by rw [hc]; decide)
      · split
        · next hc => exact (Takes.refl t).cons (by rw [hc]; decide)
        · exact Takes.refl (c :: t)

theorem takes_exponentPart (t : Text) : Takes t (exponentPart t).2 := by
  cases t with
  | nil => exact Takes.refl []
  | cons c t =>
      rw [exponentPart]
      dsimp only
      split
      · next hc =>
        have hmark : isInert c = true := by
          rcases hc.1 with rfl | rfl <;> decide
        exact ((takes_sign t).trans (takes_digits _)).cons hmark
      · exact Takes.refl (c :: t)

/-- A number is an integer part, a fraction and an exponent behind a minus sign, all inert. -/
theorem takes_numeral {t r : Text} {j : Json} (h : numeral t = .ok (j, r)) : Takes t r := by
  have hparts : ∀ s, Takes s (exponentPart (fractionPart (wholePart s).2).2).2 := fun s =>
    (takes_wholePart s).trans ((takes_fractionPart _).trans (takes_exponentPart _))
  unfold numeral at h
  cases t with
  | nil => simp [wholePart] at h
  | cons c t =>
      by_cases hc : c = '-'.toNat
      · simp only [hc, if_true] at h
        have hr : (exponentPart (fractionPart (wholePart t).2).2).2 = r := by
          split_ifs at h <;> cases h <;> rfl
        exact (hr ▸ hparts t).cons (by rw [hc]; decide)
      · simp only [hc, if_false] at h
        have hr : (exponentPart (fractionPart (wholePart (c :: t)).2).2).2 = r := by
          split_ifs at h <;> cases h <;> rfl
        exact hr ▸ hparts (c :: t)

theorem takes_scalar {t r : Text} {j : Json} (h : scalar t = .ok (j, r)) : Takes t r := by
  unfold scalar at h
  split at h
  · next found hfound =>
    obtain ⟨⟨w, v⟩, hmem, hword⟩ := List.exists_of_findSome?_eq_some hfound
    obtain ⟨r', hafter, heq⟩ := Option.map_eq_some_iff.1 hword
    obtain rfl : r' = r := by
      rw [← heq] at h
      cases h
      rfl
    rw [Text.after?_eq_some_iff] at hafter
    have hinert : ∀ e ∈ wordValues, ∀ c ∈ e.1, isInert c = true := by
      intro e he
      simp only [wordValues, List.mem_cons, List.not_mem_nil, or_false] at he
      rcases he with rfl | rfl | rfl | rfl | rfl | rfl <;> decide
    rw [hafter]
    exact takes_of_inert (hinert (w, v) hmem)
  · exact takes_numeral h

/-! ## Containers

The reader of a member is a parameter of the loops, so what it takes is a hypothesis here and the
induction over the levels comes last. -/

section

variable {read : Text → Except Stop (Json × Text)}
  (hread : ∀ {t r j}, read t = .ok (j, r) → Takes t r)

include hread

theorem takes_elements {fuel : Nat} {t r : Text} {js : List Json}
    (h : elements read fuel t = .ok (js, r)) : Takes t r := by
  induction fuel generalizing t js with
  | zero => simp [elements] at h
  | succ fuel ih =>
      rw [elements] at h
      obtain ⟨⟨j, s⟩, hj, h⟩ := bind_eq_ok_iff.1 h
      have hvalue := (hread hj).trans (takes_skipSpace s)
      dsimp only at h
      split at h
      · cases h
      · next c s' hs =>
        rw [hs] at hvalue
        split at h
        · next hc =>
          cases h
          exact hvalue.trans ((Takes.refl _).cons (by rw [hc]; decide))
        · split at h
          · next hc =>
            obtain ⟨⟨js', r'⟩, hrest, h⟩ := bind_eq_ok_iff.1 h
            cases h
            have htail := (takes_skipSpace s').trans (ih hrest)
            exact hvalue.trans (htail.cons (by rw [hc]; decide))
          · cases h

omit hread in
theorem takes_memberName {t r name : Text} (h : memberName t = .ok (name, r)) : Takes t r := by
  cases t with
  | nil => simp [memberName] at h
  | cons c t =>
      rw [memberName] at h
      split at h
      · next hc =>
        obtain ⟨⟨name', s⟩, hname, h⟩ := bind_eq_ok_iff.1 h
        have hquoted := (hc ▸ takes_stringBody hname).trans (takes_skipSpace s)
        dsimp only at h
        split at h
        · cases h
        · next d s' hs =>
          rw [hs] at hquoted
          split at h
          · next hd =>
            cases h
            exact hquoted.trans ((takes_skipSpace s').cons (by rw [hd]; decide))
          · cases h
      · cases h

/-- The members of an object reach up to its closing brace. -/
theorem takes_members {fuel : Nat} {t r : Text} {ms : List (Text × Json)}
    (h : members read fuel t = .ok (ms, r)) : Takes t (closing :: r) := by
  induction fuel generalizing t ms with
  | zero => simp [members] at h
  | succ fuel ih =>
      rw [members] at h
      obtain ⟨⟨name, s⟩, hname, h⟩ := bind_eq_ok_iff.1 h
      obtain ⟨⟨j, s'⟩, hj, h⟩ := bind_eq_ok_iff.1 h
      have hmember := ((takes_memberName hname).trans (hread hj)).trans (takes_skipSpace s')
      dsimp only at h
      split at h
      · cases h
      · next c u hs =>
        rw [hs] at hmember
        split at h
        · next hc =>
          cases h
          rw [hc] at hmember
          exact hmember
        · split at h
          · next hc =>
            obtain ⟨⟨ms', r'⟩, hrest, h⟩ := bind_eq_ok_iff.1 h
            cases h
            have htail := (takes_skipSpace u).trans (ih hrest)
            exact hmember.trans (htail.cons (by rw [hc]; decide))
          · cases h

theorem takes_arrayBody {t r : Text} {j : Json} (h : arrayBody read t = .ok (j, r)) :
    Takes t r := by
  have hspace := takes_skipSpace t
  unfold arrayBody at h
  split at h
  · cases h
  · next c s hs =>
    rw [hs] at hspace
    split at h
    · next hc =>
      cases h
      exact hspace.trans ((Takes.refl _).cons (by rw [hc]; decide))
    · obtain ⟨⟨js, r'⟩, helements, heq⟩ := map_eq_ok_iff.1 h
      cases heq
      exact hspace.trans (takes_elements hread helements)

/-- What stands between the braces of an object is neutral. -/
theorem takes_objectBody {t r : Text} {j : Json} (h : objectBody read t = .ok (j, r)) :
    Takes t (closing :: r) := by
  have hspace := takes_skipSpace t
  unfold objectBody at h
  split at h
  · cases h
  · next c s hs =>
    rw [hs] at hspace
    split at h
    · next hc =>
      cases h
      rw [hc] at hspace
      exact hspace
    · obtain ⟨⟨ms, r'⟩, hmembers, heq⟩ := map_eq_ok_iff.1 h
      cases heq
      exact hspace.trans (takes_members hread hmembers)

end

theorem Takes.braced {t r : Text} (h : Takes t (closing :: r)) : Takes (opening :: t) r := by
  obtain ⟨u, rfl, hu⟩ := h
  exact ⟨opening :: (u ++ [closing]), by simp, hu.braced⟩

/-- What a value that is read begins with, and which part of the reader took it. -/
theorem value_eq_ok {depth : Nat} {t r : Text} {j : Json} (h : value depth t = .ok (j, r)) :
    (∃ s name, t = '"'.toNat :: s ∧ stringBody t s = .ok (name, r)) ∨ scalar t = .ok (j, r) ∨
      ∃ level s, depth = level + 1 ∧
        (t = '['.toNat :: s ∧ arrayBody (value level) s = .ok (j, r) ∨
          t = opening :: s ∧ objectBody (value level) s = .ok (j, r)) := by
  unfold value at h
  split at h
  · cases h
  · next c s =>
    split at h
    · next hc =>
      obtain ⟨⟨name, r'⟩, hbody, heq⟩ := map_eq_ok_iff.1 h
      cases heq
      exact Or.inl ⟨s, name, by rw [hc], hbody⟩
    · split at h
      · next hcontainer =>
        split at h
        · cases h
        · next level =>
          split at h
          · next hc => exact Or.inr (Or.inr ⟨level, s, rfl, Or.inl ⟨by rw [hc], h⟩⟩)
          · next hc =>
            have hopen : c = opening := hcontainer.resolve_right hc
            exact Or.inr (Or.inr ⟨level, s, rfl, Or.inr ⟨by rw [hopen], h⟩⟩)
      · exact Or.inr (Or.inl h)

/-- A value that is read is neutral, however deep its containers are. -/
theorem takes_value {depth : Nat} {t r : Text} {j : Json} (h : value depth t = .ok (j, r)) :
    Takes t r := by
  induction depth generalizing t r j with
  | zero =>
      rcases value_eq_ok h with ⟨s, name, rfl, hbody⟩ | hscalar | ⟨level, s, hdepth, -⟩
      · exact takes_stringBody hbody
      · exact takes_scalar hscalar
      · cases hdepth
  | succ depth ih =>
      rcases value_eq_ok h with ⟨s, name, rfl, hbody⟩ | hscalar | ⟨level, s, hdepth, hbody⟩
      · exact takes_stringBody hbody
      · exact takes_scalar hscalar
      · obtain rfl : depth = level := Nat.succ.inj hdepth
        rcases hbody with ⟨rfl, harray⟩ | ⟨rfl, hobject⟩
        · exact (takes_arrayBody ih harray).cons (by decide)
        · exact (takes_objectBody ih hobject).braced

theorem scalar_opening (s : Text) :
    scalar (opening :: s) = .error (.malformed .expectingValue (opening :: s)) := by
  simp [scalar, wordValues, Text.after?, lit, numeral, wholePart, opening, isAsciiDigit]

/-- A text with a value that begins and ends with a brace is a neutral text in braces. -/
theorem exists_braced_of_decode {o : Text} {depth : Nat} {j : Json} (h : decode o depth = .ok j)
    (hopen : o.head? = some opening) (hclose : o.getLast? = some closing) :
    ∃ u, o = opening :: (u ++ [closing]) ∧ Neutral u := by
  obtain ⟨s, rfl⟩ : ∃ s, o = opening :: s := List.head?_eq_some_iff.1 hopen
  have hdocument : document (opening :: s) depth = .ok j := by
    unfold decode at h
    split at h <;> cases h
    assumption
  rw [document, if_neg (by simp [opening])] at hdocument
  obtain ⟨⟨j', r⟩, hvalue, hrest⟩ := bind_eq_ok_iff.1 hdocument
  have hspace : ∀ c ∈ r, isSpace c = true := by
    dsimp only at hrest
    split at hrest
    · next hr => exact Text.dropWhile_eq_nil_iff.1 hr
    · cases hrest
  have hskip : skipSpace (opening :: s) = opening :: s := rfl
  rw [hskip] at hvalue
  have hbody : Takes s (closing :: r) := by
    rcases value_eq_ok hvalue with
      ⟨_, _, heq, -⟩ | hscalar | ⟨_, _, -, ⟨heq, -⟩ | ⟨heq, hbody⟩⟩
    · exact absurd (List.cons.inj heq).1 (by decide)
    · rw [scalar_opening] at hscalar
      cases hscalar
    · exact absurd (List.cons.inj heq).1 (by decide)
    · obtain rfl := (List.cons.inj heq).2
      exact takes_objectBody takes_value hbody
  obtain ⟨u, rfl, hu⟩ := hbody
  -- white space behind the closing brace would be the end of the text
  rcases List.eq_nil_or_concat r with rfl | ⟨r', c, hr⟩
  · exact ⟨u, rfl, hu⟩
  · obtain rfl : r = r' ++ [c] := hr.trans List.concat_eq_append
    have hlast : (opening :: (u ++ closing :: (r' ++ [c]))).getLast? = some c := by
      rw [show opening :: (u ++ closing :: (r' ++ [c])) = (opening :: (u ++ closing :: r')) ++ [c]
        by simp]
      exact List.getLast?_concat
    obtain rfl : c = closing := Option.some.inj (hlast.symm.trans hclose)
    have hblank : isSpace closing = true := hspace closing (by simp)
    exact absurd hblank (by decide)

end FilmQuery.Json
