import FilmQuery.Proofs.GraphQL.Lexer
import FilmQuery.Query.Filter
import Mathlib.Tactic.SplitIfs

/-!
# What a string literal holds

A query escapes double quotes and nothing else. A backslash of the text itself then takes along
what stands after it: the backslash of an escaped quote, so that the quote ends the literal early,
or the closing quote, so that the literal swallows what follows. A text is contained if this cannot
happen, and the lexer reads the literal of a text as one token with exactly that text in it if and
only if the text is contained.
-/

namespace FilmQuery.GraphQL

/-- Whether a backslash is pending at the end of a part of a string. There is none if the string
ends in that part or has a line break in it. -/
def bodyState : (escaped : Bool) → Text → Option Bool
  | escaped, [] => some escaped
  | escaped, c :: t =>
    if (!escaped && c == '"'.toNat) || isLineBreak c then none
    else bodyState (!escaped && c == '\\'.toNat) t

/-- What may stand between the quotes of a string token. -/
def IsBody (raw : Text) : Prop := bodyState false raw = some false

instance (raw : Text) : Decidable (IsBody raw) := inferInstanceAs (Decidable (_ = _))

theorem bodyState_append (escaped : Bool) (t u : Text) :
    bodyState escaped (t ++ u) = (bodyState escaped t).bind fun e => bodyState e u := by
  induction t generalizing escaped with
  | nil => rfl
  | cons c t ih =>
      simp only [List.cons_append, bodyState]
      split
      · rfl
      · exact ih _

theorem bodyState_backslash (escaped : Bool) (t : Text) :
    bodyState escaped ('\\'.toNat :: t) = bodyState (!escaped) t := by
  cases escaped <;> rfl

theorem bodyState_quote (escaped : Bool) (t : Text) :
    bodyState escaped ('"'.toNat :: t) = if escaped then bodyState false t else none := by
  cases escaped <;> rfl

theorem bodyState_other {c : CodePoint} (hquote : c ≠ '"'.toNat) (hslash : c ≠ '\\'.toNat)
    (escaped : Bool) (t : Text) :
    bodyState escaped (c :: t) = if isLineBreak c then none else bodyState false t := by
  simp only [bodyState, beq_false_of_ne hquote, beq_false_of_ne hslash, Bool.and_false,
    Bool.false_or]

theorem run_string_of_bodyState {escaped escaped' : Bool} {t : Text}
    (h : bodyState escaped t = some escaped') (raw : Text) :
    (Mode.string escaped raw).run t = some ([], .string escaped' (raw ++ t)) := by
  induction t generalizing escaped raw with
  | nil =>
      obtain rfl : escaped = escaped' := Option.some.inj h
      simp [Mode.run]
  | cons c t ih =>
      rw [bodyState] at h
      split at h
      · exact absurd h (Option.some_ne_none escaped').symm
      · next hc =>
          obtain ⟨hquote, hbreak⟩ :
              (!escaped && c == '"'.toNat) = false ∧ isLineBreak c = false := by
            simpa only [Bool.not_eq_true, Bool.or_eq_false_iff] using hc
          have hstep : (Mode.string escaped raw).step c =
              some ([], .string (!escaped && c == '\\'.toNat) (raw ++ [c])) := by
            simp only [Mode.step, hquote, hbreak, Bool.false_eq_true, if_false]
          simpa using Mode.run_cons_of_eq_some hstep (ih h (raw ++ [c]))

/-- A body between two quotes is read as one string token. -/
theorem whole_quoted {raw : Text} (h : IsBody raw) :
    Whole ('"'.toNat :: (raw ++ ['"'.toNat])) [.string raw] := by
  have hopen : Mode.gap.step '"'.toNat = some ([], .string false []) := by decide
  have hbody : (Mode.string false []).run raw = some ([], .string false raw) := by
    simpa using run_string_of_bodyState h []
  have hclose : (Mode.string false raw).run ['"'.toNat] = some ([.string raw], .gap) := rfl
  exact Mode.run_cons_of_eq_some hopen (Mode.run_append_of_eq_some hbody hclose)

/-! ## Every string token has a body -/

/-- A string token holds a body. -/
def Token.IsSound : Token → Prop
  | .string raw => IsBody raw
  | _ => True

/-- A string that is being read is the beginning of a body. -/
def Mode.IsSound : Mode → Prop
  | .string escaped raw => bodyState false raw = some escaped
  | _ => True

theorem Mode.start?_sound {c : CodePoint} {ts : List Token} {m : Mode}
    (h : start? c = some (ts, m)) : (∀ t ∈ ts, t.IsSound) ∧ m.IsSound := by
  unfold start? at h
  split_ifs at h
  · cases h
    exact ⟨by simp, trivial⟩
  · cases h
    exact ⟨by simp, trivial⟩
  · cases h
    exact ⟨by simp, rfl⟩
  · cases h
    exact ⟨by simp, trivial⟩
  · cases h
    exact ⟨by simp, trivial⟩
  · split at h
    · cases h
      exact ⟨by simp, trivial⟩
    · obtain ⟨p, -, hp⟩ := Option.map_eq_some_iff.1 h
      cases hp
      exact ⟨by simp [Token.IsSound], trivial⟩

theorem Mode.start?_word_sound {c : CodePoint} {ts : List Token} {m : Mode} {t : Token}
    (ht : t.IsSound)
    (h : ((start? c).map fun (ts, m) => (t :: ts, m)) = some (ts, m)) :
    (∀ t ∈ ts, t.IsSound) ∧ m.IsSound := by
  obtain ⟨⟨us, m'⟩, hstart, hcons⟩ := Option.map_eq_some_iff.1 h
  cases hcons
  obtain ⟨hus, hm⟩ := start?_sound hstart
  exact ⟨List.forall_mem_cons.2 ⟨ht, hus⟩, hm⟩

theorem Mode.step_sound {m m' : Mode} {c : CodePoint} {ts : List Token} (hm : m.IsSound)
    (h : m.step c = some (ts, m')) : (∀ t ∈ ts, t.IsSound) ∧ m'.IsSound := by
  cases m with
  | gap => exact start?_sound h
  | name w =>
      simp only [step] at h
      split at h
      · cases h
        exact ⟨by simp, trivial⟩
      · exact start?_word_sound (t := .name w) trivial h
  | number s w =>
      simp only [step] at h
      split at h
      · cases h
        exact ⟨by simp, trivial⟩
      · split at h
        · exact start?_word_sound (t := .number w) trivial h
        · exact absurd h (by simp)
  | string escaped raw =>
      have hraw : bodyState false raw = some escaped := hm
      simp only [step] at h
      split_ifs at h with hquote hbreak
      · -- the closing quote is read with no backslash pending, so what was read is a body
        cases h
        have hescaped : escaped = false := by
          have hboth : escaped = false ∧ c = '"'.toNat := by simpa using hquote
          exact hboth.1
        subst hescaped
        exact ⟨by simpa [Token.IsSound, IsBody] using hraw, trivial⟩
      · cases h
        refine ⟨by simp, ?_⟩
        show bodyState false (raw ++ [c]) = some (!escaped && c == '\\'.toNat)
        rw [bodyState_append, hraw, Option.bind_some, bodyState, if_neg (by simp_all), bodyState]
  | comment =>
      simp only [step] at h
      cases h
      refine ⟨by simp, ?_⟩
      split <;> trivial
  | dots n =>
      simp only [step] at h
      split_ifs at h
      · cases h
        exact ⟨by simp [Token.IsSound], trivial⟩
      · cases h
        exact ⟨by simp, trivial⟩

theorem Mode.run_sound {m m' : Mode} {t : Text} {ts : List Token} (hm : m.IsSound)
    (h : m.run t = some (ts, m')) : (∀ t ∈ ts, t.IsSound) ∧ m'.IsSound := by
  induction t generalizing m ts with
  | nil =>
      cases h
      exact ⟨by simp, hm⟩
  | cons c t ih =>
      obtain ⟨⟨us, m₁⟩, hstep, hrest⟩ := Option.bind_eq_some_iff.1 h
      obtain ⟨⟨vs, m₂⟩, hrun, hcons⟩ := Option.map_eq_some_iff.1 hrest
      cases hcons
      obtain ⟨hus, hm₁⟩ := step_sound hm hstep
      obtain ⟨hvs, hm₂⟩ := ih hm₁ hrun
      exact ⟨List.forall_mem_append.2 ⟨hus, hvs⟩, hm₂⟩

theorem Mode.finish?_sound {m : Mode} {ts : List Token} (h : m.finish? = some ts) :
    ∀ t ∈ ts, t.IsSound := by
  cases m with
  | number s w =>
      obtain ⟨-, rfl⟩ : s.isComplete = true ∧ [.number w] = ts := by simpa [finish?, word?] using h
      simp [Token.IsSound]
  | string escaped raw => simp [finish?, word?] at h
  | dots n => simp [finish?, word?] at h
  | _ =>
      cases h
      simp [Token.IsSound]

/-- Whatever document is read, each of its string tokens holds a body. -/
theorem isBody_of_lex {t raw : Text} {ts : List Token} (h : lex t = some ts)
    (hraw : .string raw ∈ ts) : IsBody raw := by
  obtain ⟨⟨us, m⟩, hrun, hrest⟩ := Option.bind_eq_some_iff.1 h
  obtain ⟨vs, hfinish, rfl⟩ := Option.map_eq_some_iff.1 hrest
  have hus := (Mode.run_sound (m := .gap) trivial hrun).1
  have hsound := List.forall_mem_append.2 ⟨hus, Mode.finish?_sound hfinish⟩
  exact hsound _ hraw

/-! ## Contained texts -/

/-- The number of backslashes at the end of a text. -/
def endingBackslashes (t : Text) : Nat := (t.reverse.takeWhile (· == '\\'.toNat)).length

theorem endingBackslashes_append_singleton (t : Text) (c : CodePoint) :
    endingBackslashes (t ++ [c]) = if c = '\\'.toNat then endingBackslashes t + 1 else 0 := by
  by_cases hc : c = 92 <;> simp [endingBackslashes, hc]

/-- In what follows `p`, an even number of backslashes stands before each double quote and at the
end. -/
def EvenFrom (p t : Text) : Prop :=
  ∀ u v, t = u ++ v → (v = [] ∨ v.head? = some '"'.toNat) → 2 ∣ endingBackslashes (p ++ u)

/-- A contained text has no line break, and an even number of backslashes before each double quote
and at the end. -/
def IsContained (t : Text) : Prop := (∀ c ∈ t, isLineBreak c = false) ∧ EvenFrom [] t

theorem evenFrom_nil (p : Text) : EvenFrom p [] ↔ 2 ∣ endingBackslashes p := by
  constructor
  · intro h
    simpa using h [] [] rfl (.inl rfl)
  · intro h u v huv _
    obtain ⟨rfl, rfl⟩ : u = [] ∧ v = [] := by simpa using huv.symm
    simpa using h

theorem evenFrom_cons (p : Text) (c : CodePoint) (t : Text) :
    EvenFrom p (c :: t) ↔
      (c = '"'.toNat → 2 ∣ endingBackslashes p) ∧ EvenFrom (p ++ [c]) t := by
  constructor
  · intro h
    refine ⟨fun hc => ?_, fun u v huv hv => ?_⟩
    · simpa using h [] (c :: t) rfl (.inr (by rw [hc]; rfl))
    · simpa using h (c :: u) v (by rw [huv]; rfl) hv
  · rintro ⟨hquote, hrest⟩ u v huv hv
    cases u with
    | nil =>
        obtain rfl : c :: t = v := huv
        have hc : c = '"'.toNat := by simpa using hv
        simpa using hquote hc
    | cons d u =>
        obtain ⟨rfl, rfl⟩ : c = d ∧ t = u ++ v := by simpa using huv
        simpa using hrest u v rfl hv

theorem escapeQuotes_cons (c : CodePoint) (t : Text) :
    escapeQuotes (c :: t) =
      (if c = '"'.toNat then lit "\\\"" else [c]) ++ escapeQuotes t := rfl

/-- The state after the escaped text tells whether a text is contained, given what stands before. -/
theorem bodyState_escapeQuotes_iff (p t : Text) :
    bodyState (endingBackslashes p % 2 == 1) (escapeQuotes t) = some false ↔
      (∀ c ∈ t, isLineBreak c = false) ∧ EvenFrom p t := by
  -- of what stands before, only the parity of its last backslashes matters; the induction carries
  -- it from one code point to the next
  induction t generalizing p with
  | nil =>
      rw [evenFrom_nil]
      simp [escapeQuotes, bodyState]
      omega
  | cons c t ih =>
      have ih := ih (p ++ [c])
      rw [endingBackslashes_append_singleton] at ih
      rw [escapeQuotes_cons, evenFrom_cons, List.forall_mem_cons]
      by_cases hquote : c = '"'.toNat
      · -- a pending backslash takes along that of the escape, and the quote ends the string
        have hstate : bodyState (endingBackslashes p % 2 == 1) (lit "\\\"" ++ escapeQuotes t) =
            if 2 ∣ endingBackslashes p then bodyState false (escapeQuotes t) else none := by
          show bodyState _ ('\\'.toNat :: '"'.toNat :: escapeQuotes t) = _
          rw [bodyState_backslash, bodyState_quote]
          congr 1
          simp only [Bool.not_eq_true', beq_eq_false_iff_ne, eq_iff_iff]
          omega
        have hbreak : isLineBreak 0x22 = false := rfl
        rw [if_pos hquote, hstate]
        subst hquote
        by_cases heven : 2 ∣ endingBackslashes p
        · rw [if_pos heven]
          simpa [hbreak, heven] using ih
        · simp [heven]
      · rw [if_neg hquote, List.singleton_append]
        by_cases hslash : c = '\\'.toNat
        · have hstate : (!(endingBackslashes p % 2 == 1)) =
              ((endingBackslashes p + 1) % 2 == 1) := by
            rw [Bool.eq_iff_iff]
            simp only [Bool.not_eq_true', beq_eq_false_iff_ne, beq_iff_eq]
            omega
          have hbreak : isLineBreak 0x5C = false := rfl
          subst hslash
          rw [bodyState_backslash, hstate]
          simpa [hbreak] using ih
        · rw [bodyState_other hquote hslash]
          cases hbreak : isLineBreak c
          · have hslash' : c ≠ 0x5C := hslash
            have hquote' : c ≠ 0x22 := hquote
            simpa [hquote', hslash', hbreak] using ih
          · simp

theorem isBody_escapeQuotes_iff {t : Text} : IsBody (escapeQuotes t) ↔ IsContained t :=
  bodyState_escapeQuotes_iff [] t

instance (t : Text) : Decidable (IsContained t) := decidable_of_iff _ isBody_escapeQuotes_iff

/-- The literal of a contained text is one string token. -/
theorem whole_stringLiteral {t : Text} (h : IsContained t) :
    Whole (stringLiteral t) [.string (escapeQuotes t)] :=
  whole_quoted (isBody_escapeQuotes_iff.2 h)

end FilmQuery.GraphQL
