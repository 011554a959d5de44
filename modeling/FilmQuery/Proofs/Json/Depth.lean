import FilmQuery.Proofs.Json.Extent

/-!
# How deep a text of JSON is nested

The reader refuses a text for its depth exactly where more containers are open at once than it
allows. That is said here without counting levels down: a container is open while a value inside it
is read, and a value is reached when all that stands before it has been read. With more levels the
reader gives the same answer, except where it refused for want of them. Other refusals that come
from a single value, and not from how values are put together, are traced to that value alike.
-/

namespace FilmQuery.Json

open FilmQuery.Braces

/-! ## Where values begin -/

/-- Of values with commas between them, each with its `lead` in front, one begins at `u`. -/
inductive ValueAt (lead : Text → Text → Prop) : Text → Text → Prop where
  | first {t u : Text} (hlead : lead t u) : ValueAt lead t u
  | next {depth : Nat} {t v r s u : Text} {j : Json} (hlead : lead t v)
      (hvalue : value depth v = .ok (j, r)) (hcomma : skipSpace r = ','.toNat :: s)
      (h : ValueAt lead (skipSpace s) u) : ValueAt lead t u

/-- An array whose elements begin at `t` has one that begins at `u`. -/
def ElementAt : Text → Text → Prop := ValueAt Eq

/-- A name and its colon stand between `t` and `u`. -/
def Named (t u : Text) : Prop := ∃ name, memberName t = .ok (name, u)

/-- An object whose names begin at `t` has a member whose value begins at `u`. -/
def MemberAt : Text → Text → Prop := ValueAt Named

/-- Opens a container. -/
def isBracket (c : CodePoint) : Bool := c == opening || c == '['.toNat

/-- While the value at the beginning of a text is read, that many containers are open at once. -/
inductive Opens : Nat → Text → Prop where
  | here {c : CodePoint} {r : Text} (hc : isBracket c = true) : Opens 1 (c :: r)
  | array {n : Nat} {r u : Text} (hu : ElementAt (skipSpace r) u) (h : Opens n u) :
      Opens (n + 1) ('['.toNat :: r)
  | object {n : Nat} {r u : Text} (hu : MemberAt (skipSpace r) u) (h : Opens n u) :
      Opens (n + 1) (opening :: r)

/-- While the value at the beginning of a text is read, one is begun at `u`: that value itself or
one inside it. -/
inductive ComesTo : Text → Text → Prop where
  | here (t : Text) : ComesTo t t
  | array {r u v : Text} (hu : ElementAt (skipSpace r) u) (h : ComesTo u v) :
      ComesTo ('['.toNat :: r) v
  | object {r u v : Text} (hu : MemberAt (skipSpace r) u) (h : ComesTo u v) :
      ComesTo (opening :: r) v

theorem Opens.exists_eq_cons {n : Nat} {t : Text} (h : Opens n t) :
    ∃ c r, t = c :: r ∧ isBracket c = true := by
  cases h with
  | here hc => exact ⟨_, _, rfl, hc⟩
  | array => exact ⟨_, _, rfl, by decide⟩
  | object => exact ⟨_, _, rfl, by decide⟩

/-! ## Reading with more levels -/

section

variable {f g : Text → Except Stop (Json × Text)}
  (h : ∀ t, SameUnless .tooDeep (f t) (g t))

include h

theorem sameUnless_elements (fuel : Nat) (t : Text) :
    SameUnless .tooDeep (elements f fuel t) (elements g fuel t) := by
  induction fuel generalizing t with
  | zero => exact SameUnless.refl _ _
  | succ fuel ih =>
      rw [elements, elements]
      apply (h t).bind
      rintro ⟨j, r⟩
      dsimp only
      split
      · exact SameUnless.refl _ _
      · split_ifs
        · exact SameUnless.refl _ _
        · exact (ih _).bind fun _ => SameUnless.refl _ _
        · exact SameUnless.refl _ _

theorem sameUnless_members (fuel : Nat) (t : Text) :
    SameUnless .tooDeep (members f fuel t) (members g fuel t) := by
  induction fuel generalizing t with
  | zero => exact SameUnless.refl _ _
  | succ fuel ih =>
      rw [members, members]
      apply (SameUnless.refl _ (memberName t)).bind
      rintro ⟨name, v⟩
      apply (h v).bind
      rintro ⟨j, r⟩
      dsimp only
      split
      · exact SameUnless.refl _ _
      · split_ifs
        · exact SameUnless.refl _ _
        · exact (ih _).bind fun _ => SameUnless.refl _ _
        · exact SameUnless.refl _ _

theorem sameUnless_arrayBody (t : Text) :
    SameUnless .tooDeep (arrayBody f t) (arrayBody g t) := by
  unfold arrayBody
  split
  · exact SameUnless.refl _ _
  · split_ifs
    · exact SameUnless.refl _ _
    · exact (sameUnless_elements h _ _).map _

theorem sameUnless_objectBody (t : Text) :
    SameUnless .tooDeep (objectBody f t) (objectBody g t) := by
  unfold objectBody
  split
  · exact SameUnless.refl _ _
  · split_ifs
    · exact SameUnless.refl _ _
    · exact (sameUnless_members h _ _).map _

end

theorem value_nil (depth : Nat) : value depth [] = .error (.malformed .expectingValue []) := by
  unfold value
  rfl

theorem value_array (depth : Nat) (r : Text) :
    value (depth + 1) ('['.toNat :: r) = arrayBody (value depth) r := rfl

theorem value_object (depth : Nat) (r : Text) :
    value (depth + 1) (opening :: r) = objectBody (value depth) r := rfl

theorem isBracket_iff {c : CodePoint} : isBracket c = true ↔ c = opening ∨ c = '['.toNat := by
  simp [isBracket]

/-- With no levels left every container is refused. -/
theorem value_zero {c : CodePoint} (hc : isBracket c = true) (r : Text) :
    value 0 (c :: r) = .error .tooDeep := by
  rcases isBracket_iff.1 hc with rfl | rfl <;> rfl

/-- What is no container is read alike with any number of levels. -/
theorem value_of_not_isBracket {c : CodePoint} (hc : isBracket c = false) (depth : Nat) (r : Text) :
    value depth (c :: r) =
      if c = '"'.toNat then (stringBody (c :: r) r).map fun (s, r) => (.string s, r)
      else scalar (c :: r) := by
  have hcontainer : ¬(c = opening ∨ c = '['.toNat) := by
    rw [← isBracket_iff, hc]
    exact Bool.false_ne_true
  unfold value
  dsimp only
  split
  · rfl
  · exact if_neg hcontainer

theorem sameUnless_value_succ (depth : Nat) (t : Text) :
    SameUnless .tooDeep (value depth t) (value (depth + 1) t) := by
  induction depth generalizing t with
  | zero =>
      cases t with
      | nil => exact SameUnless.refl _ _
      | cons c r =>
          cases hc : isBracket c with
          | true => exact Or.inl (value_zero hc r)
          | false =>
              rw [value_of_not_isBracket hc, value_of_not_isBracket hc]
              exact SameUnless.refl _ _
  | succ depth ih =>
      cases t with
      | nil => exact SameUnless.refl _ _
      | cons c r =>
          cases hc : isBracket c with
          | true =>
              rcases isBracket_iff.1 hc with rfl | rfl
              · exact sameUnless_objectBody ih r
              · exact sameUnless_arrayBody ih r
          | false =>
              rw [value_of_not_isBracket hc, value_of_not_isBracket hc]
              exact SameUnless.refl _ _

theorem sameUnless_value {depth depth' : Nat} (h : depth ≤ depth') (t : Text) :
    SameUnless .tooDeep (value depth t) (value depth' t) := by
  induction h with
  | refl => exact SameUnless.refl _ _
  | step _ ih => exact ih.trans (sameUnless_value_succ _ t)

/-- A value that was read is read again, or there are too few levels for it now. -/
theorem value_of_value {depth : Nat} {t : Text} {x : Json × Text} (h : value depth t = .ok x)
    (depth' : Nat) : value depth' t = .ok x ∨ value depth' t = .error .tooDeep := by
  rcases Nat.le_total depth depth' with hle | hle
  · rcases sameUnless_value hle t with hdeep | hsame
    · cases h.symm.trans hdeep
    · exact Or.inl (hsame.trans h)
  · rcases sameUnless_value hle t with hdeep | hsame
    · exact Or.inr hdeep
    · exact Or.inl (hsame.symm.trans h)

theorem sameUnless_document {depth depth' : Nat} (h : depth ≤ depth') (t : Text) :
    SameUnless .tooDeep (document t depth) (document t depth') := by
  unfold document
  split
  · exact SameUnless.refl _ _
  · exact (sameUnless_value h _).bind fun _ => SameUnless.refl _ _

/-- With more levels a text is read alike, unless it was refused for want of them. -/
theorem sameUnless_decode {depth depth' : Nat} (h : depth ≤ depth') (t : Text) :
    SameUnless .tooDeep (decode t depth) (decode t depth') := by
  unfold decode
  rcases sameUnless_document h t with hdeep | hsame
  · exact Or.inl (by rw [hdeep])
  · exact Or.inr (by rw [hsame])

theorem decode_of_le {depth depth' : Nat} (hle : depth ≤ depth') {t : Text} {j : Json}
    (h : decode t depth = .ok j) : decode t depth' = .ok j := by
  rcases sameUnless_decode hle t with hdeep | hsame
  · cases h.symm.trans hdeep
  · exact hsame.trans h

/-! ## Where a refusal comes from

Refusals of a kind `p` are traced to the value that they come from. What is malformed is none of
them, so they come from no name and no string; want of levels is one of them.
-/

theorem Takes.isSuffix {t r : Text} (h : Takes t r) : r <:+ t := by
  obtain ⟨u, rfl, -⟩ := h
  exact List.suffix_append u r

theorem skipSpace_isSuffix (t : Text) : skipSpace t <:+ t := List.dropWhile_suffix _

/-- A comma behind a value leaves less than there was. -/
theorem length_lt_of_comma {t r s : Text} {c : CodePoint} (hr : r <:+ t)
    (hcomma : skipSpace r = c :: s) : (skipSpace s).length < t.length := by
  have hs : (skipSpace s).length ≤ s.length := (skipSpace_isSuffix s).length_le
  have hspace : (skipSpace r).length ≤ r.length := (skipSpace_isSuffix r).length_le
  rw [hcomma, List.length_cons] at hspace
  have hle := hr.length_le
  omega

theorem suffix_of_eq {t u : Text} (h : t = u) : u <:+ t := h ▸ List.suffix_refl t

theorem Named.isSuffix {t u : Text} (h : Named t u) : u <:+ t := by
  obtain ⟨name, hname⟩ := h
  exact (takes_memberName hname).isSuffix

theorem ValueAt.isSuffix {lead : Text → Text → Prop} (hlead : ∀ {t u}, lead t u → u <:+ t)
    {t u : Text} (h : ValueAt lead t u) : u <:+ t := by
  induction h with
  | first hu => exact hlead hu
  | @next depth t v r s u j hv hvalue hcomma _ ih =>
      have hs : s <:+ r := (hcomma ▸ List.suffix_cons _ s).trans (skipSpace_isSuffix r)
      have hr : r <:+ t := (takes_value hvalue).isSuffix.trans (hlead hv)
      exact ((ih.trans (skipSpace_isSuffix s)).trans hs).trans hr

theorem scalar_closing_bracket (s : Text) :
    scalar (']'.toNat :: s) = .error (.malformed .expectingValue (']'.toNat :: s)) := by
  simp [scalar, wordValues, Text.after?, lit, numeral, wholePart, isAsciiDigit]

/-- No value begins with the bracket that closes an array. -/
theorem value_closing_bracket (depth : Nat) (s : Text) :
    value depth (']'.toNat :: s) = .error (.malformed .expectingValue (']'.toNat :: s)) := by
  rw [value_of_not_isBracket (by decide), if_neg (by decide), scalar_closing_bracket]

theorem scalar_nil : scalar [] = .error (.malformed .expectingValue []) := rfl

/-- A number begins with a minus sign or a digit. -/
theorem numeral_of_not_numberStart {c : CodePoint} (hminus : c ≠ '-'.toNat)
    (hdigit : isAsciiDigit c = false) (r : Text) :
    numeral (c :: r) = .error (.malformed .expectingValue (c :: r)) := by
  have hzero : c ≠ '0'.toNat := by
    rintro rfl
    exact absurd hdigit (by decide)
  have hwhole : wholePart (c :: r) = ([], c :: r) := by
    rw [wholePart, if_neg hzero, if_neg (by simp [hdigit])]
  simp only [numeral, if_neg hminus, hwhole]
  rfl

section

variable {p : Stop → Prop} (hp : ∀ fault rest, ¬p (.malformed fault rest))

include hp

theorem not_failsWith_pieces (start t : Text) : ¬FailsWith p (pieces start t) := by
  fun_induction pieces start t <;> simp_all [failsWith_map_iff]

theorem not_failsWith_stringBody (start t : Text) : ¬FailsWith p (stringBody start t) := by
  rw [stringBody, failsWith_map_iff]
  exact not_failsWith_pieces hp start t

theorem not_failsWith_memberName (t : Text) : ¬FailsWith p (memberName t) := by
  cases t with
  | nil => simp [memberName, hp]
  | cons c t =>
      rw [memberName]
      split
      · rw [failsWith_bind_iff]
        rintro (hbody | ⟨⟨name, r⟩, -, hcolon⟩)
        · exact not_failsWith_stringBody hp _ _ hbody
        · dsimp only at hcolon
          split at hcolon
          · exact hp _ _ (failsWith_error_iff.1 hcolon)
          · split at hcolon
            · exact not_failsWith_ok _ hcolon
            · exact hp _ _ (failsWith_error_iff.1 hcolon)
      · simp [hp]

/-- A scalar that is refused, but not as malformed, begins as a number does. -/
theorem numberStart_of_failsWith {c : CodePoint} {r : Text} (h : FailsWith p (scalar (c :: r))) :
    c = '-'.toNat ∨ isAsciiDigit c = true := by
  by_contra hstart
  rw [not_or, Bool.not_eq_true] at hstart
  unfold scalar at h
  split at h
  · exact not_failsWith_ok _ h
  · rw [numeral_of_not_numberStart hstart.1 hstart.2] at h
    exact hp _ _ (failsWith_error_iff.1 h)

theorem failsWith_value_of_not_isBracket {c : CodePoint} (hc : isBracket c = false) (depth : Nat)
    (r : Text) : FailsWith p (value depth (c :: r)) ↔ FailsWith p (scalar (c :: r)) := by
  rw [value_of_not_isBracket hc]
  split
  · next hquote =>
    rw [failsWith_map_iff]
    refine iff_of_false (not_failsWith_stringBody hp _ _) fun h => ?_
    subst hquote
    exact absurd (numberStart_of_failsWith hp h) (by decide)
  · exact Iff.rfl

theorem not_isBracket_of_failsWith {c : CodePoint} {r : Text}
    (h : FailsWith p (scalar (c :: r))) : isBracket c = false := by
  rw [Bool.eq_false_iff, ne_eq, isBracket_iff]
  rintro (rfl | rfl) <;> exact absurd (numberStart_of_failsWith hp h) (by decide)

section

variable {read : Text → Except Stop (Json × Text)}

theorem failsWith_elements_succ_iff (fuel : Nat) (t : Text) :
    FailsWith p (elements read (fuel + 1) t) ↔
      FailsWith p (read t) ∨ ∃ j r s, read t = .ok (j, r) ∧ skipSpace r = ','.toNat :: s ∧
        FailsWith p (elements read fuel (skipSpace s)) := by
  rw [elements, failsWith_bind_iff]
  apply or_congr_right
  constructor
  · rintro ⟨⟨j, r⟩, hj, h⟩
    dsimp only at h
    split at h
    · exact absurd (failsWith_error_iff.1 h) (hp _ _)
    · next c s hs =>
      split_ifs at h with hclose hcomma
      · exact absurd h (not_failsWith_ok _)
      · rcases failsWith_bind_iff.1 h with hrest | ⟨_, -, hok⟩
        · exact ⟨j, r, s, hj, by rw [hs, hcomma], hrest⟩
        · exact absurd hok (not_failsWith_ok _)
      · exact absurd (failsWith_error_iff.1 h) (hp _ _)
  · rintro ⟨j, r, s, hj, hs, hrest⟩
    refine ⟨(j, r), hj, ?_⟩
    dsimp only
    rw [hs]
    exact failsWith_bind_iff.2 (Or.inl hrest)

theorem failsWith_members_succ_iff (fuel : Nat) (t : Text) :
    FailsWith p (members read (fuel + 1) t) ↔
      ∃ v, Named t v ∧
        (FailsWith p (read v) ∨ ∃ j r s, read v = .ok (j, r) ∧
          skipSpace r = ','.toNat :: s ∧ FailsWith p (members read fuel (skipSpace s))) := by
  rw [members, failsWith_bind_iff]
  constructor
  · rintro (hname | ⟨⟨name, v⟩, hname, h⟩)
    · exact absurd hname (not_failsWith_memberName hp t)
    · refine ⟨v, ⟨name, hname⟩, ?_⟩
      rcases failsWith_bind_iff.1 h with hv | ⟨⟨j, r⟩, hj, h⟩
      · exact Or.inl hv
      · dsimp only at h
        split at h
        · exact absurd (failsWith_error_iff.1 h) (hp _ _)
        · next c s hs =>
          split_ifs at h with hclose hcomma
          · exact absurd h (not_failsWith_ok _)
          · rcases failsWith_bind_iff.1 h with hrest | ⟨_, -, hok⟩
            · exact Or.inr ⟨j, r, s, hj, by rw [hs, hcomma], hrest⟩
            · exact absurd hok (not_failsWith_ok _)
          · exact absurd (failsWith_error_iff.1 h) (hp _ _)
  · rintro ⟨v, ⟨name, hname⟩, hv | ⟨j, r, s, hj, hs, hrest⟩⟩
    · exact Or.inr ⟨(name, v), hname, failsWith_bind_iff.2 (Or.inl hv)⟩
    · refine Or.inr ⟨(name, v), hname, failsWith_bind_iff.2 (Or.inr ⟨(j, r), hj, ?_⟩)⟩
      dsimp only
      rw [hs]
      exact failsWith_bind_iff.2 (Or.inl hrest)

end

variable (hdeep : p .tooDeep)

include hdeep

omit hp in
/-- A loop over values comes to every one of them, or to a container that it cannot read before.
The fuel lasts since each comma leaves less of the text. -/
theorem stops_iff {lead : Text → Text → Prop} (hlead : ∀ {t u}, lead t u → u <:+ t)
    (stops : Nat → Text → Prop) {depth fuel : Nat} {t : Text} (hnil : ¬FailsWith p (value depth []))
    (hzero : ∀ t, ¬stops 0 t)
    (hsucc : ∀ fuel t, stops (fuel + 1) t ↔ ∃ v, lead t v ∧
      (FailsWith p (value depth v) ∨ ∃ j r s, value depth v = .ok (j, r) ∧
        skipSpace r = ','.toNat :: s ∧ stops fuel (skipSpace s)))
    (hfuel : t.length ≤ fuel) :
    stops fuel t ↔ ∃ u, ValueAt lead t u ∧ FailsWith p (value depth u) := by
  constructor
  · intro h
    -- which value it is does not depend on how much fuel there was
    clear hfuel
    induction fuel generalizing t with
    | zero => exact absurd h (hzero t)
    | succ fuel ih =>
        obtain ⟨v, hv, hfails | ⟨j, r, s, hvalue, hcomma, hrest⟩⟩ := (hsucc fuel t).1 h
        · exact ⟨v, .first hv, hfails⟩
        · obtain ⟨u, hu, hfails⟩ := ih hrest
          exact ⟨u, .next hv hvalue hcomma hu, hfails⟩
  · rintro ⟨u, hu, hfails⟩
    induction hu generalizing fuel with
    | @first t u hu =>
        cases fuel with
        | zero =>
            have hle := (hlead hu).length_le.trans hfuel
            obtain rfl := List.length_eq_zero_iff.1 (Nat.le_zero.1 hle)
            exact absurd hfails hnil
        | succ fuel => exact (hsucc fuel t).2 ⟨u, hu, Or.inl hfails⟩
    | @next _ t v r s u j hv hvalue hcomma _ ih =>
        have hr : r <:+ t := (takes_value hvalue).isSuffix.trans (hlead hv)
        have hlt := length_lt_of_comma hr hcomma
        obtain ⟨fuel, rfl⟩ := Nat.exists_eq_add_of_le' (Nat.one_le_of_lt (hlt.trans_le hfuel))
        refine (hsucc fuel t).2 ⟨v, hv, ?_⟩
        -- the value before may have been read with more levels than there are now
        rcases value_of_value hvalue depth with hread | hread
        · exact Or.inr ⟨j, r, s, hread, hcomma, ih (by omega) hfails⟩
        · exact Or.inl (hread ▸ failsWith_error_iff.2 hdeep)

theorem failsWith_elements_iff (depth : Nat) (t : Text) :
    FailsWith p (elements (value depth) t.length t) ↔
      ∃ u, ElementAt t u ∧ FailsWith p (value depth u) := by
  refine stops_iff hdeep suffix_of_eq (fun fuel t => FailsWith p (elements (value depth) fuel t))
    (by simp [value_nil, hp]) (by simp [elements, hp]) (fun fuel t => ?_) (Nat.le_refl _)
  rw [exists_eq_left', failsWith_elements_succ_iff hp]

theorem failsWith_members_iff (depth : Nat) (t : Text) :
    FailsWith p (members (value depth) t.length t) ↔
      ∃ u, MemberAt t u ∧ FailsWith p (value depth u) :=
  stops_iff hdeep Named.isSuffix (fun fuel t => FailsWith p (members (value depth) fuel t))
    (by simp [value_nil, hp]) (by simp [members, hp]) (failsWith_members_succ_iff hp)
    (Nat.le_refl _)

theorem failsWith_arrayBody_iff (depth : Nat) (t : Text) :
    FailsWith p (arrayBody (value depth) t) ↔
      ∃ u, ElementAt (skipSpace t) u ∧ FailsWith p (value depth u) := by
  rw [← failsWith_elements_iff hp hdeep]
  unfold arrayBody
  split
  · next hnil => simp [hnil, elements, hp]
  · next c s hs =>
    rw [hs]
    split
    · next hc =>
      rw [hc, List.length_cons, failsWith_elements_succ_iff hp, value_closing_bracket]
      simp [hp]
    · rw [failsWith_map_iff, List.length_cons]

theorem failsWith_objectBody_iff (depth : Nat) (t : Text) :
    FailsWith p (objectBody (value depth) t) ↔
      ∃ u, MemberAt (skipSpace t) u ∧ FailsWith p (value depth u) := by
  rw [← failsWith_members_iff hp hdeep]
  unfold objectBody
  split
  · next hnil => simp [hnil, members, hp]
  · next c s hs =>
    rw [hs]
    split
    · next hc =>
      -- no name begins with the brace that closes an object
      rw [hc, List.length_cons, failsWith_members_succ_iff hp]
      simp [Named, memberName]
    · rw [failsWith_map_iff, List.length_cons]

/-- What opens more containers than allowed is refused, whichever is the first too many. -/
theorem failsWith_of_opens {depth : Nat} {t : Text} (h : Opens (depth + 1) t) :
    FailsWith p (value depth t) := by
  induction depth generalizing t with
  | zero =>
      obtain ⟨c, r, rfl, hc⟩ := h.exists_eq_cons
      rw [value_zero hc]
      exact failsWith_error_iff.2 hdeep
  | succ depth ih =>
      cases h with
      | array hu h =>
          rw [value_array, failsWith_arrayBody_iff hp hdeep]
          exact ⟨_, hu, ih h⟩
      | object hu h =>
          rw [value_object, failsWith_objectBody_iff hp hdeep]
          exact ⟨_, hu, ih h⟩

/-- A scalar that is refused is not read as a part of anything, with however many levels. -/
theorem failsWith_of_comesTo {t u : Text} (h : ComesTo t u) (hu : FailsWith p (scalar u))
    (depth : Nat) : FailsWith p (value depth t) := by
  induction h generalizing depth with
  | here t =>
      cases t with
      | nil => exact absurd hu (by simp [scalar_nil, hp])
      | cons c r =>
          exact (failsWith_value_of_not_isBracket hp (not_isBracket_of_failsWith hp hu) _ r).2 hu
  | array hv _ ih =>
      cases depth with
      | zero => exact failsWith_error_iff.2 hdeep
      | succ depth =>
          rw [value_array, failsWith_arrayBody_iff hp hdeep]
          exact ⟨_, hv, ih hu depth⟩
  | object hv _ ih =>
      cases depth with
      | zero => exact failsWith_error_iff.2 hdeep
      | succ depth =>
          rw [value_object, failsWith_objectBody_iff hp hdeep]
          exact ⟨_, hv, ih hu depth⟩

/-- A value is refused in one of the ways `p` exactly where it opens a container more than allowed,
or comes to a scalar that is refused so. -/
theorem failsWith_value_iff (depth : Nat) (t : Text) :
    FailsWith p (value depth t) ↔
      Opens (depth + 1) t ∨ ∃ u, ComesTo t u ∧ FailsWith p (scalar u) := by
  constructor
  · intro h
    induction depth generalizing t with
    | zero =>
        cases t with
        | nil => exact absurd h (by simp [value_nil, hp])
        | cons c r =>
            cases hc : isBracket c with
            | true => exact Or.inl (.here hc)
            | false =>
                exact Or.inr ⟨_, .here _, (failsWith_value_of_not_isBracket hp hc 0 r).1 h⟩
    | succ depth ih =>
        cases t with
        | nil => exact absurd h (by simp [value_nil, hp])
        | cons c r =>
            cases hc : isBracket c with
            | true =>
                rcases isBracket_iff.1 hc with rfl | rfl
                · rw [value_object, failsWith_objectBody_iff hp hdeep] at h
                  obtain ⟨u, hu, hfails⟩ := h
                  rcases ih u hfails with hopens | ⟨v, hv, hscalar⟩
                  · exact Or.inl (.object hu hopens)
                  · exact Or.inr ⟨v, .object hu hv, hscalar⟩
                · rw [value_array, failsWith_arrayBody_iff hp hdeep] at h
                  obtain ⟨u, hu, hfails⟩ := h
                  rcases ih u hfails with hopens | ⟨v, hv, hscalar⟩
                  · exact Or.inl (.array hu hopens)
                  · exact Or.inr ⟨v, .array hu hv, hscalar⟩
            | false =>
                exact Or.inr ⟨_, .here _, (failsWith_value_of_not_isBracket hp hc _ r).1 h⟩
  · rintro (hopens | ⟨u, hu, hscalar⟩)
    · exact failsWith_of_opens hp hdeep hopens
    · exact failsWith_of_comesTo hp hdeep hu hscalar depth

omit hdeep in
theorem failsWith_document_iff (t : Text) (depth : Nat) :
    FailsWith p (document t depth) ↔ FailsWith p (value depth (skipSpace t)) := by
  rw [document]
  split
  · next hmark =>
    obtain ⟨r, rfl⟩ := List.head?_eq_some_iff.1 hmark
    refine iff_of_false (by simp [hp]) fun h => ?_
    have hscalar := (failsWith_value_of_not_isBracket hp (by decide) _ r).1 h
    exact absurd (numberStart_of_failsWith hp hscalar) (by decide)
  · rw [failsWith_bind_iff, or_iff_left_iff_imp]
    rintro ⟨⟨j, r⟩, -, hrest⟩
    dsimp only at hrest
    split at hrest
    · exact absurd hrest (not_failsWith_ok _)
    · exact absurd (failsWith_error_iff.1 hrest) (hp _ _)

end

/-! ## Too many levels -/

theorem numeral_ne_tooDeep (t : Text) : numeral t ≠ .error .tooDeep := by
  unfold numeral
  dsimp only
  split_ifs <;> simp

theorem scalar_ne_tooDeep (t : Text) : scalar t ≠ .error .tooDeep := by
  unfold scalar
  split
  · simp
  · exact numeral_ne_tooDeep t

/-- More than `depth` containers are open at once in the value of a text. -/
def NestsTooDeep (depth : Nat) (t : Text) : Prop := Opens (depth + 1) (skipSpace t)

theorem decode_eq_tooDeep_iff (t : Text) (depth : Nat) :
    decode t depth = .error .tooDeep ↔ NestsTooDeep depth t := by
  have hdocument : decode t depth = .error .tooDeep ↔ document t depth = .error .tooDeep := by
    unfold decode
    split <;> simp_all
  have hvalue : FailsWith (· = .tooDeep) (value depth (skipSpace t)) ↔
      Opens (depth + 1) (skipSpace t) ∨
        ∃ u, ComesTo (skipSpace t) u ∧ FailsWith (· = .tooDeep) (scalar u) :=
    failsWith_value_iff (by simp) (by rfl) _ _
  rw [hdocument, ← failsWith_eq_iff, failsWith_document_iff (by simp), hvalue, NestsTooDeep,
    or_iff_left_iff_imp]
  rintro ⟨u, -, hscalar⟩
  exact absurd (failsWith_eq_iff.1 hscalar) (scalar_ne_tooDeep u)

theorem NestsTooDeep.of_le {depth depth' : Nat} (hle : depth ≤ depth') {t : Text}
    (h : NestsTooDeep depth' t) : NestsTooDeep depth t := by
  rw [← decode_eq_tooDeep_iff] at h ⊢
  rcases sameUnless_decode hle t with hdeep | hsame
  · exact hdeep
  · exact hsame.symm.trans h

/-! ## How many brackets it takes -/

theorem ElementAt.isSuffix {t u : Text} (h : ElementAt t u) : u <:+ t :=
  ValueAt.isSuffix suffix_of_eq h

theorem MemberAt.isSuffix {t u : Text} (h : MemberAt t u) : u <:+ t :=
  ValueAt.isSuffix Named.isSuffix h

/-- Each container that is open has a bracket of its own. -/
theorem Opens.le_countP {n : Nat} {t : Text} (h : Opens n t) : n ≤ t.countP isBracket := by
  induction h with
  | here hc => simp [hc]
  | @array n r u hu _ ih =>
      have hle : u.countP isBracket ≤ r.countP isBracket :=
        (hu.isSuffix.trans (skipSpace_isSuffix r)).sublist.countP_le
      rw [List.countP_cons_of_pos (by decide)]
      omega
  | @object n r u hu _ ih =>
      have hle : u.countP isBracket ≤ r.countP isBracket :=
        (hu.isSuffix.trans (skipSpace_isSuffix r)).sublist.countP_le
      rw [List.countP_cons_of_pos (by decide)]
      omega

/-- A text with no more brackets than levels is never refused for its depth, whatever else is in
it. -/
theorem not_nestsTooDeep {depth : Nat} {t : Text} (h : t.countP isBracket ≤ depth) :
    ¬NestsTooDeep depth t := by
  intro hdeep
  have hle := hdeep.le_countP.trans (skipSpace_isSuffix t).sublist.countP_le
  omega

theorem opens_replicate (n : Nat) : Opens (n + 1) (List.replicate (n + 1) '['.toNat) := by
  induction n with
  | zero => exact .here (by decide)
  | succ n ih => exact .array (.first rfl) ih

theorem nestsTooDeep_replicate (depth : Nat) :
    NestsTooDeep depth (List.replicate (depth + 1) '['.toNat) :=
  opens_replicate depth

end FilmQuery.Json
