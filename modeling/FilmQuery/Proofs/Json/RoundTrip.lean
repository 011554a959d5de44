import FilmQuery.Json.Encode
import FilmQuery.Proofs.Json.Depth
import FilmQuery.Proofs.Text

/-!
# Reading what was written

A text is written in ASCII, one code point after the other, and is read back as it was if it holds
no lone surrogate: a pair of these would come back as the one code point that they stand for. A
value is read back if the reader takes its text and leaves whatever follows; so is an object whose
names are distinct and whose values are read back.
-/

namespace FilmQuery

namespace Json

/-! ## Escapes -/

theorem hexDigit_lt : ∀ n < 16, (Nat.digitChar n).toNat < 0x80 := by decide

theorem hexValue?_hexDigit : ∀ n < 16, hexValue? (Nat.digitChar n).toNat = some n := by decide

theorem isAscii_hexDigits (n value : Nat) : (hexDigits n value).IsAscii := by
  induction n generalizing value with
  | zero =>
      intro c hc
      cases hc
  | succ n ih =>
      rw [hexDigits]
      apply (ih (value / 16)).append
      intro c hc
      rw [List.mem_singleton.1 hc]
      exact hexDigit_lt _ (Nat.mod_lt _ (by decide))

theorem isAscii_unitEscape (u : Nat) : (unitEscape u).IsAscii := by
  have hmark : (lit "\\u").IsAscii := by decide
  exact hmark.append (isAscii_hexDigits 4 u)

/-- The ways in which a code point is written inside a string. -/
inductive Written (c : CodePoint) : Text → Prop where
  | short {e : Nat} (he : shortEscape? e = some c) (hunit : e ≠ 'u'.toNat) (hascii : e < 0x80) :
      Written c ['\\'.toNat, e]
  | raw (hspace : 0x20 ≤ c) (hascii : c < 0x7F) (hquote : c ≠ '"'.toNat)
      (hback : c ≠ '\\'.toNat) : Written c [c]
  | unit (hc : c < 0x10000) : Written c (unitEscape c)
  | pair (hc : 0x10000 ≤ c) :
      Written c (unitEscape (0xD800 + (c - 0x10000) / 0x400) ++
        unitEscape (0xDC00 + (c - 0x10000) % 0x400))

theorem written_encodePoint (c : Nat) : Written c (encodePoint c) := by
  rw [encodePoint]
  -- the cases are in the order in which the writer tries them
  by_cases hquote : c = '"'.toNat
  · rw [if_pos hquote]
    exact .short (e := '"'.toNat) (by rw [hquote]; rfl) (by decide) (by decide)
  rw [if_neg hquote]
  by_cases hback : c = '\\'.toNat
  · rw [if_pos hback]
    exact .short (e := '\\'.toNat) (by rw [hback]; rfl) (by decide) (by decide)
  rw [if_neg hback]
  by_cases hb : c = 8
  · rw [if_pos hb]
    exact .short (e := 'b'.toNat) (by rw [hb]; rfl) (by decide) (by decide)
  rw [if_neg hb]
  by_cases ht : c = 9
  · rw [if_pos ht]
    exact .short (e := 't'.toNat) (by rw [ht]; rfl) (by decide) (by decide)
  rw [if_neg ht]
  by_cases hn : c = 10
  · rw [if_pos hn]
    exact .short (e := 'n'.toNat) (by rw [hn]; rfl) (by decide) (by decide)
  rw [if_neg hn]
  by_cases hf : c = 12
  · rw [if_pos hf]
    exact .short (e := 'f'.toNat) (by rw [hf]; rfl) (by decide) (by decide)
  rw [if_neg hf]
  by_cases hr : c = 13
  · rw [if_pos hr]
    exact .short (e := 'r'.toNat) (by rw [hr]; rfl) (by decide) (by decide)
  rw [if_neg hr]
  by_cases hraw : 0x20 ≤ c ∧ c < 0x7F
  · rw [if_pos hraw]
    exact .raw hraw.1 hraw.2 hquote hback
  rw [if_neg hraw]
  by_cases hunit : c < 0x10000
  · rw [if_pos hunit]
    exact .unit hunit
  · rw [if_neg hunit]
    exact .pair (Nat.le_of_not_lt hunit)

theorem Written.isAscii {c : CodePoint} {t : Text} (h : Written c t) : t.IsAscii := by
  cases h with
  | short _ _ hascii =>
      intro d hd
      rcases List.mem_cons.1 hd with rfl | hd
      · decide
      · rwa [List.mem_singleton.1 hd]
  | raw _ hascii _ _ =>
      intro d hd
      rw [List.mem_singleton.1 hd]
      exact Nat.lt_succ_of_lt hascii
  | unit _ => exact isAscii_unitEscape c
  | pair _ => exact (isAscii_unitEscape _).append (isAscii_unitEscape _)

/-- The four digits of an escaped unit spell it. -/
theorem exists_hexDigits_four {u : Nat} (hu : u < 0x10000) :
    ∃ a b c d, hexDigits 4 u = [a, b, c, d] ∧ hexUnit? a b c d = some u := by
  have hdigit : ∀ v : Nat, hexValue? (Nat.digitChar (v % 16)).toNat = some (v % 16) :=
    fun v => hexValue?_hexDigit _ (Nat.mod_lt _ (by decide))
  refine ⟨_, _, _, _, rfl, ?_⟩
  simp only [hexUnit?, hdigit, bind, Option.bind_some, pure, Option.some.injEq]
  omega

theorem backslash_ne_quote : '\\'.toNat ≠ '"'.toNat := by decide

/-- An escaped unit is read as one, if something follows it. -/
theorem pieces_unitEscape {u : Nat} (hu : u < 0x10000) (start t : Text) (next : CodePoint) :
    pieces start (unitEscape u ++ next :: t) =
      (pieces start (next :: t)).map fun (ps, r) => (.unit u :: ps, r) := by
  obtain ⟨a, b, c, d, hdigits, hunit⟩ := exists_hexDigits_four hu
  have htext : unitEscape u ++ next :: t =
      '\\'.toNat :: 'u'.toNat :: a :: b :: c :: d :: next :: t := by
    rw [unitEscape, hdigits]
    rfl
  rw [htext, pieces.eq_def]
  simp only [hunit, if_neg backslash_ne_quote, if_true]

/-- A unit that begins no pair stands for itself. -/
theorem spelled_unit {u : Nat} (hu : isHighSurrogate u = false) (ps : List Piece) :
    spelled (.unit u :: ps) = u :: spelled ps := by
  cases ps with
  | nil => rfl
  | cons p ps =>
      cases p with
      | raw c => rfl
      | unit v => simp [spelled, hu]

theorem spelled_surrogates {u v : Nat} (hu : isHighSurrogate u = true)
    (hv : isLowSurrogate v = true) (ps : List Piece) :
    spelled (.unit u :: .unit v :: ps) = joinSurrogates u v :: spelled ps := by
  simp [spelled, hu, hv]

/-- The two units of a code point beyond U+FFFF spell it. -/
theorem spelled_pair {c : Nat} (hc : 0x10000 ≤ c) (hmax : c < 0x110000) (ps : List Piece) :
    spelled (.unit (0xD800 + (c - 0x10000) / 0x400) ::
      .unit (0xDC00 + (c - 0x10000) % 0x400) :: ps) = c :: spelled ps := by
  have hjoin : 0x10000 + (0xD800 + (c - 0x10000) / 0x400 - 0xD800) * 0x400 +
      (0xDC00 + (c - 0x10000) % 0x400 - 0xDC00) = c := by omega
  rw [spelled_surrogates]
  · exact congrArg (· :: spelled ps) hjoin
  · simp only [isHighSurrogate, Bool.and_eq_true, decide_eq_true_eq]
    omega
  · simp only [isLowSurrogate, Bool.and_eq_true, decide_eq_true_eq]
    omega

/-- What a code point is written as is read as pieces that spell it. -/
theorem Written.exists_pieces {c : CodePoint} (hc : isScalar c = true) {w : Text}
    (h : Written c w) :
    ∃ ps, (∀ qs, spelled (ps ++ qs) = c :: spelled qs) ∧ ∀ start next t,
      pieces start (w ++ next :: t) =
        (pieces start (next :: t)).map fun (qs, r) => (ps ++ qs, r) := by
  cases h with
  | @short e he hunit hascii =>
      refine ⟨[.raw c], fun qs => rfl, ?_⟩
      intro start next t
      rw [List.cons_append, List.cons_append, List.nil_append, pieces.eq_def]
      simp only [he, if_neg backslash_ne_quote, if_true, if_neg hunit]
      rfl
  | raw hspace hascii hquote hback =>
      refine ⟨[.raw c], fun qs => rfl, ?_⟩
      intro start next t
      rw [List.cons_append, List.nil_append, pieces.eq_def]
      simp only [if_neg hquote, if_neg hback, if_neg (Nat.not_lt.2 hspace)]
      rfl
  | unit hunit =>
      rw [Text.isScalar_iff] at hc
      have hsingle : isHighSurrogate c = false := by
        simp only [isHighSurrogate, Bool.and_eq_false_iff, decide_eq_false_iff_not]
        omega
      exact ⟨[.unit c], spelled_unit hsingle, fun start next t => pieces_unitEscape hunit start t next⟩
  | pair hpair =>
      rw [Text.isScalar_iff] at hc
      refine ⟨[.unit _, .unit _], spelled_pair hpair hc.1, ?_⟩
      intro start next t
      -- the first escape is read since something follows it, namely the second
      obtain ⟨first, rest, hlow⟩ : ∃ first rest,
          unitEscape (0xDC00 + (c - 0x10000) % 0x400) ++ next :: t = first :: rest := ⟨_, _, rfl⟩
      rw [List.append_assoc, hlow, pieces_unitEscape (by omega), ← hlow,
        pieces_unitEscape (by omega)]
      cases pieces start (next :: t) <;> rfl

/-! ## Strings -/

/-- A text between quotes is read back, unless it holds a lone surrogate. -/
theorem exists_pieces_flatMap {t : Text} (ht : t.isWellFormed = true) :
    ∃ ps, spelled ps = t ∧ ∀ start r,
      pieces start (t.flatMap encodePoint ++ '"'.toNat :: r) = .ok (ps, r) := by
  induction t with
  | nil =>
      refine ⟨[], rfl, ?_⟩
      intro start r
      rw [List.flatMap_nil, List.nil_append, pieces.eq_def]
      rfl
  | cons c t ih =>
      obtain ⟨hc, ht⟩ : isScalar c = true ∧ Text.isWellFormed t = true := by
        simpa [Text.isWellFormed] using ht
      obtain ⟨qs, hqs, hrest⟩ := ih ht
      obtain ⟨ps, hps, hpieces⟩ := (written_encodePoint c).exists_pieces hc
      refine ⟨ps ++ qs, by rw [hps, hqs], ?_⟩
      intro start r
      obtain ⟨next, u, hnext⟩ : ∃ next u,
          t.flatMap encodePoint ++ '"'.toNat :: r = next :: u := by
        cases h : t.flatMap encodePoint with
        | nil => exact ⟨_, _, rfl⟩
        | cons d v => exact ⟨_, _, rfl⟩
      rw [List.flatMap_cons, List.append_assoc, hnext, hpieces, ← hnext, hrest]
      rfl

theorem stringBody_flatMap {t : Text} (ht : t.isWellFormed = true) (start r : Text) :
    stringBody start (t.flatMap encodePoint ++ '"'.toNat :: r) = .ok (t, r) := by
  obtain ⟨ps, hps, hpieces⟩ := exists_pieces_flatMap ht
  rw [stringBody, hpieces, ← hps]
  rfl

theorem encodeString_append (t r : Text) :
    encodeString t ++ r = '"'.toNat :: (t.flatMap encodePoint ++ '"'.toNat :: r) := by
  simp [encodeString, lit]

theorem isAscii_encodeString (t : Text) : (encodeString t).IsAscii := by
  have hquote : (lit "\"").IsAscii := by decide
  exact (hquote.append (Text.isAscii_flatMap fun c _ => (written_encodePoint c).isAscii)).append
    hquote

/-! ## Values -/

/-- The text of a value is read as that value, whatever follows it. -/
structure ReadsBack (depth : Nat) (j : Json) : Prop where
  noSpace : ∀ r, skipSpace (encode j ++ r) = encode j ++ r
  read : ∀ r, value depth (encode j ++ r) = .ok (j, r)

theorem skipSpace_cons {c : CodePoint} (hc : isSpace c = false) (t : Text) :
    skipSpace (c :: t) = c :: t := by
  rw [skipSpace, List.dropWhile_cons, hc]
  rfl

theorem readsBack_string (depth : Nat) {t : Text} (ht : t.isWellFormed = true) :
    ReadsBack depth (.string t) where
  noSpace r := by
    rw [encode, encodeString_append]
    exact skipSpace_cons (by decide) _
  read r := by
    rw [encode, encodeString_append, value_of_not_isBracket (by decide), if_pos rfl,
      stringBody_flatMap ht]
    rfl

theorem readsBack_bool (depth : Nat) (b : Bool) : ReadsBack depth (.bool b) := by
  cases b with
  | true =>
      refine ⟨fun r => skipSpace_cons (by decide) _, fun r => ?_⟩
      exact (value_of_not_isBracket (by decide) depth _).trans rfl
  | false =>
      refine ⟨fun r => skipSpace_cons (by decide) _, fun r => ?_⟩
      exact (value_of_not_isBracket (by decide) depth _).trans rfl

/-! ## Objects -/

/-- A name and its colon are read. -/
theorem memberName_encodeString {name : Text} (hname : name.isWellFormed = true) (t : Text) :
    memberName (encodeString name ++ lit ": " ++ t) = .ok (name, skipSpace t) := by
  rw [List.append_assoc, encodeString_append, memberName, if_pos rfl, stringBody_flatMap hname]
  rfl

section

variable {depth fuel : Nat} {name : Text} {j : Json}

/-- The last entry of an object is read. -/
theorem members_last (hname : name.isWellFormed = true) (hj : ReadsBack depth j) (r : Text) :
    members (value depth) (fuel + 1)
        (encodeString name ++ lit ": " ++ encode j ++ Braces.closing :: r) =
      .ok ([(name, j)], r) := by
  have hclose : skipSpace (Braces.closing :: r) = Braces.closing :: r :=
    skipSpace_cons (by decide) r
  rw [members, List.append_assoc _ (encode j), memberName_encodeString hname, hj.noSpace]
  simp only [bind, Except.bind, hj.read, hclose]
  rfl

/-- An entry before others is read, and then the others. -/
theorem members_comma (hname : name.isWellFormed = true) (hj : ReadsBack depth j) (t : Text) :
    members (value depth) (fuel + 1)
        (encodeString name ++ lit ": " ++ encode j ++ lit ", " ++ t) =
      (members (value depth) fuel (skipSpace t)).map fun (rest, r) => ((name, j) :: rest, r) := by
  have hcomma : skipSpace (lit ", " ++ t) = ','.toNat :: ' '.toNat :: t :=
    skipSpace_cons (by decide) _
  rw [members, List.append_assoc, List.append_assoc _ (encode j), memberName_encodeString hname,
    hj.noSpace]
  simp only [bind, Except.bind, hj.read, hcomma]
  rfl

end

/-- Entries begin with the quote of a name. -/
theorem exists_join_encodeEntries (e : Text × Json) (rest : List (Text × Json)) (r : Text) :
    ∃ u, Text.join (lit ", ") (encodeEntries (e :: rest)) ++ r = '"'.toNat :: u := by
  obtain ⟨name, j⟩ := e
  obtain ⟨u, hu⟩ := Text.exists_join_cons (lit ", ") (encodeString name ++ lit ": " ++ encode j)
    (encodeEntries rest)
  rw [encodeEntries, hu, List.append_assoc, List.append_assoc, List.append_assoc,
    encodeString_append]
  exact ⟨_, rfl⟩

/-- The entries of an object are read up to the closing brace. -/
theorem members_encodeEntries {depth fuel : Nat} {entries : List (Text × Json)}
    (hne : entries ≠ []) (hfuel : entries.length ≤ fuel)
    (hnames : ∀ e ∈ entries, Text.isWellFormed e.1 = true)
    (hvalues : ∀ e ∈ entries, ReadsBack depth e.2) (r : Text) :
    members (value depth) fuel
        (Text.join (lit ", ") (encodeEntries entries) ++ Braces.closing :: r) =
      .ok (entries, r) := by
  induction entries generalizing fuel with
  | nil => exact absurd rfl hne
  | cons e rest ih =>
      obtain ⟨name, j⟩ := e
      rw [List.forall_mem_cons] at hnames hvalues
      obtain ⟨fuel, rfl⟩ : ∃ n, fuel = n + 1 := Nat.exists_eq_succ_of_ne_zero (by
        rintro rfl
        cases hfuel)
      cases rest with
      | nil =>
          rw [encodeEntries, encodeEntries, Text.join_singleton]
          exact members_last hnames.1 hvalues.1 r
      | cons e' rest =>
          have hrest := ih (by simp) (Nat.le_of_succ_le_succ hfuel) hnames.2 hvalues.2
          have hjoin : Text.join (lit ", ") (encodeEntries ((name, j) :: e' :: rest)) =
              encodeString name ++ lit ": " ++ encode j ++ lit ", " ++
                Text.join (lit ", ") (encodeEntries (e' :: rest)) := Text.join_cons_cons _ _ _ _
          obtain ⟨u, hu⟩ := exists_join_encodeEntries e' rest (Braces.closing :: r)
          rw [hjoin, List.append_assoc, members_comma hnames.1 hvalues.1, hu,
            skipSpace_cons (by decide), ← hu, hrest]
          rfl

theorem encode_object_append (entries : List (Text × Json)) (r : Text) :
    encode (.object entries) ++ r =
      Braces.opening :: (Text.join (lit ", ") (encodeEntries entries) ++ Braces.closing :: r) := by
  rw [encode, List.append_assoc]
  rfl

theorem encodeEntries_eq_map (entries : List (Text × Json)) :
    encodeEntries entries =
      entries.map fun e => encodeString e.1 ++ lit ": " ++ encode e.2 := by
  induction entries with
  | nil => rfl
  | cons e rest ih => rw [encodeEntries, ih, List.map_cons]

theorem length_le_length_entries (entries : List (Text × Json)) :
    entries.length ≤ (Text.join (lit ", ") (encodeEntries entries)).length := by
  have hlength : (encodeEntries entries).length = entries.length := by
    rw [encodeEntries_eq_map, List.length_map]
  rw [← hlength]
  apply Text.length_le_length_join
  intro t ht
  rw [encodeEntries_eq_map, List.mem_map] at ht
  obtain ⟨e, -, rfl⟩ := ht
  simp [encodeString, lit]

/-- An object is read back if its names are distinct and its values are read back. -/
theorem readsBack_object {depth : Nat} {entries : List (Text × Json)}
    (hkeys : (entries.map Prod.fst).Nodup)
    (hnames : ∀ e ∈ entries, Text.isWellFormed e.1 = true)
    (hvalues : ∀ e ∈ entries, ReadsBack depth e.2) :
    ReadsBack (depth + 1) (.object entries) where
  noSpace r := by
    rw [encode_object_append]
    exact skipSpace_cons (by decide) _
  read r := by
    rw [encode_object_append, value_object, objectBody]
    cases entries with
    | nil => rfl
    | cons e rest =>
        obtain ⟨u, hu⟩ := exists_join_encodeEntries e rest (Braces.closing :: r)
        -- the fuel is the length of the text, and each entry takes some of it
        have hfuel : (e :: rest).length ≤ u.length + 1 := by
          have hle := length_le_length_entries (e :: rest)
          have htext := congrArg List.length hu
          rw [List.length_append, List.length_cons, List.length_cons] at htext
          omega
        have hread := members_encodeEntries (List.cons_ne_nil e rest) hfuel hnames hvalues r
        rw [hu] at hread ⊢
        rw [skipSpace_cons (by decide)]
        dsimp only
        rw [if_neg (by decide), hread]
        show Except.ok (Json.object (Entries.ofMembers (e :: rest)), r) = _
        rw [Entries.ofMembers_eq_self hkeys]

theorem isAscii_encode_object {entries : List (Text × Json)}
    (h : ∀ e ∈ entries, (encode e.2).IsAscii) : (encode (.object entries)).IsAscii := by
  have hentries : (Text.join (lit ", ") (encodeEntries entries)).IsAscii := by
    refine Text.forall_mem_join (P := (· < 0x80)) (by decide) ?_
    intro t ht
    rw [encodeEntries_eq_map, List.mem_map] at ht
    obtain ⟨e, he, rfl⟩ := ht
    exact ((isAscii_encodeString e.1).append (by decide)).append (h e he)
  rw [encode]
  exact (Text.IsAscii.append (by decide) hentries).append (by decide)

/-- What is read back is what its text says, all of it. -/
theorem decode_encode {j : Json} {depth : Nat} (h : ReadsBack depth j)
    (hascii : (encode j).IsAscii) : decode (encode j) depth = .ok j := by
  have hmark : (encode j).head? ≠ some 0xFEFF := by
    intro hhead
    exact absurd (hascii _ (List.mem_of_mem_head? hhead)) (by decide)
  have hspace := h.noSpace []
  have hread := h.read []
  rw [List.append_nil] at hspace hread
  have hdocument : document (encode j) depth = .ok j := by
    rw [document, if_neg hmark, hspace, hread]
    rfl
  rw [decode, hdocument]

end Json

end FilmQuery
