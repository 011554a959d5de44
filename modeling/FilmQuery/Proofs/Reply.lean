import FilmQuery.Proofs.Number.Digits
import FilmQuery.Proofs.Text
import FilmQuery.Reply

/-!
# One line for each row

A reply has one line for each row as long as no text that a line shows has a line feed in it. Numbers
have none, and inside a container a line feed is escaped; only a text that is shown by itself is
shown as it is. These are the titles, years, ids and ratings, and the names in the three lists.
-/

namespace FilmQuery

/-! ## Numbers have no line feed -/

namespace Text

theorem lineFeed_not_mem_ofNat (n : ℕ) : 10 ∉ ofNat n := fun h =>
  absurd (isAsciiDigit_of_mem_ofNat h) (by decide)

theorem lineFeed_not_mem_ofInt (i : ℤ) : 10 ∉ ofInt i := by
  unfold ofInt
  split_ifs
  · exact List.not_mem_cons_of_ne_of_not_mem (by decide) (lineFeed_not_mem_ofNat _)
  · exact lineFeed_not_mem_ofNat _

end Text

namespace Binary64

theorem lineFeed_not_mem_positional {digits : Text} (h : 10 ∉ digits) (point : ℤ) :
    10 ∉ positional digits point := by
  have htake : ∀ k, 10 ∉ digits.take k := fun k hmem => h (List.mem_of_mem_take hmem)
  have hdrop : ∀ k, 10 ∉ digits.drop k := fun k hmem => h (List.mem_of_mem_drop hmem)
  unfold positional
  split_ifs
  · simp [lit, h]
  · dsimp only
    split_ifs <;> simp [lit, htake, hdrop]

theorem lineFeed_not_mem_scientific {digits : Text} (h : 10 ∉ digits) (e : ℤ) :
    10 ∉ scientific digits e := by
  have htake : 10 ∉ digits.take 1 := fun hmem => h (List.mem_of_mem_take hmem)
  have hdrop : 10 ∉ digits.tail := fun hmem => h (List.mem_of_mem_tail hmem)
  have he := Text.lineFeed_not_mem_ofNat e.natAbs
  unfold scientific
  dsimp only
  split_ifs <;> simp [lit, htake, hdrop, he]

theorem lineFeed_not_mem_display (x : Binary64) : 10 ∉ x.display := by
  have hpositive : ∀ m q, 10 ∉ displayPositive m q := by
    intro m q
    unfold displayPositive
    dsimp only
    split_ifs
    · exact lineFeed_not_mem_positional (Text.lineFeed_not_mem_ofNat _) _
    · exact lineFeed_not_mem_scientific (Text.lineFeed_not_mem_ofNat _) _
  cases x with
  | nan => decide
  | infinite negative => cases negative <;> decide
  | finite negative m q =>
      rw [display]
      split_ifs <;> simp [lit, hpositive]

theorem lineFeed_not_mem_literal (x : Binary64) : 10 ∉ x.literal := by
  unfold literal
  split_ifs
  · exact Text.lineFeed_not_mem_ofInt _
  · exact lineFeed_not_mem_display x

end Binary64

/-! ## Quoted texts have none -/

theorem lineFeed_not_mem_hexDigits (n value : ℕ) : 10 ∉ hexDigits n value := by
  have hdigit : ∀ d < 16, (Nat.digitChar d).toNat ≠ 10 := by decide
  induction n generalizing value with
  | zero => exact List.not_mem_nil
  | succ n ih =>
      rw [hexDigits, List.mem_append, List.mem_singleton, not_or]
      exact ⟨ih _, (hdigit _ (Nat.mod_lt _ (by decide))).symm⟩

namespace Text

theorem lineFeed_not_mem_quotedPoint {q : CodePoint} (hq : q ≠ 10) (c : CodePoint) :
    10 ∉ quotedPoint q c := by
  unfold quotedPoint
  split_ifs with hescaped htab hfeed
  · rcases hescaped with rfl | rfl
    · simpa using hq.symm
    · decide
  · decide
  · decide
  · decide
  · exact fun hmem => hfeed (List.mem_singleton.1 hmem).symm
  all_goals simp [lit, lineFeed_not_mem_hexDigits]

theorem lineFeed_not_mem_quoted (t : Text) : 10 ∉ quoted t := by
  have hquote : quoteOf t ≠ 10 := by
    unfold quoteOf
    split_ifs <;> decide
  simp [quoted, hquote.symm, lineFeed_not_mem_quotedPoint hquote]

end Text

/-! ## Only texts that are shown by themselves have one -/

namespace Json

theorem lineFeed_not_mem_displayNumber (n : Number) : 10 ∉ displayNumber n := by
  cases n with
  | int i => exact Text.lineFeed_not_mem_ofInt i
  | real x => exact x.lineFeed_not_mem_display

theorem lineFeed_not_mem_comma : 10 ∉ lit ", " := by decide

mutual

/-- Inside a container no text is shown as it is. -/
theorem lineFeed_not_mem_nested : (j : Json) → 10 ∉ nested j
  | .null => by decide
  | .bool true => by decide
  | .bool false => by decide
  | .number n => lineFeed_not_mem_displayNumber n
  | .string t => Text.lineFeed_not_mem_quoted t
  | .array items => by
      have hjoin := Text.not_mem_join lineFeed_not_mem_comma (lineFeed_not_mem_nestedItems items)
      simp only [nested, List.mem_append, not_or]
      exact ⟨⟨by decide, hjoin⟩, by decide⟩
  | .object entries => by
      have hjoin := Text.not_mem_join lineFeed_not_mem_comma (lineFeed_not_mem_nestedEntries entries)
      simp only [nested, List.mem_append, not_or]
      exact ⟨⟨by decide, hjoin⟩, by decide⟩

theorem lineFeed_not_mem_nestedItems : (js : List Json) → ∀ t ∈ nestedItems js, 10 ∉ t
  | [] => fun _ ht => nomatch ht
  | j :: js => List.forall_mem_cons.2 ⟨lineFeed_not_mem_nested j, lineFeed_not_mem_nestedItems js⟩

theorem lineFeed_not_mem_nestedEntries :
    (entries : List (Text × Json)) → ∀ t ∈ nestedEntries entries, 10 ∉ t
  | [] => fun _ ht => nomatch ht
  | (k, j) :: rest => by
      have hentry : 10 ∉ k.quoted ++ lit ": " ++ nested j := by
        simp [lit, k.lineFeed_not_mem_quoted, lineFeed_not_mem_nested j]
      exact List.forall_mem_cons.2 ⟨hentry, lineFeed_not_mem_nestedEntries rest⟩

end

/-- A value that is shown has a line feed only if it is a text that has one. -/
theorem lineFeed_mem_display_iff {j : Json} : 10 ∈ j.display ↔ ∃ t, j = .string t ∧ 10 ∈ t := by
  cases j with
  | string t => simp [display]
  | null | bool _ | number _ | array _ | object _ =>
      simp only [reduceCtorEq, false_and, exists_false, iff_false]
      exact lineFeed_not_mem_nested _

end Json

namespace Reply

/-! ## The parts of a line -/

theorem lineFeed_mem_scalar_iff {value : Option Json} :
    10 ∈ scalar value ↔ ∃ t, value = some (.string t) ∧ 10 ∈ t := by
  unfold scalar
  split
  · simp [lit]
  · simp [lit]
  · simp [Binary64.lineFeed_not_mem_literal]
  · rw [Json.lineFeed_mem_display_iff]
    simp

theorem lineFeed_mem_names_iff {items : Option Json} {key : Text} :
    10 ∈ names items key ↔ ∃ js j t, items = some (.array js) ∧ j ∈ js ∧
      j.field? key = some (.string t) ∧ 10 ∈ t := by
  unfold names
  split
  · next js =>
    rw [Text.mem_join_iff Json.lineFeed_not_mem_comma]
    constructor
    · rintro ⟨t, ht, hfeed⟩
      obtain ⟨j, hj, hname⟩ := List.mem_filterMap.1 ht
      split at hname
      · cases hname
      · cases hname
      · next value _ hvalue =>
        obtain rfl := Option.some.inj hname
        obtain ⟨t, rfl, hfeed⟩ := Json.lineFeed_mem_display_iff.1 hfeed
        exact ⟨js, j, t, rfl, hj, hvalue, hfeed⟩
    · rintro ⟨_, j, t, ⟨⟩, hj, hname, hfeed⟩
      exact ⟨t, List.mem_filterMap.2 ⟨j, hj, by rw [hname]; rfl⟩, hfeed⟩
  · next hnone =>
    refine ⟨fun hfeed => absurd hfeed List.not_mem_nil, ?_⟩
    rintro ⟨js, _, _, rfl, -⟩
    exact absurd rfl (hnone js)

/-- The keys whose values a line shows by themselves. -/
def scalarKeys : List Text := [lit "title", lit "year", lit "ids", lit "rating"]

/-- The keys of the lists that a line shows, each with the key of the names in it. -/
def listKeys : List (Text × Text) :=
  [(lit "directors", lit "name"), (lit "genres", lit "type"), (lit "actors", lit "name")]

/-- A text with a line feed stands in one of the places that a line shows. -/
def Breaks (row : Row) : Prop :=
  (∃ key ∈ scalarKeys, ∃ t, row.lookup key = some (.string t) ∧ 10 ∈ t) ∨
    ∃ keys ∈ listKeys, ∃ js j t, row.lookup keys.1 = some (.array js) ∧ j ∈ js ∧
      j.field? keys.2 = some (.string t) ∧ 10 ∈ t

theorem lineFeed_mem_optional_iff {label t : Text} (hlabel : 10 ∉ label) :
    10 ∈ optional label t ↔ 10 ∈ t := by
  have hseparator : 10 ∉ separator := by decide
  unfold optional
  cases t <;> simp [hlabel, hseparator]

theorem lineFeed_mem_line_iff {row : Row} : 10 ∈ line row ↔ Breaks row := by
  have hseparator : 10 ∉ separator := by decide
  have hlit : ∀ s ∈ [lit "- ", lit " (", lit ") [id: ", lit "]", lit "directors: ",
      lit "rating: ", lit "genres: ", lit "actors: "], 10 ∉ s := by decide
  simp only [List.forall_mem_cons, List.not_mem_nil, false_imp_iff, implies_true, and_true] at hlit
  simp only [line, List.mem_append, lineFeed_mem_scalar_iff, lineFeed_mem_names_iff,
    lineFeed_mem_optional_iff, hlit, hseparator, not_false_eq_true, false_or, or_false]
  simp only [Breaks, scalarKeys, listKeys, List.mem_cons, List.not_mem_nil, or_false,
    exists_eq_or_imp, exists_eq_left]
  -- the seven places, in the order of the line and in that of the keys
  apply iff_of_eq
  ac_rfl

/-- **One line for each row, exactly where nothing breaks one.** Split at its line feeds, the reply
to one row or more gives the lines of the rows in their order if and only if no row has a text with
a line feed in one of the places that are shown. -/
theorem splitOn_ofRows_iff {rows : List Row} (hne : rows ≠ []) :
    Text.splitOn 10 (ofRows (some rows)) = rows.map line ↔ ∀ row ∈ rows, ¬Breaks row := by
  have hreply : ofRows (some rows) = Text.join [10] (rows.map line) := by
    cases rows with
    | nil => exact absurd rfl hne
    | cons row rows => rfl
  rw [hreply, Text.splitOn_join_eq_self_iff (by simpa using hne), List.forall_mem_map]
  simp only [lineFeed_mem_line_iff]

/-- A line feed inside a container breaks no line, nor does one in a value that is not shown. -/
theorem splitOn_ofRows_nested :
    let rows : List Row := [[(lit "title", .array [.string (lit "a\nb")])],
      [(lit "title", .string (lit "c")), (lit "plot", .string (lit "d\ne"))]]
    rows ≠ [] ∧ (∀ row ∈ rows, ¬Breaks row) ∧
      Text.splitOn 10 (ofRows (some rows)) =
        [lit "- ['a\\nb'] (n/a) [id: n/a] — directors:  — rating: n/a",
          lit "- c (n/a) [id: n/a] — directors:  — rating: n/a"] := by
  intro rows
  have hne : rows ≠ [] := List.cons_ne_nil _ _
  have hbreaks : ∀ row ∈ rows, ¬Breaks row := by
    simp only [← lineFeed_mem_line_iff]
    decide
  refine ⟨hne, hbreaks, ((splitOn_ofRows_iff hne).2 hbreaks).trans ?_⟩
  decide

/-- A title with a line feed takes two lines. -/
theorem exists_row_of_two_lines :
    ∃ rows : List Row, rows ≠ [] ∧ Text.splitOn 10 (ofRows (some rows)) ≠ rows.map line ∧
      (Text.splitOn 10 (ofRows (some rows))).length ≠ rows.length :=
  ⟨[[(lit "title", .string (lit "a\nb"))]], by decide, by decide, by decide⟩

end Reply

end FilmQuery
