import FilmQuery.Proofs.GraphQL.Syntax
import FilmQuery.Proofs.Query.Operator
import FilmQuery.Proofs.Query.Selection
import FilmQuery.Proofs.Query.Tokens

/-!
# The query that is read back

The reader of documents recovers a query from its text: one anonymous operation with the movies as
its only field, the predicates as the entries of its argument and the selected fields in their
order. A text is read back as it was if its code points may stand in a string, where a double quote
may stand because it is escaped.
-/

namespace FilmQuery

open GraphQL

/-! ## Entries -/

namespace Predicate

/-- The entry that a predicate is read back as. -/
def entry : Predicate → Text × Value
  | ids t => (lit "ids", .string t)
  | title t => (lit "title", .string t)
  | titleContains t => (lit "title_CONTAINS", .string t)
  | director t => (lit "directors_SOME", .object [(lit "name_CONTAINS", .string t)])
  | actor t => (lit "actors_SOME", .object [(lit "name_CONTAINS", .string t)])
  | genre t => (lit "genres_SOME", .object [(lit "type_CONTAINS", .string t)])
  | rating c x => (lit "rating_" ++ c.name, .number x.literal)
  | yearFrom x => (lit "year_GTE", .number x.literal)
  | year x => (lit "year", .number x.literal)

theorem value?_string {t : Text} (h : IsPlain t) (n : Nat) (ts : List Token) :
    value? (n + 1) (.string (escapeQuotes t) :: ts) = some (.string t, ts) := by
  rw [value?, stringValue?_escapeQuotes h]
  rfl

theorem value?_number (w : Text) (n : Nat) (ts : List Token) :
    value? (n + 1) (.number w :: ts) = some (.number w, ts) := by
  rw [value?]

theorem entries?_close (close : Punctuator) (n : Nat) (ts : List Token) :
    entries? close (n + 1) (.punct close :: ts) = some ([], ts) := by
  rw [entries?, if_pos rfl]

/-- An entry whose value is read. -/
theorem entries?_named (close : Punctuator) {n : Nat} {v : Value} {us ts : List Token}
    (h : value? n us = some (v, ts)) (k : Text) :
    entries? close (n + 1) (.name k :: .punct .colon :: us) =
      (entries? close n ts).map fun (es, ts) => ((k, v) :: es, ts) := by
  rw [entries?, h]
  rfl

/-- The object with one text in it. -/
theorem value?_some {t : Text} (h : IsPlain t) (key : Text) (n : Nat) (ts : List Token) :
    value? (n + 3) (.punct .braceOpen :: .name key :: .punct .colon :: .string (escapeQuotes t) ::
      .punct .braceClose :: ts) = some (.object [(key, .string t)], ts) := by
  rw [value?, entries?_named .braceClose (value?_string h n _), entries?_close]
  rfl

/-- A predicate is read back as one entry; three calls are enough for its value. -/
theorem entries?_tokens_append {p : Predicate} (hp : ∀ t ∈ p.text?, IsPlain t)
    (close : Punctuator) {n : Nat} (hn : 3 ≤ n) (ts : List Token) :
    entries? close (n + 1) (p.tokens ++ ts) =
      (entries? close n ts).map fun (es, ts) => (p.entry :: es, ts) := by
  obtain ⟨m, rfl⟩ : ∃ m, n = m + 3 := ⟨n - 3, by omega⟩
  cases p with
  | ids t => exact entries?_named close (value?_string (hp t rfl) _ ts) _
  | title t => exact entries?_named close (value?_string (hp t rfl) _ ts) _
  | titleContains t => exact entries?_named close (value?_string (hp t rfl) _ ts) _
  | director t => exact entries?_named close (value?_some (hp t rfl) _ _ ts) _
  | actor t => exact entries?_named close (value?_some (hp t rfl) _ _ ts) _
  | genre t => exact entries?_named close (value?_some (hp t rfl) _ _ ts) _
  | rating c x => exact entries?_named close (value?_number _ _ ts) _
  | yearFrom x => exact entries?_named close (value?_number _ _ ts) _
  | year x => exact entries?_named close (value?_number _ _ ts) _

theorem three_le_length_tokens (p : Predicate) : 3 ≤ p.tokens.length := by
  cases p <;> simp [tokens, someTokens]

/-- Predicates are read back as their entries, if the calls left are more than their tokens. -/
theorem entries?_flatMap {ps : List Predicate} (hps : ∀ p ∈ ps, ∀ t ∈ p.text?, IsPlain t)
    (close : Punctuator) {n : Nat} (hn : (ps.flatMap tokens).length < n) (ts : List Token) :
    entries? close n (ps.flatMap tokens ++ .punct close :: ts) = some (ps.map entry, ts) := by
  induction ps generalizing n with
  | nil =>
      obtain ⟨m, rfl⟩ : ∃ m, n = m + 1 := ⟨n - 1, by omega⟩
      exact entries?_close close m ts
  | cons p ps ih =>
      rw [List.flatMap_cons, List.length_append] at hn
      have hlength := p.three_le_length_tokens
      obtain ⟨m, rfl⟩ : ∃ m, n = m + 1 := ⟨n - 1, by omega⟩
      have hrest := ih (fun r hr => hps r (List.mem_cons_of_mem p hr)) (n := m) (by omega)
      rw [List.flatMap_cons, List.append_assoc,
        entries?_tokens_append (hps p List.mem_cons_self) close (by omega), hrest]
      rfl

end Predicate

/-! ## Selections -/

namespace Field

/-- The selection that a field is read back as. -/
def node : Field → Selection
  | ids => .field none (lit "ids") [] []
  | title => .field none (lit "title") [] []
  | year => .field none (lit "year") [] []
  | rating => .field none (lit "rating") [] []
  | directors => .field none (lit "directors") [] [.field none (lit "name") [] []]
  | actors => .field none (lit "actors") [] [.field none (lit "name") [] []]
  | genres => .field none (lit "genres") [] [.field none (lit "type") [] []]

/-- What comes next neither goes on with a field nor opens its selections. -/
def EndsField (ts : List Token) : Prop := ∀ p us, ts = .punct p :: us → p = .braceClose

theorem endsField_close (ts : List Token) : EndsField (.punct .braceClose :: ts) := by
  intro p us h
  cases h
  rfl

theorem endsField_name (w : Text) (ts : List Token) : EndsField (.name w :: ts) := by
  intro p us h
  cases h

/-- A name that no colon follows is the name of a field. -/
theorem selection?_of_ne_colon {ts : List Token} (h : ∀ us, ts ≠ .punct .colon :: us) (w : Text)
    (n : Nat) : selection? (n + 1) (.name w :: ts) = fieldRest? none w n ts := by
  rw [selection?.eq_def]
  split
  · next hn hts =>
      cases hts
      exact absurd rfl (h _)
  · next hn hts =>
      cases hn
      cases hts
      rfl
  · next hne => exact absurd rfl (hne n w ts rfl)

/-- A name alone is a field. -/
theorem selection?_name {ts : List Token} (h : EndsField ts) (w : Text) (n : Nat) :
    selection? (n + 2) (.name w :: ts) = some (.field none w [] [], ts) := by
  rcases ts with - | ⟨t, us⟩
  · rfl
  · cases t with
    | punct p =>
        obtain rfl := h p us rfl
        simp [selection?, fieldRest?, arguments?]
    | name v => simp [selection?, fieldRest?, arguments?]
    | number v => simp [selection?, fieldRest?, arguments?]
    | string v => simp [selection?, fieldRest?, arguments?]

theorem selections?_close (n : Nat) (ts : List Token) :
    selections? (n + 1) (.punct .braceClose :: ts) = some ([], ts) := by
  rw [selections?]

theorem selections?_name (w : Text) (n : Nat) (ts : List Token) :
    selections? (n + 1) (.name w :: ts) =
      (selection? n (.name w :: ts)).bind fun (s, ts) =>
        (selections? n ts).map fun (ss, ts) => (s :: ss, ts) := by
  rw [selections?]
  simp

/-- A name with one name inside it is a field with that selection. -/
theorem selection?_inner (w inner : Text) (n : Nat) (ts : List Token) :
    selection? (n + 5) (.name w :: .punct .braceOpen :: .name inner :: .punct .braceClose :: ts) =
      some (.field none w [] [.field none inner [] []], ts) := by
  have hinner : selections? (n + 3) (.name inner :: .punct .braceClose :: ts) =
      some ([.field none inner [] []], ts) := by
    simp only [selections?_name, selection?_name (endsField_close ts), Option.bind_some,
      selections?_close, Option.map_some]
  simp [selection?, fieldRest?, arguments?, hinner]

/-- A field is read back as its selection; it takes one call more than it has tokens. -/
theorem selections?_tokens_append (f : Field) {ts : List Token} (h : EndsField ts) {n : Nat}
    (hn : f.tokens.length + 1 ≤ n) :
    selections? (n + 1) (f.tokens ++ ts) =
      (selections? n ts).map fun (ss, ts) => (f.node :: ss, ts) := by
  have hscalar : ∀ w, 2 ≤ n → selections? (n + 1) (.name w :: ts) =
      (selections? n ts).map fun (ss, ts) => (.field none w [] [] :: ss, ts) := by
    intro w hn
    obtain ⟨m, rfl⟩ : ∃ m, n = m + 2 := ⟨n - 2, by omega⟩
    rw [selections?_name, selection?_name h]
    rfl
  have hrelation : ∀ w inner, 5 ≤ n → selections? (n + 1) (.name w :: .punct .braceOpen ::
      .name inner :: .punct .braceClose :: ts) = (selections? n ts).map fun (ss, ts) =>
        (.field none w [] [.field none inner [] []] :: ss, ts) := by
    intro w inner hn
    obtain ⟨m, rfl⟩ : ∃ m, n = m + 5 := ⟨n - 5, by omega⟩
    rw [selections?_name, selection?_inner]
    rfl
  cases f with
  | ids => exact hscalar _ hn
  | title => exact hscalar _ hn
  | year => exact hscalar _ hn
  | rating => exact hscalar _ hn
  | directors => exact hrelation _ _ hn
  | actors => exact hrelation _ _ hn
  | genres => exact hrelation _ _ hn

theorem endsField_tokens (fs : List Field) (ts : List Token) :
    EndsField (fs.flatMap tokens ++ .punct .braceClose :: ts) := by
  cases fs with
  | nil => exact endsField_close ts
  | cons f fs => cases f <;> exact endsField_name _ _

/-- Fields are read back as their selections. -/
theorem selections?_flatMap (fs : List Field) {n : Nat}
    (hn : (fs.flatMap tokens).length + 2 ≤ n) (ts : List Token) :
    selections? n (fs.flatMap tokens ++ .punct .braceClose :: ts) = some (fs.map node, ts) := by
  induction fs generalizing n with
  | nil =>
      obtain ⟨m, rfl⟩ : ∃ m, n = m + 1 := ⟨n - 1, by omega⟩
      exact selections?_close m ts
  | cons f fs ih =>
      have hlength : 1 ≤ f.tokens.length := by cases f <;> decide
      rw [List.flatMap_cons, List.length_append] at hn
      obtain ⟨m, rfl⟩ : ∃ m, n = m + 1 := ⟨n - 1, by omega⟩
      rw [List.flatMap_cons, List.append_assoc,
        selections?_tokens_append f (endsField_tokens fs ts) (by omega), ih (n := m) (by omega)]
      rfl

end Field

/-! ## The whole document -/

namespace Query

/-- The argument with the given entries, if there are any. -/
def whereArguments : List (Text × Value) → List (Text × Value)
  | [] => []
  | entries => [(lit "where", .object entries)]

/-- The argument that a query is read back with. -/
def arguments (q : Query) : List (Text × Value) :=
  whereArguments (q.predicates.map Predicate.entry)

theorem arguments?_tokens {q : Query} (hq : ∀ p ∈ q.predicates, ∀ t ∈ p.text?, IsPlain t)
    {n : Nat} (hn : q.argumentTokens.length ≤ n) (ts : List Token) :
    arguments? n (q.argumentTokens ++ .punct .braceOpen :: ts) =
      some (q.arguments, .punct .braceOpen :: ts) := by
  unfold argumentTokens arguments at *
  cases hps : q.predicates with
  | nil => rfl
  | cons p ps =>
      rw [hps] at hn hq
      simp only [List.length_append, List.length_cons, List.length_nil] at hn
      obtain ⟨m, rfl⟩ : ∃ m, n = m + 3 := ⟨n - 3, by omega⟩
      have hentries := Predicate.entries?_flatMap hq .braceClose (n := m + 1) (by omega)
        (.punct .parenClose :: .punct .braceOpen :: ts)
      have hobject : value? (m + 2) (.punct .braceOpen :: ((p :: ps).flatMap Predicate.tokens ++
          .punct .braceClose :: .punct .parenClose :: .punct .braceOpen :: ts)) =
          some (.object ((p :: ps).map Predicate.entry),
            .punct .parenClose :: .punct .braceOpen :: ts) := by
        rw [value?, hentries]
        rfl
      have hwhere := Predicate.entries?_named .parenClose hobject (lit "where")
      rw [Predicate.entries?_close] at hwhere
      simp only [List.append_assoc, List.cons_append, List.nil_append]
      rw [arguments?, hwhere]
      rfl

/-- What comes after the name of the field: its argument and its selections. -/
theorem fieldRest?_tokens {q : Query} (hq : ∀ p ∈ q.predicates, ∀ t ∈ p.text?, IsPlain t)
    (hselection : q.selection ≠ []) {n : Nat}
    (hn : q.argumentTokens.length + (q.selection.flatMap Field.tokens).length + 2 ≤ n)
    (w : Text) (ts : List Token) :
    fieldRest? none w (n + 1) (q.argumentTokens ++ .punct .braceOpen ::
        (q.selection.flatMap Field.tokens ++ .punct .braceClose :: ts)) =
      some (.field none w q.arguments (q.selection.map Field.node), ts) := by
  have hargument := arguments?_tokens hq (n := n) (by omega)
    (q.selection.flatMap Field.tokens ++ .punct .braceClose :: ts)
  have hselections := Field.selections?_flatMap q.selection (n := n) (by omega) ts
  have hne : (q.selection.map Field.node).isEmpty = false := by simpa using hselection
  rw [fieldRest?, hargument, Option.bind_some]
  simp only [hselections, Option.bind_some, hne, Bool.false_eq_true, if_false]

/-- The tokens of a query are read back as one anonymous operation. -/
theorem operations?_tokens {q : Query} (hq : ∀ p ∈ q.predicates, ∀ t ∈ p.text?, IsPlain t)
    (hselection : q.selection ≠ []) :
    operations? (q.tokens.length + 1) q.tokens =
      some [⟨.query, none,
        [.field none (lit "movies") q.arguments (q.selection.map Field.node)]⟩] := by
  have htokens : q.tokens = .name (lit "query") :: .punct .braceOpen :: .name (lit "movies") ::
      (q.argumentTokens ++ .punct .braceOpen :: (q.selection.flatMap Field.tokens ++
        .punct .braceClose :: [.punct .braceClose])) := by
    simp [tokens]
  -- the name of the field is not a label, since no colon follows it
  have hcolon : ∀ us, q.argumentTokens ++ .punct .braceOpen ::
      (q.selection.flatMap Field.tokens ++ .punct .braceClose :: [.punct .braceClose]) ≠
        .punct .colon :: us := by
    intro us
    unfold argumentTokens
    cases q.predicates <;> simp
  -- three calls lead to the field, and what is left suffices for its parts
  obtain ⟨m, hm, hcalls⟩ : ∃ m, q.tokens.length = m + 3 ∧
      q.argumentTokens.length + (q.selection.flatMap Field.tokens).length + 2 ≤ m := by
    simp only [tokens, List.length_append, List.length_cons, List.length_nil]
    exact ⟨q.argumentTokens.length + (q.selection.flatMap Field.tokens).length + 3, by omega,
      by omega⟩
  have hfield := fieldRest?_tokens hq hselection hcalls (lit "movies") [.punct .braceClose]
  have hkind : kind? (lit "query") = some .query := by decide
  rw [hm, htokens, operations?]
  · simp only [operation?, hkind, Option.bind_some, operationRest?, Field.selections?_name,
      Field.selection?_of_ne_colon hcolon, hfield, Field.selections?_close, Option.map_some]
    rfl
  · simp

end Query

/-! ## What an intent asks for -/

namespace Filters

/-- An exact title stands in front of a part of the title. -/
def titleKey (f : Filters) : Text :=
  if isOpen f.titleExact then lit "title_CONTAINS" else lit "title"

/-- The word for the operator is part of the key. -/
def ratingKey (f : Filters) : Text := lit "rating_" ++ operatorWord (f.rating.bind Rating.op)

/-- An object with one text in it. -/
def textObject (key : String) (t : Text) : Value := .object [(lit key, .string t)]

/-- The keys in their order, each with the value that its slot calls for. -/
def slots (f : Filters) : List (Text × Option Value) :=
  [(lit "ids", (setText? f.ids).map .string),
    (f.titleKey, ((setText? f.titleExact).or (setText? f.title)).map .string),
    (lit "directors_SOME", (setText? f.director).map (textObject "name_CONTAINS")),
    (lit "actors_SOME", (setText? f.actor).map (textObject "name_CONTAINS")),
    (lit "genres_SOME", (setText? f.genre).map (textObject "type_CONTAINS")),
    (f.ratingKey, (f.rating.bind fun r => r.value.finite?).map fun x => .number x.literal),
    (lit "year_GTE", f.yearFrom.finite?.map fun x => .number x.literal),
    (lit "year", f.year.finite?.map fun x => .number x.literal)]

/-- The entries of the slots that are set and usable. -/
def whereEntries (f : Filters) : List (Text × Value) :=
  f.slots.filterMap fun (key, value?) => value?.map fun v => (key, v)

theorem map_entry_titlePredicate? (f : Filters) :
    f.titlePredicate?.map Predicate.entry =
      ((setText? f.titleExact).or (setText? f.title)).map fun t => (f.titleKey, .string t) := by
  have hexact := isSome_setText? f.titleExact
  unfold titlePredicate? titleKey
  cases hset : setText? f.titleExact with
  | none =>
      have hopen : isOpen f.titleExact = true := by simpa [hset] using hexact
      simp only [hopen, if_true, Option.none_or, Option.map_map]
      rfl
  | some t =>
      have hopen : isOpen f.titleExact = false := by simpa [hset] using hexact
      simp only [hopen, Bool.false_eq_true, if_false, Option.some_or, Option.map_some]
      rfl

theorem map_entry_rating (f : Filters) :
    (f.rating.bind Rating.predicate?).map Predicate.entry =
      (f.rating.bind fun r => r.value.finite?).map fun x => (f.ratingKey, .number x.literal) := by
  unfold ratingKey
  cases f.rating with
  | none => rfl
  | some r =>
      rw [Option.bind_some, Option.bind_some, Option.bind_some, ← r.name_comparison,
        Rating.predicate?, Option.map_map]
      rfl

theorem map_entry_predicates (f : Filters) :
    f.predicates.map Predicate.entry = f.whereEntries := by
  have hslots : f.whereEntries =
      (f.slots.map fun slot => slot.2.map fun v => (slot.1, v)).filterMap id := by
    rw [List.filterMap_map]
    rfl
  rw [map_predicates, map_entry_titlePredicate?, map_entry_rating, hslots, slots]
  simp only [List.map_cons, List.map_nil, Option.map_map]
  rfl

/-- Each key occurs once at most, and in the order of the slots. -/
theorem keys_sublist_slots (f : Filters) :
    (f.whereEntries.map Prod.fst).Sublist (f.slots.map Prod.fst) := by
  unfold whereEntries
  induction f.slots with
  | nil => simp
  | cons slot slots ih =>
      obtain ⟨key, value?⟩ := slot
      cases value? with
      | none => exact ih.cons key
      | some v => exact ih.cons_cons key

theorem nodup_slots (f : Filters) : (f.slots.map Prod.fst).Nodup := by
  have hall : ∀ title ∈ [lit "title", lit "title_CONTAINS"], ∀ word ∈ operators,
      [lit "ids", title, lit "directors_SOME", lit "actors_SOME", lit "genres_SOME",
        lit "rating_" ++ word, lit "year_GTE", lit "year"].Nodup := by decide
  have htitle : f.titleKey ∈ [lit "title", lit "title_CONTAINS"] := by
    unfold titleKey
    split <;> decide
  exact hall f.titleKey htitle _ (operatorWord_mem _)

/-- No entry is called for exactly if no text and no number is used. -/
theorem whereEntries_eq_nil_iff (f : Filters) :
    f.whereEntries = [] ↔ f.usedTexts = [] ∧ f.usedNumbers = [] := by
  rw [← map_entry_predicates, ← predicates_texts, ← predicates_numbers, List.map_eq_nil_iff]
  constructor
  · intro hnil
    rw [hnil]
    exact ⟨rfl, rfl⟩
  · rintro ⟨htexts, hnumbers⟩
    cases hps : f.predicates with
    | nil => rfl
    | cons p ps =>
        rw [hps, List.filterMap_eq_nil_iff] at htexts hnumbers
        have htext := htexts p List.mem_cons_self
        have hnumber := hnumbers p List.mem_cons_self
        cases p <;> simp [Predicate.text?, Predicate.number?] at htext hnumber

end Filters

namespace Field

/-- The field with the given name, with what is selected inside a relation. -/
def selectionNamed (w : Text) : Selection :=
  if w = lit "directors" ∨ w = lit "actors" then .field none w [] [.field none (lit "name") [] []]
  else if w = lit "genres" then .field none w [] [.field none (lit "type") [] []]
  else .field none w [] []

theorem node_eq_selectionNamed (f : Field) : f.node = selectionNamed f.name := by
  cases f <;> rfl

end Field

namespace Query

/-- **The document says what the intent asks for.** If the texts that are used are plain, the
document is read as one anonymous query for the movies. Its argument has one entry for each slot
that is set and usable and is left out if there is none; its selections are the names asked for. -/
theorem parse_ofIntent {i : Intent} (h : ∀ t ∈ i.filters.usedTexts, IsPlain t) :
    parse (ofIntent i).document =
        some [⟨.query, none, [.field none (lit "movies")
          (whereArguments i.filters.whereEntries)
          ((Field.requestedNames i.fields).map Field.selectionNamed)]⟩] ∧
      (i.filters.whereEntries = [] ↔ i.filters.usedTexts = [] ∧ i.filters.usedNumbers = []) ∧
      (i.filters.whereEntries.map Prod.fst).Sublist (i.filters.slots.map Prod.fst) ∧
      (i.filters.slots.map Prod.fst).Nodup := by
  refine ⟨?_, i.filters.whereEntries_eq_nil_iff, i.filters.keys_sublist_slots,
    i.filters.nodup_slots⟩
  have hplain : ∀ p ∈ (ofIntent i).predicates, ∀ t ∈ p.text?, IsPlain t := by
    intro p hp t ht
    apply h
    rw [← i.filters.predicates_texts]
    exact List.mem_filterMap.2 ⟨p, hp, ht⟩
  have hlex : lex (ofIntent i).document = some (ofIntent i).tokens :=
    lex_document fun p hp =>
      Filters.isReadable_of_contained (fun t ht => (h t ht).isContained) hp
  have hselections : (ofIntent i).selection.map Field.node =
      (Field.requestedNames i.fields).map Field.selectionNamed := by
    rw [← Field.map_name_selected, List.map_map]
    exact List.map_congr_left fun f _ => f.node_eq_selectionNamed
  have harguments : (ofIntent i).arguments = whereArguments i.filters.whereEntries :=
    congrArg whereArguments i.filters.map_entry_predicates
  rw [parse, hlex, Option.bind_some,
    operations?_tokens hplain (Field.selected_ne_nil i.fields), hselections, harguments]
  rfl

/-- A quoted title, a name, a rating with a fraction whose operator is written in small letters with
a blank, and a year below zero. -/
def heat : Intent where
  filters :=
    { title := some (lit "\"Heat\"")
      director := some (lit "Mann")
      rating := some ⟨some (lit " lt"), .string (lit "7.5")⟩
      year := .number (.int (-1)) }
  fields := [lit "year", lit "poster", lit "actors"]

theorem parse_heat :
    (∀ t ∈ heat.filters.usedTexts, IsPlain t) ∧
      parse (ofIntent heat).document =
        some [⟨.query, none, [.field none (lit "movies")
          [(lit "where", .object
            [(lit "title_CONTAINS", .string (lit "\"Heat\"")),
              (lit "directors_SOME", .object [(lit "name_CONTAINS", .string (lit "Mann"))]),
              (lit "rating_LT", .number (lit "7.5")), (lit "year", .number (lit "-1"))])]
          [.field none (lit "year") [] [],
            .field none (lit "actors") [] [.field none (lit "name") [] []]]]⟩] := by
  have hplain : ∀ t ∈ heat.filters.usedTexts, IsPlain t := by decide
  have hpredicates : heat.filters.predicates =
      [.titleContains (lit "\"Heat\""), .director (lit "Mann"),
        .rating .lt (.finite false (15 * 2 ^ 49) (-50)),
        .year (.finite true (2 ^ 52) (-52))] := by decide +kernel
  have hrating : (Binary64.finite false (15 * 2 ^ 49) (-50)).literal = lit "7.5" := by
    decide +kernel
  have hyear : (Binary64.finite true (2 ^ 52) (-52)).literal = lit "-1" := by decide +kernel
  have hkey : lit "rating_" ++ Comparison.lt.name = lit "rating_LT" := by decide
  have hentries : heat.filters.whereEntries =
      [(lit "title_CONTAINS", .string (lit "\"Heat\"")),
        (lit "directors_SOME", .object [(lit "name_CONTAINS", .string (lit "Mann"))]),
        (lit "rating_LT", .number (lit "7.5")), (lit "year", .number (lit "-1"))] := by
    rw [← Filters.map_entry_predicates, hpredicates]
    simp only [List.map_cons, List.map_nil, Predicate.entry, hrating, hyear, hkey]
  have hnames : Field.requestedNames heat.fields = [lit "year", lit "actors"] := by decide
  have hparse := (parse_ofIntent hplain).1
  rw [hentries, hnames] at hparse
  exact ⟨hplain, hparse⟩

end Query

end FilmQuery
