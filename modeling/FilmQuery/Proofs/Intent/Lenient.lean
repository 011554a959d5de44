import FilmQuery.Intent.Decode
import FilmQuery.Proofs.Text

/-!
# Objects that give an intent

Of all objects only those are refused that give a text filter a string with a lone surrogate. Every
other object gives an intent, whatever it holds under whatever key: a value of the wrong shape
leaves its slot open, and no text filter has white space at its ends.
-/

namespace FilmQuery.Intent

/-! ## Text filters -/

/-- The filters that hold a text. -/
inductive TextFilter where
  | ids
  | title
  | titleExact
  | director
  | actor
  | genre

namespace TextFilter

def all : List TextFilter := [ids, title, titleExact, director, actor, genre]

theorem mem_all (slot : TextFilter) : slot ∈ all := by
  cases slot <;> simp [all]

def get : TextFilter → Filters → Option Text
  | ids, f => f.ids
  | title, f => f.title
  | titleExact, f => f.titleExact
  | director, f => f.director
  | actor, f => f.actor
  | genre, f => f.genre

/-- The value that the entries of a `filters` object give a filter. The exact title has two
spellings; the second counts where the first is absent. -/
def given (entries : List (Text × Json)) : TextFilter → Option Json
  | ids => entries.lookup (lit "ids")
  | title => entries.lookup (lit "title")
  | titleExact => (entries.lookup (lit "titleExact")).or (entries.lookup (lit "title_exact"))
  | director => entries.lookup (lit "director")
  | actor => entries.lookup (lit "actor")
  | genre => entries.lookup (lit "genre")

/-- The key under which that value stands. -/
def key (entries : List (Text × Json)) : TextFilter → Text
  | ids => lit "ids"
  | title => lit "title"
  | titleExact => titleExactKey (.object entries)
  | director => lit "director"
  | actor => lit "actor"
  | genre => lit "genre"

variable {entries : List (Text × Json)}

theorem field?_key (slot : TextFilter) :
    (Json.object entries).field? (slot.key entries) = slot.given entries := by
  cases slot with
  | titleExact =>
      cases h : entries.lookup (lit "titleExact") <;>
        simp [key, given, titleExactKey, Json.field?, h]
  | _ => rfl

theorem get_filtersOf (slot : TextFilter) :
    slot.get (filtersOf (.object entries)) = filterText (slot.given entries) := by
  rw [← slot.field?_key]
  cases slot <;> rfl

end TextFilter

theorem isIllFormed_iff {value : Option Json} :
    isIllFormed value = true ↔ ∃ t, value = some (.string t) ∧ t.isWellFormed = false := by
  rcases value with _ | _ | _ | _ | _ | _ | _ <;> simp [isIllFormed, Json.string?]

/-- There is a detail for each text filter that is given an ill-formed text, in their order. -/
theorem filterDetails_eq (entries : List (Text × Json)) :
    filterDetails (.object entries) =
      (TextFilter.all.filter fun slot => isIllFormed (slot.given entries)).map fun slot =>
        ⟨[lit "filters", slot.key entries], .loneSurrogate⟩ := by
  have hkeys : textKeys (.object entries) = TextFilter.all.map (·.key entries) := rfl
  rw [filterDetails, hkeys, List.filter_map, List.map_map]
  simp only [Function.comp_def, TextFilter.field?_key]

theorem filterDetails_eq_nil_iff {entries : List (Text × Json)} :
    filterDetails (.object entries) = [] ↔
      ∀ (slot : TextFilter) (t : Text), slot.given entries = some (.string t) →
        t.isWellFormed = true := by
  rw [filterDetails_eq, List.map_eq_nil_iff, List.filter_eq_nil_iff]
  simp only [isIllFormed_iff, TextFilter.mem_all, true_implies, not_exists, not_and,
    Bool.not_eq_false]

/-- Among code points only the surrogates are no characters. -/
theorem isWellFormed_iff {t : Text} (hpoints : ∀ c ∈ t, c < 0x110000) :
    t.isWellFormed = true ↔ ¬∃ c ∈ t, isSurrogate c = true := by
  rw [Text.isWellFormed, List.all_eq_true]
  constructor
  · rintro hscalar ⟨c, hc, hsurrogate⟩
    have hc := hscalar c hc
    simp [isScalar, hsurrogate] at hc
  · intro hnone c hc
    have hsurrogate : isSurrogate c = false := by
      by_contra hlone
      exact hnone ⟨c, hc, by simpa using hlone⟩
    simp [isScalar, hpoints c hc, hsurrogate]

/-! ## Which objects are refused, and what the others give -/

/-- The object gives a text filter a string with a lone surrogate. -/
def GivesLoneSurrogate (entries : List (Text × Json)) : Prop :=
  ∃ filters, entries.lookup (lit "filters") = some (.object filters) ∧
    ∃ (slot : TextFilter) (t : Text), slot.given filters = some (.string t) ∧
      ∃ c ∈ t, isSurrogate c = true

/-- The entries of the `filters` object; anything else has none. -/
def filterEntries (entries : List (Text × Json)) : List (Text × Json) :=
  match entries.lookup (lit "filters") with
  | some (.object filters) => filters
  | _ => []

/-- What the intent of an object has to be, for each of its slots. -/
structure Fits (entries : List (Text × Json)) (i : Intent) : Prop where
  /-- A text filter is set where a text or a number is given, and nowhere else. -/
  set_iff : ∀ slot : TextFilter, (slot.get i.filters).isSome = true ↔
    (∃ t, slot.given (filterEntries entries) = some (.string t)) ∨
      ∃ n, slot.given (filterEntries entries) = some (.number n)
  /-- No text filter begins or ends in white space. -/
  trimmed : ∀ (slot : TextFilter) (t : Text), slot.get i.filters = some t →
    t.head?.any isWhite = false ∧ t.getLast?.any isWhite = false
  /-- A text that is given loses the white space around it and nothing else. -/
  kept : ∀ (slot : TextFilter) (s : Text), slot.given (filterEntries entries) = some (.string s) →
    ∃ u t w, slot.get i.filters = some t ∧ s = u ++ (t ++ w) ∧
      (∀ c ∈ u, isWhite c = true) ∧ ∀ c ∈ w, isWhite c = true
  /-- The rating is a pair where an object is given, and is open otherwise. -/
  rating : (∃ op value, i.filters.rating = some ⟨op, value⟩) ↔
    ∃ r, (filterEntries entries).lookup (lit "rating") = some (.object r)
  /-- The fields are the strings of the array, in their order, and none if it is no array. -/
  fields : ∀ items, entries.lookup (lit "fields") = some (.array items) →
    i.fields = items.filterMap Json.string?
  noFields : (∀ items, entries.lookup (lit "fields") ≠ some (.array items)) → i.fields = []
  /-- The number of rows is an integer that a text or a number gives; an integer gives itself. -/
  rows : ∀ n : Int, i.topN = some n → (∃ t, entries.lookup (lit "top_n") = some (.string t)) ∨
    ∃ m, entries.lookup (lit "top_n") = some (.number m)
  integer : ∀ n, entries.lookup (lit "top_n") = some (.number (.int n)) → i.topN = some n

theorem filtersObject_eq (entries : List (Text × Json)) :
    filtersObject (.object entries) = .object (filterEntries entries) := by
  unfold filtersObject filterEntries
  change (match entries.lookup (lit "filters") with
    | some (.object filters) => Json.object filters
    | _ => .object []) = _
  split <;> rfl

/-- An object is refused with the details of its filters, if there are any. -/
theorem ofJson_object (entries : List (Text × Json)) :
    ofJson (.object entries) =
      match filterDetails (.object (filterEntries entries)) with
      | [] => .ok {
          purpose := ((entries.lookup (lit "intent")).bind Json.string?).getD []
          filters := filtersOf (.object (filterEntries entries))
          fields :=
            (((entries.lookup (lit "fields")).bind Json.array?).getD []).filterMap Json.string?
          topN := (entries.lookup (lit "top_n")).bind topN? }
      | details => .error details := by
  rw [← filtersObject_eq]
  rfl

theorem isSome_filterText_iff {value : Option Json} :
    (filterText value).isSome = true ↔
      (∃ t, value = some (.string t)) ∨ ∃ n, value = some (.number n) := by
  rcases value with _ | _ | _ | _ | _ | _ | _ <;> simp [filterText, scalarText?]

theorem fits_ofJson (entries : List (Text × Json)) (purpose : Text) :
    Fits entries {
      purpose
      filters := filtersOf (.object (filterEntries entries))
      fields := (((entries.lookup (lit "fields")).bind Json.array?).getD []).filterMap Json.string?
      topN := (entries.lookup (lit "top_n")).bind topN? } where
  set_iff slot := by rw [slot.get_filtersOf, isSome_filterText_iff]
  trimmed slot t h := by
    rw [slot.get_filtersOf] at h
    obtain ⟨s, -, ht⟩ := Option.map_eq_some_iff.1 h
    obtain ⟨-, -, -, -, -, hends⟩ := Text.trim_eq_iff.1 ht
    exact hends
  kept slot s h := by
    obtain ⟨u, w, hs, hu, hw, -⟩ := Text.trim_eq_iff.1 (rfl : Text.trim isWhite s = _)
    refine ⟨u, _, w, ?_, hs, hu, hw⟩
    rw [slot.get_filtersOf, h]
    rfl
  rating := by
    change (∃ op value, ((filterEntries entries).lookup (lit "rating")).bind rating? =
      some ⟨op, value⟩) ↔ _
    rcases (filterEntries entries).lookup (lit "rating") with _ | _ | _ | _ | _ | _ | _ <;>
      simp [rating?]
  fields items h := by simp [h, Json.array?]
  noFields h := by
    rcases hvalue : entries.lookup (lit "fields") with _ | _ | _ | _ | _ | items | _
    case some.array => exact absurd hvalue (h items)
    all_goals simp [Json.array?]
  rows n h := by
    obtain ⟨value, hvalue, hn⟩ := Option.bind_eq_some_iff.1 h
    rw [hvalue]
    cases value with
    | number m => exact Or.inr ⟨m, rfl⟩
    | string t => exact Or.inl ⟨t, rfl⟩
    | _ => cases hn
  integer n h := by simp [h, topN?]

/-- A filter that is given a text finds it in the `filters` object. -/
theorem givesLoneSurrogate_iff {entries : List (Text × Json)} :
    GivesLoneSurrogate entries ↔
      ∃ (slot : TextFilter) (t : Text), slot.given (filterEntries entries) = some (.string t) ∧
        ∃ c ∈ t, isSurrogate c = true := by
  have hnone : ∀ slot : TextFilter, slot.given [] = none := fun slot => by cases slot <;> rfl
  unfold GivesLoneSurrogate filterEntries
  split
  · next filters hfilters => simp [hfilters]
  · next hother =>
    refine iff_of_false ?_ (by simp [hnone])
    rintro ⟨filters, hfilters, -⟩
    exact hother filters hfilters

/-- **An object is refused for a lone surrogate in a text filter, and for nothing else.** Whatever
else an object holds, it gives an intent, whose text filters have no white space at their ends,
whose rating is a pair or open, and whose fields are the strings of the array. -/
theorem ofJson_lenient {entries : List (Text × Json)}
    (hpoints : ∀ (slot : TextFilter) (t : Text),
      slot.given (filterEntries entries) = some (.string t) → ∀ c ∈ t, c < 0x110000) :
    ((∃ details, ofJson (.object entries) = .error details) ↔ GivesLoneSurrogate entries) ∧
      (¬GivesLoneSurrogate entries →
        ∃ i, ofJson (.object entries) = .ok i ∧ Fits entries i) := by
  have hdetails : filterDetails (.object (filterEntries entries)) = [] ↔
      ¬GivesLoneSurrogate entries := by
    rw [filterDetails_eq_nil_iff, givesLoneSurrogate_iff]
    constructor
    · rintro hclean ⟨slot, t, hgiven, hsurrogate⟩
      exact (isWellFormed_iff (hpoints slot t hgiven)).1 (hclean slot t hgiven) hsurrogate
    · intro hnone slot t hgiven
      rw [isWellFormed_iff (hpoints slot t hgiven)]
      exact fun hsurrogate => hnone ⟨slot, t, hgiven, hsurrogate⟩
  rw [ofJson_object]
  cases hlist : filterDetails (.object (filterEntries entries)) with
  | nil =>
      have hclean := hdetails.1 hlist
      exact ⟨iff_of_false (by simp) hclean, fun _ => ⟨_, rfl, fits_ofJson entries _⟩⟩
  | cons d details =>
      have hgives : GivesLoneSurrogate entries := by
        by_contra hclean
        cases hlist.symm.trans (hdetails.2 hclean)
      exact ⟨iff_of_true ⟨_, rfl⟩ hgives, fun hclean => absurd hgives hclean⟩

/-- An object with both spellings of the exact title, the second of them ill-formed, and values of
the wrong shape. -/
def bothSpellings : List (Text × Json) :=
  [(lit "filters", .object
      [(lit "title_exact", .string [0xD83C]), (lit "rating", .string (lit "high")),
        (lit "titleExact", .string (lit " Heat "))]),
    (lit "fields", .array [.string (lit "title"), .null]),
    (lit "top_n", .object [])]

/-- The second spelling is not looked at, so the object is not refused. -/
theorem ofJson_lenient_bothSpellings :
    (∀ (slot : TextFilter) (t : Text),
        slot.given (filterEntries bothSpellings) = some (.string t) → ∀ c ∈ t, c < 0x110000) ∧
      ¬GivesLoneSurrogate bothSpellings ∧
      ∃ i, ofJson (.object bothSpellings) = .ok i ∧ Fits bothSpellings i := by
  have hpoints : ∀ (slot : TextFilter) (t : Text),
      slot.given (filterEntries bothSpellings) = some (.string t) → ∀ c ∈ t, c < 0x110000 := by
    intro slot t hgiven
    cases slot with
    | titleExact =>
        have hvalue : TextFilter.titleExact.given (filterEntries bothSpellings) =
            some (.string (lit " Heat ")) := rfl
        have hsame : some (Json.string t) = some (.string (lit " Heat ")) := hgiven.symm.trans hvalue
        obtain rfl : t = lit " Heat " := Json.string.inj (Option.some.inj hsame)
        decide
    | _ => cases hgiven
  have hread : ∃ i, ofJson (.object bothSpellings) = .ok i := ⟨_, rfl⟩
  have hclean : ¬GivesLoneSurrogate bothSpellings := by
    rw [← (ofJson_lenient hpoints).1]
    rintro ⟨details, hrefused⟩
    obtain ⟨i, hi⟩ := hread
    cases hi.symm.trans hrefused
  exact ⟨hpoints, hclean, (ofJson_lenient hpoints).2 hclean⟩

end FilmQuery.Intent
