import FilmQuery.Intent.Decode
import FilmQuery.Query.Document
import FilmQuery.Question.Enrich
import Mathlib.Data.List.Forall2

/-!
# The order of keys, and keys that are not known

An object is read key by key, so the order of its entries does not count, and neither does an entry
under a key that is not looked up. This holds for the object of an intent, for its `filters` and
for their `rating`; other values count as they stand.
-/

namespace FilmQuery

/-! ## Looking up a key -/

namespace Entries

variable {α : Type} {entries entries' : List (Text × α)} {key : Text}

theorem lookup_eq_some_iff_mem (hdistinct : (entries.map Prod.fst).Nodup) {value : α} :
    entries.lookup key = some value ↔ (key, value) ∈ entries := by
  induction entries with
  | nil => simp
  | cons e rest ih =>
      obtain ⟨k, v⟩ := e
      rw [List.map_cons, List.nodup_cons] at hdistinct
      by_cases hk : key = k
      · subst hk
        have hrest : (key, value) ∉ rest := fun hmem =>
          hdistinct.1 (List.mem_map.2 ⟨_, hmem, rfl⟩)
        simp [hrest, eq_comm]
      · simp [List.lookup_cons, beq_false_of_ne hk, hk, ih hdistinct.2]

theorem lookup_perm (hperm : entries.Perm entries') (hdistinct : (entries.map Prod.fst).Nodup) :
    entries.lookup key = entries'.lookup key := by
  have hdistinct' := (hperm.map Prod.fst).nodup_iff.1 hdistinct
  ext value
  rw [lookup_eq_some_iff_mem hdistinct, lookup_eq_some_iff_mem hdistinct', hperm.mem_iff]

/-- The entries under the keys that are known. -/
def known (keys : List Text) (entries : List (Text × α)) : List (Text × α) :=
  entries.filter fun e => keys.contains e.1

theorem lookup_known {keys : List Text} (hkey : key ∈ keys) :
    (known keys entries).lookup key = entries.lookup key := by
  induction entries with
  | nil => rfl
  | cons e rest ih =>
      obtain ⟨k, v⟩ := e
      unfold known at ih ⊢
      by_cases hk : key = k
      · subst hk
        simp [hkey]
      · rw [List.filter_cons]
        split
        · rw [List.lookup_cons, List.lookup_cons, ih]
        · rw [List.lookup_cons, beq_false_of_ne hk, ih]

/-- The same keys in the same order, with values that are related under each key. -/
theorem rel_lookup {same : Text → α → α → Prop}
    (h : List.Forall₂ (fun e e' => e.1 = e'.1 ∧ same e.1 e.2 e'.2) entries entries') (key : Text) :
    Option.Rel (same key) (entries.lookup key) (entries'.lookup key) := by
  induction h with
  | nil => exact .none
  | @cons e e' rest rest' he hrest ih =>
      obtain ⟨k, v⟩ := e
      obtain ⟨k', v'⟩ := e'
      obtain ⟨rfl, hsame⟩ : k = k' ∧ same k v v' := he
      by_cases hk : key = k
      · subst hk
        simpa using hsame
      · simpa [List.lookup_cons, beq_false_of_ne hk] using ih

end Entries

namespace Intent

/-! ## Objects that differ in order and in unknown keys -/

/-- Two objects that have the same entries under the known keys, in any order, and any entries
under other keys. What the same values are depends on the key. That keys are distinct holds of every
object that is read (`Entries.nodup_keys_ofMembers`). -/
def SameObject (keys : List Text) (same : Text → Json → Json → Prop) (a b : Json) : Prop :=
  ∃ entries entries', a = .object entries ∧ b = .object entries' ∧
    (entries.map Prod.fst).Nodup ∧
    ∃ reordered, (Entries.known keys entries).Perm reordered ∧
      List.Forall₂ (fun e e' => e.1 = e'.1 ∧ same e.1 e.2 e'.2) reordered
        (Entries.known keys entries')

/-- Equal values, or under the one key values that differ as `nested` allows. -/
def sameBut (inner : Text) (nested : Json → Json → Prop) (key : Text) (a b : Json) : Prop :=
  a = b ∨ key = inner ∧ nested a b

def ratingKeys : List Text := [lit "op", lit "value"]

/-- The keys of the filters that are kept as they stand or as a text, with both spellings of those
that have two. -/
def plainKeys : List Text :=
  [lit "ids", lit "title", lit "titleExact", lit "title_exact", lit "director", lit "actor",
    lit "genre", lit "year", lit "year_GTE", lit "year_gte"]

def filterKeys : List Text := lit "rating" :: plainKeys

def intentKeys : List Text := [lit "intent", lit "filters", lit "fields", lit "top_n"]

def SameRating : Json → Json → Prop := SameObject ratingKeys fun _ => Eq

def SameFilters : Json → Json → Prop := SameObject filterKeys (sameBut (lit "rating") SameRating)

def SameIntent : Json → Json → Prop := SameObject intentKeys (sameBut (lit "filters") SameFilters)

section SameObject

variable {keys : List Text} {key inner : Text} {nested : Json → Json → Prop} {a b : Json}

theorem SameObject.rel_field? {same : Text → Json → Json → Prop} (h : SameObject keys same a b)
    (hkey : key ∈ keys) : Option.Rel (same key) (a.field? key) (b.field? key) := by
  obtain ⟨entries, entries', rfl, rfl, hdistinct, reordered, hperm, hsame⟩ := h
  have hdistinct : ((Entries.known keys entries).map Prod.fst).Nodup :=
    (List.filter_sublist.map Prod.fst).nodup hdistinct
  have hrel := Entries.rel_lookup hsame key
  rwa [← Entries.lookup_perm hperm hdistinct, Entries.lookup_known hkey,
    Entries.lookup_known hkey] at hrel

theorem eq_of_rel {r : Json → Json → Prop} {x y : Option Json} (h : Option.Rel r x y)
    (hr : ∀ v w, r v w → v = w) : x = y := by
  cases h with
  | some hvw => rw [hr _ _ hvw]
  | none => rfl

theorem SameObject.field?_eq (h : SameObject keys (sameBut inner nested) a b) (hkey : key ∈ keys)
    (hne : key ≠ inner) : a.field? key = b.field? key :=
  eq_of_rel (h.rel_field? hkey) fun _ _ hsame => hsame.resolve_right fun hinner => hne hinner.1

end SameObject

/-! ## They are read alike -/

theorem SameRating.rating?_eq {a b : Json} (h : SameRating a b) : rating? a = rating? b := by
  have hfield : ∀ key ∈ ratingKeys, a.field? key = b.field? key := fun key hkey =>
    eq_of_rel (h.rel_field? hkey) fun _ _ => id
  simp only [ratingKeys, List.forall_mem_cons] at hfield
  obtain ⟨entries, entries', rfl, rfl, -⟩ := h
  simp only [rating?, hfield]

namespace SameFilters

variable {a b : Json}

theorem field?_eq (h : SameFilters a b) : ∀ key ∈ plainKeys, a.field? key = b.field? key := by
  intro key hkey
  have hne : lit "rating" ∉ plainKeys := by decide
  exact SameObject.field?_eq h (List.mem_cons_of_mem _ hkey) fun heq => hne (heq ▸ hkey)

theorem bind_rating?_eq (h : SameFilters a b) :
    (a.field? (lit "rating")).bind rating? = (b.field? (lit "rating")).bind rating? := by
  have hrel := SameObject.rel_field? h (List.mem_cons_self : lit "rating" ∈ filterKeys)
  generalize a.field? (lit "rating") = x at hrel ⊢
  generalize b.field? (lit "rating") = y at hrel ⊢
  cases hrel with
  | none => rfl
  | some hsame =>
      obtain rfl | ⟨-, hrating⟩ := hsame
      · rfl
      · exact hrating.rating?_eq

theorem titleExactKey_eq (h : SameFilters a b) : titleExactKey a = titleExactKey b := by
  rw [titleExactKey, titleExactKey, h.field?_eq (lit "titleExact") (by decide)]

theorem textKeys_eq (h : SameFilters a b) : textKeys a = textKeys b := by
  rw [textKeys, textKeys, h.titleExactKey_eq]

theorem mem_plainKeys {key : Text} (hkey : key ∈ textKeys a) : key ∈ plainKeys := by
  unfold textKeys titleExactKey at hkey
  split at hkey <;> revert key <;> decide

theorem filterDetails_eq (h : SameFilters a b) : filterDetails a = filterDetails b := by
  rw [filterDetails, filterDetails, ← h.textKeys_eq]
  congr 1
  apply List.filter_congr
  intro key hkey
  rw [h.field?_eq key (mem_plainKeys hkey)]

theorem filtersOf_eq (h : SameFilters a b) : filtersOf a = filtersOf b := by
  have hexact : a.field? (titleExactKey a) = b.field? (titleExactKey b) := by
    rw [← h.titleExactKey_eq]
    exact h.field?_eq _ (mem_plainKeys (by simp [textKeys] : titleExactKey a ∈ textKeys a))
  have hfields := h.field?_eq
  simp only [plainKeys, List.forall_mem_cons] at hfields
  simp only [filtersOf, hexact, h.bind_rating?_eq, hfields]

end SameFilters

/-- The `filters` of both are one value, or objects that are the same. -/
theorem SameIntent.filtersObject_eq {a b : Json} (h : SameIntent a b) :
    filtersObject a = filtersObject b ∨ SameFilters (filtersObject a) (filtersObject b) := by
  have hkey : lit "filters" ∈ intentKeys := by simp [intentKeys]
  have hrel := SameObject.rel_field? h hkey
  unfold filtersObject
  generalize a.field? (lit "filters") = x at hrel ⊢
  generalize b.field? (lit "filters") = y at hrel ⊢
  cases hrel with
  | none => exact .inl rfl
  | some hsame =>
      obtain rfl | ⟨-, hfilters⟩ := hsame
      · exact .inl rfl
      · obtain ⟨entries, entries', rfl, rfl, -⟩ := id hfilters
        exact .inr hfilters

/-- The document that is sent for an intent, after a question has filled its open slots if there
is one. -/
def documentAfter (question : Option Text) (i : Intent) : Except DigitLimit Text :=
  match question with
  | none => .ok (Query.ofIntent i).document
  | some t => (Question.enrich i t).map fun filled => (Query.ofIntent filled).document

/-- **The order of keys and unknown keys do not matter.** Two objects that differ in nothing else
give one intent or are refused with the same details, and every question leads to one document. -/
theorem ofJson_sameIntent {a b : Json} (h : SameIntent a b) :
    ofJson a = ofJson b ∧ ∀ question,
      (ofJson a).map (documentAfter question) = (ofJson b).map (documentAfter question) := by
  have hfield : ∀ key ∈ [lit "intent", lit "fields", lit "top_n"], a.field? key = b.field? key := by
    intro key hkey
    have hkeys : ∀ key ∈ [lit "intent", lit "fields", lit "top_n"],
        key ∈ intentKeys ∧ key ≠ lit "filters" := by decide
    exact SameObject.field?_eq h (hkeys key hkey).1 (hkeys key hkey).2
  have hdetails : filterDetails (filtersObject a) = filterDetails (filtersObject b) := by
    obtain heq | hsame := h.filtersObject_eq
    · rw [heq]
    · exact hsame.filterDetails_eq
  have hfilters : filtersOf (filtersObject a) = filtersOf (filtersObject b) := by
    obtain heq | hsame := h.filtersObject_eq
    · rw [heq]
    · exact hsame.filtersOf_eq
  have hread : ofJson a = ofJson b := by
    simp only [List.forall_mem_cons] at hfield
    obtain ⟨entries, entries', rfl, rfl, -⟩ := h
    simp only [ofJson, fieldNames, hdetails, hfilters, hfield]
  exact ⟨hread, fun question => by rw [hread]⟩

def belowEight : Json :=
  .object [(lit "op", .string (lit "LT")), (lit "value", .number (.int 8))]

/-- The keys in reverse, and one more. -/
def belowEightReversed : Json :=
  .object [(lit "value", .number (.int 8)), (lit "op", .string (lit "LT")), (lit "scale", .null)]

def spelledTwice : Json :=
  .object [(lit "title_exact", .string (lit "Se7en")), (lit "rating", belowEight),
    (lit "titleExact", .string (lit "Heat"))]

def spelledTwiceReversed : Json :=
  .object [(lit "titleExact", .string (lit "Heat")), (lit "rating", belowEightReversed),
    (lit "mood", .string (lit "dark")), (lit "title_exact", .string (lit "Se7en"))]

def threeRows : Json :=
  .object [(lit "intent", .string (lit "find")), (lit "filters", spelledTwice),
    (lit "top_n", .number (.int 3))]

def threeRowsReversed : Json :=
  .object [(lit "note", .null), (lit "top_n", .number (.int 3)),
    (lit "filters", spelledTwiceReversed), (lit "intent", .string (lit "find"))]

/-- Every object in reverse and with one more key, where the two spellings of the exact title
disagree. -/
theorem ofJson_sameIntent_threeRows :
    SameIntent threeRows threeRowsReversed ∧ ofJson threeRows = ofJson threeRowsReversed ∧
      ∀ question, (ofJson threeRows).map (documentAfter question) =
        (ofJson threeRowsReversed).map (documentAfter question) := by
  have hreverse : ∀ entries : List (Text × Json), entries.Perm entries.reverse :=
    fun entries => (List.reverse_perm entries).symm
  have hrating : SameRating belowEight belowEightReversed :=
    ⟨_, _, rfl, rfl, by decide, _, hreverse _, .cons ⟨rfl, rfl⟩ (.cons ⟨rfl, rfl⟩ .nil)⟩
  have hfilters : SameFilters spelledTwice spelledTwiceReversed :=
    ⟨_, _, rfl, rfl, by decide, _, hreverse _,
      .cons ⟨rfl, .inl rfl⟩ (.cons ⟨rfl, .inr ⟨rfl, hrating⟩⟩ (.cons ⟨rfl, .inl rfl⟩ .nil))⟩
  have hsame : SameIntent threeRows threeRowsReversed :=
    ⟨_, _, rfl, rfl, by decide, _, hreverse _,
      .cons ⟨rfl, .inl rfl⟩ (.cons ⟨rfl, .inr ⟨rfl, hfilters⟩⟩ (.cons ⟨rfl, .inl rfl⟩ .nil))⟩
  exact ⟨hsame, ofJson_sameIntent hsame⟩

end Intent

end FilmQuery
