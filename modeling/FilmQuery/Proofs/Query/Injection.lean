import FilmQuery.Proofs.Query.Tokens
import Mathlib.Data.List.Basic

/-!
# Texts stay in their literals

Two intents of the same shape differ only in what their text filters hold. If every text that is
used is contained, the lexer reads the same tokens in both documents up to what stands in the
literals, and each literal holds its text. If one is not, this fails: a text is free to hold a
backslash or a line break, and nothing but double quotes is escaped.
-/

namespace FilmQuery

open GraphQL

namespace Filters

/-- What is open or set in both, and the same numbers. -/
structure SameShape (f g : Filters) : Prop where
  ids : isOpen f.ids = isOpen g.ids
  title : isOpen f.title = isOpen g.title
  titleExact : isOpen f.titleExact = isOpen g.titleExact
  director : isOpen f.director = isOpen g.director
  actor : isOpen f.actor = isOpen g.actor
  genre : isOpen f.genre = isOpen g.genre
  rating : f.rating = g.rating
  year : f.year = g.year
  yearFrom : f.yearFrom = g.yearFrom

end Filters

/-- The same fields, and filters that differ only in what the texts are that are set. -/
structure Intent.SameShape (i j : Intent) : Prop where
  fields : i.fields = j.fields
  filters : i.filters.SameShape j.filters

/-! ## Tokens without what stands in the literals -/

namespace GraphQL.Token

/-- A token without what stands between its quotes. -/
def blank : Token → Token
  | string _ => string []
  | t => t

/-- What stands between the quotes of a token. -/
def body? : Token → Option Text
  | string raw => some raw
  | _ => none

theorem body?_eq_some_iff {t : Token} {raw : Text} : t.body? = some raw ↔ t = string raw := by
  cases t <;> simp [body?]

end GraphQL.Token

namespace Predicate

/-- A predicate without its text. -/
def blank : Predicate → Predicate
  | ids _ => ids []
  | title _ => title []
  | titleContains _ => titleContains []
  | director _ => director []
  | actor _ => actor []
  | genre _ => genre []
  | p => p

theorem map_blank_tokens (p : Predicate) : p.tokens.map Token.blank = p.blank.tokens := by
  cases p <;> rfl

theorem bodies_tokens (p : Predicate) :
    p.tokens.filterMap Token.body? = (p.text?.map escapeQuotes).toList := by
  cases p <;> rfl

end Predicate

namespace Field

theorem map_blank_tokens (f : Field) : f.tokens.map Token.blank = f.tokens := by
  cases f <;> rfl

theorem bodies_tokens (f : Field) : f.tokens.filterMap Token.body? = [] := by
  cases f <;> rfl

end Field

namespace Query

/-- A query without the texts of its predicates. -/
def blank (q : Query) : Query := { q with predicates := q.predicates.map Predicate.blank }

theorem map_blank_tokens (q : Query) : q.tokens.map Token.blank = q.blank.tokens := by
  have hselection : (q.selection.flatMap Field.tokens).map Token.blank =
      q.selection.flatMap Field.tokens := by
    simp only [List.map_flatMap, Field.map_blank_tokens]
  have hargument : q.argumentTokens.map Token.blank = q.blank.argumentTokens := by
    unfold argumentTokens blank
    cases q.predicates with
    | nil => rfl
    | cons p ps =>
        simp only [List.map_append, List.map_flatMap, List.map_cons, List.flatMap_cons,
          List.flatMap_map, Predicate.map_blank_tokens]
        rfl
  simp only [tokens, List.map_append, hselection, hargument]
  rfl

/-- The literals of a document hold the texts of the predicates, with their quotes escaped. -/
theorem bodies_tokens (q : Query) :
    q.tokens.filterMap Token.body? = (q.predicates.filterMap Predicate.text?).map escapeQuotes := by
  have hselection : (q.selection.flatMap Field.tokens).filterMap Token.body? = [] := by
    simp [List.filterMap_flatMap, Field.bodies_tokens]
  have hargument : q.argumentTokens.filterMap Token.body? =
      (q.predicates.filterMap Predicate.text?).map escapeQuotes := by
    unfold argumentTokens
    cases q.predicates with
    | nil => rfl
    | cons p ps =>
        rw [List.filterMap_append, List.filterMap_append, List.filterMap_flatMap,
          List.map_filterMap, List.filterMap_eq_flatMap_toList _ (p :: ps)]
        simp [Predicate.bodies_tokens, List.filterMap_cons, Token.body?]
  simp [tokens, List.filterMap_cons, hselection, hargument, Token.body?]

end Query

/-! ## The predicates of an intent -/

/-- Two slots that are both open or both set give the same predicates but for their texts. -/
theorem map_blank_congr {slot slot' : Option Text} (h : isOpen slot = isOpen slot')
    {make : Text → Predicate} (hmake : ∀ t, (make t).blank = make []) :
    (setText? slot).map (fun t => (make t).blank) =
      (setText? slot').map fun t => (make t).blank := by
  have hsome : (setText? slot).isSome = (setText? slot').isSome := by
    rw [isSome_setText?, isSome_setText?, h]
  cases hs : setText? slot <;> cases hs' : setText? slot' <;> simp_all

namespace Filters

theorem map_blank_titlePredicate? {f g : Filters} (htitle : isOpen f.title = isOpen g.title)
    (hexact : isOpen f.titleExact = isOpen g.titleExact) :
    f.titlePredicate?.map Predicate.blank = g.titlePredicate?.map Predicate.blank := by
  have hsome : (setText? f.titleExact).isSome = (setText? g.titleExact).isSome := by
    rw [isSome_setText?, isSome_setText?, hexact]
  unfold titlePredicate?
  cases hf : setText? f.titleExact <;> cases hg : setText? g.titleExact
  · rw [Option.map_map, Option.map_map]
    exact map_blank_congr htitle fun _ => rfl
  · simp [hf, hg] at hsome
  · simp [hf, hg] at hsome
  · rfl

theorem map_blank_predicates {f g : Filters} (h : f.SameShape g) :
    f.predicates.map Predicate.blank = g.predicates.map Predicate.blank := by
  rw [map_predicates, map_predicates, map_blank_titlePredicate? h.title h.titleExact, h.rating,
    h.year, h.yearFrom, map_blank_congr h.ids fun _ => rfl,
    map_blank_congr h.director fun _ => rfl, map_blank_congr h.actor fun _ => rfl,
    map_blank_congr h.genre fun _ => rfl]

end Filters

/-! ## Two documents -/

namespace Query

theorem lex_ofIntent {i : Intent} (h : ∀ t ∈ i.filters.usedTexts, IsContained t) :
    lex (ofIntent i).document = some (ofIntent i).tokens :=
  lex_document fun _ hp => Filters.isReadable_of_contained h hp

/-- Up to what stands in the literals, the tokens depend on the shape of an intent only. -/
theorem map_blank_tokens_congr {i j : Intent} (h : i.SameShape j) :
    (ofIntent i).tokens.map Token.blank = (ofIntent j).tokens.map Token.blank := by
  have hblank : (ofIntent i).blank = (ofIntent j).blank := by
    simp only [blank, ofIntent, Filters.map_blank_predicates h.filters, h.fields]
  rw [map_blank_tokens, map_blank_tokens, hblank]

/-- If the literals of a document hold the texts of the intent, the texts are contained. -/
theorem isContained_of_bodies {i : Intent} {ts : List Token}
    (hlex : lex (ofIntent i).document = some ts)
    (hbodies : ts.filterMap Token.body? = i.filters.usedTexts.map escapeQuotes) :
    ∀ t ∈ i.filters.usedTexts, IsContained t := by
  intro t ht
  have hmem : escapeQuotes t ∈ ts.filterMap Token.body? := by
    rw [hbodies]
    exact List.mem_map_of_mem ht
  obtain ⟨token, htoken, hbody⟩ := List.mem_filterMap.1 hmem
  obtain rfl := Token.body?_eq_some_iff.1 hbody
  exact isBody_escapeQuotes_iff.1 (isBody_of_lex hlex htoken)

/-- **Texts stay in their literals exactly if they are contained.** The documents of two intents
of the same shape are both accepted, with the same tokens up to what stands in the literals and
with each text in its own literal, if and only if all texts that they use are contained. -/
theorem sameTokens_iff_contained {i j : Intent} (h : i.SameShape j) :
    (∃ ts us, lex (ofIntent i).document = some ts ∧ lex (ofIntent j).document = some us ∧
        ts.map Token.blank = us.map Token.blank ∧
        ts.filterMap Token.body? = i.filters.usedTexts.map escapeQuotes ∧
        us.filterMap Token.body? = j.filters.usedTexts.map escapeQuotes) ↔
      ∀ t ∈ i.filters.usedTexts ++ j.filters.usedTexts, IsContained t := by
  -- Without the last two parts the left side says less: a text may end its literal, spell out
  -- the rest of the document itself and hide the true rest behind a comment sign.
  constructor
  · rintro ⟨ts, us, hts, hus, -, hbodies, hbodies'⟩
    exact List.forall_mem_append.2
      ⟨isContained_of_bodies hts hbodies, isContained_of_bodies hus hbodies'⟩
  · intro hall
    obtain ⟨hi, hj⟩ := List.forall_mem_append.1 hall
    refine ⟨_, _, lex_ofIntent hi, lex_ofIntent hj, map_blank_tokens_congr h, ?_, ?_⟩
    · rw [bodies_tokens]
      exact congrArg (List.map escapeQuotes) i.filters.predicates_texts
    · rw [bodies_tokens]
      exact congrArg (List.map escapeQuotes) j.filters.predicates_texts

/-- An intent that asks for the identifiers of the movies with a title. -/
def titled (t : Text) : Intent where
  filters := { title := some t }
  fields := [lit "ids"]

theorem sameShape_titled {t u : Text} (h : isOpen (some t) = isOpen (some u)) :
    (titled t).SameShape (titled u) :=
  ⟨rfl, ⟨rfl, h, rfl, rfl, rfl, rfl, rfl, rfl, rfl⟩⟩

/-- A quote in a title and a backslash before a blank do no harm. -/
theorem sameTokens_titled_quote :
    (titled (lit "Heat")).SameShape (titled (lit "\"Heat\" \\ \x7d")) ∧
      ∃ ts us, lex (ofIntent (titled (lit "Heat"))).document = some ts ∧
        lex (ofIntent (titled (lit "\"Heat\" \\ \x7d"))).document = some us ∧
        ts.map Token.blank = us.map Token.blank ∧
        ts.filterMap Token.body? =
          (titled (lit "Heat")).filters.usedTexts.map escapeQuotes ∧
        us.filterMap Token.body? =
          (titled (lit "\"Heat\" \\ \x7d")).filters.usedTexts.map escapeQuotes := by
  have hshape := sameShape_titled (t := lit "Heat") (u := lit "\"Heat\" \\ \x7d") rfl
  exact ⟨hshape, (sameTokens_iff_contained hshape).2 (by decide)⟩

/-- A backslash before a quote ends the literal, and the title goes on as part of the query. -/
theorem exists_title_adding_tokens :
    ¬∀ i j : Intent, i.SameShape j →
      ∃ ts us, lex (ofIntent i).document = some ts ∧ lex (ofIntent j).document = some us ∧
        ts.map Token.blank = us.map Token.blank := by
  intro hall
  have hshape : (titled (lit "Heat")).SameShape
      (titled (lit "\\\" \x7d) \x7b title \x7d \x7d #")) := sameShape_titled rfl
  obtain ⟨ts, us, hts, hus, hblank⟩ := hall _ _ hshape
  have hne : (lex (ofIntent (titled (lit "Heat"))).document).map (List.map Token.blank) ≠
      (lex (ofIntent (titled (lit "\\\" \x7d) \x7b title \x7d \x7d #"))).document).map
        (List.map Token.blank) := by decide
  rw [hts, hus] at hne
  exact hne (congrArg some hblank)

end Query

end FilmQuery
