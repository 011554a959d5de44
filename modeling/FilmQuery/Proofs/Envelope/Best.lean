import FilmQuery.Proofs.Envelope.Levels
import Mathlib.Data.List.Basic

/-!
# The best text of an envelope

An envelope has places made for its text: the keys `response`, `output` and `text`, and the entries
of an array under `response`. A text in one of these places is preferred, whether it has anything
in it or not. Only an envelope without one is searched level by level. Main statement: what that
search comes to, said without a queue.
-/

namespace FilmQuery.Envelope

/-- The text of an entry: the entry itself, or its content. -/
def Gives (entry : Json) (t : Text) : Prop :=
  entry = .string t ∨ entry.field? (lit "content") = some (.string t)

/-- The envelope has the text `t` under the key. -/
def Keyed (j : Json) (key t : Text) : Prop := j.field? key = some (.string t)

/-- The envelope has the array `entries` as its response. -/
def Lists (j : Json) (entries : List Json) : Prop :=
  j.field? (lit "response") = some (.array entries)

/-- The text that the places made for it give: the first under a text key, or else the first of an
entry. -/
inductive Prefers (j : Json) : Text → Prop where
  | keyed {before after : List Text} {key t : Text} (hkeys : textKeys = before ++ key :: after)
      (ht : Keyed j key t) (hfirst : ∀ k ∈ before, ∀ u, ¬Keyed j k u) : Prefers j t
  | listed {before after : List Json} {entry : Json} {t : Text}
      (hkeys : ∀ key ∈ textKeys, ∀ u, ¬Keyed j key u)
      (hlists : Lists j (before ++ entry :: after)) (ht : Gives entry t)
      (hfirst : ∀ e ∈ before, ∀ u, ¬Gives e u) : Prefers j t

theorem string?_eq_some_iff {j : Json} {t : Text} : j.string? = some t ↔ j = .string t := by
  cases j <;> simp [Json.string?]

theorem keyed_iff {j : Json} {key t : Text} :
    (j.field? key).bind Json.string? = some t ↔ Keyed j key t := by
  simp only [Option.bind_eq_some_iff, string?_eq_some_iff, exists_eq_right, Keyed]

theorem entryText?_eq_some_iff {entry : Json} {t : Text} :
    entryText? entry = some t ↔ Gives entry t := by
  have hcontent : (entry.field? (lit "content")).bind Json.string? = some t ↔ _ := keyed_iff
  cases entry with
  | string u => simp [entryText?, Gives, Json.field?]
  | _ => exact hcontent.trans (by simp [Gives, Keyed])

theorem entryText?_eq_none_iff {entry : Json} :
    entryText? entry = none ↔ ∀ t, ¬Gives entry t := by
  simp only [Option.eq_none_iff_forall_ne_some, ne_eq, entryText?_eq_some_iff]

theorem keyedText?_eq_none_iff {j : Json} :
    keyedText? j = none ↔ ∀ key ∈ textKeys, ∀ t, ¬Keyed j key t := by
  rw [keyedText?, List.findSome?_eq_none_iff]
  simp only [Option.eq_none_iff_forall_ne_some, ne_eq, keyed_iff]

theorem keyedText?_eq_some_iff {j : Json} {t : Text} :
    keyedText? j = some t ↔ ∃ before key after, textKeys = before ++ key :: after ∧
      Keyed j key t ∧ ∀ k ∈ before, ∀ u, ¬Keyed j k u := by
  rw [keyedText?, List.findSome?_eq_some_iff]
  simp only [Option.eq_none_iff_forall_ne_some, ne_eq, keyed_iff]

theorem lists_iff {j : Json} {entries : List Json} :
    (j.field? (lit "response")).bind Json.array? = some entries ↔ Lists j entries := by
  have harray : ∀ k : Json, k.array? = some entries ↔ k = .array entries := by
    intro k
    cases k <;> simp [Json.array?]
  simp only [Option.bind_eq_some_iff, harray, exists_eq_right, Lists]

theorem arrayText?_eq_none_iff {j : Json} :
    arrayText? j = none ↔ ∀ entries, Lists j entries → ∀ e ∈ entries, ∀ t, ¬Gives e t := by
  rw [arrayText?, Option.bind_eq_none_iff]
  simp only [lists_iff, List.findSome?_eq_none_iff, entryText?_eq_none_iff]

theorem arrayText?_eq_some_iff {j : Json} {t : Text} :
    arrayText? j = some t ↔ ∃ before entry after, Lists j (before ++ entry :: after) ∧
      Gives entry t ∧ ∀ e ∈ before, ∀ u, ¬Gives e u := by
  rw [arrayText?, Option.bind_eq_some_iff]
  simp only [lists_iff, List.findSome?_eq_some_iff, entryText?_eq_some_iff, entryText?_eq_none_iff]
  constructor
  · rintro ⟨_, hlists, before, entry, after, rfl, ht, hfirst⟩
    exact ⟨before, entry, after, hlists, ht, hfirst⟩
  · rintro ⟨before, entry, after, hlists, ht, hfirst⟩
    exact ⟨_, hlists, before, entry, after, rfl, ht, hfirst⟩

theorem prefers_iff {j : Json} {t : Text} :
    Prefers j t ↔ (keyedText? j).or (arrayText? j) = some t := by
  rw [Option.or_eq_some_iff, keyedText?_eq_some_iff, keyedText?_eq_none_iff,
    arrayText?_eq_some_iff]
  constructor
  · intro h
    cases h with
    | keyed hkeys ht hfirst => exact Or.inl ⟨_, _, _, hkeys, ht, hfirst⟩
    | listed hkeys hlists ht hfirst => exact Or.inr ⟨hkeys, _, _, _, hlists, ht, hfirst⟩
  · rintro (⟨before, key, after, hkeys, ht, hfirst⟩ |
      ⟨hkeys, before, entry, after, hlists, ht, hfirst⟩)
    · exact .keyed hkeys ht hfirst
    · exact .listed hkeys hlists ht hfirst

/-- A preferred text is the best one, even if nothing is in it. -/
theorem bestText_of_prefers {j : Json} (hj : isContainer j = true) {t : Text} (h : Prefers j t) :
    bestText j = t := by
  rw [prefers_iff] at h
  cases j with
  | array items => rw [bestText, h]; rfl
  | object entries => rw [bestText, h]; rfl
  | _ => cases hj

/-- Without a preferred text the levels are searched. -/
theorem bestText_of_not_prefers {j : Json} (hj : isContainer j = true) (h : ∀ t, ¬Prefers j t) :
    bestText j = (searchLevels maxVisited [j]).getD [] := by
  have hnone : (keyedText? j).or (arrayText? j) = none := by
    rw [Option.eq_none_iff_forall_ne_some]
    intro t ht
    exact h t (prefers_iff.2 ht)
  cases j with
  | array items => rw [bestText, hnone]; rfl
  | object entries => rw [bestText, hnone]; rfl
  | _ => cases hj

theorem not_prefers {j : Json} (hkeys : ∀ key ∈ textKeys, ∀ t, ¬Keyed j key t)
    (hentries : ∀ entries, Lists j entries → ∀ e ∈ entries, ∀ t, ¬Gives e t) (t : Text) :
    ¬Prefers j t := by
  rw [prefers_iff, keyedText?_eq_none_iff.2 hkeys, arrayText?_eq_none_iff.2 hentries]
  exact fun h => by cases h

/-- A search comes to no text exactly if nothing is in the texts it goes through. -/
theorem getD_find?_eq_nil_iff (ts : List Text) :
    (ts.find? fun t => !t.isAllBlank).getD [] = [] ↔ ∀ t ∈ ts, t.isAllBlank = true := by
  cases h : ts.find? fun t => !t.isAllBlank with
  | none => simpa using h
  | some t =>
      have hfilled : t.isAllBlank = false := by simpa using List.find?_some h
      have hne : t ≠ [] := by
        rintro rfl
        cases hfilled
      refine iff_of_false hne fun hall => ?_
      rw [hall t (List.mem_of_find?_eq_some h)] at hfilled
      cases hfilled

section

variable {j : Json} (hj : isContainer j = true) (hnone : ∀ t, ¬Prefers j t)

include hj hnone

theorem bestText_eq : bestText j =
    ((((levelOrder j).take maxVisited).flatMap texts).find? fun t => !t.isAllBlank).getD [] := by
  rw [bestText_of_not_prefers hj hnone, searchLevels_eq hj]

/-- With no more containers than the search looks into, it goes through all of them. -/
theorem bestText_eq_of_containers_le (hsize : containers j ≤ maxVisited) : bestText j =
    (((levelOrder j).flatMap texts).find? fun t => !t.isAllBlank).getD [] := by
  rw [bestText_eq hj hnone, List.take_of_length_le]
  rwa [length_levelOrder hj]

theorem bestText_eq_nil_iff (hsize : containers j ≤ maxVisited) :
    bestText j = [] ↔ Textless j := by
  rw [bestText_eq_of_containers_le hj hnone hsize, getD_find?_eq_nil_iff]
  constructor
  · intro h d t ht
    exact h t ((mem_texts_levelOrder_iff hj).2 ⟨d, ht⟩)
  · intro h t ht
    obtain ⟨d, hd⟩ := (mem_texts_levelOrder_iff hj).1 ht
    exact h d t hd

/-- The text that is found stands as far outside as any with something in it. -/
theorem exists_holdsAt_bestText (hsize : containers j ≤ maxVisited) (hne : bestText j ≠ []) :
    ∃ d, HoldsAt d (bestText j) j ∧ (bestText j).isAllBlank = false ∧
      ∀ d' t, HoldsAt d' t j → t.isAllBlank = false → d ≤ d' := by
  have heq := bestText_eq_of_containers_le hj hnone hsize
  cases hfind : ((levelOrder j).flatMap texts).find? fun t => !t.isAllBlank with
  | none =>
      rw [hfind] at heq
      exact absurd heq hne
  | some t =>
      rw [hfind, Option.getD_some] at heq
      rw [heq]
      exact exists_holdsAt_of_find? hj hfind

end

/-- **An envelope without a text in the places made for it is searched level by level.** Its best
text is the first with something in it among those in its first ten thousand containers in level
order, and nothing exactly if none of these has anything in it. So of an envelope with no more
containers it is a text that stands as far outside as any with something in it, and nothing exactly
if no text in the envelope has. -/
theorem bestText_levelOrder {j : Json} (hj : isContainer j = true)
    (hkeys : ∀ key ∈ textKeys, ∀ t, ¬Keyed j key t)
    (hentries : ∀ entries, Lists j entries → ∀ e ∈ entries, ∀ t, ¬Gives e t) :
    let listed := ((levelOrder j).take 10000).flatMap texts
    bestText j = (listed.find? fun t => !t.isAllBlank).getD [] ∧
      (bestText j = [] ↔ ∀ t ∈ listed, t.isAllBlank = true) ∧
      (containers j ≤ 10000 →
        (bestText j = [] ↔ ∀ d t, HoldsAt d t j → t.isAllBlank = true) ∧
        (bestText j ≠ [] → ∃ d, HoldsAt d (bestText j) j ∧ (bestText j).isAllBlank = false ∧
          ∀ d' t, HoldsAt d' t j → t.isAllBlank = false → d ≤ d')) := by
  have hnone := not_prefers hkeys hentries
  intro listed
  have hfirst : bestText j = (listed.find? fun t => !t.isAllBlank).getD [] := bestText_eq hj hnone
  refine ⟨hfirst, ?_, ?_⟩
  · rw [hfirst]
    exact getD_find?_eq_nil_iff listed
  · intro hsize
    exact ⟨bestText_eq_nil_iff hj hnone hsize, exists_holdsAt_bestText hj hnone hsize⟩

/-! ## Envelopes whose best text is blank -/

theorem isContainer_of_field? {j v : Json} {key : Text} (h : j.field? key = some v) :
    isContainer j = true := by
  cases j with
  | object entries => rfl
  | _ => cases h

theorem isContainer_of_prefers {j : Json} {t : Text} (h : Prefers j t) :
    isContainer j = true := by
  cases h with
  | keyed _ ht _ => exact isContainer_of_field? ht
  | listed _ hlists _ _ => exact isContainer_of_field? hlists

theorem mem_children_of_field? {j v : Json} {key : Text} (h : j.field? key = some v) :
    v ∈ children j := by
  cases j with
  | object entries =>
      obtain ⟨before, after, rfl, -⟩ := List.lookup_eq_some_iff.1 h
      simp [children]
  | _ => cases h

theorem exists_holdsAt_of_gives {entry : Json} {t : Text} (h : Gives entry t) :
    ∃ d, HoldsAt d t entry := by
  rcases h with rfl | hcontent
  · exact ⟨0, .here t⟩
  · exact ⟨1, .inside (mem_children_of_field? hcontent) (.here t)⟩

/-- A preferred text is one of the texts in the envelope. -/
theorem exists_holdsAt_of_prefers {j : Json} {t : Text} (h : Prefers j t) :
    ∃ d, HoldsAt d t j := by
  cases h with
  | keyed _ ht _ => exact ⟨1, .inside (mem_children_of_field? ht) (.here t)⟩
  | @listed before after entry t _ hlists ht _ =>
      obtain ⟨d, hd⟩ := exists_holdsAt_of_gives ht
      have hentry : entry ∈ children (.array (before ++ entry :: after)) := by simp [children]
      exact ⟨_, .inside (mem_children_of_field? hlists) (.inside hentry hd)⟩

theorem textless_of_not_isContainer {j : Json} (hj : isContainer j = false) :
    Textless j ↔ (bestText j).isAllBlank = true := by
  have hinside : ∀ d t, HoldsAt d t j → j = .string t := by
    intro d t h
    cases h with
    | here t => rfl
    | inside hk _ => rw [isContainer_of_mem_children hk] at hj; cases hj
  cases j with
  | string t =>
      constructor
      · intro h
        exact h 0 t (.here t)
      · intro h d u hu
        cases hinside d u hu
        exact h
  | array items => cases hj
  | object entries => cases hj
  | _ => exact iff_of_true (fun d t h => by cases hinside d t h) rfl

/-- The best text of an envelope is blank if no text has anything in it, and also if the preferred
text has not, whatever the others have. -/
theorem isAllBlank_bestText_iff {j : Json} (hsize : containers j ≤ maxVisited) :
    (bestText j).isAllBlank = true ↔ Textless j ∨ ∃ t, Prefers j t ∧ t.isAllBlank = true := by
  cases hj : isContainer j with
  | false =>
      rw [textless_of_not_isContainer hj, or_iff_left]
      rintro ⟨t, ht, -⟩
      rw [isContainer_of_prefers ht] at hj
      cases hj
  | true =>
      by_cases hprefers : ∃ t, Prefers j t
      · obtain ⟨t, ht⟩ := hprefers
        rw [bestText_of_prefers hj ht]
        constructor
        · intro hblank
          exact Or.inr ⟨t, ht, hblank⟩
        · rintro (htextless | ⟨u, hu, hblank⟩)
          · obtain ⟨d, hd⟩ := exists_holdsAt_of_prefers ht
            exact htextless d t hd
          -- only one text is preferred
          · rwa [← bestText_of_prefers hj hu, bestText_of_prefers hj ht] at hblank
      · have hnone : ∀ t, ¬Prefers j t := fun t ht => hprefers ⟨t, ht⟩
        rw [← bestText_eq_nil_iff hj hnone hsize, or_iff_left]
        · constructor
          · intro hblank
            by_contra hne
            obtain ⟨d, -, hfilled, -⟩ := exists_holdsAt_bestText hj hnone hsize hne
            exact Bool.false_ne_true (hfilled.symm.trans hblank)
          · intro hnil
            rw [hnil]
            rfl
        · rintro ⟨t, ht, -⟩
          exact hnone t ht

/-- A blank text in front, one text inside two containers and another inside three. -/
def chatEnvelope : Json :=
  .object [(lit "model", .string (lit " ")), (lit "choices", .array [.object [
    (lit "message", .object [(lit "content", .string (lit "deep"))])]]),
    (lit "meta", .object [(lit "note", .string (lit "shallow"))])]

theorem bestText_chatEnvelope :
    isContainer chatEnvelope = true ∧ containers chatEnvelope = 5 ∧
      bestText chatEnvelope = lit "shallow" ∧ ∃ d, HoldsAt d (lit "shallow") chatEnvelope ∧
        ∀ d' t, HoldsAt d' t chatEnvelope → t.isAllBlank = false → d ≤ d' := by
  have hsize : containers chatEnvelope = 5 := by decide
  have hbest : bestText chatEnvelope = lit "shallow" := by decide
  have hkeys : ∀ key ∈ textKeys, ∀ t, ¬Keyed chatEnvelope key t :=
    keyedText?_eq_none_iff.1 (by decide)
  have hentries : ∀ entries, Lists chatEnvelope entries → ∀ e ∈ entries, ∀ t, ¬Gives e t :=
    arrayText?_eq_none_iff.1 (by decide)
  have hsearch := (bestText_levelOrder rfl hkeys hentries).2.2 (by rw [hsize]; decide)
  obtain ⟨d, hd, -, hleast⟩ := hsearch.2 (by rw [hbest]; decide)
  exact ⟨rfl, hsize, hbest, d, hbest ▸ hd, hleast⟩

end FilmQuery.Envelope
