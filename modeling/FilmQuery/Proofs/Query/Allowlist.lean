import FilmQuery.Proofs.Query.Selection
import FilmQuery.Proofs.Text
import Mathlib.Data.List.Forall2
import Mathlib.Data.List.Induction
import Mathlib.Data.List.Nodup

/-!
# The allowlist of a selection

A selection is put together from seven texts, one for each name that is known. The names that are
asked for only pick among these: what is selected depends on which known names occur, and in which
order they first occur. Main statement: that, and that a name which is not known, or which has
occurred before, changes nothing wherever it stands.
-/

namespace FilmQuery.Field

/-- The known names, each with the text that is written for it. -/
def allowlist : List (Text × Text) :=
  [(lit "ids", lit "ids"), (lit "title", lit "title"), (lit "year", lit "year"),
    (lit "rating", lit "rating"), (lit "directors", lit "directors \x7b name \x7d"),
    (lit "actors", lit "actors \x7b name \x7d"), (lit "genres", lit "genres \x7b type \x7d")]

def IsKnown (n : Text) : Prop := n ∈ allowlist.map Prod.fst

instance (n : Text) : Decidable (IsKnown n) :=
  inferInstanceAs (Decidable (n ∈ allowlist.map Prod.fst))

/-- `known` has the known names of a list in the order in which they first occur. The order is
strict, so none of them is there twice. -/
structure FirstKnown (names known : List Text) : Prop where
  mem_iff : ∀ n, n ∈ known ↔ n ∈ names ∧ IsKnown n
  ordered : known.Pairwise fun m n => names.idxOf m < names.idxOf n

/-- A way to write selections that is settled by the first occurrences of known names and writes
nothing but allowlisted texts. -/
structure SelectsFirstKnown (select : List Text → Text) : Prop where
  /-- The allowlisted texts of the known names, or of all seven names if none is known. -/
  written (names : List Text) : ∃ known parts, FirstKnown names known ∧
    List.Forall₂ (fun n part => (n, part) ∈ allowlist)
      (if known = [] then Intent.defaultFields else known) parts ∧
    parts.Nodup ∧ select names = Text.join (lit " ") parts
  ne_nil (names : List Text) : select names ≠ []
  /-- Lists with the same first occurrences of known names make the same selection. -/
  firsts {names other known : List Text} (h : FirstKnown names known)
    (h' : FirstKnown other known) : select other = select names
  /-- A name that is not known, or that has occurred before, can be put in anywhere. -/
  inserted {n : Text} {pre : List Text} (h : ¬IsKnown n ∨ n ∈ pre) (post : List Text) :
    select (pre ++ n :: post) = select (pre ++ post)
  /-- It does not matter which unknown names there are. -/
  exchanged {names other : List Text}
    (h : List.Forall₂ (fun m n => m = n ∨ ¬IsKnown m ∧ ¬IsKnown n) names other) :
    select other = select names

/-! ## First occurrences -/

namespace FirstKnown

variable {names known : List Text} {n : Text}

theorem nodup (h : FirstKnown names known) : known.Nodup := by
  refine h.ordered.imp ?_
  rintro m _ hlt rfl
  exact Nat.lt_irrefl _ hlt

/-- Lists in the same strict order with the same members are equal. -/
theorem unique {known' : List Text} (h : FirstKnown names known) (h' : FirstKnown names known') :
    known = known' := by
  have hperm : known.Perm known' := by
    rw [List.perm_ext_iff_of_nodup h.nodup h'.nodup]
    intro n
    rw [h.mem_iff, h'.mem_iff]
  refine hperm.eq_of_pairwise ?_ h.ordered h'.ordered
  intro m n _ _ hlt hgt
  exact absurd hgt (Nat.lt_asymm hlt)

theorem nil : FirstKnown [] [] := ⟨by simp, .nil⟩

theorem ordered_append (h : FirstKnown names known) (rest : List Text) :
    known.Pairwise fun m n => (names ++ rest).idxOf m < (names ++ rest).idxOf n := by
  refine h.ordered.imp_of_mem ?_
  intro m n hm hn hlt
  rwa [List.idxOf_append_of_mem ((h.mem_iff m).1 hm).1,
    List.idxOf_append_of_mem ((h.mem_iff n).1 hn).1]

/-- One more name that is not known, or that has occurred before, adds nothing. -/
theorem snoc_of_dropped (h : FirstKnown names known) (hn : ¬IsKnown n ∨ n ∈ names) :
    FirstKnown (names ++ [n]) known where
  mem_iff m := by
    rw [h.mem_iff, List.mem_append, List.mem_singleton]
    constructor
    · rintro ⟨hm, hknown⟩
      exact ⟨Or.inl hm, hknown⟩
    · rintro ⟨hm | rfl, hknown⟩
      · exact ⟨hm, hknown⟩
      · exact ⟨hn.resolve_left (not_not_intro hknown), hknown⟩
  ordered := h.ordered_append [n]

/-- One more name that is known and has not occurred before comes last. -/
theorem snoc_of_new (h : FirstKnown names known) (hknown : IsKnown n) (hnew : n ∉ names) :
    FirstKnown (names ++ [n]) (known ++ [n]) where
  mem_iff m := by
    rw [List.mem_append, List.mem_append, h.mem_iff, List.mem_singleton]
    constructor
    · rintro (⟨hm, hmknown⟩ | rfl)
      · exact ⟨Or.inl hm, hmknown⟩
      · exact ⟨Or.inr rfl, hknown⟩
    · rintro ⟨hm | rfl, hmknown⟩
      · exact Or.inl ⟨hm, hmknown⟩
      · exact Or.inr rfl
  ordered := by
    rw [List.pairwise_append]
    refine ⟨h.ordered_append [n], List.pairwise_singleton _ _, ?_⟩
    intro m hm n' hn'
    obtain rfl := List.mem_singleton.1 hn'
    have hin : m ∈ names := ((h.mem_iff m).1 hm).1
    rw [List.idxOf_append_of_mem hin, List.idxOf_append_of_notMem hnew]
    exact Nat.lt_of_lt_of_le (List.idxOf_lt_length_of_mem hin) (Nat.le_add_right _ _)

end FirstKnown

/-- The known names of a list, each where it first occurs. -/
def knownNames (names : List Text) : List Text := (names.filter (IsKnown ·)).eraseDups

section

variable {names other : List Text} {n : Text}

theorem knownNames_append_cons {pre : List Text} (h : ¬IsKnown n ∨ n ∈ pre) (post : List Text) :
    knownNames (pre ++ n :: post) = knownNames (pre ++ post) := by
  by_cases hknown : IsKnown n
  · have hpre : n ∈ pre.filter (IsKnown ·) := by
      simpa [hknown] using h.resolve_left (not_not_intro hknown)
    have hin : ¬(pre.filter (IsKnown ·)).contains n = false := by simpa using hpre
    have hcons : (n :: post).filter (IsKnown ·) = n :: post.filter (IsKnown ·) :=
      List.filter_cons_of_pos (by simpa using hknown)
    rw [knownNames, List.filter_append, hcons, List.eraseDups_append, List.cons_removeAll,
      if_neg hin, ← List.eraseDups_append, ← List.filter_append, knownNames]
  · simp [knownNames, hknown]

theorem knownNames_snoc_of_new (hknown : IsKnown n) (hnew : n ∉ names) :
    knownNames (names ++ [n]) = knownNames names ++ [n] := by
  simp [knownNames, hknown, hnew, List.eraseDups_append, List.removeAll, List.eraseDups_cons]

/-- The induction is on the end of the list, since a name is compared with those before it. -/
theorem firstKnown_knownNames (names : List Text) : FirstKnown names (knownNames names) := by
  induction names using List.reverseRecOn with
  | nil => exact .nil
  | append_singleton names n ih =>
      by_cases hdropped : ¬IsKnown n ∨ n ∈ names
      · have hsame := knownNames_append_cons hdropped []
        rw [List.append_nil] at hsame
        rw [hsame]
        exact ih.snoc_of_dropped hdropped
      · obtain ⟨hknown, hnew⟩ := not_or.1 hdropped
        rw [not_not] at hknown
        rw [knownNames_snoc_of_new hknown hnew]
        exact ih.snoc_of_new hknown hnew

theorem knownNames_of_exchanged
    (h : List.Forall₂ (fun m n => m = n ∨ ¬IsKnown m ∧ ¬IsKnown n) names other) :
    knownNames names = knownNames other := by
  have hfilter : names.filter (IsKnown ·) = other.filter (IsKnown ·) := by
    induction h with
    | nil => rfl
    | cons hmn _ ih =>
        rcases hmn with rfl | ⟨hm, hn⟩
        · rw [List.filter_cons, List.filter_cons, ih]
        · rw [List.filter_cons_of_neg (by simpa using hm),
            List.filter_cons_of_neg (by simpa using hn), ih]
  rw [knownNames, hfilter, knownNames]

/-! ## What is written -/

theorem requestedNames_eq (names : List Text) :
    requestedNames names =
      if knownNames names = [] then Intent.defaultFields else knownNames names := by
  have hknown : (names.filter (· ∈ Intent.defaultFields)).eraseDups = knownNames names := rfl
  rw [requestedNames, hknown]
  cases knownNames names <;> rfl

/-- The fields that are selected are settled by the known names. -/
theorem selected_congr (h : knownNames names = knownNames other) :
    selected names = selected other := by
  have hnames : (selected names).map name = (selected other).map name := by
    rw [map_name_selected, map_name_selected, requestedNames_eq, requestedNames_eq, h]
  exact List.map_injective_iff.2 (fun _ _ => name_injective) hnames

theorem mem_allowlist (f : Field) : (f.name, f.render) ∈ allowlist := by
  cases f <;> decide

theorem render_injective : Function.Injective render := by
  have hdistinct : (all.map render).Nodup := by decide
  intro f g h
  exact List.inj_on_of_nodup_map hdistinct f.mem_all g.mem_all h

theorem render_ne_nil (f : Field) : f.render ≠ [] := by
  cases f <;> decide

theorem nodup_selected (names : List Text) : (selected names).Nodup := by
  rw [selected]
  split
  · decide
  · exact nodup_firsts _

/-- Each field that is selected is written with the text that the allowlist has for its name. -/
theorem forall₂_requestedNames (names : List Text) :
    List.Forall₂ (fun n part => (n, part) ∈ allowlist) (requestedNames names)
      ((selected names).map render) := by
  rw [← map_name_selected, List.forall₂_map_left_iff, List.forall₂_map_right_iff]
  exact List.forall₂_same.2 fun f _ => f.mem_allowlist

end

/-- **A selection is what was asked for, as far as it is known.** It is made of the allowlisted
texts of the known names, each once and where its name first occurs, or of all seven if no name is
known. Names that are not known and names that occur again leave no trace in it. -/
theorem selectsFirstKnown_selection :
    SelectsFirstKnown fun names => renderAll (selected names) where
  written names := by
    refine ⟨knownNames names, (selected names).map render, firstKnown_knownNames names, ?_,
      (nodup_selected names).map render_injective, rfl⟩
    rw [← requestedNames_eq]
    exact forall₂_requestedNames names
  ne_nil names := by
    obtain ⟨f, fs, hfs⟩ := List.exists_cons_of_ne_nil (selected_ne_nil names)
    obtain ⟨rest, hrest⟩ := Text.exists_join_cons (lit " ") f.render (fs.map render)
    rw [hfs, renderAll, List.map_cons, hrest]
    exact List.append_ne_nil_of_left_ne_nil f.render_ne_nil rest
  firsts {names other known} h h' := by
    have hnames : knownNames names = known := (firstKnown_knownNames names).unique h
    have hother : knownNames other = known := (firstKnown_knownNames other).unique h'
    rw [selected_congr (hother.trans hnames.symm)]
  inserted h post := congrArg renderAll (selected_congr (knownNames_append_cons h post))
  exchanged h := congrArg renderAll (selected_congr (knownNames_of_exchanged h).symm)

/-- A name that is asked for twice and one that is not known. -/
theorem selectsFirstKnown_selection_genres :
    FirstKnown [lit "genres", lit "title", lit "genres", lit "directors"]
        [lit "genres", lit "title", lit "directors"] ∧
      FirstKnown [lit "genres", lit "budget", lit "title", lit "directors"]
        [lit "genres", lit "title", lit "directors"] ∧
      renderAll (selected [lit "genres", lit "budget", lit "title", lit "directors"]) =
        renderAll (selected [lit "genres", lit "title", lit "genres", lit "directors"]) ∧
      renderAll (selected [lit "genres", lit "title", lit "genres", lit "directors"]) =
        lit "genres \x7b type \x7d title directors \x7b name \x7d" := by
  have hrepeated := firstKnown_knownNames [lit "genres", lit "title", lit "genres", lit "directors"]
  have hunknown := firstKnown_knownNames [lit "genres", lit "budget", lit "title", lit "directors"]
  exact ⟨hrepeated, hunknown, selectsFirstKnown_selection.firsts hrepeated hunknown, by decide⟩

end FilmQuery.Field
