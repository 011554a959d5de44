import FilmQuery.Envelope
import Mathlib.Algebra.Ring.Nat
import Mathlib.Data.List.Basic

/-!
# Envelopes level by level

The containers of an envelope come in levels: the envelope itself, the containers directly inside
it, those inside these, and so on. The search for a text keeps one queue for two neighbouring
levels: what is left of the one that it is looking into, and behind it what it has met of the next.
So it goes through the levels in order, as far as its budget lasts, and what it finds first stands
as far outside as any text with something in it.
-/

namespace FilmQuery.Envelope

/-- The containers among the members of a value, in order. -/
def inner (j : Json) : List Json := (children j).filter isContainer

/-- The texts among the members of a value, in order. -/
def texts (j : Json) : List Text := (children j).filterMap Json.string?

/-- The containers `d` levels below a row of containers, in order. -/
def level : Nat → List Json → List Json
  | 0, row => row
  | d + 1, row => level d (row.flatMap inner)

mutual

/-- How many containers a value is made of, itself included. -/
def containers : Json → Nat
  | .array items => containersOfItems items + 1
  | .object entries => containersOfEntries entries + 1
  | _ => 0

def containersOfItems : List Json → Nat
  | [] => 0
  | j :: js => containers j + containersOfItems js

def containersOfEntries : List (Text × Json) → Nat
  | [] => 0
  | (_, j) :: rest => containers j + containersOfEntries rest

end

/-- The containers of an envelope, those of each level before those of the next. There are no more
levels than containers. -/
def levelOrder (j : Json) : List Json := (List.range (containers j)).flatMap fun d => level d [j]

/-- The text `t` stands in a value, inside `d` containers. -/
inductive HoldsAt : (d : Nat) → (t : Text) → Json → Prop where
  | here (t : Text) : HoldsAt 0 t (.string t)
  | inside {d : Nat} {t : Text} {j k : Json} (hk : k ∈ children j) (h : HoldsAt d t k) :
      HoldsAt (d + 1) t j

/-- No text in a value has anything in it. -/
def Textless (j : Json) : Prop := ∀ d t, HoldsAt d t j → t.isAllBlank = true

/-! ## Counting containers -/

theorem containersOfItems_eq (js : List Json) :
    containersOfItems js = (js.map containers).sum := by
  induction js with
  | nil => rfl
  | cons j js ih => simp [containersOfItems, ih]

theorem containersOfEntries_eq (entries : List (Text × Json)) :
    containersOfEntries entries = ((entries.map Prod.snd).map containers).sum := by
  induction entries with
  | nil => rfl
  | cons e rest ih => simp [containersOfEntries, ih]

theorem containers_eq_zero {j : Json} (h : isContainer j = false) : containers j = 0 := by
  cases j with
  | array items => cases h
  | object entries => cases h
  | _ => rfl

theorem sum_containers_filter (js : List Json) :
    ((js.filter isContainer).map containers).sum = (js.map containers).sum := by
  induction js with
  | nil => rfl
  | cons j js ih =>
      cases hj : isContainer j with
      | true => simp [hj, ih]
      | false => simp [hj, ih, containers_eq_zero hj]

/-- A container counts itself and what it counts inside. -/
theorem containers_eq {j : Json} (h : isContainer j = true) :
    containers j = ((inner j).map containers).sum + 1 := by
  rw [inner, sum_containers_filter]
  cases j with
  | array items => rw [containers, containersOfItems_eq, children]
  | object entries => rw [containers, containersOfEntries_eq, children]
  | _ => cases h

theorem isContainer_of_mem_inner {j k : Json} (h : k ∈ inner j) : isContainer k = true :=
  (List.mem_filter.1 h).2

theorem isContainer_of_mem_flatMap {row : List Json} {k : Json} (h : k ∈ row.flatMap inner) :
    isContainer k = true := by
  obtain ⟨j, -, hk⟩ := List.mem_flatMap.1 h
  exact isContainer_of_mem_inner hk

/-- A row has its own containers and those of the row below. -/
theorem sum_containers_row {row : List Json} (hrow : ∀ j ∈ row, isContainer j = true) :
    (row.map containers).sum = row.length + ((row.flatMap inner).map containers).sum := by
  induction row with
  | nil => rfl
  | cons j row ih =>
      rw [List.forall_mem_cons] at hrow
      have hj := containers_eq hrow.1
      have hrest := ih hrow.2
      simp only [List.map_cons, List.sum_cons, List.flatMap_cons, List.map_append,
        List.sum_append, List.length_cons]
      omega

theorem length_le_sum_containers {row : List Json} (hrow : ∀ j ∈ row, isContainer j = true) :
    row.length ≤ (row.map containers).sum := by
  rw [sum_containers_row hrow]
  exact Nat.le_add_right _ _

/-- The rows down to one level, one after the other. -/
theorem flatMap_level_succ (n : Nat) (row : List Json) :
    ((List.range (n + 1)).flatMap fun d => level d row) =
      row ++ (List.range n).flatMap fun d => level d (row.flatMap inner) := by
  rw [List.range_succ_eq_map, List.flatMap_cons, List.flatMap_map]
  rfl

theorem sum_containers_levels {row : List Json} (hrow : ∀ j ∈ row, isContainer j = true)
    (n : Nat) :
    (row.map containers).sum = ((List.range n).flatMap fun d => level d row).length +
      ((level n row).map containers).sum := by
  induction n generalizing row with
  | zero => simp [level]
  | succ n ih =>
      have hbelow := @ih (row.flatMap inner) fun k => isContainer_of_mem_flatMap
      rw [flatMap_level_succ, List.length_append, sum_containers_row hrow, hbelow, level,
        Nat.add_assoc]

/-- Where a level has containers, so has every level above it. -/
theorem lt_sum_containers_of_level {row : List Json} (hrow : ∀ j ∈ row, isContainer j = true)
    {d : Nat} (h : level d row ≠ []) : d < (row.map containers).sum := by
  induction d generalizing row with
  | zero =>
      have hpos : 0 < row.length := List.length_pos_iff.2 h
      exact Nat.lt_of_lt_of_le hpos (length_le_sum_containers hrow)
  | succ d ih =>
      have hbelow := @ih (row.flatMap inner) (fun k => isContainer_of_mem_flatMap) h
      have hpos : 0 < row.length := by
        rw [List.length_pos_iff]
        rintro rfl
        exact absurd hbelow (by simp)
      rw [sum_containers_row hrow]
      omega

section

variable {j : Json} (hj : isContainer j = true)

include hj

theorem isContainer_of_mem_singleton {k : Json} (hk : k ∈ [j]) : isContainer k = true := by
  rwa [List.mem_singleton.1 hk]

theorem lt_containers_of_level {d : Nat} (h : level d [j] ≠ []) : d < containers j := by
  have hlt := lt_sum_containers_of_level (fun _ => isContainer_of_mem_singleton hj) h
  simpa using hlt

theorem level_containers : level (containers j) [j] = [] := by
  by_contra h
  exact Nat.lt_irrefl _ (lt_containers_of_level hj h)

/-- The level order lists every container, and each of them once. -/
theorem length_levelOrder : (levelOrder j).length = containers j := by
  have hsum := sum_containers_levels (fun _ => isContainer_of_mem_singleton hj) (containers j)
  rw [level_containers hj] at hsum
  simpa [levelOrder] using hsum.symm

end

/-! ## The search -/

/-- The first text with something in it among the members of a value. -/
theorem findSome?_filledText? (js : List Json) :
    js.findSome? filledText? = (js.filterMap Json.string?).find? fun t => !t.isAllBlank := by
  induction js with
  | nil => rfl
  | cons j js ih =>
      rw [List.findSome?_cons, ih]
      cases j with
      | string t =>
          rw [List.filterMap_cons_some (f := Json.string?) rfl, List.find?_cons, filledText?]
          cases t.isAllBlank <;> rfl
      | _ => rfl

/-- One container is looked into, and those inside it are put behind what was waiting. -/
theorem searchLevels_cons (budget : Nat) (j : Json) (waiting : List Json) :
    searchLevels (budget + 1) (j :: waiting) =
      ((texts j).find? fun t => !t.isAllBlank).or
        (searchLevels budget (waiting ++ inner j)) := by
  have htext : (children j).findSome? filledText? = (texts j).find? fun t => !t.isAllBlank :=
    findSome?_filledText? _
  rw [searchLevels, ← inner, ← htext]
  cases (children j).findSome? filledText? <;> rfl

/-- Looking into a row of containers puts the row below it behind what was waiting. -/
theorem searchLevels_append (budget : Nat) (row waiting : List Json) :
    searchLevels budget (row ++ waiting) =
      (((row.take budget).flatMap texts).find? fun t => !t.isAllBlank).or
        (searchLevels (budget - row.length) (waiting ++ row.flatMap inner)) := by
  -- what waits grows by the containers of each one looked into, so it is generalised
  induction row generalizing budget waiting with
  | nil => simp
  | cons j row ih =>
      cases budget with
      | zero => simp [searchLevels]
      | succ budget =>
          have hnext : row ++ waiting ++ inner j = row ++ (waiting ++ inner j) :=
            List.append_assoc _ _ _
          rw [List.cons_append, searchLevels_cons, hnext, ih, List.take_succ_cons,
            List.flatMap_cons, List.find?_append, Option.or_assoc, List.length_cons,
            Nat.add_sub_add_right, List.flatMap_cons, List.append_assoc]

theorem searchLevels_nil (budget : Nat) : searchLevels budget [] = none := by
  cases budget <;> rfl

/-- The search goes through one level after the other. -/
theorem searchLevels_levels (n budget : Nat) (row : List Json) :
    searchLevels budget row =
      (((((List.range n).flatMap fun d => level d row).take budget).flatMap texts).find?
          fun t => !t.isAllBlank).or
        (searchLevels (budget - ((List.range n).flatMap fun d => level d row).length)
          (level n row)) := by
  induction n generalizing budget row with
  | zero => simp [level]
  | succ n ih =>
      have hstep := searchLevels_append budget row []
      rw [List.append_nil, List.nil_append] at hstep
      rw [hstep, ih, flatMap_level_succ, List.take_append, List.flatMap_append,
        List.find?_append, Option.or_assoc, List.length_append, Nat.sub_sub]
      rfl

/-- The search finds the first text with something in it among those in the containers that the
budget lasts for, in level order. -/
theorem searchLevels_eq {j : Json} (hj : isContainer j = true) (budget : Nat) :
    searchLevels budget [j] =
      (((levelOrder j).take budget).flatMap texts).find? fun t => !t.isAllBlank := by
  rw [searchLevels_levels (containers j), level_containers hj, searchLevels_nil, Option.or_none]
  rfl

/-! ## Where texts stand -/

theorem holdsAt_zero_iff {t : Text} {j : Json} : HoldsAt 0 t j ↔ j = .string t := by
  constructor
  · intro h
    cases h
    rfl
  · rintro rfl
    exact .here t

theorem holdsAt_succ_iff {d : Nat} {t : Text} {j : Json} :
    HoldsAt (d + 1) t j ↔ ∃ k ∈ children j, HoldsAt d t k := by
  constructor
  · intro h
    cases h with
    | inside hk h => exact ⟨_, hk, h⟩
  · rintro ⟨k, hk, h⟩
    exact .inside hk h

theorem isContainer_of_mem_children {j k : Json} (h : k ∈ children j) : isContainer j = true := by
  cases j with
  | array items => rfl
  | object entries => rfl
  | _ => cases h

theorem mem_texts_iff {t : Text} {j : Json} : t ∈ texts j ↔ .string t ∈ children j := by
  rw [texts, List.mem_filterMap]
  constructor
  · rintro ⟨k, hk, ht⟩
    cases k with
    | string u => rwa [← Option.some.inj ht]
    | _ => cases ht
  · intro h
    exact ⟨_, h, rfl⟩

/-- The texts of a level are those that stand inside as many containers. -/
theorem mem_texts_level_iff {d : Nat} {t : Text} {row : List Json} :
    t ∈ (level d row).flatMap texts ↔ ∃ j ∈ row, HoldsAt (d + 1) t j := by
  induction d generalizing row with
  | zero => simp [level, List.mem_flatMap, mem_texts_iff, holdsAt_succ_iff, holdsAt_zero_iff]
  | succ d ih =>
      rw [level, ih]
      constructor
      · rintro ⟨k, hk, h⟩
        obtain ⟨j, hj, hinner⟩ := List.mem_flatMap.1 hk
        exact ⟨j, hj, .inside (List.mem_filter.1 hinner).1 h⟩
      · rintro ⟨j, hj, h⟩
        obtain ⟨k, hk, h⟩ := holdsAt_succ_iff.1 h
        obtain ⟨l, hl, -⟩ := holdsAt_succ_iff.1 h
        have hinner : k ∈ inner j := List.mem_filter.2 ⟨hk, isContainer_of_mem_children hl⟩
        exact ⟨k, List.mem_flatMap.2 ⟨j, hj, hinner⟩, h⟩

/-- What comes before `d` in a range is what is less. -/
theorem mem_above_of_lt {n d d' : Nat} {above below : List Nat}
    (h : List.range n = above ++ d :: below) (hlt : d' < d) : d' ∈ above := by
  have hsorted := h ▸ List.pairwise_lt_range (n := n)
  have hd : d ∈ List.range n := h ▸ List.mem_append_right above List.mem_cons_self
  have hd' : d' ∈ above ++ d :: below := by
    rw [← h, List.mem_range]
    exact Nat.lt_trans hlt (List.mem_range.1 hd)
  rw [List.pairwise_append, List.pairwise_cons] at hsorted
  rcases List.mem_append.1 hd' with hmem | hmem
  · exact hmem
  · rcases List.mem_cons.1 hmem with rfl | hmem
    · exact absurd hlt (Nat.lt_irrefl _)
    · exact absurd hlt (Nat.lt_asymm (hsorted.2.1.1 d' hmem))

section

variable {j : Json} (hj : isContainer j = true)

include hj

theorem not_holdsAt_zero (t : Text) : ¬HoldsAt 0 t j := by
  rw [holdsAt_zero_iff]
  rintro rfl
  cases hj

theorem mem_texts_levelOrder_iff {t : Text} :
    t ∈ (levelOrder j).flatMap texts ↔ ∃ d, HoldsAt d t j := by
  rw [levelOrder, List.flatMap_assoc, List.mem_flatMap]
  constructor
  · rintro ⟨d, -, ht⟩
    obtain ⟨k, hk, h⟩ := mem_texts_level_iff.1 ht
    rw [List.mem_singleton.1 hk] at h
    exact ⟨d + 1, h⟩
  · rintro ⟨d, h⟩
    cases d with
    | zero => exact absurd h (not_holdsAt_zero hj t)
    | succ d =>
        have ht := mem_texts_level_iff.2 ⟨j, List.mem_singleton_self j, h⟩
        refine ⟨d, List.mem_range.2 (lt_containers_of_level hj ?_), ht⟩
        intro hnil
        rw [hnil] at ht
        cases ht

/-- What comes first of the filled texts in level order stands as far outside as any of them. -/
theorem exists_holdsAt_of_find? {t : Text}
    (h : ((levelOrder j).flatMap texts).find? (fun u => !u.isAllBlank) = some t) :
    ∃ d, HoldsAt d t j ∧ t.isAllBlank = false ∧
      ∀ d' u, HoldsAt d' u j → u.isAllBlank = false → d ≤ d' := by
  rw [levelOrder, List.flatMap_assoc, List.find?_flatMap, List.findSome?_eq_some_iff] at h
  obtain ⟨above, d, below, hrange, hfound, hnone⟩ := h
  have hfilled : t.isAllBlank = false := by simpa using List.find?_some hfound
  obtain ⟨k, hk, hholds⟩ := mem_texts_level_iff.1 (List.mem_of_find?_eq_some hfound)
  rw [List.mem_singleton.1 hk] at hholds
  refine ⟨d + 1, hholds, hfilled, ?_⟩
  intro d' u hu hufilled
  cases d' with
  | zero => exact absurd hu (not_holdsAt_zero hj u)
  | succ d' =>
      -- a filled text further out would stand in a level that has none
      by_contra hlt
      have hd' : d' < d := by omega
      have habove := mem_above_of_lt hrange hd'
      have hblank := List.find?_eq_none.1 (hnone d' habove) u
        (mem_texts_level_iff.2 ⟨j, List.mem_singleton_self j, hu⟩)
      simp [hufilled] at hblank

end

end FilmQuery.Envelope
