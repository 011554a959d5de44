import FilmQuery.Query.Filter

/-!
# The operator of a rating

A rating filter names its comparison with an operator, in capitals or not and with or without blanks
around it. The operator is said here by the words that a query may have for it; that the comparison
of a filter is written with that word is the one statement that opens how names are looked up.
-/

namespace FilmQuery

/-- The words that a query has for comparisons. -/
def operators : List Text := [lit "GT", lit "GTE", lit "LT", lit "LTE", lit "EQ"]

/-- The word for an operator: the operator itself, in capitals and without the blanks around it, or
`GT` where that is none of the words or there is no operator. -/
def operatorWord (op : Option Text) : Text :=
  let word := Text.upper (Text.trim isBlank (op.getD []))
  if operators.contains word then word else lit "GT"

theorem operatorWord_mem (op : Option Text) : operatorWord op ∈ operators := by
  unfold operatorWord
  dsimp only
  split
  case isTrue hword => exact List.contains_iff_mem.1 hword
  case isFalse => decide

theorem Comparison.name_mem_operators (c : Comparison) : c.name ∈ operators := by
  cases c <;> decide

/-- A word is looked up as itself, and any other text as the word for `gt`. -/
theorem Comparison.name_ofName (t : Text) :
    (ofName t).name = if operators.contains t then t else lit "GT" := by
  unfold ofName
  cases hfound : all.find? fun c => c.name == t with
  | some c =>
      have hname := List.find?_some hfound
      obtain rfl : c.name = t := eq_of_beq hname
      rw [if_pos (List.contains_iff_mem.2 c.name_mem_operators)]
      rfl
  | none =>
      have hother : ∀ c ∈ all, c.name ≠ t := fun c hc heq =>
        List.find?_eq_none.1 hfound c hc (beq_iff_eq.2 heq)
      have hwords : operators = all.map name := rfl
      rw [if_neg]
      · rfl
      · rw [List.contains_iff_mem, hwords, List.mem_map]
        rintro ⟨c, hc, heq⟩
        exact hother c hc heq

/-- The comparison of a rating filter is the one that its operator has a word for. -/
theorem Rating.name_comparison (r : Rating) : r.comparison.name = operatorWord r.op := by
  unfold comparison
  rw [Comparison.name_ofName]
  cases hop : r.op with
  | none => decide
  | some t =>
      cases t with
      | nil => decide
      | cons c t => rfl

/-- Blanks and small letters do not count, and a sign is no word. -/
example : operatorWord (some (lit " lte\n")) = lit "LTE" ∧
    operatorWord (some (lit "<=")) = lit "GT" := by
  decide

end FilmQuery
