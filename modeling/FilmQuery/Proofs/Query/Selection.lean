import FilmQuery.Intent.Basic
import FilmQuery.Query.Field

/-!
# The names that are selected

A selection has the names that were asked for and are known, each where it first occurs. If none is
known it has the names of the default fields.
-/

namespace FilmQuery.Field

theorem name_injective {f g : Field} (h : f.name = g.name) : f = g := by
  have hfound := ofName?_name f
  rw [h, ofName?_name g] at hfound
  exact (Option.some.inj hfound).symm

theorem firsts_filter (p : Field → Bool) (fs : List Field) :
    firsts (fs.filter p) = (firsts fs).filter p := by
  induction fs with
  | nil => rfl
  | cons g fs ih =>
      cases hg : p g
      · have hrest : ((firsts fs).filter (· != g)).filter p = (firsts fs).filter p := by
          rw [List.filter_filter]
          apply List.filter_congr
          intro f _
          by_cases hfg : f = g
          · simp [hfg, hg]
          · simp [hfg]
        simp [hg, firsts, ih, hrest]
      · simp [hg, firsts, ih, List.filter_filter, Bool.and_comm]

/-- Names are dropped from a list of names as their fields are from a list of fields. -/
theorem map_name_firsts (fs : List Field) : (firsts fs).map name = (fs.map name).eraseDups := by
  -- the list that is left after a name is filtered is no tail, so the induction is on the length
  induction hn : fs.length using Nat.strongRecOn generalizing fs with
  | ind n ih =>
      cases fs with
      | nil => rfl
      | cons f fs =>
          have hlength : (fs.filter (· != f)).length < n := by
            rw [← hn, List.length_cons]
            exact Nat.lt_succ_of_le (List.length_filter_le _ fs)
          have hrest := ih _ hlength (fs.filter (· != f)) rfl
          have hfilter : (fs.map name).filter (fun w => !w == f.name) =
              (fs.filter (· != f)).map name := by
            rw [List.filter_map]
            congr 1
            apply List.filter_congr
            intro g _
            by_cases hgf : g = f
            · simp [hgf]
            · have hname : g.name ≠ f.name := fun h => hgf (name_injective h)
              have hbne : (g != f) = true := bne_iff_ne.2 hgf
              rw [Function.comp_apply, beq_false_of_ne hname, hbne]
              rfl
          rw [List.map_cons, List.eraseDups_cons, hfilter, ← hrest, firsts_filter]
          rfl

theorem mem_all (f : Field) : f ∈ all := by
  cases f <;> decide

/-- The names of the known fields. -/
theorem map_name_all : all.map name = Intent.defaultFields := rfl

theorem map_name_ofName? (t : Text) :
    (ofName? t).map name = if t ∈ Intent.defaultFields then some t else none := by
  cases hfound : ofName? t with
  | none =>
      have hnone : ∀ f ∈ all, ¬(f.name == t) = true := List.find?_eq_none.1 hfound
      have hnot : t ∉ Intent.defaultFields := by
        rw [← map_name_all]
        intro hmem
        obtain ⟨f, hf, rfl⟩ := List.mem_map.1 hmem
        exact hnone f hf (beq_self_eq_true _)
      rw [if_neg hnot]
      rfl
  | some f =>
      obtain rfl : f.name = t := by simpa using List.find?_some hfound
      have hmem : f.name ∈ Intent.defaultFields := by
        rw [← map_name_all]
        exact List.mem_map_of_mem f.mem_all
      rw [if_pos hmem]
      rfl

/-- The names asked for that are known, each where it first occurs; all names if none is known. -/
def requestedNames (names : List Text) : List Text :=
  match (names.filter (· ∈ Intent.defaultFields)).eraseDups with
  | [] => Intent.defaultFields
  | known => known

theorem map_name_selected (names : List Text) :
    (selected names).map name = requestedNames names := by
  have hknown : (names.filter (· ∈ Intent.defaultFields)).eraseDups =
      (firsts (names.filterMap ofName?)).map name := by
    have hguard : (fun t => (ofName? t).map name) = Option.guard (· ∈ Intent.defaultFields) := by
      funext t
      rw [map_name_ofName?]
      simp [Option.guard]
    rw [map_name_firsts, List.map_filterMap, hguard, List.filterMap_eq_filter]
  unfold selected requestedNames
  rw [hknown]
  cases firsts (names.filterMap ofName?) with
  | nil => exact map_name_all
  | cons f fs => rfl

end FilmQuery.Field
