import FilmQuery.Text.Basic

/-!
# Entries

Values under keys, in the order in which the keys first came. Setting a key that is there changes
its value and not its place. Main statements: `lookup` after `put`, and that the keys of a list of
members are distinct.
-/

namespace FilmQuery.Entries

variable {α : Type}

/-- Sets a key. -/
def put (key : Text) (value : α) : List (Text × α) → List (Text × α)
  | [] => [(key, value)]
  | (k, v) :: rest => if k = key then (k, value) :: rest else (k, v) :: put key value rest

@[simp] theorem lookup_put_self (key : Text) (value : α) (entries : List (Text × α)) :
    (put key value entries).lookup key = some value := by
  induction entries with
  | nil => simp [put]
  | cons e rest ih =>
    obtain ⟨k, v⟩ := e
    by_cases hk : k = key
    · simp [put, hk]
    · simp [put, hk, List.lookup_cons, ih, beq_false_of_ne (Ne.symm hk)]

theorem lookup_put_of_ne {key other : Text} (h : other ≠ key) (value : α)
    (entries : List (Text × α)) : (put key value entries).lookup other = entries.lookup other := by
  induction entries with
  | nil => simp [put, List.lookup_cons, beq_false_of_ne h]
  | cons e rest ih =>
    obtain ⟨k, v⟩ := e
    by_cases hk : k = key
    · subst hk
      simp [put, List.lookup_cons, beq_false_of_ne h]
    · simp [put, hk, List.lookup_cons, ih]

/-- A key that is set keeps its place; a new one comes last. -/
theorem keys_put (key : Text) (value : α) (entries : List (Text × α)) :
    (put key value entries).map Prod.fst =
      if key ∈ entries.map Prod.fst then entries.map Prod.fst
      else entries.map Prod.fst ++ [key] := by
  induction entries with
  | nil => simp [put]
  | cons e rest ih =>
    obtain ⟨k, v⟩ := e
    by_cases hk : k = key
    · simp [put, hk]
    · simp only [put, hk, if_false, List.map_cons, ih, List.mem_cons, Ne.symm hk, false_or]
      split <;> rfl

theorem nodup_keys_put (key : Text) (value : α) {entries : List (Text × α)}
    (h : (entries.map Prod.fst).Nodup) : ((put key value entries).map Prod.fst).Nodup := by
  rw [keys_put]
  split
  · exact h
  · next hk =>
    rw [List.nodup_append]
    refine ⟨h, by simp, ?_⟩
    intro k hmem b hb hkb
    rw [List.mem_singleton] at hb
    exact hk (hb ▸ hkb ▸ hmem)

theorem put_of_not_mem {key : Text} {entries : List (Text × α)}
    (h : key ∉ entries.map Prod.fst) (value : α) :
    put key value entries = entries ++ [(key, value)] := by
  induction entries with
  | nil => rfl
  | cons e rest ih =>
    rw [List.map_cons, List.mem_cons, not_or] at h
    rw [put, if_neg (Ne.symm h.1), ih h.2]
    rfl

/-- The entries that a list of members amounts to when a repeated key overwrites. -/
def ofMembers (members : List (Text × α)) : List (Text × α) :=
  members.foldl (fun entries (k, v) => put k v entries) []

theorem ofMembers_snoc (members : List (Text × α)) (key : Text) (value : α) :
    ofMembers (members ++ [(key, value)]) = put key value (ofMembers members) := by
  simp [ofMembers]

theorem nodup_keys_foldl (members : List (Text × α)) {entries : List (Text × α)}
    (h : (entries.map Prod.fst).Nodup) :
    ((members.foldl (fun entries (k, v) => put k v entries) entries).map Prod.fst).Nodup := by
  induction members generalizing entries with
  | nil => exact h
  | cons m rest ih => exact ih (nodup_keys_put m.1 m.2 h)

/-- The entries of a list of members have distinct keys. -/
theorem nodup_keys_ofMembers (members : List (Text × α)) :
    ((ofMembers members).map Prod.fst).Nodup := nodup_keys_foldl members (by simp)

theorem foldl_put_eq_append {members entries : List (Text × α)}
    (h : ((entries ++ members).map Prod.fst).Nodup) :
    members.foldl (fun entries (k, v) => put k v entries) entries = entries ++ members := by
  induction members generalizing entries with
  | nil => simp
  | cons m rest ih =>
    obtain ⟨key, value⟩ := m
    rw [List.append_cons] at h
    have hkey : key ∉ entries.map Prod.fst := by
      rw [List.map_append, List.map_append, List.nodup_append, List.nodup_append] at h
      exact fun hmem => h.1.2.2 key hmem key (by simp) rfl
    rw [List.foldl_cons]
    show List.foldl _ (put key value entries) rest = _
    rw [put_of_not_mem hkey, ih h, ← List.append_cons]

/-- Members with distinct keys are entries as they stand. -/
theorem ofMembers_eq_self {members : List (Text × α)} (h : (members.map Prod.fst).Nodup) :
    ofMembers members = members := foldl_put_eq_append (by simpa using h)

end FilmQuery.Entries
