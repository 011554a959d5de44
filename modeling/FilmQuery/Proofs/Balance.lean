import FilmQuery.Braces
import FilmQuery.Proofs.Text
import Mathlib.Data.List.Basic

/-!
# What the first object of a text is

Said without a scan: literals are taken out of a text, and its brace depth is the number of opening
braces in what is left less the number of closing ones. The first object is the shortest prefix
with depth zero of what stands from the first brace on. The scan goes with this because its mode
says which literal is open, and its depth is that of the prefix read so far.
-/

namespace FilmQuery.Braces

/-- What follows a literal that is open in front of the text: the text behind the next quote `q`
that is not escaped, or nothing where no such quote closes the literal. -/
def afterLiteral (q : CodePoint) : Text → Text
  | [] => []
  | c :: t =>
    if c = '\\'.toNat then
      match t with
      | [] => []
      | _ :: t => afterLiteral q t
    else if c = q then t
    else afterLiteral q t

theorem length_afterLiteral_le (q : CodePoint) (t : Text) :
    (afterLiteral q t).length ≤ t.length := by
  fun_induction afterLiteral q t with
  | case1 => exact Nat.le_refl _
  | case2 => exact Nat.zero_le _
  | case3 _ t ih => exact ih.trans (Nat.le_add_right _ 2)
  | case4 => exact Nat.le_succ _
  | case5 c t _ _ ih => exact ih.trans (Nat.le_succ _)

/-- The text without its literals. -/
def unquoted : Text → Text
  | [] => []
  | c :: t => if isQuote c then unquoted (afterLiteral c t) else c :: unquoted t
termination_by t => t.length
decreasing_by
  · have := length_afterLiteral_le c t
    simp only [List.length_cons]
    omega
  · simp

/-- How many braces more are opened than closed outside literals. -/
def braceDepth (t : Text) : Int := (unquoted t).count opening - (unquoted t).count closing

def Balanced (t : Text) : Prop := braceDepth t = 0

/-- The shortest non-empty prefix of `t` with the property `P`. -/
structure Shortest (P : Text → Prop) (t s : Text) : Prop where
  isPrefix : s <+: t
  ne_nil : s ≠ []
  holds : P s
  least : ∀ p, p <+: t → p ≠ [] → P p → s.length ≤ p.length

namespace Shortest

variable {P : Text → Prop} {t s : Text}

theorem exists_eq_cons {c : CodePoint} (h : Shortest P (c :: t) s) : ∃ u, s = c :: u := by
  cases s with
  | nil => exact absurd rfl h.ne_nil
  | cons d u =>
      obtain ⟨rfl, -⟩ := List.cons_prefix_cons.1 h.isPrefix
      exact ⟨u, rfl⟩

/-- No shorter prefix has the property. -/
theorem not_of_ne (h : Shortest P t s) {p : Text} (hp : p <+: s) (hne : p ≠ []) (hps : p ≠ s) :
    ¬P p := by
  intro hP
  exact hps (hp.eq_of_length_le (h.least p (hp.trans h.isPrefix) hne hP))

/-- What stands behind does not matter. -/
theorem append (h : Shortest P t s) (u : Text) : Shortest P (t ++ u) s where
  isPrefix := h.isPrefix.trans (List.prefix_append t u)
  ne_nil := h.ne_nil
  holds := h.holds
  least p hp hne hP := by
    rcases Nat.le_total p.length t.length with hle | hle
    · exact h.least p (List.prefix_of_prefix_length_le hp (List.prefix_append t u) hle) hne hP
    · exact h.isPrefix.length_le.trans hle

/-- It is the shortest of its own prefixes too. -/
theorem self (h : Shortest P t s) : Shortest P s s where
  isPrefix := List.prefix_refl s
  ne_nil := h.ne_nil
  holds := h.holds
  least p hp := h.least p (hp.trans h.isPrefix)

theorem cons_iff {c : CodePoint} :
    Shortest P (c :: t) s ↔
      P [c] ∧ s = [c] ∨ ¬P [c] ∧ ∃ u, s = c :: u ∧ Shortest (fun p => P (c :: p)) t u := by
  constructor
  · intro h
    obtain ⟨u, rfl⟩ := h.exists_eq_cons
    by_cases hc : P [c]
    · have hle := h.least [c] (List.prefix_append [c] t) (by simp) hc
      rw [List.length_cons, List.length_singleton] at hle
      have hu : u = [] := List.length_eq_zero_iff.1 (by omega)
      exact Or.inl ⟨hc, by rw [hu]⟩
    · refine Or.inr ⟨hc, u, rfl, (List.cons_prefix_cons.1 h.isPrefix).2, ?_, h.holds, ?_⟩
      · rintro rfl
        exact hc h.holds
      · intro p hp _ hP
        have hle := h.least (c :: p) (List.cons_prefix_cons.2 ⟨rfl, hp⟩) (by simp) hP
        simpa using hle
  · rintro (⟨hc, rfl⟩ | ⟨hc, u, rfl, h⟩)
    · refine ⟨List.prefix_append [c] t, by simp, hc, ?_⟩
      intro p _ hne _
      exact List.length_pos_iff.2 hne
    · refine ⟨List.cons_prefix_cons.2 ⟨rfl, h.isPrefix⟩, by simp, h.holds, ?_⟩
      intro p hp hne hP
      cases p with
      | nil => exact absurd rfl hne
      | cons d p =>
          obtain ⟨rfl, hrest⟩ := List.cons_prefix_cons.1 hp
          have hne : p ≠ [] := by
            rintro rfl
            exact hc hP
          exact Nat.succ_le_succ (h.least p hrest hne hP)

end Shortest

/-- Where some prefix has a property, there is a shortest one. -/
theorem exists_shortest {P : Text → Prop} {t p : Text} (hp : p <+: t) (hne : p ≠ []) (h : P p) :
    ∃ s, Shortest P t s := by
  induction t generalizing P p with
  | nil => exact absurd (List.prefix_nil.1 hp) hne
  | cons c t ih =>
      by_cases hc : P [c]
      · exact ⟨[c], Shortest.cons_iff.2 (Or.inl ⟨hc, rfl⟩)⟩
      · cases p with
        | nil => exact absurd rfl hne
        | cons d p =>
            obtain ⟨rfl, hrest⟩ := List.cons_prefix_cons.1 hp
            have hne : p ≠ [] := by
              rintro rfl
              exact hc h
            obtain ⟨u, hu⟩ := ih (P := fun p => P (d :: p)) hrest hne h
            exact ⟨d :: u, Shortest.cons_iff.2 (Or.inr ⟨hc, u, rfl, hu⟩)⟩

/-! ## The mode of a scan says which literal is open -/

/-- What is outside literals in a text that a scan comes to in some mode. -/
def unquotedFrom : Mode → Text → Text
  | .bare, t => unquoted t
  | .quoted q, t => unquoted (afterLiteral q t)
  | .escaped q, t => unquoted (afterLiteral q t.tail)

theorem unquoted_nil : unquoted [] = [] := by
  rw [unquoted]

@[simp] theorem unquotedFrom_nil (mode : Mode) : unquotedFrom mode [] = [] := by
  cases mode <;> exact unquoted_nil

theorem unquotedFrom_bare_cons {c : CodePoint} (hc : isQuote c = false) (t : Text) :
    unquotedFrom .bare (c :: t) = c :: unquotedFrom (Mode.bare.next c) t := by
  have hnext : Mode.bare.next c = .bare := by simp [Mode.next, hc]
  rw [hnext, unquotedFrom, unquoted, hc]
  rfl

/-- A quote opens a literal. -/
theorem unquotedFrom_quote_cons {c : CodePoint} (hc : isQuote c = true) (t : Text) :
    unquotedFrom .bare (c :: t) = unquotedFrom (Mode.bare.next c) t := by
  have hnext : Mode.bare.next c = .quoted c := by simp [Mode.next, hc]
  rw [hnext, unquotedFrom, unquoted, hc]
  rfl

/-- Inside a literal nothing is added. -/
theorem unquotedFrom_cons {mode : Mode} (hmode : mode ≠ .bare) (c : CodePoint) (t : Text) :
    unquotedFrom mode (c :: t) = unquotedFrom (mode.next c) t := by
  cases mode with
  | bare => exact absurd rfl hmode
  | escaped q => rfl
  | quoted q =>
      rw [unquotedFrom, afterLiteral.eq_def, Mode.next]
      dsimp only
      split_ifs
      · cases t <;> rfl
      · rfl
      · rfl

/-- The depth that a text adds where a scan comes to it in some mode. -/
def depthFrom (mode : Mode) (t : Text) : Int :=
  (unquotedFrom mode t).count opening - (unquotedFrom mode t).count closing

@[simp] theorem depthFrom_nil (mode : Mode) : depthFrom mode [] = 0 := by
  simp [depthFrom]

/-- Inside an object the scan counts as the definition of depth does. -/
theorem depth_add_depthFrom_cons {depth : Nat} (hd : 0 < depth) (mode : Mode) (c : CodePoint)
    (t : Text) :
    depth + depthFrom mode (c :: t) =
      depthAfter mode depth c + depthFrom (mode.next c) t := by
  -- outside literals both sides count a brace, and inside one neither does
  by_cases hmode : mode = .bare
  · subst hmode
    cases hc : isQuote c with
    | true =>
        have hopen : c ≠ opening := by
          rintro rfl
          cases hc
        have hclose : c ≠ closing := by
          rintro rfl
          cases hc
        rw [depthFrom, unquotedFrom_quote_cons hc, depthAfter, if_neg hopen, if_neg hclose]
        rfl
    | false =>
        rw [depthFrom, unquotedFrom_bare_cons hc, List.count_cons, List.count_cons, depthFrom]
        by_cases hopen : c = opening
        · have hne : opening ≠ closing := by decide
          simp only [depthAfter, hopen, beq_self_eq_true, beq_iff_eq, hne, if_true, if_false]
          omega
        · by_cases hclose : c = closing
          · have hne : closing ≠ opening := by decide
            simp only [depthAfter, hclose, beq_self_eq_true, beq_iff_eq, hne, if_true, if_false]
            omega
          · simp only [depthAfter, hopen, hclose, beq_iff_eq, if_false]
            omega
  · have hdepth : depthAfter mode depth c = depth := by
      cases mode with
      | bare => exact absurd rfl hmode
      | quoted q => rfl
      | escaped q => rfl
    rw [depthFrom, unquotedFrom_cons hmode, hdepth]
    rfl

/-- What a scan cuts out from inside an object is the shortest prefix that closes it. -/
theorem balanced?_eq_some_iff {mode : Mode} {depth : Nat} (hd : 0 < depth) {t s : Text} :
    balanced? mode depth t = some s ↔
      Shortest (fun p => depth + depthFrom mode p = 0) t s := by
  induction t generalizing mode depth s with
  | nil =>
      refine iff_of_false (by simp [balanced?]) ?_
      intro h
      exact h.ne_nil (List.prefix_nil.1 h.isPrefix)
  | cons c t ih =>
      simp only [Shortest.cons_iff, depth_add_depthFrom_cons hd, depthFrom_nil, Int.add_zero]
      rw [balanced?]
      by_cases hzero : depthAfter mode depth c = 0
      · rw [if_pos hzero]
        simp [hzero, eq_comm]
      · rw [if_neg hzero, Option.map_eq_some_iff]
        simp only [ih (Nat.pos_of_ne_zero hzero), Int.natCast_eq_zero, hzero, false_and, false_or,
          not_false_eq_true, true_and]
        constructor
        · rintro ⟨u, hu, rfl⟩
          exact ⟨u, rfl, hu⟩
        · rintro ⟨u, rfl, hu⟩
          exact ⟨u, hu, rfl⟩

theorem braceDepth_opening_cons (t : Text) : braceDepth (opening :: t) = 1 + depthFrom .bare t := by
  have hunquoted : unquoted (opening :: t) = opening :: unquoted t := by
    rw [unquoted]
    rfl
  have hne : opening ≠ closing := by decide
  rw [braceDepth, hunquoted, List.count_cons_self, List.count_cons_of_ne hne, depthFrom,
    unquotedFrom]
  omega

/-- What is cut out from the first brace on is the shortest balanced prefix. -/
theorem balanced?_opening_iff {r s : Text} :
    balanced? .bare 0 (opening :: r) = some s ↔ Shortest Balanced (opening :: r) s := by
  have hopen : ¬(1 : Int) + depthFrom .bare [] = 0 := by simp
  have hstep : balanced? .bare 0 (opening :: r) =
      (balanced? .bare 1 r).map (opening :: ·) := rfl
  rw [hstep, Option.map_eq_some_iff, Shortest.cons_iff]
  simp only [Balanced, braceDepth_opening_cons, balanced?_eq_some_iff Nat.one_pos,
    Int.natCast_one]
  constructor
  · rintro ⟨u, hu, rfl⟩
    exact Or.inr ⟨hopen, u, rfl, hu⟩
  · rintro (⟨h, -⟩ | ⟨-, u, rfl, hu⟩)
    · exact absurd h hopen
    · exact ⟨u, hu, rfl⟩

/-- The brace that closes an object is the last of what is cut out. -/
theorem getLast?_of_balanced? {mode : Mode} {depth : Nat} (hd : 0 < depth) {t s : Text}
    (h : balanced? mode depth t = some s) : s.getLast? = some closing := by
  induction t generalizing mode depth s with
  | nil => cases h
  | cons c t ih =>
      rw [balanced?] at h
      split at h
      · next hzero =>
        obtain rfl := Option.some.inj h
        have hclose : c = closing := by
          by_contra hc
          unfold depthAfter at hzero
          split at hzero
          · split_ifs at hzero
            omega
          · omega
        rw [hclose]
        rfl
      · next hne =>
        obtain ⟨u, hu, rfl⟩ := Option.map_eq_some_iff.1 h
        rw [List.getLast?_cons, ih (Nat.pos_of_ne_zero hne) hu]
        rfl

/-! ## The first object -/

theorem firstObject?_of_not_mem {t : Text} (h : opening ∉ t) : firstObject? t = none := by
  have hdrop : t.dropWhile (· != opening) = [] := by
    rw [Text.dropWhile_eq_nil_iff]
    intro c hc
    exact bne_iff_ne.2 fun heq => h (heq ▸ hc)
  rw [firstObject?, hdrop]

theorem firstObject?_append {p : Text} (hp : opening ∉ p) (r : Text) :
    firstObject? (p ++ opening :: r) = balanced? .bare 0 (opening :: r) := by
  have hdrop : (p ++ opening :: r).dropWhile (· != opening) = opening :: r := by
    rw [List.dropWhile_append_of_pos]
    · rfl
    · intro c hc
      exact bne_iff_ne.2 fun heq => hp (heq ▸ hc)
  rw [firstObject?, hdrop]

theorem firstObject?_eq_some_iff {t s : Text} :
    firstObject? t = some s ↔
      ∃ p r, t = p ++ opening :: r ∧ opening ∉ p ∧ Shortest Balanced (opening :: r) s := by
  constructor
  · intro h
    by_cases hmem : opening ∈ t
    · obtain ⟨p, r, rfl, hp⟩ := List.eq_append_cons_of_mem hmem
      rw [firstObject?_append hp, balanced?_opening_iff] at h
      exact ⟨p, r, rfl, hp, h⟩
    · rw [firstObject?_of_not_mem hmem] at h
      cases h
  · rintro ⟨p, r, rfl, hp, h⟩
    rwa [firstObject?_append hp, balanced?_opening_iff]

theorem firstObject?_eq_none_iff {t : Text} :
    firstObject? t = none ↔ opening ∉ t ∨ ∃ p r, t = p ++ opening :: r ∧ opening ∉ p ∧
      ∀ s, s <+: opening :: r → s ≠ [] → ¬Balanced s := by
  constructor
  · intro h
    by_cases hmem : opening ∈ t
    · obtain ⟨p, r, rfl, hp⟩ := List.eq_append_cons_of_mem hmem
      refine Or.inr ⟨p, r, rfl, hp, ?_⟩
      intro s hs hne hbalanced
      obtain ⟨u, hu⟩ := exists_shortest hs hne hbalanced
      rw [firstObject?_eq_some_iff.2 ⟨p, r, rfl, hp, hu⟩] at h
      cases h
    · exact Or.inl hmem
  · rintro (hmem | ⟨p, r, rfl, hp, hnone⟩)
    · exact firstObject?_of_not_mem hmem
    · rw [firstObject?_append hp, Option.eq_none_iff_forall_ne_some]
      intro s hs
      have h := balanced?_opening_iff.1 hs
      exact hnone s h.isPrefix h.ne_nil h.holds

theorem getLast?_of_firstObject? {t s : Text} (h : firstObject? t = some s) :
    s.getLast? = some closing := by
  obtain ⟨p, r, rfl, hp, hs⟩ := firstObject?_eq_some_iff.1 h
  have hcut : (balanced? .bare 1 r).map (opening :: ·) = some s := balanced?_opening_iff.2 hs
  obtain ⟨u, hu, rfl⟩ := Option.map_eq_some_iff.1 hcut
  rw [List.getLast?_cons, getLast?_of_balanced? Nat.one_pos hu]
  rfl

/-- **The first object of a text is the shortest balanced prefix of what stands from its first
brace on,** and there is none exactly if there is no brace or no such prefix. It begins with an
opening brace and ends with a closing one, no part in front of its end is balanced, text behind it
does not change it, and it is its own first object. -/
theorem firstObject?_shortest_balanced (t : Text) :
    (∀ s, firstObject? t = some s ↔
        ∃ p r, t = p ++ opening :: r ∧ opening ∉ p ∧ Shortest Balanced (opening :: r) s) ∧
      (firstObject? t = none ↔ opening ∉ t ∨ ∃ p r, t = p ++ opening :: r ∧ opening ∉ p ∧
        ∀ s, s <+: opening :: r → s ≠ [] → ¬Balanced s) ∧
      ∀ s, firstObject? t = some s →
        s.head? = some opening ∧ s.getLast? = some closing ∧
          (∀ p, p <+: s → p ≠ [] → p ≠ s → ¬Balanced p) ∧
          (∀ u, firstObject? (t ++ u) = some s) ∧ firstObject? s = some s := by
  refine ⟨fun _ => firstObject?_eq_some_iff, firstObject?_eq_none_iff, ?_⟩
  intro s h
  have hlast := getLast?_of_firstObject? h
  obtain ⟨p, r, rfl, hp, hs⟩ := firstObject?_eq_some_iff.1 h
  obtain ⟨v, rfl⟩ := hs.exists_eq_cons
  refine ⟨rfl, hlast, fun q hq hne hqs => hs.not_of_ne hq hne hqs, ?_, ?_⟩
  · intro u
    rw [List.append_assoc]
    exact firstObject?_eq_some_iff.2 ⟨p, r ++ u, rfl, hp, hs.append u⟩
  · exact firstObject?_eq_some_iff.2 ⟨[], v, rfl, by simp, hs.self⟩

/-- A brace and an escaped quote stand in literals, and the last literal is not closed. -/
theorem firstObject?_shortest_balanced_quotes :
    firstObject? (lit "so: \x7b'\\'\x7d': \"\x7d\"\x7d 'and") =
        some (lit "\x7b'\\'\x7d': \"\x7d\"\x7d") ∧
      firstObject? (lit "\x7b'\\'\x7d': \"\x7d\"\x7d") =
        some (lit "\x7b'\\'\x7d': \"\x7d\"\x7d") := by
  have hfirst : firstObject? (lit "so: \x7b'\\'\x7d': \"\x7d\"\x7d 'and") =
      some (lit "\x7b'\\'\x7d': \"\x7d\"\x7d") := by decide
  exact ⟨hfirst, ((firstObject?_shortest_balanced _).2.2 _ hfirst).2.2.2.2⟩

end FilmQuery.Braces
