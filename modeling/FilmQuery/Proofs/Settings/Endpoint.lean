import FilmQuery.Proofs.Text
import FilmQuery.Settings.Load
import Mathlib.Data.List.Basic

/-!
# Endpoints

The addresses of the two services are checked when settings are loaded. What is taken never ends
with a slash, but it is an address that would be taken again, as it is, only if something stands
behind the scheme and no blank in front of the slashes that are dropped.
-/

namespace FilmQuery

namespace Text

theorem startsWith_iff {t p : Text} : t.startsWith p = true ↔ p <+: t := by
  rw [startsWith, Option.isSome_iff_exists]
  simp only [after?_eq_some_iff, List.IsPrefix, eq_comm (a := t)]

/-- Trimming the end stops at what does not belong to the class. -/
theorem trimEnd_append {p : CodePoint → Bool} {t w : Text} (ht : t.getLast?.any p = false)
    (hw : ∀ c ∈ w, p c = true) : trimEnd p (t ++ w) = t := by
  have hdrop : (t ++ w).reverse.dropWhile p = t.reverse := by
    refine dropWhile_eq_iff.2 ⟨w.reverse, List.reverse_append, by simpa using hw, ?_⟩
    rwa [List.head?_reverse]
  rw [trimEnd, hdrop, List.reverse_reverse]

/-- What trimming twice leaves as it is was not trimmed at all. -/
theorem trim_eq_self_of_trimEnd {p q : CodePoint → Bool} {t : Text}
    (h : trimEnd q (trim p t) = t) : trim p t = t := by
  obtain ⟨a, b, ht, -⟩ := (trim_eq_iff (p := p) (t := t)).1 rfl
  obtain ⟨w, hw, -⟩ := exists_trimEnd_append q (trim p t)
  rw [h] at hw
  have hlength := congrArg List.length ht
  have hlength' := congrArg List.length hw
  simp only [List.length_append] at hlength hlength'
  have hnil : w = [] := List.length_eq_zero_iff.1 (by omega)
  rwa [hnil, List.append_nil] at hw

end Text

namespace Settings

/-- The beginnings that an address may have. -/
def schemes : List Text := [lit "http://", lit "https://"]

/-- An address that is taken as it is: it begins with a scheme, does not end with a slash, and the
check leaves it alone. -/
def IsEndpoint (u : Text) : Prop :=
  (∃ scheme ∈ schemes, scheme <+: u) ∧ u.getLast? ≠ some '/'.toNat ∧ address u = .ok u

/-- A text that says where a service is: between blanks, something stands behind a scheme, and what
stands in front of the slashes at the end is no blank. -/
def NamesHost (t : Text) : Prop :=
  ∃ before scheme body c slashes after,
    t = before ++ (scheme ++ (body ++ c :: slashes) ++ after) ∧ scheme ∈ schemes ∧
      (∀ b ∈ before, isBlank b = true) ∧ (∀ b ∈ after, isBlank b = true) ∧
      (∀ d ∈ slashes, d = '/'.toNat) ∧ c ≠ '/'.toNat ∧ isBlank c = false

theorem address_eq_ok_iff {t u : Text} :
    address t = .ok u ↔ (∃ scheme ∈ schemes, scheme <+: Text.trim isBlank t) ∧
      Text.trimEnd (· == '/'.toNat) (Text.trim isBlank t) = u := by
  have hscheme : (∃ scheme ∈ schemes, scheme <+: Text.trim isBlank t) ↔
      ((Text.trim isBlank t).startsWith (lit "http://") ||
        (Text.trim isBlank t).startsWith (lit "https://")) = true := by
    rw [Bool.or_eq_true, Text.startsWith_iff, Text.startsWith_iff]
    simp [schemes]
  rw [hscheme, address]
  split_ifs with h
  · simp [h]
  · simp [h]

/-- What is taken does not end with a slash. -/
theorem getLast?_ne_of_address {t u : Text} (h : address t = .ok u) :
    u.getLast? ≠ some '/'.toNat := by
  obtain ⟨_, -, -, hlast⟩ := Text.exists_trimEnd_append (· == '/'.toNat) (Text.trim isBlank t)
  rw [(address_eq_ok_iff.1 h).2] at hlast
  intro heq
  rw [heq] at hlast
  exact absurd hlast (by decide)

theorem head?_of_mem_schemes : ∀ scheme ∈ schemes, scheme.head? = some 'h'.toNat := by decide

/-- An address is taken as it is if it begins with a scheme and ends in neither a slash nor a
blank. -/
theorem isEndpoint_of_getLast {scheme rest : Text} {c : CodePoint} (hscheme : scheme ∈ schemes)
    (hslash : c ≠ '/'.toNat) (hblank : isBlank c = false) :
    IsEndpoint (scheme ++ (rest ++ [c])) := by
  have hlast : (scheme ++ (rest ++ [c])).getLast? = some c := by
    rw [← List.append_assoc, List.getLast?_concat]
  have htrim : Text.trim isBlank (scheme ++ (rest ++ [c])) = scheme ++ (rest ++ [c]) := by
    refine Text.trim_eq_iff.2 ⟨[], [], by simp, by simp, by simp, ?_, ?_⟩
    · rw [List.head?_append, head?_of_mem_schemes scheme hscheme]
      rfl
    · rw [hlast, Option.any_some, hblank]
  have hend : Text.trimEnd (· == '/'.toNat) (scheme ++ (rest ++ [c])) = scheme ++ (rest ++ [c]) := by
    have hkeep := Text.trimEnd_append (p := (· == '/'.toNat)) (t := scheme ++ (rest ++ [c]))
      (w := []) (by rw [hlast]; simpa using hslash) (by simp)
    rwa [List.append_nil] at hkeep
  refine ⟨⟨scheme, hscheme, List.prefix_append _ _⟩, ?_, address_eq_ok_iff.2 ⟨?_, ?_⟩⟩
  · rw [hlast]
    exact fun heq => hslash (Option.some.inj heq)
  · rw [htrim]
    exact ⟨scheme, hscheme, List.prefix_append _ _⟩
  · rw [htrim, hend]

/-- An address that is taken is taken again as it is exactly if it was given with a host. -/
theorem isEndpoint_iff_namesHost {t u : Text} (h : address t = .ok u) :
    IsEndpoint u ↔ NamesHost t := by
  obtain ⟨-, hend⟩ := address_eq_ok_iff.1 h
  constructor
  · rintro ⟨⟨scheme, hscheme, rest, rfl⟩, hslash, hagain⟩
    have htrim := Text.trim_eq_self_of_trimEnd (address_eq_ok_iff.1 hagain).2
    obtain ⟨-, -, -, -, -, -, hblank⟩ := Text.trim_eq_iff.1 htrim
    rcases List.eq_nil_or_concat' rest with rfl | ⟨body, c, rfl⟩
    · -- a scheme alone ends with a slash
      have hall : ∀ scheme ∈ schemes, scheme.getLast? = some '/'.toNat := by decide
      rw [List.append_nil] at hslash
      exact absurd (hall scheme hscheme) hslash
    · have hlast : (scheme ++ (body ++ [c])).getLast? = some c := by
        rw [← List.append_assoc, List.getLast?_concat]
      rw [hlast] at hslash hblank
      obtain ⟨before, after, ht, hbefore, hafter, -⟩ := (Text.trim_eq_iff (t := t)).1 rfl
      obtain ⟨slashes, hsplit, hslashes, -⟩ :=
        Text.exists_trimEnd_append (· == '/'.toNat) (Text.trim isBlank t)
      rw [hend] at hsplit
      rw [hsplit] at ht
      exact ⟨before, scheme, body, c, slashes, after, by simpa using ht, hscheme, hbefore, hafter,
        fun d hd => by simpa using hslashes d hd, fun hc => hslash (hc ▸ rfl), hblank⟩
  · rintro ⟨before, scheme, body, c, slashes, after, rfl, hscheme, hbefore, hafter, hslashes, hc,
      hblank⟩
    have htrim : Text.trim isBlank (before ++ (scheme ++ (body ++ c :: slashes) ++ after)) =
        scheme ++ (body ++ [c]) ++ slashes := by
      refine Text.trim_eq_iff.2 ⟨before, after, by simp, hbefore, hafter, ?_, ?_⟩
      · rw [List.append_assoc, List.head?_append, head?_of_mem_schemes scheme hscheme]
        rfl
      · rcases List.eq_nil_or_concat' slashes with rfl | ⟨slashes, d, rfl⟩
        · rw [List.append_nil, ← List.append_assoc, List.getLast?_concat, Option.any_some, hblank]
        · rw [← List.append_assoc, List.getLast?_concat, Option.any_some,
            hslashes d (by simp)]
          rfl
    -- the slashes go and the last character of the host stays
    rw [htrim, Text.trimEnd_append] at hend
    · rw [← hend]
      exact isEndpoint_of_getLast hscheme hc hblank
    · rw [← List.append_assoc, List.getLast?_concat, Option.any_some, beq_eq_false_iff_ne]
      exact hc
    · exact fun d hd => by simpa using hslashes d hd

/-! ## The settings of a process -/

/-- What is given for a setting by the environment, or else by the file of settings. -/
def valueGiven? (environment : Environment) (file : Option Text) : Setting → Option Text :=
  given? environment ((file.map (SettingsFile.load environment)).getD [])

/-- The addresses among the settings, each with its name. -/
def endpoints (s : Settings) : List (Setting × Text) :=
  [(.modelHost, s.modelHost), (.storeUrl, s.storeUrl)]

theorem isEndpoint_of_mem_defaults : ∀ e ∈ endpoints {}, IsEndpoint e.2 := by
  have hhost : IsEndpoint (lit "http://localhost:11434") := ⟨by decide, by decide, rfl⟩
  have hurl : IsEndpoint (lit "http://localhost:4000/graphql") := ⟨by decide, by decide, rfl⟩
  exact List.forall_mem_cons.2 ⟨hhost, List.forall_mem_singleton.2 hurl⟩

theorem ofGiven_eq_ok {given : Setting → Option Text} {s : Settings} (h : ofGiven given = .ok s) :
    ∀ e ∈ s.endpoints, ∃ e' ∈ endpoints {}, e'.1 = e.1 ∧
      check e'.2 address (given e.1) = .ok e.2 := by
  unfold ofGiven at h
  dsimp only at h
  split at h
  · next host model modelTimeout url storeTimeout hhost _ _ hurl _ =>
    cases h
    simp [endpoints, hhost, hurl]
  · cases h

/-- **The addresses of settings that are loaded.** They never end with a slash. Each of them begins
with a scheme and is taken again as it is if and only if what was given for it, where something
was, says where a service is. -/
theorem endpoints_of_load {environment : Environment} {file : Option Text} {s : Settings}
    (h : load environment file = .ok s) :
    ∀ e ∈ s.endpoints, e.2.getLast? ≠ some '/'.toNat ∧
      (IsEndpoint e.2 ↔ ∀ t ∈ valueGiven? environment file e.1, NamesHost t) := by
  intro e he
  obtain ⟨e', he', -, hcheck⟩ := ofGiven_eq_ok h e he
  have hgiven : valueGiven? environment file e.1 =
      given? environment ((file.map (SettingsFile.load environment)).getD []) e.1 := rfl
  rw [← hgiven] at hcheck
  cases hvalue : valueGiven? environment file e.1 with
  | none =>
      rw [hvalue] at hcheck
      have hdefault : IsEndpoint e.2 :=
        Except.ok.inj hcheck ▸ isEndpoint_of_mem_defaults e' he'
      exact ⟨hdefault.2.1, iff_of_true hdefault (by simp)⟩
  | some t =>
      rw [hvalue] at hcheck
      have haddress : address t = .ok e.2 := hcheck
      refine ⟨getLast?_ne_of_address haddress, ?_⟩
      rw [isEndpoint_iff_namesHost haddress]
      simp

/-- Blanks at both ends are dropped, and then slashes at the end. -/
theorem endpoints_of_load_slashes :
    ∃ s, load [(lit "ollama_host", lit "\thttps://models.example:1// \n")] none = .ok s ∧
      s.modelHost = lit "https://models.example:1" ∧ IsEndpoint s.modelHost ∧
      IsEndpoint s.storeUrl := by
  obtain ⟨s, hs, hhost⟩ : ∃ s,
      load [(lit "ollama_host", lit "\thttps://models.example:1// \n")] none = .ok s ∧
        s.modelHost = lit "https://models.example:1" := ⟨_, rfl, by decide⟩
  refine ⟨s, hs, hhost, ?_, ?_⟩
  · refine (endpoints_of_load hs (.modelHost, s.modelHost) List.mem_cons_self).2.2 ?_
    rintro t ⟨⟩
    exact ⟨lit "\t", lit "https://", lit "models.example:", '1'.toNat, lit "//", lit " \n", by decide,
      by decide, by decide, by decide, by decide, by decide, by decide⟩
  · refine (endpoints_of_load hs (.storeUrl, s.storeUrl) (by simp [endpoints])).2.2 ?_
    rintro t ⟨⟩

/-- A scheme alone is taken, and the slashes that are dropped are its own. -/
theorem exists_endpoint_without_scheme :
    ∃ environment file s, load environment file = .ok s ∧ s.modelHost = lit "http:" ∧
      ¬∃ scheme ∈ schemes, scheme <+: s.modelHost :=
  ⟨[(lit "OLLAMA_HOST", lit "http://")], none, _, rfl, by decide, by decide⟩

end Settings

end FilmQuery
