import FilmQuery.Json.Decode
import FilmQuery.Proofs.GraphQL.StringLiteral

/-!
# Documents

A reader for a part of the query language: operations with or without a name, fields with
arguments, aliases and selections of their own, and all values. Directives, variable definitions
and fragments are refused, and so is an escaped half of a character. What is accepted is a document
of the language, with the meaning that it has there.
-/

namespace FilmQuery.GraphQL

/-- A value. A word is `true`, `false`, `null` or the name of an enumerated value. -/
inductive Value where
  | variable (name : Text)
  | number (literal : Text)
  | string (t : Text)
  | word (name : Text)
  | list (items : List Value)
  | object (entries : List (Text × Value))
  deriving Repr

inductive Selection where
  | field (label : Option Text) (name : Text) (arguments : List (Text × Value))
      (selections : List Selection)
  deriving Repr

inductive OperationKind where
  | query
  | mutation
  | subscription
  deriving DecidableEq, Repr

/-- An operation; it is anonymous if it has no name. -/
structure Operation where
  kind : OperationKind
  name : Option Text
  selections : List Selection
  deriving Repr

/-! ## What a string means -/

def isSourceCharacter (c : CodePoint) : Bool :=
  isScalar c && (0x20 ≤ c || c == 0x09 || c == 0x0A || c == 0x0D)

/-- Whether a code point may stand in a string as it is. -/
def standsRaw (c : CodePoint) : Bool :=
  isSourceCharacter c && !isLineBreak c && c != '"'.toNat && c != '\\'.toNat

/-- The text that is meant by what stands between the quotes. The escapes are those of JSON. -/
def stringValue? : (raw : Text) → Option Text
  | [] => some []
  | c :: t =>
    if c = '\\'.toNat then
      match t with
      | [] => none
      | e :: t =>
        if e = 'u'.toNat then
          match t with
          | a :: b :: c :: d :: t =>
            ((Json.hexUnit? a b c d).filter isScalar).bind fun v => (stringValue? t).map (v :: ·)
          | _ => none
        else (Json.shortEscape? e).bind fun v => (stringValue? t).map (v :: ·)
    else if standsRaw c then (stringValue? t).map (c :: ·)
    else none

/-! ## Plain texts -/

/-- A text that a string can spell with no escape but that of double quotes. -/
def IsPlain (t : Text) : Prop := ∀ c ∈ t, standsRaw c = true ∨ c = '"'.toNat

instance (t : Text) : Decidable (IsPlain t) :=
  inferInstanceAs (Decidable (∀ c ∈ t, standsRaw c = true ∨ c = '"'.toNat))

theorem not_special_of_standsRaw {c : CodePoint} (h : standsRaw c = true) :
    isLineBreak c = false ∧ c ≠ '"'.toNat ∧ c ≠ '\\'.toNat := by
  simp only [standsRaw, Bool.and_eq_true, Bool.not_eq_true', bne_iff_ne] at h
  obtain ⟨⟨⟨-, hbreak⟩, hquote⟩, hslash⟩ := h
  exact ⟨hbreak, hquote, hslash⟩

theorem IsPlain.ne_backslash {t : Text} (h : IsPlain t) : '\\'.toNat ∉ t := by
  intro hmem
  rcases h _ hmem with hraw | hquote
  · exact (not_special_of_standsRaw hraw).2.2 rfl
  · exact absurd hquote (by decide)

theorem endingBackslashes_eq_zero {t : Text} (h : '\\'.toNat ∉ t) : endingBackslashes t = 0 := by
  rw [endingBackslashes, List.length_eq_zero_iff]
  cases hlast : t.reverse with
  | nil => rfl
  | cons c u =>
      have hc : c ≠ '\\'.toNat := by
        rintro rfl
        exact h (List.mem_reverse.1 (hlast ▸ List.mem_cons_self))
      rw [List.takeWhile_cons, beq_false_of_ne hc]
      rfl

theorem IsPlain.isContained {t : Text} (h : IsPlain t) : IsContained t := by
  refine ⟨fun c hc => ?_, fun u v huv _ => ?_⟩
  · rcases h c hc with hraw | rfl
    · exact (not_special_of_standsRaw hraw).1
    · rfl
  · have hslash : '\\'.toNat ∉ u := fun hmem =>
      h.ne_backslash (huv ▸ List.mem_append_left v hmem)
    rw [List.nil_append, endingBackslashes_eq_zero hslash]
    exact Nat.dvd_zero 2

/-- The escaped text means the text. -/
theorem stringValue?_escapeQuotes {t : Text} (h : IsPlain t) :
    stringValue? (escapeQuotes t) = some t := by
  induction t with
  | nil => rfl
  | cons c t ih =>
      have ht := ih fun d hd => h d (List.mem_cons_of_mem c hd)
      rw [escapeQuotes_cons]
      by_cases hquote : c = '"'.toNat
      · rw [if_pos hquote, hquote]
        show stringValue? ('\\'.toNat :: '"'.toNat :: escapeQuotes t) = _
        have hescape : Json.shortEscape? '"'.toNat = some '"'.toNat := by decide
        have hletter : '"'.toNat ≠ 'u'.toNat := by decide
        rw [stringValue?.eq_def]
        simp only [if_true, if_neg hletter, hescape, ht, Option.bind_some, Option.map_some]
      · obtain hraw : standsRaw c = true := (h c List.mem_cons_self).resolve_right hquote
        have hslash := (not_special_of_standsRaw hraw).2.2
        rw [if_neg hquote, List.singleton_append, stringValue?.eq_def]
        simp only [if_neg hslash, hraw, if_true, ht, Option.map_some]

/-! ## The reader -/

mutual

/-- Reads a value. The number bounds the calls; each takes a token off the front. -/
def value? : Nat → List Token → Option (Value × List Token)
  | _ + 1, .punct .dollar :: .name w :: ts => some (.variable w, ts)
  | _ + 1, .number w :: ts => some (.number w, ts)
  | _ + 1, .string raw :: ts => (stringValue? raw).map fun t => (.string t, ts)
  | _ + 1, .name w :: ts => some (.word w, ts)
  | n + 1, .punct .bracketOpen :: ts => (items? n ts).map fun (vs, ts) => (.list vs, ts)
  | n + 1, .punct .braceOpen :: ts =>
    (entries? .braceClose n ts).map fun (es, ts) => (.object es, ts)
  | _, _ => none

/-- Reads the items of a list up to its end. -/
def items? : Nat → List Token → Option (List Value × List Token)
  | _ + 1, .punct .bracketClose :: ts => some ([], ts)
  | n + 1, ts =>
    (value? n ts).bind fun (v, ts) => (items? n ts).map fun (vs, ts) => (v :: vs, ts)
  | 0, _ => none

/-- Reads names with values, up to the punctuator that closes them. -/
def entries? (close : Punctuator) : Nat → List Token → Option (List (Text × Value) × List Token)
  | n + 1, .name k :: .punct .colon :: ts =>
    (value? n ts).bind fun (v, ts) =>
      (entries? close n ts).map fun (es, ts) => ((k, v) :: es, ts)
  | _ + 1, .punct p :: ts => if p = close then some ([], ts) else none
  | _, _ => none

end

/-- Reads the arguments of a field, if it has any. -/
def arguments? (n : Nat) : List Token → Option (List (Text × Value) × List Token)
  | .punct .parenOpen :: ts => (entries? .parenClose n ts).filter fun (es, _) => !es.isEmpty
  | ts => some ([], ts)

mutual

/-- Reads a field. -/
def selection? : Nat → List Token → Option (Selection × List Token)
  | n + 1, .name a :: .punct .colon :: .name w :: ts => fieldRest? (some a) w n ts
  | n + 1, .name w :: ts => fieldRest? none w n ts
  | _, _ => none

/-- Reads what comes after the name of a field. -/
def fieldRest? (label : Option Text) (name : Text) :
    Nat → List Token → Option (Selection × List Token)
  | n + 1, ts =>
    (arguments? n ts).bind fun (as, ts) =>
      match ts with
      | .punct .braceOpen :: ts =>
        (selections? n ts).bind fun (ss, ts) =>
          if ss.isEmpty then none else some (.field label name as ss, ts)
      | ts => some (.field label name as [], ts)
  | 0, _ => none

/-- Reads fields up to a closing brace. -/
def selections? : Nat → List Token → Option (List Selection × List Token)
  | _ + 1, .punct .braceClose :: ts => some ([], ts)
  | n + 1, ts =>
    (selection? n ts).bind fun (s, ts) => (selections? n ts).map fun (ss, ts) => (s :: ss, ts)
  | 0, _ => none

end

/-- Reads the selections of an operation. -/
def operationRest? (n : Nat) (kind : OperationKind) (name : Option Text) :
    List Token → Option (Operation × List Token)
  | .punct .braceOpen :: ts =>
    (selections? n ts).bind fun (ss, ts) =>
      if ss.isEmpty then none else some (⟨kind, name, ss⟩, ts)
  | _ => none

def kind? (w : Text) : Option OperationKind :=
  [(lit "query", .query), (lit "mutation", .mutation),
    (lit "subscription", .subscription)].lookup w

/-- Reads an operation; a query may go without the word. -/
def operation? (n : Nat) : List Token → Option (Operation × List Token)
  | .name k :: .name w :: ts => (kind? k).bind fun kind => operationRest? n kind (some w) ts
  | .name k :: ts => (kind? k).bind fun kind => operationRest? n kind none ts
  | ts => operationRest? n .query none ts

/-- Reads operations up to the end. -/
def operations? : Nat → List Token → Option (List Operation)
  | _, [] => some []
  | n + 1, ts => (operation? n ts).bind fun (o, ts) => (operations? n ts).map (o :: ·)
  | 0, _ => none

/-- The operations of a document; there is at least one. -/
def parse (t : Text) : Option (List Operation) :=
  (lex t).bind fun ts =>
    (operations? (ts.length + 1) ts).filter fun operations => !operations.isEmpty

end FilmQuery.GraphQL
