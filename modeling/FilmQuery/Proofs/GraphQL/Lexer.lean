import FilmQuery.Proofs.Text

/-!
# The tokens of GraphQL

The lexer reads one code point at a time. Its state is what it stands in: a gap, a word, a number,
a string, a comment or the dots of a spread. A string goes from a double quote to the next one that
no backslash takes along, and no line break may stand in it; what the escapes in it mean is not
asked here. Block strings are not read. Main statements: reading a text and then another is reading
both at once, a word ends at any code point that is ignored, and every string token could stand
between two quotes.
-/

namespace FilmQuery.GraphQL

inductive Punctuator where
  | bang
  | dollar
  | ampersand
  | parenOpen
  | parenClose
  | spread
  | colon
  | equals
  | at
  | bracketOpen
  | bracketClose
  | braceOpen
  | bar
  | braceClose
  deriving DecidableEq, Repr

/-- A token; a number and a string hold what stands in the text, without the quotes. -/
inductive Token where
  | punct (p : Punctuator)
  | name (w : Text)
  | number (w : Text)
  | string (raw : Text)
  deriving DecidableEq, Repr

/-! ## Code points -/

def isLineBreak (c : CodePoint) : Bool := c == 0x0A || c == 0x0D

/-- Space, tab, line breaks, the comma and the byte order mark mean nothing between tokens. -/
def ignored : List CodePoint := [0x20, 0x09, 0x0A, 0x0D, ','.toNat, 0xFEFF]

def isNameStart (c : CodePoint) : Bool :=
  ('A'.toNat ≤ c && c ≤ 'Z'.toNat) || ('a'.toNat ≤ c && c ≤ 'z'.toNat) || c == '_'.toNat

def isNameContinue (c : CodePoint) : Bool := isNameStart c || isAsciiDigit c

/-- The punctuators of one code point. -/
def punctuators : List (CodePoint × Punctuator) :=
  [('!'.toNat, .bang), ('$'.toNat, .dollar), ('&'.toNat, .ampersand), ('('.toNat, .parenOpen),
    (')'.toNat, .parenClose), (':'.toNat, .colon), ('='.toNat, .equals), ('@'.toNat, .at),
    ('['.toNat, .bracketOpen), (']'.toNat, .bracketClose), ('\x7b'.toNat, .braceOpen),
    ('|'.toNat, .bar), ('\x7d'.toNat, .braceClose)]

/-! ## Numbers -/

/-- How far a number has been read. -/
inductive NumberState where
  | start
  | minus
  | zero
  | integer
  | point
  | fraction
  | mark
  | sign
  | exponent
  deriving DecidableEq, Repr

namespace NumberState

/-- A point or the mark of an exponent, after digits. -/
def afterDigits? (c : CodePoint) : Option NumberState :=
  if c = '.'.toNat then some point
  else if c = 'e'.toNat ∨ c = 'E'.toNat then some mark
  else none

/-- An integer part is zero or begins with another digit. -/
def integer? (c : CodePoint) : Option NumberState :=
  if c = '0'.toNat then some zero
  else if isAsciiDigit c then some integer
  else none

def next? (s : NumberState) (c : CodePoint) : Option NumberState :=
  match s with
  | start => if c = '-'.toNat then some minus else integer? c
  | minus => integer? c
  | zero => afterDigits? c
  | integer => if isAsciiDigit c then some integer else afterDigits? c
  | point => if isAsciiDigit c then some fraction else none
  | fraction =>
    if isAsciiDigit c then some fraction
    else if c = 'e'.toNat ∨ c = 'E'.toNat then some mark
    else none
  | mark =>
    if isAsciiDigit c then some exponent
    else if c = '+'.toNat ∨ c = '-'.toNat then some sign
    else none
  | sign | exponent => if isAsciiDigit c then some exponent else none

/-- Whether a number may end here. -/
def isComplete : NumberState → Bool
  | zero | integer | fraction | exponent => true
  | _ => false

/-- What is reached after a whole text. -/
def run? : NumberState → Text → Option NumberState
  | s, [] => some s
  | s, c :: t => (s.next? c).bind fun s => run? s t

theorem run?_append (s : NumberState) (t u : Text) :
    s.run? (t ++ u) = (s.run? t).bind fun s => s.run? u := by
  induction t generalizing s with
  | nil => rfl
  | cons c t ih =>
      simp only [List.cons_append, run?, Option.bind_assoc]
      congr 1
      funext s'
      exact ih s'

end NumberState

/-! ## The lexer -/

inductive Mode where
  | gap
  | name (w : Text)
  | number (s : NumberState) (w : Text)
  | string (escaped : Bool) (raw : Text)
  | comment
  | dots (n : Nat)
  deriving DecidableEq, Repr

namespace Mode

/-- What a code point begins that stands in a gap. -/
def start? (c : CodePoint) : Option (List Token × Mode) :=
  if c ∈ ignored then some ([], gap)
  else if c = '#'.toNat then some ([], comment)
  else if c = '"'.toNat then some ([], string false [])
  else if c = '.'.toNat then some ([], dots 1)
  else if isNameStart c then some ([], name [c])
  else
    match NumberState.start.next? c with
    | some s => some ([], number s [c])
    | none => (punctuators.lookup c).map fun p => ([.punct p], gap)

/-- The tokens that a code point completes, and where the lexer stands after it. A number is not
followed at once by a digit, a point or a letter. -/
def step (m : Mode) (c : CodePoint) : Option (List Token × Mode) :=
  match m with
  | gap => start? c
  | name w =>
    if isNameContinue c then some ([], name (w ++ [c]))
    else (start? c).map fun (ts, m) => (.name w :: ts, m)
  | number s w =>
    match s.next? c with
    | some s => some ([], number s (w ++ [c]))
    | none =>
      if s.isComplete && !isNameContinue c && c != '.'.toNat then
        (start? c).map fun (ts, m) => (.number w :: ts, m)
      else none
  | string escaped raw =>
    if !escaped && c == '"'.toNat then some ([.string raw], gap)
    else if isLineBreak c then none
    else some ([], string (!escaped && c == '\\'.toNat) (raw ++ [c]))
  | comment => some ([], if isLineBreak c then gap else comment)
  | dots n =>
    if c = '.'.toNat then
      if n = 2 then some ([.punct .spread], gap) else some ([], dots (n + 1))
    else none

/-- The tokens of a text, and where the lexer stands at its end. -/
def run : Mode → Text → Option (List Token × Mode)
  | m, [] => some ([], m)
  | m, c :: t => (m.step c).bind fun (ts, m) => (run m t).map fun (us, m) => (ts ++ us, m)

/-- The word that is complete if a gap follows. -/
def word? : Mode → Option (List Token)
  | gap => some []
  | name w => some [.name w]
  | number s w => if s.isComplete then some [.number w] else none
  | _ => none

/-- The last tokens of a document that ends here. -/
def finish? : Mode → Option (List Token)
  | comment => some []
  | m => m.word?

end Mode

/-- The tokens of a document. -/
def lex (t : Text) : Option (List Token) :=
  (Mode.gap.run t).bind fun (ts, m) => m.finish?.map (ts ++ ·)

namespace Mode

/-! ## Reading one text after another -/

theorem run_append (m : Mode) (t u : Text) :
    m.run (t ++ u) =
      (m.run t).bind fun (ts, m) => (m.run u).map fun (us, m) => (ts ++ us, m) := by
  induction t generalizing m with
  | nil => simp [run]
  | cons c t ih =>
      cases hstep : m.step c with
      | none => simp [run, hstep]
      | some next =>
          obtain ⟨ts, m'⟩ := next
          simp only [List.cons_append, run, hstep, Option.bind_some, ih m']
          cases ht : m'.run t with
          | none => rfl
          | some after =>
              obtain ⟨us, m''⟩ := after
              cases hu : m''.run u <;> simp [hu]

theorem run_append_of_eq_some {m m' m'' : Mode} {t u : Text} {ts us : List Token}
    (ht : m.run t = some (ts, m')) (hu : m'.run u = some (us, m'')) :
    m.run (t ++ u) = some (ts ++ us, m'') := by
  simp [run_append, ht, hu]

theorem run_cons_of_eq_some {m m' m'' : Mode} {c : CodePoint} {t : Text} {ts us : List Token}
    (hc : m.step c = some (ts, m')) (ht : m'.run t = some (us, m'')) :
    m.run (c :: t) = some (ts ++ us, m'') := by
  simp [run, hc, ht]

/-! ## Words -/

theorem not_isNameContinue_of_ignored {c : CodePoint} (hc : c ∈ ignored) :
    isNameContinue c = false := by
  have hall : ∀ c ∈ ignored, isNameContinue c = false := by decide
  exact hall c hc

theorem not_next?_of_ignored (s : NumberState) {c : CodePoint} (hc : c ∈ ignored) :
    s.next? c = none := by
  have hall : ∀ c ∈ ignored, s.next? c = none := by cases s <;> decide
  exact hall c hc

/-- A word ends at a code point that is ignored. -/
theorem step_of_word? {m : Mode} {p : List Token} (hm : m.word? = some p) {c : CodePoint}
    (hc : c ∈ ignored) : m.step c = some (p, gap) := by
  have hstart : start? c = some ([], gap) := if_pos hc
  have hname := not_isNameContinue_of_ignored hc
  cases m with
  | gap =>
      obtain rfl : [] = p := by simpa [word?] using hm
      exact hstart
  | name w =>
      obtain rfl : [.name w] = p := by simpa [word?] using hm
      simp [step, hname, hstart]
  | number s w =>
      obtain ⟨hs, rfl⟩ : s.isComplete = true ∧ [.number w] = p := by simpa [word?] using hm
      have hpoint : (c != '.'.toNat) = true := by
        rw [bne_iff_ne]
        rintro rfl
        exact absurd hc (by decide)
      simp only [step, not_next?_of_ignored s hc, hs, hname, hpoint, hstart]
      rfl
  | string escaped raw => simp [word?] at hm
  | comment => simp [word?] at hm
  | dots n => simp [word?] at hm

theorem finish?_of_word? {m : Mode} {p : List Token} (hm : m.word? = some p) :
    m.finish? = some p := by
  cases m with
  | comment => simp [word?] at hm
  | _ => exact hm

end Mode

/-- The text is read from gap to gap as the tokens `ts`. -/
def Whole (t : Text) (ts : List Token) : Prop := Mode.gap.run t = some (ts, .gap)

/-- The text is read as the tokens `ts` if a gap comes after it. -/
def Reads (t : Text) (ts : List Token) : Prop :=
  ((Mode.gap.run t).bind fun (us, m) => m.word?.map (us ++ ·)) = some ts

instance (t : Text) (ts : List Token) : Decidable (Whole t ts) :=
  inferInstanceAs (Decidable (_ = _))

instance (t : Text) (ts : List Token) : Decidable (Reads t ts) :=
  inferInstanceAs (Decidable (_ = _))

theorem reads_iff {t : Text} {ts : List Token} :
    Reads t ts ↔
      ∃ us m p, Mode.gap.run t = some (us, m) ∧ m.word? = some p ∧ us ++ p = ts := by
  constructor
  · intro h
    obtain ⟨⟨us, m⟩, hrun, hrest⟩ := Option.bind_eq_some_iff.1 h
    obtain ⟨p, hword, hts⟩ := Option.map_eq_some_iff.1 hrest
    exact ⟨us, m, p, hrun, hword, hts⟩
  · rintro ⟨us, m, p, hrun, hword, rfl⟩
    simp [Reads, hrun, hword]

theorem whole_nil : Whole [] [] := rfl

theorem Whole.reads {t : Text} {ts : List Token} (h : Whole t ts) : Reads t ts :=
  reads_iff.2 ⟨ts, .gap, [], h, rfl, List.append_nil ts⟩

theorem Whole.append {t u : Text} {ts us : List Token} (ht : Whole t ts) (hu : Whole u us) :
    Whole (t ++ u) (ts ++ us) :=
  Mode.run_append_of_eq_some ht hu

theorem Whole.append_reads {t u : Text} {ts us : List Token} (ht : Whole t ts)
    (hu : Reads u us) : Reads (t ++ u) (ts ++ us) := by
  obtain ⟨vs, m, p, hrun, hword, rfl⟩ := reads_iff.1 hu
  exact reads_iff.2 ⟨ts ++ vs, m, p, Mode.run_append_of_eq_some ht hrun, hword,
    List.append_assoc ts vs p⟩

/-- Whether a text begins with a code point that is ignored. -/
def beginsWithGap (t : Text) : Bool := t.head?.any (· ∈ ignored)

/-- What comes after a word begins with a gap. -/
theorem Reads.append {t u : Text} {ts us : List Token} (ht : Reads t ts)
    (hgap : beginsWithGap u = true) (hu : Whole u us) : Whole (t ++ u) (ts ++ us) := by
  obtain ⟨vs, m, p, hrun, hword, rfl⟩ := reads_iff.1 ht
  cases u with
  | nil => exact absurd hgap (by decide)
  | cons c u =>
      have hc : c ∈ ignored := by simpa [beginsWithGap] using hgap
      have hstart : Mode.gap.step c = some ([], .gap) := Mode.step_of_word? rfl hc
      have hrest : Mode.gap.run u = some (us, .gap) := by
        rw [Whole, Mode.run, hstart, Option.bind_some] at hu
        simpa using hu
      have hend := Mode.run_cons_of_eq_some (Mode.step_of_word? hword hc) hrest
      rw [Whole, List.append_assoc]
      exact Mode.run_append_of_eq_some hrun hend

/-- Texts are joined with gaps between them. -/
theorem reads_join {α : Type} {f : α → Text} {g : α → List Token} {sep : Text}
    (hgap : beginsWithGap sep = true) (hsep : Whole sep []) {l : List α}
    (h : ∀ a ∈ l, Reads (f a) (g a)) : Reads (Text.join sep (l.map f)) (l.flatMap g) := by
  induction l with
  | nil => exact whole_nil.reads
  | cons a l ih =>
      have ha := h a List.mem_cons_self
      have hl := ih fun b hb => h b (List.mem_cons_of_mem a hb)
      cases l with
      | nil => simpa using ha
      | cons b l =>
          have hfirst : Whole (f a ++ sep) (g a) := by
            simpa using ha.append hgap hsep
          rw [List.flatMap_cons, List.map_cons, List.map_cons, Text.join_cons_cons]
          exact hfirst.append_reads hl

theorem Reads.lex_eq {t : Text} {ts : List Token} (h : Reads t ts) : lex t = some ts := by
  obtain ⟨us, m, p, hrun, hword, rfl⟩ := reads_iff.1 h
  simp [lex, hrun, Mode.finish?_of_word? hword]

end FilmQuery.GraphQL
