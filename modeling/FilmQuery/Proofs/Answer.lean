import FilmQuery.Answer
import FilmQuery.Proofs.Text

/-!
# The contract of an answer

An answer is computed with a model and a store that may each succeed or fail in any way, and every
call to them is written down. The contract says what was called and with what, what the reply is,
what it was made from and what is recorded, for every text and every pair of collaborators. A reply
never tells why something failed: it is the same for all ways in which the same call can fail. The
record does, and there is one kind of record for each way to end.
-/

namespace FilmQuery

theorem run_bind_of_run {σ α β : Type} {x : StateM σ α} {s s' : σ} {a : α}
    (h : x.run s = (a, s')) (f : α → StateM σ β) : (x >>= f).run s = (f a).run s' := by
  rw [StateT.run_bind, h]
  rfl

/-- A reply to a result begins with a hyphen, or says that there are no movies. -/
theorem Reply.ofRows_eq (rows : Option (List Row)) :
    Reply.ofRows rows = Reply.noMovies ∨ ∃ t, Reply.ofRows rows = '-'.toNat :: t := by
  unfold Reply.ofRows
  cases rows.getD [] with
  | nil => exact Or.inl rfl
  | cons row rest =>
      obtain ⟨t, ht⟩ := Text.exists_join_cons (lit "\n") (Reply.line row) (rest.map Reply.line)
      obtain ⟨u, hu⟩ : ∃ u, Reply.line row = '-'.toNat :: u := ⟨_, rfl⟩
      refine Or.inr ⟨u ++ t, ?_⟩
      show Text.join (lit "\n") (Reply.line row :: rest.map Reply.line) = _
      rw [ht, hu]
      rfl

theorem Reply.ofRows_ne {rows : Option (List Row)} {s : Text} (hs : s ≠ Reply.noMovies)
    (hhead : s.head? ≠ some '-'.toNat) : Reply.ofRows rows ≠ s := by
  rintro rfl
  rcases Reply.ofRows_eq rows with h | ⟨t, h⟩
  · exact hs h
  · exact hhead (by rw [h]; rfl)

namespace Answer

/-- A call to a collaborator, with what it was given. -/
inductive Call where
  | model (question : Text)
  | store (document : Text)
  deriving DecidableEq, Repr

def Call.question? : Call → Option Text
  | model question => some question
  | store _ => none

def Call.document? : Call → Option Text
  | model _ => none
  | store document => some document

/-- The collaborators: what each call to them comes to. The model's answer is read with `depth`
levels. -/
structure World where
  model : Text → Except Failure Json
  store : Text → Except Failure (Option (List Row))
  depth : Nat

namespace World

def ask (w : World) (question : Text) : StateM (List Call) (Except Failure Json) := do
  modify (· ++ [.model question])
  return w.model question

def fetch (w : World) (document : Text) :
    StateM (List Call) (Except Failure (Option (List Row))) := do
  modify (· ++ [.store document])
  return w.store document

theorem run_ask (w : World) (t : Text) (log : List Call) :
    (w.ask t).run log = (w.model t, log ++ [.model t]) := rfl

theorem run_fetch (w : World) (d : Text) (log : List Call) :
    (w.fetch d).run log = (w.store d, log ++ [.store d]) := rfl

/-- The answer to a question, and the calls that were made for it. -/
def run (w : World) (question : Option Text) : Answer × List Call :=
  (ofQuestion w.ask w.fetch question w.depth).run []

/-- The answer to a text that is put to the model, and the calls that are made for it. -/
def answerTo (w : World) (t : Text) : Answer × List Call :=
  match w.model t with
  | .error failure =>
    ({ output := internalError, events := [eventOf failure none] }, [.model t])
  | .ok envelope =>
    match compile envelope t w.depth with
    | .error e => (ofCompileError e, [.model t])
    | .ok (i, q) => (ofOutcome i q (w.store q.document), [.model t, .store q.document])

/-- The answer is the same for all who write the calls down, each as an entry of their own kind. -/
theorem run_ofText {ε : Type} (entry : Call → ε) {w : World}
    {model : Text → StateM (List ε) (Except Failure Json)}
    {store : Text → StateM (List ε) (Except Failure (Option (List Row)))}
    (hmodel : ∀ t log, (model t).run log = (w.model t, log ++ [entry (.model t)]))
    (hstore : ∀ d log, (store d).run log = (w.store d, log ++ [entry (.store d)]))
    (t : Text) (log : List ε) :
    (ofText model store t w.depth).run log =
      ((w.answerTo t).1, log ++ (w.answerTo t).2.map entry) := by
  unfold ofText answerTo
  rw [run_bind_of_run (hmodel t log)]
  cases w.model t with
  | error failure => rfl
  | ok envelope =>
      dsimp only
      cases compile envelope t w.depth with
      | error e => rfl
      | ok result =>
          dsimp only
          rw [run_bind_of_run (hstore _ _), List.append_assoc]
          rfl

theorem run_eq (w : World) (question : Option Text) :
    w.run question =
      if (question.getD []).isAllBlank then ({ output := emptyInput }, [])
      else
        ((w.answerTo (question.getD [])).1.after (.asked (question.getD [])),
          (w.answerTo (question.getD [])).2) := by
  unfold run ofQuestion
  dsimp only
  split
  · rfl
  · rw [run_bind_of_run (run_ofText id w.run_ask w.run_fetch _ []), List.nil_append, List.map_id]
    rfl

/-- Two pairs of collaborators that succeed alike: where they fail, they may fail differently. -/
def SucceedsLike (w w' : World) : Prop :=
  (∀ t, (w.model t).toOption = (w'.model t).toOption) ∧
    (∀ d, (w.store d).toOption = (w'.store d).toOption) ∧ w.depth = w'.depth

end World

/-- The failures of the reader itself; an object nested too deeply is none of them. -/
def CompileError.isReading : CompileError → Bool
  | .unreadable .tooDeep => false
  | .unreadable _ => true
  | .digits _ => false

/-- The model answers a text with an envelope that gives an intent and a query. -/
def Compiles (w : World) (t : Text) (i : Intent) (q : Query) : Prop :=
  t.isAllBlank = false ∧
    ∃ envelope, w.model t = .ok envelope ∧ compile envelope t w.depth = .ok (i, q)

/-- The model answers a text with an envelope in which no intent can be read. -/
def Unreadable (w : World) (t : Text) : Prop :=
  t.isAllBlank = false ∧ ∃ envelope e,
    w.model t = .ok envelope ∧ compile envelope t w.depth = .error e ∧ e.isReading = true

/-- The model answers, a query is made, and the store answers it with rows. -/
def Completes (w : World) (t : Text) (rows : Option (List Row)) : Prop :=
  ∃ i q, Compiles w t i q ∧ w.store q.document = .ok rows

/-- A call fails. The document is what had been compiled by then, if anything was. -/
inductive Fails (w : World) (t : Text) (failure : Failure) : (document : Option Text) → Prop where
  | model (h : w.model t = .error failure) : Fails w t failure none
  | store {i : Intent} {q : Query} (hc : Compiles w t i q)
      (h : w.store q.document = .error failure) : Fails w t failure (some q.document)

/-- The ways in which the answer to a text ends, each with the record that tells of it. -/
inductive Ends (w : World) (t : Text) : Event → Prop where
  | handled {i : Intent} {q : Query} {rows : Option (List Row)} (hc : Compiles w t i q)
      (hrows : w.store q.document = .ok rows) :
      Ends w t (.handled (rows.getD []).length i.topN)
  | unreadable {envelope : Json} {e : Intent.ReadError} (hmodel : w.model t = .ok envelope)
      (hread : Intent.ofEnvelope envelope w.depth = .error e) (he : e ≠ .tooDeep) :
      Ends w t (.unreadable e)
  | tooDeep {envelope : Json} (hmodel : w.model t = .ok envelope)
      (hread : Intent.ofEnvelope envelope w.depth = .error .tooDeep) :
      Ends w t (.answerFailed .tooDeep)
  | digits {envelope : Json} {i : Intent} {limit : DigitLimit} (hmodel : w.model t = .ok envelope)
      (hread : Intent.ofEnvelope envelope w.depth = .ok i)
      (hlimit : Question.enrich i t = .error limit) : Ends w t (.answerFailed (.digits limit))
  | modelFailed {reason : Text} {document : Option Text}
      (h : Fails w t (.model reason) document) : Ends w t (.modelFailed reason)
  | queryFailed {reason : Text} {document : Option Text}
      (h : Fails w t (.store reason) document) : Ends w t (.queryFailed reason document)
  | answerFailed {cause : Unexpected} {document : Option Text}
      (h : Fails w t (.unexpected cause) document) : Ends w t (.answerFailed cause)

/-- What an answer to a text and the calls made for it have to be. -/
structure Contract (w : World) (t : Text) (a : Answer) (calls : List Call) : Prop where
  /-- A blank text is answered without a call and without a record. -/
  blank : t.isAllBlank = true → a = { output := emptyInput } ∧ calls = []
  /-- The model is asked once, with the text as it is. -/
  asked : t.isAllBlank = false → calls.filterMap Call.question? = [t]
  /-- The store is asked once for what was compiled, and not at all if nothing was. -/
  fetched : ∀ i q, Compiles w t i q → calls.filterMap Call.document? = [q.document]
  unfetched : (∀ i q, ¬Compiles w t i q) → calls.filterMap Call.document? = []
  /-- The answer has with it exactly what was compiled. -/
  carried : ∀ i q, a.intent = some i ∧ a.query = some q ↔ Compiles w t i q
  uncarried : (∀ i q, ¬Compiles w t i q) → a.intent = none ∧ a.query = none
  rows : ∀ rows, Completes w t rows → a.output = Reply.ofRows rows
  unreadable : a.output = unreadableIntent ↔ Unreadable w t
  internal : a.output = internalError ↔
    t.isAllBlank = false ∧ ¬Unreadable w t ∧ ∀ rows, ¬Completes w t rows
  /-- The text is recorded first, then the query if there is one, and last how it ended. -/
  recorded : t.isAllBlank = false → ∃ record, Ends w t record ∧
    a.events =
      .asked t :: (a.query.map fun q => Event.compiled q.document).toList ++ [record]

theorem unreadableIntent_ne_internalError : unreadableIntent ≠ internalError := by decide

section

variable {w : World} {t : Text}

theorem Compiles.unique {i i' : Intent} {q q' : Query} (h : Compiles w t i q)
    (h' : Compiles w t i' q') : i = i' ∧ q = q' := by
  obtain ⟨-, envelope, hmodel, hcompile⟩ := h
  obtain ⟨-, envelope', hmodel', hcompile'⟩ := h'
  obtain rfl : envelope = envelope' := Except.ok.inj (hmodel.symm.trans hmodel')
  exact Prod.mk.inj (Except.ok.inj (hcompile.symm.trans hcompile'))

theorem answerTo_of_modelFailure {failure : Failure} (h : w.model t = .error failure) :
    w.answerTo t = ({ output := internalError, events := [eventOf failure none] }, [.model t]) := by
  rw [World.answerTo, h]

theorem answerTo_of_compileError {envelope : Json} {e : CompileError}
    (hmodel : w.model t = .ok envelope) (h : compile envelope t w.depth = .error e) :
    w.answerTo t = (ofCompileError e, [.model t]) := by
  rw [World.answerTo, hmodel]
  dsimp only
  rw [h]

theorem Compiles.answerTo_eq {i : Intent} {q : Query} (h : Compiles w t i q) :
    w.answerTo t = (ofOutcome i q (w.store q.document), [.model t, .store q.document]) := by
  obtain ⟨-, envelope, hmodel, hcompile⟩ := h
  rw [World.answerTo, hmodel]
  dsimp only
  rw [hcompile]

theorem not_completes_of_not_compiles (h : ∀ i q, ¬Compiles w t i q)
    (rows : Option (List Row)) : ¬Completes w t rows := by
  rintro ⟨i, q, hc, -⟩
  exact h i q hc

theorem compile_eq_unreadable_iff {envelope : Json} {depth : Nat} {e : Intent.ReadError} :
    compile envelope t depth = .error (.unreadable e) ↔
      Intent.ofEnvelope envelope depth = .error e := by
  unfold compile
  cases Intent.ofEnvelope envelope depth with
  | error e' => simp
  | ok i =>
      dsimp only
      cases Question.enrich i t <;> simp

theorem compile_eq_digits_iff {envelope : Json} {depth : Nat} {limit : DigitLimit} :
    compile envelope t depth = .error (.digits limit) ↔
      ∃ i, Intent.ofEnvelope envelope depth = .ok i ∧ Question.enrich i t = .error limit := by
  unfold compile
  cases Intent.ofEnvelope envelope depth with
  | error e => simp
  | ok i =>
      dsimp only
      cases henrich : Question.enrich i t <;> simp [henrich]

/-! ## Records -/

theorem ends_eventOf {failure : Failure} {document : Option Text}
    (h : Fails w t failure document) : Ends w t (eventOf failure document) := by
  cases failure with
  | model reason => exact .modelFailed h
  | store reason => exact .queryFailed h
  | unexpected cause => exact .answerFailed h

theorem ends_ofOutcome {i : Intent} {q : Query} (hc : Compiles w t i q) :
    ∃ record, Ends w t record ∧
      (ofOutcome i q (w.store q.document)).events = [.compiled q.document, record] := by
  cases hstore : w.store q.document with
  | ok rows => exact ⟨_, .handled hc hstore, rfl⟩
  | error failure => exact ⟨_, ends_eventOf (.store hc hstore), rfl⟩

theorem ends_ofCompileError {envelope : Json} {e : CompileError}
    (hmodel : w.model t = .ok envelope) (hcompile : compile envelope t w.depth = .error e) :
    ∃ record, Ends w t record ∧ ofCompileError e =
      { output := if e.isReading then unreadableIntent else internalError
        events := [record] } := by
  cases e with
  | digits limit =>
      obtain ⟨i, hread, hlimit⟩ := compile_eq_digits_iff.1 hcompile
      exact ⟨_, .digits hmodel hread hlimit, rfl⟩
  | unreadable e =>
      have hread := compile_eq_unreadable_iff.1 hcompile
      cases e with
      | tooDeep => exact ⟨_, .tooDeep hmodel hread, rfl⟩
      | _ => exact ⟨_, .unreadable hmodel hread (by simp), rfl⟩

theorem Fails.events_answerTo {failure : Failure} {document : Option Text}
    (h : Fails w t failure document) :
    (w.answerTo t).1.events.getLast? = some (eventOf failure document) := by
  cases h with
  | model h =>
      rw [answerTo_of_modelFailure h]
      rfl
  | store hc h =>
      rw [hc.answerTo_eq, h]
      rfl

/-- The record of each way to end is the last one of the answer. -/
theorem Ends.events_answerTo {record : Event} (h : Ends w t record) :
    (w.answerTo t).1.events.getLast? = some record := by
  cases h with
  | handled hc hrows =>
      rw [hc.answerTo_eq, hrows]
      rfl
  | @unreadable envelope e hmodel hread he =>
      rw [answerTo_of_compileError hmodel (compile_eq_unreadable_iff.2 hread)]
      cases e with
      | tooDeep => exact absurd rfl he
      | _ => rfl
  | tooDeep hmodel hread =>
      rw [answerTo_of_compileError hmodel (compile_eq_unreadable_iff.2 hread)]
      rfl
  | digits hmodel hread hlimit =>
      rw [answerTo_of_compileError hmodel (compile_eq_digits_iff.2 ⟨_, hread, hlimit⟩)]
      rfl
  | modelFailed h => exact h.events_answerTo
  | queryFailed h => exact h.events_answerTo
  | answerFailed h => exact h.events_answerTo

/-- An answer ends in one way only. -/
theorem Ends.unique {record record' : Event} (h : Ends w t record) (h' : Ends w t record') :
    record = record' :=
  Option.some.inj (h.events_answerTo.symm.trans h'.events_answerTo)

/-! ## The contract -/

theorem contract_blank (h : t.isAllBlank = true) : Contract w t { output := emptyInput } [] := by
  have hblank : t.isAllBlank ≠ false := by simp [h]
  have hcompiles : ∀ i q, ¬Compiles w t i q := fun _ _ hc => hblank hc.1
  exact {
    blank := fun _ => ⟨rfl, rfl⟩
    asked := fun hne => absurd hne hblank
    fetched := fun i q hc => absurd hc (hcompiles i q)
    unfetched := fun _ => rfl
    carried := fun i q => ⟨fun hc => by simp at hc, fun hc => absurd hc (hcompiles i q)⟩
    uncarried := fun _ => ⟨rfl, rfl⟩
    rows := fun rows hc => absurd hc (not_completes_of_not_compiles hcompiles rows)
    unreadable := iff_of_false (by decide) fun hu => hblank hu.1
    internal := iff_of_false (by decide) fun hi => hblank hi.1
    recorded := fun hne => absurd hne hblank }

/-- One sentence and one more record where nothing was compiled. -/
theorem contract_uncompiled {s : Text} {record : Event} (h : t.isAllBlank = false)
    (hcompiles : ∀ i q, ¬Compiles w t i q) (hends : Ends w t record)
    (hs : s = unreadableIntent ∧ Unreadable w t ∨ s = internalError ∧ ¬Unreadable w t) :
    Contract w t { output := s, events := [.asked t, record] } [.model t] := by
  have hcompletes := not_completes_of_not_compiles hcompiles
  exact {
    blank := fun hb => absurd (h.symm.trans hb) Bool.false_ne_true
    asked := fun _ => rfl
    fetched := fun i q hc => absurd hc (hcompiles i q)
    unfetched := fun _ => rfl
    carried := fun i q => ⟨fun hc => by simp at hc, fun hc => absurd hc (hcompiles i q)⟩
    uncarried := fun _ => ⟨rfl, rfl⟩
    rows := fun rows hc => absurd hc (hcompletes rows)
    unreadable := by
      rcases hs with ⟨rfl, hu⟩ | ⟨rfl, hu⟩
      · exact iff_of_true rfl hu
      · exact iff_of_false unreadableIntent_ne_internalError.symm hu
    internal := by
      rcases hs with ⟨rfl, hu⟩ | ⟨rfl, hu⟩
      · exact iff_of_false unreadableIntent_ne_internalError fun hi => hi.2.1 hu
      · exact iff_of_true rfl ⟨h, hu, hcompletes⟩
    recorded := fun _ => ⟨record, hends, rfl⟩ }

theorem contract_compiled {i : Intent} {q : Query} (hc : Compiles w t i q) :
    Contract w t ((ofOutcome i q (w.store q.document)).after (.asked t))
      [.model t, .store q.document] := by
  obtain ⟨hintent, hquery⟩ : (ofOutcome i q (w.store q.document)).intent = some i ∧
      (ofOutcome i q (w.store q.document)).query = some q := by
    cases w.store q.document <;> exact ⟨rfl, rfl⟩
  have hreadable : ¬Unreadable w t := by
    rintro ⟨-, envelope, e, hmodel, herror, -⟩
    obtain ⟨-, envelope', hmodel', hcompile⟩ := hc
    obtain rfl : envelope = envelope' := Except.ok.inj (hmodel.symm.trans hmodel')
    cases herror.symm.trans hcompile
  have hrows : ∀ rows, Completes w t rows ↔ w.store q.document = .ok rows := by
    intro rows
    constructor
    · rintro ⟨i', q', hc', hstore⟩
      rwa [(hc.unique hc').2]
    · intro hstore
      exact ⟨i, q, hc, hstore⟩
  exact {
    blank := fun hb => absurd (hc.1.symm.trans hb) Bool.false_ne_true
    asked := fun _ => rfl
    fetched := fun i' q' hc' => by rw [(hc.unique hc').2]; rfl
    unfetched := fun hne => absurd hc (hne i q)
    carried := fun i' q' => by
      rw [after_intent, after_query, hintent, hquery]
      constructor
      · rintro ⟨hi, hq⟩
        obtain rfl := Option.some.inj hi
        obtain rfl := Option.some.inj hq
        exact hc
      · intro hc'
        obtain ⟨rfl, rfl⟩ := hc.unique hc'
        exact ⟨rfl, rfl⟩
    uncarried := fun hne => absurd hc (hne i q)
    rows := fun rows hcompletes => by rw [(hrows rows).1 hcompletes]; rfl
    unreadable := iff_of_false (by
      cases w.store q.document with
      | ok rows => exact Reply.ofRows_ne (by decide) (by decide)
      | error failure => exact unreadableIntent_ne_internalError.symm) hreadable
    internal := by
      cases hstore : w.store q.document with
      | ok rows =>
          exact iff_of_false (Reply.ofRows_ne (by decide) (by decide))
            fun hi => hi.2.2 rows ((hrows rows).2 hstore)
      | error failure =>
          refine iff_of_true rfl ⟨hc.1, hreadable, fun rows hcompletes => ?_⟩
          cases hstore.symm.trans ((hrows rows).1 hcompletes)
    recorded := fun _ => by
      obtain ⟨record, hends, hevents⟩ := ends_ofOutcome hc
      refine ⟨record, hends, ?_⟩
      rw [after_events, after_query, hevents, hquery]
      rfl }

theorem contract_answerTo (h : t.isAllBlank = false) :
    Contract w t ((w.answerTo t).1.after (.asked t)) (w.answerTo t).2 := by
  cases hmodel : w.model t with
  | error failure =>
      have hnone : ∀ envelope, w.model t ≠ .ok envelope := by simp [hmodel]
      rw [answerTo_of_modelFailure hmodel]
      exact contract_uncompiled h (fun i q hc => hnone _ hc.2.choose_spec.1)
        (ends_eventOf (.model hmodel))
        (Or.inr ⟨rfl, fun hu => hnone _ hu.2.choose_spec.choose_spec.1⟩)
  | ok envelope =>
      have hsame : ∀ envelope', w.model t = .ok envelope' → envelope = envelope' :=
        fun envelope' h => Except.ok.inj (hmodel.symm.trans h)
      cases hcompile : compile envelope t w.depth with
      | error e =>
          obtain ⟨record, hends, hanswer⟩ := ends_ofCompileError hmodel hcompile
          rw [answerTo_of_compileError hmodel hcompile, hanswer]
          apply contract_uncompiled h
          · rintro i q ⟨-, envelope', hmodel', hcompile'⟩
            obtain rfl := hsame envelope' hmodel'
            cases hcompile.symm.trans hcompile'
          · exact hends
          · cases hreading : e.isReading with
            | true => exact Or.inl ⟨rfl, h, envelope, e, hmodel, hcompile, hreading⟩
            | false =>
                refine Or.inr ⟨rfl, ?_⟩
                rintro ⟨-, envelope', e', hmodel', hcompile', hreading'⟩
                obtain rfl := hsame envelope' hmodel'
                obtain rfl : e = e' := Except.error.inj (hcompile.symm.trans hcompile')
                exact Bool.false_ne_true (hreading.symm.trans hreading')
      | ok result =>
          have hc : Compiles w t result.1 result.2 := ⟨h, envelope, hmodel, hcompile⟩
          rw [hc.answerTo_eq]
          exact contract_compiled hc

end

theorem contract_run (w : World) (question : Option Text) :
    Contract w (question.getD []) (w.run question).1 (w.run question).2 := by
  rw [World.run_eq]
  cases hblank : (question.getD []).isAllBlank with
  | true => exact contract_blank hblank
  | false => exact contract_answerTo hblank

/-- Two outcomes with the same success are the same success or two failures. -/
theorem eq_ok_or_eq_error {α : Type} {x y : Except Failure α} (h : x.toOption = y.toOption) :
    (∃ a, x = .ok a ∧ y = .ok a) ∨ ∃ e f, x = .error e ∧ y = .error f := by
  cases x <;> cases y <;> simp_all [Except.toOption]

theorem run_of_succeedsLike {w w' : World} (h : w.SucceedsLike w') (question : Option Text) :
    (w.run question).1.output = (w'.run question).1.output ∧
      (w.run question).1.intent = (w'.run question).1.intent ∧
      (w.run question).1.query = (w'.run question).1.query ∧
      (w.run question).2 = (w'.run question).2 := by
  obtain ⟨hmodel, hstore, hdepth⟩ := h
  rw [World.run_eq, World.run_eq]
  generalize question.getD [] = t
  split
  · exact ⟨rfl, rfl, rfl, rfl⟩
  · unfold World.answerTo
    rcases eq_ok_or_eq_error (hmodel t) with ⟨envelope, hx, hy⟩ | ⟨e, f, hx, hy⟩
    · rw [hx, hy, hdepth]
      dsimp only
      split
      · exact ⟨rfl, rfl, rfl, rfl⟩
      · next i q _ =>
        rcases eq_ok_or_eq_error (hstore q.document) with ⟨rows, hx, hy⟩ | ⟨e, f, hx, hy⟩
        · rw [hx, hy]
          exact ⟨rfl, rfl, rfl, rfl⟩
        · rw [hx, hy]
          exact ⟨rfl, rfl, rfl, rfl⟩
    · rw [hx, hy]
      exact ⟨rfl, rfl, rfl, rfl⟩

/-- **Every question is answered, and no answer tells why it failed.** Whatever the model and the
store come to, the answer keeps the contract; and what is shown of it, and what was called, are the
same for collaborators that fail in other ways. -/
theorem run_keeps_contract (w : World) (question : Option Text) :
    Contract w (question.getD []) (w.run question).1 (w.run question).2 ∧
      ∀ w', w.SucceedsLike w' →
        (w.run question).1.output = (w'.run question).1.output ∧
          (w.run question).1.intent = (w'.run question).1.intent ∧
          (w.run question).1.query = (w'.run question).1.query ∧
          (w.run question).2 = (w'.run question).2 :=
  ⟨contract_run w question, fun _ h => run_of_succeedsLike h question⟩

/-- Collaborators for which every call comes to the same. -/
def World.always (envelope : Except Failure Json) (rows : Except Failure (Option (List Row)))
    (depth : Nat) : World where
  model _ := envelope
  store _ := rows
  depth := depth

/-- What an empty object and the question `top 2` make together. -/
def firstTwo : Intent := { topN := some 2, fields := Intent.defaultFields }

theorem compiles_firstTwo (rows : Except Failure (Option (List Row))) :
    Compiles (.always (.ok (.string (lit "\x7b\x7d"))) rows 1) (lit "top 2") firstTwo
      (.ofIntent firstTwo) :=
  ⟨by decide, _, rfl, rfl⟩

/-- One row that is shown, an answer of the model that is prose, and two calls that fail: a refusal
with a reason and a failure without one look the same. -/
theorem run_keeps_contract_threeWorlds :
    let row : Row := [(lit "title", .string (lit "Heat"))]
    let shown : World := .always (.ok (.string (lit "\x7b\x7d"))) (.ok (some [row])) 1
    let prose : World := .always (.ok (.string (lit "I do not know."))) (.ok none) 1
    let refused : World := .always (.error (.model (lit "HTTP 500"))) (.ok none) 1
    let broken : World := .always (.error (.unexpected .tooDeep)) (.ok none) 1
    (Completes shown (lit "top 2") (some [row]) ∧
        (shown.run (some (lit "top 2"))).1.output = Reply.ofRows (some [row]) ∧
        (shown.run (some (lit "top 2"))).1.events =
          [.asked (lit "top 2"), .compiled (Query.ofIntent firstTwo).document,
            .handled 1 (some 2)]) ∧
      (Unreadable prose (lit "top 2") ∧
        (prose.run (some (lit "top 2"))).1.output = unreadableIntent ∧
        (prose.run (some (lit "top 2"))).1.events =
          [.asked (lit "top 2"), .unreadable .noObject]) ∧
      refused.SucceedsLike broken ∧
        (refused.run (some (lit "top 2"))).1.output =
          (broken.run (some (lit "top 2"))).1.output := by
  intro row shown prose refused broken
  have hasked : (lit "top 2").isAllBlank = false := by decide
  refine ⟨?_, ?_, ?_⟩
  · have hc : Compiles shown (lit "top 2") firstTwo (.ofIntent firstTwo) := compiles_firstTwo _
    have hcompletes : Completes shown (lit "top 2") (some [row]) := ⟨_, _, hc, rfl⟩
    have hcontract := (run_keeps_contract shown (some (lit "top 2"))).1
    obtain ⟨record, hends, hevents⟩ := hcontract.recorded hasked
    rw [((hcontract.carried _ _).2 hc).2, hends.unique (.handled hc rfl)] at hevents
    exact ⟨hcompletes, hcontract.rows _ hcompletes, hevents⟩
  · have hread : Intent.ofEnvelope (.string (lit "I do not know.")) 1 = .error .noObject := rfl
    have hunreadable : Unreadable prose (lit "top 2") :=
      ⟨hasked, _, _, rfl, compile_eq_unreadable_iff.2 hread, rfl⟩
    have hnone : ∀ i q, ¬Compiles prose (lit "top 2") i q := by
      rintro i q ⟨-, envelope, hmodel, hcompile⟩
      cases hmodel
      cases (compile_eq_unreadable_iff (t := lit "top 2").2 hread).symm.trans hcompile
    have hcontract := (run_keeps_contract prose (some (lit "top 2"))).1
    obtain ⟨record, hends, hevents⟩ := hcontract.recorded hasked
    rw [(hcontract.uncarried hnone).2,
      hends.unique (.unreadable rfl hread (by decide))] at hevents
    exact ⟨hunreadable, hcontract.unreadable.2 hunreadable, hevents⟩
  · have halike : refused.SucceedsLike broken := ⟨fun _ => rfl, fun _ => rfl, rfl⟩
    exact ⟨halike, ((run_keeps_contract refused _).2 broken halike).1⟩

end Answer

end FilmQuery
