import FilmQuery.Http.Store
import FilmQuery.Proofs.Http.Exchange
import FilmQuery.Proofs.Json.Size
import Mathlib.Data.List.Basic

/-!
# The contract of the movie store

Whatever comes of posting a document, the store should give rows or a failure of its own. It does
so unless a body is too large to be read, which depends on the levels that there are for its
containers, or one of the errors that it reports has a message that is no text. Main statement: the
contract, and exactly when it is kept, for any number of levels.
-/

namespace FilmQuery.MovieStore

/-- What running a document comes to, and the requests that are made for it. -/
def run (s : MovieStore) (outcome : Outcome) (document : Text) (depth : Nat) :
    Except Failure (Option (List Row)) × List Request :=
  (s.execute outcome.send document depth).run []

/-- A response reports errors: its `errors` are there and not empty. -/
def ReportsErrors (response : Json) : Prop :=
  ∃ errors, response.field? (lit "errors") = some errors ∧ errors.isPresent = true

/-- One of the errors in a response has a message that is no text. -/
def HasWordlessError (response : Json) : Prop :=
  ∃ errors error message, response.field? (lit "errors") = some (.array errors) ∧
    error ∈ errors ∧ error.field? (lit "message") = some message ∧ ∀ t, message ≠ .string t

theorem HasWordlessError.reportsErrors {response : Json} (h : HasWordlessError response) :
    ReportsErrors response := by
  obtain ⟨errors, error, -, herrors, herror, -⟩ := h
  refine ⟨_, herrors, ?_⟩
  cases errors with
  | nil => simp at herror
  | cons => rfl

/-- The movies that a response lists. -/
def Lists (response : Json) (movies : List Json) : Prop :=
  ∃ data, response.field? (lit "data") = some data ∧
    data.field? (lit "movies") = some (.array movies)

/-- The rows are the objects among the movies of a response, in their order, and there are none
where it lists no movies. -/
def RowsOf (response : Json) : Option (List Row) → Prop
  | some rows => ∃ movies, Lists response movies ∧
      rows.map Json.object = movies.filter fun movie => movie.object?.isSome
  | none => ∀ movies, ¬Lists response movies

/-- What running a document against an outcome has to come to, where a body is read with `depth`
levels. -/
structure Contract (depth : Nat) (outcome : Outcome)
    (result : Except Failure (Option (List Row))) : Prop where
  /-- Rows are those of a response without errors. -/
  rows : ∀ rows, result = .ok rows → ∃ bs response, outcome = .response bs ∧
    Json.ofBytes bs depth = .ok response ∧ ¬ReportsErrors response ∧ RowsOf response rows
  /-- An object without errors gives rows. -/
  answered : ∀ bs entries, outcome = .response bs →
    Json.ofBytes bs depth = .ok (.object entries) → ¬ReportsErrors (.object entries) →
    ∃ rows, result = .ok rows
  /-- Whatever fails is a failure of the store. -/
  reported : ∀ failure, result = .error failure → ∃ reason, failure = .store reason
  errors : ∀ bs response, outcome = .response bs → Json.ofBytes bs depth = .ok response →
    ReportsErrors response → ∃ reason, result = .error (.store reason)
  status : ∀ code bs, outcome = .status code bs → ∃ reason, result = .error (.store reason)

/-- A body that cannot be reported on: it is too large, or has an error without words. -/
def Unreportable (depth : Nat) (bs : Bytes) : Prop :=
  (∃ t, Json.textOf? bs = some t ∧ Json.TooLarge depth t) ∨
    ∃ response, Json.ofBytes bs depth = .ok response ∧ HasWordlessError response

/-! ## Messages -/

theorem texts_eq_ok_iff {index : Nat} {js : List Json} {ts : List Text} :
    texts index js = .ok ts ↔ js = ts.map Json.string := by
  induction js generalizing index ts with
  | nil => cases ts <;> simp [texts]
  | cons j js ih =>
      cases j with
      | string t =>
          rw [texts, map_eq_ok_iff]
          cases ts with
          | nil => simp
          | cons u us => simp [ih, and_comm]
      | _ => cases ts <;> simp [texts]

/-- Joining values fails at one that is no text. -/
theorem wordless_of_texts {index : Nat} {js : List Json} {failure : Failure}
    (h : texts index js = .error failure) :
    (∃ cause, failure = .unexpected cause) ∧ ∃ j ∈ js, ∀ t, j ≠ .string t := by
  induction js generalizing index with
  | nil => cases h
  | cons j js ih =>
      cases j with
      | string t =>
          rw [texts, map_eq_error_iff] at h
          obtain ⟨hcause, j, hmem, hwordless⟩ := ih h
          exact ⟨hcause, j, List.mem_cons_of_mem _ hmem, hwordless⟩
      | _ =>
          cases h
          exact ⟨⟨_, rfl⟩, _, List.mem_cons_self, by simp⟩

theorem errorMessage_wordless_iff {error : Json} :
    (∀ t, errorMessage error ≠ .string t) ↔
      ∃ message, error.field? (lit "message") = some message ∧ ∀ t, message ≠ .string t := by
  cases error with
  | object entries =>
      cases h : entries.lookup (lit "message") <;> simp [errorMessage, Json.field?, h]
  | _ => simp [errorMessage, Json.field?]

theorem errorMessages_of_array {response : Json} {errors : List Json}
    (h : response.field? (lit "errors") = some (.array errors)) :
    errorMessages response = errors.map errorMessage := by
  unfold errorMessages
  rw [h]
  cases errors <;> rfl

/-- Errors that are no list are reported in one text. -/
theorem exists_text_of_mem_errorMessages {response message : Json}
    (h : ∀ errors, response.field? (lit "errors") ≠ some (.array errors))
    (hmem : message ∈ errorMessages response) : ∃ t, message = .string t := by
  unfold errorMessages at hmem
  split at hmem
  · simp at hmem
  · next errors herrors =>
    split at hmem
    · cases errors with
      | array items => exact absurd herrors (h items)
      | _ => exact ⟨_, List.mem_singleton.1 hmem⟩
    · simp at hmem

theorem exists_wordless_iff {response : Json} :
    (∃ message ∈ errorMessages response, ∀ t, message ≠ .string t) ↔
      HasWordlessError response := by
  constructor
  · rintro ⟨message, hmem, hwordless⟩
    by_cases harray : ∃ errors, response.field? (lit "errors") = some (.array errors)
    · obtain ⟨errors, herrors⟩ := harray
      rw [errorMessages_of_array herrors] at hmem
      obtain ⟨error, herror, rfl⟩ := List.mem_map.1 hmem
      obtain ⟨message, hmessage, hwords⟩ := errorMessage_wordless_iff.1 hwordless
      exact ⟨errors, error, message, herrors, herror, hmessage, hwords⟩
    · rw [not_exists] at harray
      obtain ⟨t, rfl⟩ := exists_text_of_mem_errorMessages harray hmem
      exact absurd rfl (hwordless t)
  · rintro ⟨errors, error, message, herrors, herror, hmessage, hwords⟩
    rw [errorMessages_of_array herrors]
    exact ⟨errorMessage error, List.mem_map_of_mem herror,
      errorMessage_wordless_iff.2 ⟨message, hmessage, hwords⟩⟩

theorem errorMessages_eq_nil_iff {response : Json} :
    errorMessages response = [] ↔ ¬ReportsErrors response := by
  unfold errorMessages ReportsErrors
  cases response.field? (lit "errors") with
  | none => simp
  | some errors =>
      cases hpresent : errors.isPresent with
      | false => simp [hpresent]
      | true =>
          refine iff_of_false ?_ fun h => h ⟨errors, rfl, hpresent⟩
          dsimp only
          rw [if_pos hpresent]
          cases errors with
          | array items =>
              have hitems : items ≠ [] := by simpa [Json.isPresent] using hpresent
              simpa using hitems
          | _ => simp

/-- The errors make one line unless one of them is without words. -/
theorem errorLine_cases (response : Json) :
    ((∃ line, errorLine response = .ok line) ∧ ¬HasWordlessError response) ∨
      (∃ cause, errorLine response = .error (.unexpected cause)) ∧ HasWordlessError response := by
  rw [← exists_wordless_iff]
  unfold errorLine
  cases htexts : texts 0 (errorMessages response) with
  | ok ts =>
      refine Or.inl ⟨⟨_, rfl⟩, ?_⟩
      rintro ⟨message, hmem, hwordless⟩
      rw [texts_eq_ok_iff.1 htexts] at hmem
      obtain ⟨t, -, rfl⟩ := List.mem_map.1 hmem
      exact hwordless t rfl
  | error failure =>
      obtain ⟨⟨cause, rfl⟩, hwordless⟩ := wordless_of_texts htexts
      exact Or.inr ⟨⟨cause, rfl⟩, hwordless⟩

/-! ## Outcomes -/

theorem map_object_filterMap (movies : List Json) :
    (movies.filterMap Json.object?).map Json.object =
      movies.filter fun movie => movie.object?.isSome := by
  induction movies with
  | nil => rfl
  | cons movie movies ih =>
      cases movie <;> simpa [List.filterMap_cons, List.filter_cons, Json.object?] using ih

theorem lists_iff {response : Json} {movies : List Json} :
    Lists response movies ↔
      (((response.field? (lit "data")).bind fun d => d.field? (lit "movies")).bind
        Json.array?) = some movies := by
  have harray : ∀ j : Json, j.array? = some movies ↔ j = .array movies := by
    intro j
    cases j <;> simp [Json.array?]
  simp only [Lists, Option.bind_eq_some_iff, harray, exists_eq_right]

/-- An object without errors gives its rows. -/
theorem rowsOf_of_not_reportsErrors {entries : List (Text × Json)}
    (h : ¬ReportsErrors (.object entries)) :
    ∃ rows, rowsOf (.object entries) = .ok rows ∧ RowsOf (.object entries) rows := by
  rw [rowsOf, errorMessages_eq_nil_iff.2 h]
  refine ⟨_, rfl, ?_⟩
  cases hmovies : ((Json.object entries).field? (lit "data")).bind
      (fun d => d.field? (lit "movies")) |>.bind Json.array? with
  | none =>
      intro movies hlists
      cases hmovies.symm.trans (lists_iff.1 hlists)
  | some movies => exact ⟨movies, lists_iff.2 hmovies, map_object_filterMap movies⟩

theorem exists_object_of_reportsErrors {response : Json} (h : ReportsErrors response) :
    ∃ entries, response = .object entries := by
  obtain ⟨errors, herrors, -⟩ := h
  cases response with
  | object entries => exact ⟨entries, rfl⟩
  | _ => cases herrors

/-- A response that reports errors is a failure of the store, unless an error is without words. -/
theorem rowsOf_of_reportsErrors {response : Json} (h : ReportsErrors response) :
    ((∃ reason, rowsOf response = .error (.store reason)) ∧ ¬HasWordlessError response) ∨
      (∃ cause, rowsOf response = .error (.unexpected cause)) ∧ HasWordlessError response := by
  obtain ⟨entries, rfl⟩ := exists_object_of_reportsErrors h
  have hline : rowsOf (.object entries) = errorLine (.object entries) >>= fun line =>
      .error (.store (lit "GraphQL errors: " ++ line)) := by
    unfold rowsOf
    dsimp only
    split
    · next hnil => exact absurd h (errorMessages_eq_nil_iff.1 hnil)
    · rfl
  rw [hline]
  rcases errorLine_cases (.object entries) with
    ⟨⟨line, hok⟩, hwords⟩ | ⟨⟨cause, herror⟩, hwordless⟩
  · exact Or.inl ⟨⟨_, by rw [hok]; rfl⟩, hwords⟩
  · exact Or.inr ⟨⟨cause, by rw [herror]; rfl⟩, hwordless⟩

section

variable {depth : Nat} {bs : Bytes}

theorem unreportable_iff_of_error {e : DocumentError} (h : Json.ofBytes bs depth = .error e) :
    Unreportable depth bs ↔ e.isSize := by
  rw [Unreportable, ← Json.failsWith_ofBytes_iff, h, failsWith_error_iff]
  simp

theorem unreportable_iff_of_ok {response : Json} (h : Json.ofBytes bs depth = .ok response) :
    Unreportable depth bs ↔ HasWordlessError response := by
  rw [Unreportable, ← Json.failsWith_ofBytes_iff, h]
  simp

/-- What an error status stands for depends only on whether its body can be reported on. -/
theorem statusFailure_cases (code : Int) (bs : Bytes) (depth : Nat) :
    ((∃ reason, statusFailure code bs depth = .store reason) ∧ ¬Unreportable depth bs) ∨
      (∃ cause, statusFailure code bs depth = .unexpected cause) ∧ Unreportable depth bs := by
  unfold statusFailure
  dsimp only
  cases hbody : Json.ofBytes bs depth with
  | error e =>
      rw [unreportable_iff_of_error hbody]
      cases e with
      | illFormed => exact Or.inl ⟨⟨_, rfl⟩, id⟩
      | digits limit => exact Or.inr ⟨⟨_, rfl⟩, trivial⟩
      | tooDeep => exact Or.inr ⟨⟨_, rfl⟩, trivial⟩
  | ok response =>
      rw [unreportable_iff_of_ok hbody]
      dsimp only
      rcases errorLine_cases response with ⟨⟨line, hok⟩, hwords⟩ | ⟨⟨cause, herror⟩, hwordless⟩
      · rw [hok]
        exact Or.inl ⟨⟨_, rfl⟩, hwords⟩
      · rw [herror]
        exact Or.inr ⟨⟨cause, rfl⟩, hwordless⟩

/-- A body that cannot be reported on is an unexpected failure, whatever the status. -/
theorem receive_of_unreportable {outcome : Outcome} (hbody : outcome.body? = some bs)
    (h : Unreportable depth bs) : ∃ cause, receive outcome depth = .error (.unexpected cause) := by
  cases outcome with
  | response body =>
      obtain rfl : body = bs := Option.some.inj hbody
      unfold receive
      dsimp only
      cases hdecoded : Json.ofBytes body depth with
      | error e =>
          rw [unreportable_iff_of_error hdecoded] at h
          cases e with
          | illFormed => exact h.elim
          | digits limit => exact ⟨_, rfl⟩
          | tooDeep => exact ⟨_, rfl⟩
      | ok response =>
          rw [unreportable_iff_of_ok hdecoded] at h
          rcases rowsOf_of_reportsErrors h.reportsErrors with ⟨-, hwords⟩ | ⟨hcause, -⟩
          · exact absurd h hwords
          · exact hcause
  | status code body =>
      obtain rfl : body = bs := Option.some.inj hbody
      rcases statusFailure_cases code body depth with ⟨-, hreportable⟩ | ⟨⟨cause, hcause⟩, -⟩
      · exact absurd h hreportable
      · exact ⟨cause, congrArg Except.error hcause⟩
  | unreachable reason => cases hbody
  | broken reason => cases hbody

/-- A failure of the store keeps the contract where no rows were to be given. -/
theorem contract_refused {outcome : Outcome} {result : Except Failure (Option (List Row))}
    {reason : Text}
    (hrows : ∀ bs entries, outcome = .response bs → Json.ofBytes bs depth = .ok (.object entries) →
      ReportsErrors (.object entries))
    (hresult : result = .error (.store reason)) : Contract depth outcome result := by
  subst hresult
  exact {
    rows := fun rows h => by cases h
    answered := fun bs entries houtcome hbody hnone =>
      absurd (hrows bs entries houtcome hbody) hnone
    reported := fun failure h => ⟨reason, (Except.error.inj h).symm⟩
    errors := fun _ _ _ _ _ => ⟨reason, rfl⟩
    status := fun _ _ _ => ⟨reason, rfl⟩ }

theorem contract_response (h : ¬Unreportable depth bs) :
    Contract depth (.response bs) (receive (.response bs) depth) := by
  have hsame : ∀ bs', Outcome.response bs = .response bs' → bs = bs' := by simp
  unfold receive
  dsimp only
  cases hbody : Json.ofBytes bs depth with
  | error e =>
      rw [unreportable_iff_of_error hbody] at h
      have hnone : ∀ bs' entries, Outcome.response bs = .response bs' →
          Json.ofBytes bs' depth = .ok (.object entries) → ReportsErrors (.object entries) := by
        rintro bs' entries heq hok
        rw [← hsame bs' heq, hbody] at hok
        cases hok
      cases e with
      | illFormed => exact contract_refused hnone rfl
      | digits limit => exact absurd trivial h
      | tooDeep => exact absurd trivial h
  | ok response =>
      rw [unreportable_iff_of_ok hbody] at h
      dsimp only
      by_cases herrors : ReportsErrors response
      · rcases rowsOf_of_reportsErrors herrors with ⟨⟨reason, hreason⟩, -⟩ | ⟨-, hwordless⟩
        · refine contract_refused (fun bs' entries heq hok => ?_) hreason
          rw [← hsame bs' heq, hbody] at hok
          obtain rfl := Except.ok.inj hok
          exact herrors
        · exact absurd hwordless h
      · cases response with
        | object entries =>
            obtain ⟨rows, hok, hrows⟩ := rowsOf_of_not_reportsErrors herrors
            rw [hok]
            exact {
              rows := fun rows' heq => by
                obtain rfl := Except.ok.inj heq
                exact ⟨bs, _, rfl, hbody, herrors, hrows⟩
              answered := fun _ _ _ _ _ => ⟨rows, rfl⟩
              reported := fun failure heq => by cases heq
              errors := fun bs' response heq hok' hreports => by
                rw [← hsame bs' heq, hbody] at hok'
                obtain rfl := Except.ok.inj hok'
                exact absurd hreports herrors
              status := fun code bs' heq => by cases heq }
        | _ =>
            refine contract_refused (fun bs' entries heq hok => ?_) rfl
            rw [← hsame bs' heq, hbody] at hok
            cases hok

/-- Without such a body the contract is kept. -/
theorem contract_receive {outcome : Outcome}
    (h : ∀ bs, outcome.body? = some bs → ¬Unreportable depth bs) :
    Contract depth outcome (receive outcome depth) := by
  cases outcome with
  | response bs => exact contract_response (h bs rfl)
  | status code bs =>
      obtain ⟨⟨reason, hreason⟩, -⟩ | ⟨-, hbody⟩ := statusFailure_cases code bs depth
      · have hreceive : receive (.status code bs) depth = .error (.store reason) :=
          congrArg Except.error hreason
        exact contract_refused (by simp) hreceive
      · exact absurd hbody (h bs rfl)
  | unreachable reason => exact contract_refused (by simp) rfl
  | broken reason => exact contract_refused (by simp) rfl

theorem not_contract_unexpected {outcome : Outcome} (cause : Unexpected) :
    ¬Contract depth outcome (.error (.unexpected cause)) := by
  intro h
  obtain ⟨reason, hreason⟩ := h.reported _ rfl
  cases hreason

/-- What is received keeps the contract exactly if the body that came back can be reported on. -/
theorem contract_receive_iff {outcome : Outcome} :
    Contract depth outcome (receive outcome depth) ↔
      ∀ bs, outcome.body? = some bs → ¬Unreportable depth bs := by
  refine ⟨fun h bs hbody hbad => ?_, contract_receive⟩
  obtain ⟨cause, hcause⟩ := receive_of_unreportable hbody hbad
  rw [hcause] at h
  exact not_contract_unexpected cause h

theorem run_eq (s : MovieStore) (outcome : Outcome) (document : Text) (depth : Nat) :
    s.run outcome document depth = exchange (receive · depth) outcome s.url s.timeout
      [(lit "accept", lit "application/json"), (lit "content-type", lit "application/json")]
      (body document) :=
  run_exchange

theorem contract_run_iff {s : MovieStore} {outcome : Outcome} {document : Text} :
    Contract depth outcome (s.run outcome document depth).1 ↔
      (∃ url, Url.resolve s.url = .ok url) ∧ Contract depth outcome (receive outcome depth) := by
  rw [run_eq]
  exact exchange_iff not_contract_unexpected

end

/-- **A document gives rows or a failure of the store, exactly if the body can be reported on.**
Posted to a URL that is not refused, it keeps the contract unless the body that came back nests more
containers than there are levels for, holds a long integer or has an error without words, and with
such a body never, whatever the number of levels. An endpoint is meant that requests can be sent to:
its URL has no blanks in it, no empty label in its host and, if it has a port, a number for it. -/
theorem execute_keeps_contract_iff (depth : Nat) (s : MovieStore) (outcome : Outcome)
    (document : Text) :
    Contract depth outcome (s.run outcome document depth).1 ↔
      (∃ url, Url.resolve s.url = .ok url) ∧
        ∀ bs, outcome.body? = some bs → ¬Unreportable depth bs := by
  rw [contract_run_iff, contract_receive_iff]

/-- A report of an error whose message is null. -/
def wordlessReport : Text := lit "\x7b\"errors\": [\x7b\"message\": null\x7d]\x7d"

/-- It cannot be reported on: with three levels it is read and its error has no words, and with
fewer it is not read. -/
theorem unreportable_wordlessReport (depth : Nat) :
    Unreportable depth (Utf8.encode wordlessReport) := by
  have hdetect : Encoding.detect (Utf8.encode wordlessReport) =
      (.utf8, Utf8.encode wordlessReport) := rfl
  have htext : Encoding.utf8.decode? (Utf8.encode wordlessReport) = some wordlessReport := by cbv
  rcases Nat.lt_or_ge depth 3 with hfew | hlevels
  · have hdeep : Json.decode wordlessReport 2 = .error .tooDeep := by cbv
    have hnests := (Json.decode_eq_tooDeep_iff _ _).1 hdeep
    refine Or.inl ⟨wordlessReport, ?_, Or.inl (hnests.of_le (Nat.le_of_lt_succ hfew))⟩
    simp only [Json.textOf?, hdetect, htext]
  · have hread : Json.decode wordlessReport 3 =
        .ok (.object [(lit "errors", .array [.object [(lit "message", .null)]])]) := by cbv
    have hbody : Json.ofBytes (Utf8.encode wordlessReport) depth =
        .ok (.object [(lit "errors", .array [.object [(lit "message", .null)]])]) := by
      simp only [Json.ofBytes, hdetect, htext, Json.decode_of_le hlevels hread]
    exact Or.inr ⟨_, hbody, [.object [(lit "message", .null)]], .object [(lit "message", .null)],
      .null, rfl, List.mem_singleton_self _, rfl, by simp⟩

/-- There is no number of levels with which every report is rows or a failure of the store: an error
that is reported without words is neither. -/
theorem exists_report_breaking_contract :
    ¬∃ depth, ∀ (s : MovieStore) (outcome : Outcome) (document : Text),
      (∃ url, Url.resolve s.url = .ok url) →
        Contract depth outcome (s.run outcome document depth).1 := by
  rintro ⟨depth, hall⟩
  have hurl : Url.resolve (lit "http://localhost:4000/graphql") =
      .ok (lit "http://localhost:4000/graphql") := by cbv
  have hkept := hall {} (.response (Utf8.encode wordlessReport)) [] ⟨_, hurl⟩
  exact contract_receive_iff.1 (contract_run_iff.1 hkept).2 _ rfl
    (unreportable_wordlessReport depth)

end FilmQuery.MovieStore
