import FilmQuery.Http.Model
import FilmQuery.Proofs.Http.Exchange
import FilmQuery.Proofs.Json.Size
import Mathlib.Data.List.Basic

/-!
# The contract of the model's service

Whatever comes of sending a prompt, the service should give an envelope or a failure of its own, and
a body that is not read as JSON should be the envelope, as a text. It is so unless the body is too
large to be read, which depends on the levels that there are for its containers. Main statement: the
contract, and exactly when it is kept, for any number of levels.
-/

namespace FilmQuery

/-- ASCII bytes are the characters that they number. -/
theorem Utf8.decodeLossy_of_ascii {bs : Bytes} (h : ∀ b ∈ bs, b.toNat < 0x80) :
    decodeLossy bs = bs.map UInt8.toNat := by
  unfold decodeLossy
  induction bs with
  | nil => rfl
  | cons b bs ih =>
      rw [List.forall_mem_cons] at h
      rw [decodeFrom, first, if_pos h.1, List.map_cons, ih h.2]

namespace ModelService

/-- What sending a prompt comes to, and the requests that are made for it. -/
def run (s : ModelService) (outcome : Outcome) (prompt : Text) (depth : Nat) :
    Except Failure Json × List Request :=
  (s.generate outcome.send prompt depth).run []

/-- What sending a prompt has to come to, where a body is read with `depth` levels. -/
structure Contract (depth : Nat) (outcome : Outcome) (result : Except Failure Json) : Prop where
  /-- Whatever fails is a failure of the model's service. -/
  reported : ∀ failure, result = .error failure → ∃ reason, failure = .model reason
  decoded : ∀ bs j, outcome = .response bs → Json.decode (Utf8.decodeLossy bs) depth = .ok j →
    result = .ok j
  /-- A body that is not read, for whatever reason, is the envelope. -/
  passed : ∀ bs, outcome = .response bs →
    (∀ j, Json.decode (Utf8.decodeLossy bs) depth ≠ .ok j) →
    result = .ok (.string (Utf8.decodeLossy bs))
  refused : (∀ bs, outcome ≠ .response bs) → ∃ reason, result = .error (.model reason)

/-- The text of a response is too large to be read with `depth` levels. -/
def Oversized (depth : Nat) (outcome : Outcome) : Prop :=
  ∃ bs, outcome = .response bs ∧ Json.TooLarge depth (Utf8.decodeLossy bs)

section

variable {depth : Nat}

theorem not_contract_unexpected {outcome : Outcome} (cause : Unexpected) :
    ¬Contract depth outcome (.error (.unexpected cause)) := by
  intro h
  obtain ⟨reason, hreason⟩ := h.reported _ rfl
  cases hreason

/-- A text that is too large is an unexpected failure. -/
theorem receive_of_oversized {outcome : Outcome} (h : Oversized depth outcome) :
    ∃ cause, receive outcome depth = .error (.unexpected cause) := by
  obtain ⟨bs, rfl, hlarge⟩ := h
  obtain ⟨e, he, hsize⟩ := Json.failsWith_decode_iff.2 hlarge
  unfold receive
  dsimp only
  unfold envelopeOf
  dsimp only
  rw [he]
  cases e with
  | malformed => exact hsize.elim
  | digits limit => exact ⟨_, rfl⟩
  | tooDeep => exact ⟨_, rfl⟩

/-- Without a response there is a failure of the service. -/
theorem contract_refused {outcome : Outcome} {result : Except Failure Json} {reason : Text}
    (hnone : ∀ bs, outcome ≠ .response bs) (hresult : result = .error (.model reason)) :
    Contract depth outcome result where
  reported _ h := ⟨reason, (Except.error.inj (hresult.symm.trans h)).symm⟩
  decoded bs _ h _ := absurd h (hnone bs)
  passed bs h _ := absurd h (hnone bs)
  refused _ := ⟨reason, hresult⟩

/-- A response whose text is not too large is its own envelope, read or unread. -/
theorem contract_response {bs : Bytes} (h : ¬Json.TooLarge depth (Utf8.decodeLossy bs)) :
    Contract depth (.response bs) (receive (.response bs) depth) := by
  have hsame : ∀ bs', Outcome.response bs = .response bs' → bs = bs' := by simp
  obtain ⟨j, hreceive, hread⟩ : ∃ j, receive (.response bs) depth = .ok j ∧
      (Json.decode (Utf8.decodeLossy bs) depth = .ok j ∨
        (∀ k, Json.decode (Utf8.decodeLossy bs) depth ≠ .ok k) ∧
          j = .string (Utf8.decodeLossy bs)) := by
    unfold receive
    dsimp only
    unfold envelopeOf
    dsimp only
    cases hdecode : Json.decode (Utf8.decodeLossy bs) depth with
    | ok j => exact ⟨j, rfl, Or.inl rfl⟩
    | error e =>
        rw [← Json.failsWith_decode_iff, hdecode, failsWith_error_iff] at h
        cases e with
        | malformed fault position => exact ⟨_, rfl, Or.inr ⟨by simp, rfl⟩⟩
        | digits limit => exact absurd trivial h
        | tooDeep => exact absurd trivial h
  rw [hreceive]
  exact {
    reported := fun failure heq => by cases heq
    decoded := fun bs' k heq hk => by
      rw [← hsame bs' heq] at hk
      rcases hread with hj | ⟨hnone, -⟩
      · rw [← Except.ok.inj (hj.symm.trans hk)]
      · exact absurd hk (hnone k)
    passed := fun bs' heq hnone => by
      rw [← hsame bs' heq] at hnone ⊢
      rcases hread with hj | ⟨-, hj⟩
      · exact absurd hj (hnone j)
      · rw [hj]
    refused := fun hnone => absurd rfl (hnone bs) }

theorem contract_receive {outcome : Outcome} (h : ¬Oversized depth outcome) :
    Contract depth outcome (receive outcome depth) := by
  cases outcome with
  | response bs => exact contract_response fun hlarge => h ⟨bs, rfl, hlarge⟩
  | status code bs => exact contract_refused (by simp) rfl
  | unreachable reason => exact contract_refused (by simp) rfl
  | broken reason => exact contract_refused (by simp) rfl

/-- What is received keeps the contract exactly if its text is not too large. -/
theorem contract_receive_iff {outcome : Outcome} :
    Contract depth outcome (receive outcome depth) ↔ ¬Oversized depth outcome := by
  refine ⟨fun h hlarge => ?_, contract_receive⟩
  obtain ⟨cause, hcause⟩ := receive_of_oversized hlarge
  rw [hcause] at h
  exact not_contract_unexpected cause h

theorem run_eq (s : ModelService) (outcome : Outcome) (prompt : Text) (depth : Nat) :
    s.run outcome prompt depth = exchange (receive · depth) outcome s.url s.timeout
      [(lit "content-type", lit "application/json")] (s.body prompt) :=
  run_exchange

theorem contract_run_iff {s : ModelService} {outcome : Outcome} {prompt : Text} :
    Contract depth outcome (s.run outcome prompt depth).1 ↔
      (∃ url, Url.resolve s.url = .ok url) ∧ Contract depth outcome (receive outcome depth) := by
  rw [run_eq]
  exact exchange_iff not_contract_unexpected

end

/-- **A prompt gives an envelope or a failure of the model's service, exactly if the text of the
response can be read.** Sent to a URL that is not refused, it keeps the contract unless that text
nests more containers than there are levels for or holds a long integer, and with such a text never,
whatever the number of levels. An endpoint is meant that requests can be sent to: its URL has no
blanks in it, no empty label in its host and, if it has a port, a number for it. -/
theorem generate_keeps_contract_iff (depth : Nat) (s : ModelService) (outcome : Outcome)
    (prompt : Text) :
    Contract depth outcome (s.run outcome prompt depth).1 ↔
      (∃ url, Url.resolve s.url = .ok url) ∧ ¬Oversized depth outcome := by
  rw [contract_run_iff, contract_receive_iff]

/-- A body of opening brackets. -/
def bracketBody (n : Nat) : Bytes := List.replicate n 0x5B

theorem oversized_bracketBody (depth : Nat) :
    Oversized depth (.response (bracketBody (depth + 1))) := by
  have hascii : ∀ b ∈ bracketBody (depth + 1), b.toNat < 0x80 := by
    intro b hb
    rw [List.eq_of_mem_replicate hb]
    decide
  refine ⟨_, rfl, Or.inl ?_⟩
  rw [Utf8.decodeLossy_of_ascii hascii, bracketBody, List.map_replicate]
  exact Json.nestsTooDeep_replicate depth

/-- There is no number of levels with which a body that is nothing but brackets is always passed on
as a text. -/
theorem exists_body_not_passed :
    ¬∃ depth, ∀ (s : ModelService) (outcome : Outcome) (prompt : Text),
      (∃ url, Url.resolve s.url = .ok url) →
        Contract depth outcome (s.run outcome prompt depth).1 := by
  rintro ⟨depth, hall⟩
  have haddress : ({} : ModelService).url = lit "http://localhost:11434/api/generate" := by decide
  have hurl : Url.resolve (lit "http://localhost:11434/api/generate") =
      .ok (lit "http://localhost:11434/api/generate") := by cbv
  have hkept := hall {} (.response (bracketBody (depth + 1))) [] ⟨_, haddress ▸ hurl⟩
  exact contract_receive_iff.1 (contract_run_iff.1 hkept).2 (oversized_bracketBody depth)

end ModelService

end FilmQuery
