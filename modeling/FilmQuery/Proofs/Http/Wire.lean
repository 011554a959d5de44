import FilmQuery.Proofs.Http.Model
import FilmQuery.Proofs.Http.Store
import FilmQuery.Proofs.Json.RoundTrip

/-!
# What goes over the wire

Prompts and documents are posted as JSON in ASCII. Whoever reads a body gets back what was put into
it, character for character, whatever quotes, backslashes, control characters or characters beyond
U+FFFF it holds. Main statement: that, and that different questions or documents therefore never
make the same body.
-/

namespace FilmQuery

/-- The requests of an exchange that posts a value: one unless the URL is refused, with a body in
ASCII that is read as that value. -/
structure Posts (url : Text) (payload : Json) (requests : List Request) : Prop where
  once : ∀ accepted, Url.resolve url = .ok accepted → requests.length = 1
  ascii : ∀ request ∈ requests, request.body.IsAscii
  /-- One level is enough to read a body. -/
  read : ∀ request ∈ requests, ∀ depth, 0 < depth → Json.decode request.body depth = .ok payload

/-- Bodies that are the same were made of the same value. -/
theorem Posts.payload_eq {url url' : Text} {payload payload' : Json}
    {requests requests' : List Request} (h : Posts url payload requests)
    (h' : Posts url' payload' requests') {request request' : Request} (hmem : request ∈ requests)
    (hmem' : request' ∈ requests') (hbody : request.body = request'.body) :
    payload = payload' := by
  have hread := h.read request hmem 1 Nat.one_pos
  rw [hbody, h'.read request' hmem' 1 Nat.one_pos] at hread
  exact (Except.ok.inj hread).symm

theorem posts_exchange {α : Type} {receive : Outcome → Except Failure α} {outcome : Outcome}
    {url : Text} {timeout : Number} {headers : List (Text × Text)} {entries : List (Text × Json)}
    (hkeys : (entries.map Prod.fst).Nodup)
    (hnames : ∀ name ∈ entries.map Prod.fst, Text.isWellFormed name = true)
    (hvalues : ∀ e ∈ entries, ∀ depth, Json.ReadsBack depth e.2)
    (hascii : ∀ e ∈ entries, (Json.encode e.2).IsAscii) :
    Posts url (.object entries)
      (exchange receive outcome url timeout headers (Json.encode (.object entries))).2 := by
  have hencoded := Json.isAscii_encode_object hascii
  have hdecoded : ∀ depth, 0 < depth →
      Json.decode (Json.encode (.object entries)) depth = .ok (.object entries) := by
    intro depth hdepth
    obtain ⟨levels, rfl⟩ : ∃ levels, depth = levels + 1 := ⟨depth - 1, by omega⟩
    have hobject : Json.ReadsBack (levels + 1) (.object entries) :=
      Json.readsBack_object hkeys (fun e he => hnames e.1 (List.mem_map_of_mem he))
        fun e he => hvalues e he levels
    exact Json.decode_encode hobject hencoded
  unfold exchange
  cases hurl : Url.resolve url with
  | error e =>
      exact {
        once := fun accepted h => by cases hurl.symm.trans h
        ascii := fun request h => by cases h
        read := fun request h => by cases h }
  | ok accepted =>
      exact {
        once := fun _ _ => rfl
        ascii := fun request h => by rwa [List.mem_singleton.1 h]
        read := fun request h => by rwa [List.mem_singleton.1 h] }

namespace Prompt

theorem isWellFormed_instructions : (Text.join (lit "\n") instructions).isWellFormed = true := by
  rw [Text.isWellFormed, List.all_eq_true]
  apply Text.forall_mem_join
  · exact List.all_eq_true.1 (Text.isWellFormed_lit _)
  · intro t ht
    apply List.all_eq_true.1
    have hlines : ∀ line ∈ instructions, line.isWellFormed = true := by
      simp [instructions, Text.isWellFormed_lit, Text.isWellFormed_append]
    exact hlines t ht

theorem isWellFormed_ofQuestion {question : Text} (h : question.isWellFormed = true) :
    (ofQuestion question).isWellFormed = true := by
  rw [ofQuestion]
  apply Text.isWellFormed_append
  · apply Text.isWellFormed_append
    · exact Text.isWellFormed_append isWellFormed_instructions (Text.isWellFormed_lit _)
    · exact h
  · exact Text.isWellFormed_lit _

end Prompt

namespace ModelService

/-- The requests that are made for a question. -/
def requests (s : ModelService) (outcome : Outcome) (question : Text) (depth : Nat) :
    List Request :=
  ((s.ask outcome.send question depth).run []).2

theorem posts_requests {s : ModelService} {question : Text} (hmodel : s.model.isWellFormed = true)
    (hquestion : question.isWellFormed = true) (outcome : Outcome) (depth : Nat) :
    Posts s.url (.object [
        (lit "model", .string s.model),
        (lit "prompt", .string (Prompt.ofQuestion question)),
        (lit "stream", .bool false)])
      (s.requests outcome question depth) := by
  have hrun : s.requests outcome question depth =
      (s.run outcome (Prompt.ofQuestion question) depth).2 := rfl
  have hkeys : [lit "model", lit "prompt", lit "stream"].Nodup := by decide
  have hnames : ∀ name ∈ [lit "model", lit "prompt", lit "stream"],
      Text.isWellFormed name = true := by decide
  rw [hrun, run_eq]
  apply posts_exchange
  · exact hkeys
  · exact hnames
  · intro e he depth
    simp only [List.mem_cons, List.not_mem_nil, or_false] at he
    rcases he with rfl | rfl | rfl
    · exact Json.readsBack_string depth hmodel
    · exact Json.readsBack_string depth (Prompt.isWellFormed_ofQuestion hquestion)
    · exact Json.readsBack_bool depth false
  · intro e he
    simp only [List.mem_cons, List.not_mem_nil, or_false] at he
    rcases he with rfl | rfl | rfl
    · exact Json.isAscii_encodeString _
    · exact Json.isAscii_encodeString _
    · decide

end ModelService

namespace MovieStore

/-- The requests that are made for a document. -/
def requests (s : MovieStore) (outcome : Outcome) (document : Text) (depth : Nat) :
    List Request :=
  (s.run outcome document depth).2

theorem posts_requests {document : Text} (h : document.isWellFormed = true) (s : MovieStore)
    (outcome : Outcome) (depth : Nat) :
    Posts s.url (.object [(lit "query", .string document)])
      (s.requests outcome document depth) := by
  have hkeys : [lit "query"].Nodup := by decide
  have hnames : ∀ name ∈ [lit "query"], Text.isWellFormed name = true := by decide
  rw [requests, run_eq]
  apply posts_exchange
  · exact hkeys
  · exact hnames
  · intro e he depth
    rw [List.mem_singleton.1 he]
    exact Json.readsBack_string depth h
  · intro e he
    rw [List.mem_singleton.1 he]
    exact Json.isAscii_encodeString _

end MovieStore

/-- Services that post the same body use the same model and were asked the same question. -/
theorem question_eq_of_body_eq {s s' : ModelService} {outcome outcome' : Outcome}
    {question question' : Text} {depth depth' : Nat} (hmodel : s.model.isWellFormed = true)
    (hmodel' : s'.model.isWellFormed = true) (hquestion : question.isWellFormed = true)
    (hquestion' : question'.isWellFormed = true) {request request' : Request}
    (hmem : request ∈ s.requests outcome question depth)
    (hmem' : request' ∈ s'.requests outcome' question' depth')
    (hbody : request.body = request'.body) :
    s.model = s'.model ∧ question = question' := by
  have hpayload := (ModelService.posts_requests hmodel hquestion outcome depth).payload_eq
    (ModelService.posts_requests hmodel' hquestion' outcome' depth') hmem hmem' hbody
  simp only [Json.object.injEq, List.cons.injEq, Prod.mk.injEq, Json.string.injEq, true_and,
    and_true] at hpayload
  refine ⟨hpayload.1, ?_⟩
  have hprompt := hpayload.2
  unfold Prompt.ofQuestion at hprompt
  exact List.append_cancel_left (List.append_cancel_right hprompt)

theorem document_eq_of_body_eq {s s' : MovieStore} {outcome outcome' : Outcome}
    {document document' : Text} {depth depth' : Nat} (h : document.isWellFormed = true)
    (h' : document'.isWellFormed = true) {request request' : Request}
    (hmem : request ∈ s.requests outcome document depth)
    (hmem' : request' ∈ s'.requests outcome' document' depth')
    (hbody : request.body = request'.body) :
    document = document' := by
  have hpayload := (MovieStore.posts_requests h s outcome depth).payload_eq
    (MovieStore.posts_requests h' s' outcome' depth') hmem hmem' hbody
  simpa only [Json.object.injEq, List.cons.injEq, Prod.mk.injEq, Json.string.injEq, true_and,
    and_true] using hpayload

/-- **Nothing is lost on the wire.** A question without lone surrogates is posted in ASCII, and what
is posted is read as the model's name and the instructions, a blank line and the question as it was;
a document is posted and read in the same way. So different questions, and different documents,
never make the same body. -/
theorem posted_reads_back :
    (∀ (s : ModelService) (outcome : Outcome) (question : Text) (depth : Nat),
        s.model.isWellFormed = true → question.isWellFormed = true →
        Posts s.url (.object [
            (lit "model", .string s.model),
            (lit "prompt", .string (Text.join (lit "\n") Prompt.instructions ++
              lit "\n\nUser: " ++ question ++ lit "\nJSON:\n")),
            (lit "stream", .bool false)])
          (s.requests outcome question depth)) ∧
      (∀ (s : MovieStore) (outcome : Outcome) (document : Text) (depth : Nat),
        document.isWellFormed = true →
        Posts s.url (.object [(lit "query", .string document)])
          (s.requests outcome document depth)) ∧
      (∀ (s s' : ModelService) (outcome outcome' : Outcome) (question question' : Text)
          (depth depth' : Nat), s.model.isWellFormed = true → s'.model.isWellFormed = true →
        question.isWellFormed = true → question'.isWellFormed = true → question ≠ question' →
        ∀ request ∈ s.requests outcome question depth,
          ∀ request' ∈ s'.requests outcome' question' depth', request.body ≠ request'.body) ∧
      ∀ (s s' : MovieStore) (outcome outcome' : Outcome) (document document' : Text)
          (depth depth' : Nat), document.isWellFormed = true → document'.isWellFormed = true →
        document ≠ document' →
        ∀ request ∈ s.requests outcome document depth,
          ∀ request' ∈ s'.requests outcome' document' depth', request.body ≠ request'.body := by
  refine ⟨?_, ?_, ?_, ?_⟩
  · intro s outcome question depth hmodel hquestion
    exact ModelService.posts_requests hmodel hquestion outcome depth
  · intro s outcome document depth hdocument
    exact MovieStore.posts_requests hdocument s outcome depth
  · intro s s' outcome outcome' question question' depth depth' hs hs' hq hq' hne request h request'
      h' hbody
    exact hne (question_eq_of_body_eq hs hs' hq hq' h h' hbody).2
  · intro s s' outcome outcome' document document' depth depth' hd hd' hne request h request' h'
      hbody
    exact hne (document_eq_of_body_eq hd hd' h h' hbody)

/-- A quote, a backslash, a line feed, DEL and a character beyond U+FFFF in the question. -/
theorem posted_reads_back_clapper :
    let s : ModelService := {}
    let question := lit "\"Heat\\\n" ++ [0x7F, 0x1F3AC]
    let requests := s.requests (.response []) question 1
    s.model.isWellFormed = true ∧ question.isWellFormed = true ∧ requests.length = 1 ∧
      (∀ request ∈ requests, Json.decode request.body 1 = .ok (.object [
        (lit "model", .string (lit "phi3")),
        (lit "prompt", .string (Text.join (lit "\n") Prompt.instructions ++
          lit "\n\nUser: " ++ question ++ lit "\nJSON:\n")),
        (lit "stream", .bool false)])) ∧
      ∀ request ∈ requests, ∀ request' ∈ s.requests (.response []) (lit "Heat") 1,
        request.body ≠ request'.body := by
  intro s question requests
  have hmodel : s.model.isWellFormed = true := by decide
  have hquestion : question.isWellFormed = true := by decide
  have haddress : s.url = lit "http://localhost:11434/api/generate" := by decide
  have hurl : Url.resolve (lit "http://localhost:11434/api/generate") =
      .ok (lit "http://localhost:11434/api/generate") := by cbv
  have hposts := posted_reads_back.1 s (.response []) question 1 hmodel hquestion
  have hdiffer := posted_reads_back.2.2.1 s s (.response []) (.response []) question (lit "Heat")
    1 1 hmodel hmodel hquestion (by decide) (by decide)
  exact ⟨hmodel, hquestion, hposts.once _ (haddress ▸ hurl),
    fun request h => hposts.read request h 1 Nat.one_pos, hdiffer⟩

end FilmQuery
