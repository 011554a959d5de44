import FilmQuery.Log.Event
import FilmQuery.Query.Document
import FilmQuery.Question.Enrich
import FilmQuery.Reply

/-!
# Answers

A question is recorded and goes to the model, the model's envelope and the question together make a
query, the query goes to the movie store, and the rows become the reply. Whatever fails on the way,
there is an answer: one of three fixed sentences stands in for the reply, and the cause is logged.
The model and the store are given as actions, so an answer can be computed in any monad.
-/

namespace FilmQuery

/-- A reply, what it was made from as far as that was reached, and what is logged. -/
structure Answer where
  output : Text
  intent : Option Intent := none
  query : Option Query := none
  events : List Event := []
  deriving Repr

namespace Answer

def emptyInput : Text := lit "Please provide input."

def unreadableIntent : Text := lit "No result — could not read intent JSON."

def internalError : Text := lit "Internal server error."

/-- Why no query could be made from an envelope and a question. -/
inductive CompileError where
  | unreadable (e : Intent.ReadError)
  | digits (limit : DigitLimit)
  deriving DecidableEq, Repr

/-- The completed intent of an envelope and a question, and its query. -/
def compile (envelope : Json) (question : Text) (depth : Nat := Json.usualDepth) :
    Except CompileError (Intent × Query) :=
  match Intent.ofEnvelope envelope depth with
  | .error e => .error (.unreadable e)
  | .ok i =>
    match Question.enrich i question with
    | .error limit => .error (.digits limit)
    | .ok i => .ok (i, Query.ofIntent i)

/-- The answer where no query could be made. -/
def ofCompileError : CompileError → Answer
  | .unreadable .tooDeep => { output := internalError, events := [.answerFailed .tooDeep] }
  | .unreadable e => { output := unreadableIntent, events := [.unreadable e] }
  | .digits limit => { output := internalError, events := [.answerFailed (.digits limit)] }

/-- What is logged of a failure, with the document that was sent if it came to that. -/
def eventOf (failure : Failure) (document : Option Text) : Event :=
  match failure with
  | .model reason => .modelFailed reason
  | .store reason => .queryFailed reason document
  | .unexpected cause => .answerFailed cause

/-- The answer that the outcome of a query gives. -/
def ofOutcome (i : Intent) (q : Query) (outcome : Except Failure (Option (List Row))) : Answer :=
  match outcome with
  | .ok rows =>
    { output := Reply.ofRows rows, intent := some i, query := some q,
      events := [.compiled q.document, .handled (rows.getD []).length i.topN] }
  | .error failure =>
    { output := internalError, intent := some i, query := some q,
      events := [.compiled q.document, eventOf failure (some q.document)] }

/-- An answer with a record in front of its own. -/
def after (e : Event) (a : Answer) : Answer := { a with events := e :: a.events }

@[simp] theorem after_output (e : Event) (a : Answer) : (a.after e).output = a.output := rfl

@[simp] theorem after_intent (e : Event) (a : Answer) : (a.after e).intent = a.intent := rfl

@[simp] theorem after_query (e : Event) (a : Answer) : (a.after e).query = a.query := rfl

@[simp] theorem after_events (e : Event) (a : Answer) : (a.after e).events = e :: a.events := rfl

section

variable {m : Type → Type} [Monad m] (model : Text → m (Except Failure Json))
  (store : Text → m (Except Failure (Option (List Row))))

/-- The answer to a text that is put to the model. -/
def ofText (question : Text) (depth : Nat) : m Answer := do
  match ← model question with
  | .error failure => return { output := internalError, events := [eventOf failure none] }
  | .ok envelope =>
    match compile envelope question depth with
    | .error e => return ofCompileError e
    | .ok (i, q) =>
      let outcome ← store q.document
      return ofOutcome i q outcome

/-- The answer to a question. A blank one leaves no record. -/
def ofQuestion (question : Option Text) (depth : Nat := Json.usualDepth) : m Answer := do
  let question := question.getD []
  if question.isAllBlank then return { output := emptyInput }
  else
    let answer ← ofText model store question depth
    return answer.after (.asked question)

end

end Answer

end FilmQuery
