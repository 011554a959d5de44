import FilmQuery.Bot.Handler
import FilmQuery.Proofs.Answer
import FilmQuery.Proofs.Bot.Message

/-!
# One message, one reply

A message is handled against a chat in which every attempt to reply may fail, whatever was tried
before, and every call and every attempt is written down. The contract says how many attempts there
are and which of them reaches the chat, what is called for an answer and when, and what a reply may
say.
-/

namespace FilmQuery

/-- An answer says one of the fixed sentences, or tells of rows. -/
theorem Answer.output_cases (w : World) (question : Option Text) :
    (w.run question).1.output ∈ [emptyInput, unreadableIntent, internalError] ∨
      ∃ rows, (w.run question).1.output = Reply.ofRows rows := by
  have hcontract := contract_run w question
  generalize question.getD [] = t at hcontract
  cases hblank : t.isAllBlank with
  | true =>
      rw [(hcontract.blank hblank).1]
      exact Or.inl (by simp)
  | false =>
      by_cases hunreadable : Unreadable w t
      · rw [hcontract.unreadable.2 hunreadable]
        exact Or.inl (by simp)
      · by_cases hcompletes : ∃ rows, Completes w t rows
        · obtain ⟨rows, hrows⟩ := hcompletes
          exact Or.inr ⟨rows, hcontract.rows rows hrows⟩
        · rw [hcontract.internal.2 ⟨hblank, hunreadable, not_exists.1 hcompletes⟩]
          exact Or.inl (by simp)

theorem Answer.output_not_isAllBlank (w : World) (question : Option Text) :
    (w.run question).1.output.isAllBlank = false := by
  rcases output_cases w question with hfixed | ⟨rows, hrows⟩
  · have hsentences : ∀ s ∈ [emptyInput, unreadableIntent, internalError],
        Text.isAllBlank s = false := by decide
    exact hsentences _ hfixed
  · rw [hrows]
    rcases Reply.ofRows_eq rows with hnone | ⟨t, ht⟩
    · rw [hnone]
      decide
    · rw [ht, Text.isAllBlank, List.all_cons]
      exact Bool.and_eq_false_iff.2 (Or.inl (by decide))

namespace Bot

/-- What is done for a message: a call for its answer, or an attempt to reply, which may fail. -/
inductive Effect where
  | call (call : Answer.Call)
  | reply (text : Text) (failure : Option Unexpected)
  deriving DecidableEq, Repr

namespace Effect

def call? : Effect → Option Answer.Call
  | call made => some made
  | reply _ _ => none

/-- What an attempt to reply said and what became of it. -/
def attempt? : Effect → Option (Text × Option Unexpected)
  | call _ => none
  | reply text failure => some (text, failure)

end Effect

def calls (effects : List Effect) : List Answer.Call := effects.filterMap Effect.call?

def attempts (effects : List Effect) : List (Text × Option Unexpected) :=
  effects.filterMap Effect.attempt?

/-- What was said in the attempts that did not fail. -/
def delivered (effects : List Effect) : List Text :=
  ((attempts effects).filter fun attempt => attempt.2.isNone).map Prod.fst

/-- What the calls for an answer come to, and whether and how each attempt to reply fails, counted
from the first. -/
structure Chat where
  world : Answer.World
  failure : Nat → Option Unexpected

namespace Chat

def ask (c : Chat) (question : Text) : StateM (List Effect) (Except Failure Json) := do
  modify (· ++ [.call (.model question)])
  return c.world.model question

def fetch (c : Chat) (document : Text) :
    StateM (List Effect) (Except Failure (Option (List Row))) := do
  modify (· ++ [.call (.store document)])
  return c.world.store document

def send (c : Chat) (text : Text) : StateM (List Effect) (Option Unexpected) := do
  let failure := c.failure (attempts (← get)).length
  modify (· ++ [.reply text failure])
  return failure

theorem run_ask (c : Chat) (t : Text) (effects : List Effect) :
    (c.ask t).run effects = (c.world.model t, effects ++ [.call (.model t)]) := rfl

theorem run_fetch (c : Chat) (d : Text) (effects : List Effect) :
    (c.fetch d).run effects = (c.world.store d, effects ++ [.call (.store d)]) := rfl

/-- Handles a message, and writes down what is done for it. -/
def run (c : Chat) (msg : Message) : Handled × List Effect :=
  (handle c.ask c.fetch c.send msg c.world.depth).run []

end Chat

/-- What the handling of a message and its effects have to be. -/
structure Contract (c : Chat) (msg : Message) (handled : Handled) (effects : List Effect) :
    Prop where
  /-- There are one or two attempts to reply. -/
  tried : (attempts effects).length = 1 ∨ (attempts effects).length = 2
  /-- There is a second one exactly where nothing is asked and the first one failed. -/
  retried : (attempts effects).length = 2 ↔
    (∀ t, ¬Asks msg t) ∧ (c.failure 0).isSome = true
  /-- Where nothing is asked, the first attempt is a request for input. -/
  requested : (∀ t, ¬Asks msg t) →
    ∃ later, attempts effects = (Answer.emptyInput, c.failure 0) :: later
  /-- The attempts fail as the chat has it. -/
  failed : ∀ n attempt, (attempts effects)[n]? = some attempt → attempt.2 = c.failure n
  atMostOne : (delivered effects).length ≤ 1
  exactlyOne : (delivered effects).length = 1 ↔ handled.failure = none
  /-- The failure that is left is that of the last attempt. -/
  left : ∃ last, (attempts effects).getLast? = some last ∧ handled.failure = last.2
  /-- What is asked is put to the model once, and the calls are those that its answer takes. -/
  asked : ∀ t, Asks msg t →
    calls effects = (c.world.run (some t)).2 ∧ (calls effects).filterMap Answer.Call.question? = [t]
  unasked : (∀ t, ¬Asks msg t) → calls effects = []
  sized : ∀ reply ∈ delivered effects, 1 ≤ reply.length ∧ reply.length ≤ 4096
  /-- An answer gives as much of the output as fits, once that is trimmed. -/
  answered : ∀ t, Asks msg t → ∀ reply ∈ delivered effects,
    Fits (Text.trim isBlank (c.world.run (some t)).1.output) reply
  unanswered : (∀ t, ¬Asks msg t) → ∀ reply ∈ delivered effects,
    reply = Answer.emptyInput ∨ reply = Answer.internalError

/-! ## Runs -/

/-- The calls for an answer are those that are made without a chat. -/
theorem Chat.run_ofQuestion (c : Chat) (question : Option Text) (effects : List Effect) :
    (Answer.ofQuestion c.ask c.fetch question c.world.depth).run effects =
      ((c.world.run question).1, effects ++ (c.world.run question).2.map Effect.call) := by
  rw [Answer.World.run_eq]
  unfold Answer.ofQuestion
  dsimp only
  split
  · rw [List.map_nil, List.append_nil]
    rfl
  · rw [run_bind_of_run (Answer.World.run_ofText Effect.call c.run_ask c.run_fetch _ effects)]
    rfl

/-- The last step is one more attempt, and its failure is the one that is left. -/
theorem Chat.run_conclude (c : Chat) (reply : Text) (events : List Event)
    (effects : List Effect) :
    (conclude c.send reply events).run effects =
      ({ events, failure := c.failure (attempts effects).length },
        effects ++ [.reply (fit reply) (c.failure (attempts effects).length)]) := rfl

theorem mem_delivered_iff {effects : List Effect} {reply : Text} :
    reply ∈ delivered effects ↔ (reply, none) ∈ attempts effects := by
  simp [delivered]

@[simp] theorem attempts_map_call_append (made : List Answer.Call) (effects : List Effect) :
    attempts (made.map Effect.call ++ effects) = attempts effects := by
  induction made with
  | nil => rfl
  | cons call made ih => exact ih

@[simp] theorem calls_map_call_append (made : List Answer.Call) (effects : List Effect) :
    calls (made.map Effect.call ++ effects) = made ++ calls effects := by
  induction made with
  | nil => rfl
  | cons call made ih => exact congrArg (call :: ·) ih

theorem Chat.run_question {msg : Message} (c : Chat) (h : msg.isQuestion = true) :
    c.run msg =
      ({ events := (c.world.run (some msg.content)).1.events, failure := c.failure 0 },
        (c.world.run (some msg.content)).2.map Effect.call ++
          [.reply (fit (c.world.run (some msg.content)).1.output) (c.failure 0)]) := by
  unfold Chat.run handle
  rw [if_pos h, StateT.run_bind, run_ofQuestion]
  refine (run_conclude c _ _ _).trans ?_
  have hnone := attempts_map_call_append (c.world.run (some msg.content)).2 []
  rw [List.append_nil] at hnone
  rw [List.nil_append, hnone]
  rfl

theorem Chat.run_other {msg : Message} (c : Chat) (h : msg.isQuestion = false) :
    c.run msg =
      match c.failure 0 with
      | none => ({}, [.reply Answer.emptyInput none])
      | some cause =>
        ({ events := [.replyFailed cause], failure := c.failure 1 },
          [.reply Answer.emptyInput (some cause), .reply Answer.internalError (c.failure 1)]) := by
  have hsend : (c.send Answer.emptyInput).run [] =
      (c.failure 0, [.reply Answer.emptyInput (c.failure 0)]) := rfl
  unfold Chat.run handle
  rw [if_neg (by simp [h]), StateT.run_bind, hsend]
  cases hfailure : c.failure 0 with
  | none => rfl
  | some cause =>
      refine (run_conclude c _ _ _).trans ?_
      rw [fit_internalError]
      rfl

section

variable {effects : List Effect} {earlier : List (Text × Option Unexpected)} {reply : Text}
  {failure : Option Unexpected}

/-- Where all but the last attempt failed, the last one alone decides what is delivered. -/
theorem delivered_eq (h : attempts effects = earlier ++ [(reply, failure)])
    (hearlier : ∀ attempt ∈ earlier, attempt.2.isSome = true) :
    delivered effects = if failure = none then [reply] else [] := by
  have hnone : earlier.filter (fun attempt => attempt.2.isNone) = [] := by
    refine List.filter_eq_nil_iff.2 fun attempt hmem => ?_
    rw [← Option.not_isSome, hearlier attempt hmem]
    decide
  rw [delivered, h, List.filter_append, hnone]
  cases failure <;> rfl

theorem length_delivered_le (h : attempts effects = earlier ++ [(reply, failure)])
    (hearlier : ∀ attempt ∈ earlier, attempt.2.isSome = true) :
    (delivered effects).length ≤ 1 := by
  rw [delivered_eq h hearlier]
  cases failure <;> simp

theorem length_delivered_eq_one_iff (h : attempts effects = earlier ++ [(reply, failure)])
    (hearlier : ∀ attempt ∈ earlier, attempt.2.isSome = true) :
    (delivered effects).length = 1 ↔ failure = none := by
  rw [delivered_eq h hearlier]
  cases failure <;> simp

end

section

variable {c : Chat} {msg : Message}

/-- A question is put to the model, and one attempt tells as much of the answer as fits. -/
theorem contract_question (h : msg.isQuestion = true) :
    Contract c msg (c.run msg).1 (c.run msg).2 := by
  have hasks : Asks msg msg.content := asks_iff.2 ⟨h, rfl⟩
  have hsame : ∀ t, Asks msg t → msg.content = t := fun t ht => (asks_iff.1 ht).2
  have hblank : msg.content.isAllBlank = false := by
    rw [Message.isQuestion, Bool.and_eq_true, Bool.not_eq_true'] at h
    exact h.1
  have hfits := fits_fit (Answer.output_not_isAllBlank c.world (some msg.content))
  have hattempts : attempts (c.run msg).2 =
      [] ++ [(fit (c.world.run (some msg.content)).1.output, c.failure 0)] := by
    rw [Chat.run_question c h]
    exact attempts_map_call_append _ _
  have hcalls : calls (c.run msg).2 = (c.world.run (some msg.content)).2 := by
    rw [Chat.run_question c h, calls_map_call_append]
    exact List.append_nil _
  have hleft : (c.run msg).1.failure = c.failure 0 := by rw [Chat.run_question c h]
  have hsaid : ∀ reply ∈ delivered (c.run msg).2,
      reply = fit (c.world.run (some msg.content)).1.output := by
    intro reply hmem
    rw [mem_delivered_iff, hattempts, List.nil_append, List.mem_singleton] at hmem
    exact congrArg Prod.fst hmem
  exact {
    tried := Or.inl (congrArg List.length hattempts)
    retried := by
      rw [hattempts]
      exact iff_of_false (by simp) fun hnone => hnone.1 _ hasks
    requested := fun hnone => absurd hasks (hnone _)
    failed := fun n attempt heq => by
      rw [hattempts] at heq
      cases n with
      | zero => exact congrArg Prod.snd (Option.some.inj heq).symm
      | succ n => cases heq
    atMostOne := length_delivered_le hattempts (by simp)
    exactlyOne := by
      rw [hleft]
      exact length_delivered_eq_one_iff hattempts (by simp)
    left := ⟨_, by rw [hattempts]; rfl, hleft⟩
    asked := fun t ht => by
      obtain rfl := hsame t ht
      rw [hcalls]
      exact ⟨rfl, (Answer.contract_run c.world (some msg.content)).asked hblank⟩
    unasked := fun hnone => absurd hasks (hnone _)
    sized := fun reply hmem => by
      rw [hsaid reply hmem]
      exact ⟨hfits.nonempty, hfits.bounded⟩
    answered := fun t ht reply hmem => by
      obtain rfl := hsame t ht
      rwa [hsaid reply hmem]
    unanswered := fun hnone => absurd hasks (hnone _) }

/-- How the attempts go where nothing is asked, and the failure that is left: a request for input,
and an apology if that fails. -/
inductive Requests (c : Chat) : List (Text × Option Unexpected) → Option Unexpected → Prop where
  | sent (first : c.failure 0 = none) : Requests c [(Answer.emptyInput, none)] none
  | failed {cause : Unexpected} (first : c.failure 0 = some cause) :
      Requests c [(Answer.emptyInput, some cause), (Answer.internalError, c.failure 1)]
        (c.failure 1)

namespace Requests

variable {tries : List (Text × Option Unexpected)} {failure : Option Unexpected}

theorem length_eq (h : Requests c tries failure) : tries.length = 1 ∨ tries.length = 2 := by
  cases h with
  | sent first => exact Or.inl rfl
  | failed first => exact Or.inr rfl

theorem length_eq_two_iff (h : Requests c tries failure) :
    tries.length = 2 ↔ (c.failure 0).isSome = true := by
  cases h with
  | sent first => simp [first]
  | failed first => simp [first]

theorem exists_eq_cons (h : Requests c tries failure) :
    ∃ later, tries = (Answer.emptyInput, c.failure 0) :: later := by
  cases h with
  | sent first => exact ⟨[], by rw [first]⟩
  | failed first => exact ⟨_, by rw [first]⟩

theorem failure_of_getElem? (h : Requests c tries failure) (n : Nat)
    (attempt : Text × Option Unexpected) (heq : tries[n]? = some attempt) :
    attempt.2 = c.failure n := by
  cases h with
  | sent first =>
      rcases n with _ | n
      · obtain rfl := Option.some.inj heq
        exact first.symm
      · cases heq
  | failed first =>
      rcases n with _ | _ | n
      · obtain rfl := Option.some.inj heq
        exact first.symm
      · obtain rfl := Option.some.inj heq
        rfl
      · cases heq

/-- The last attempt leaves its failure, and those before it failed. -/
theorem exists_eq_concat (h : Requests c tries failure) :
    ∃ earlier reply, tries = earlier ++ [(reply, failure)] ∧
      ∀ attempt ∈ earlier, attempt.2.isSome = true := by
  cases h with
  | sent first => exact ⟨[], _, rfl, by simp⟩
  | failed first => exact ⟨[_], _, rfl, by simp⟩

theorem fst_eq (h : Requests c tries failure) {attempt : Text × Option Unexpected}
    (hmem : attempt ∈ tries) :
    attempt.1 = Answer.emptyInput ∨ attempt.1 = Answer.internalError := by
  cases h with
  | sent first =>
      rw [List.mem_singleton] at hmem
      exact Or.inl (congrArg Prod.fst hmem)
  | failed first =>
      rw [List.mem_cons, List.mem_singleton] at hmem
      exact hmem.imp (congrArg Prod.fst) (congrArg Prod.fst)

end Requests

theorem requests_run (h : msg.isQuestion = false) :
    Requests c (attempts (c.run msg).2) (c.run msg).1.failure ∧ calls (c.run msg).2 = [] := by
  rw [Chat.run_other c h]
  cases hfirst : c.failure 0 with
  | none => exact ⟨.sent hfirst, rfl⟩
  | some cause => exact ⟨.failed hfirst, rfl⟩

theorem contract_other (h : msg.isQuestion = false) :
    Contract c msg (c.run msg).1 (c.run msg).2 := by
  have hasks : ∀ t, ¬Asks msg t := by
    intro t ht
    exact Bool.false_ne_true (h.symm.trans (asks_iff.1 ht).1)
  obtain ⟨hrequests, hcalls⟩ : Requests c (attempts (c.run msg).2) (c.run msg).1.failure ∧
      calls (c.run msg).2 = [] := requests_run h
  obtain ⟨earlier, reply, hattempts, hearlier⟩ := hrequests.exists_eq_concat
  have hsaid : ∀ text ∈ delivered (c.run msg).2,
      text = Answer.emptyInput ∨ text = Answer.internalError :=
    fun text hmem => hrequests.fst_eq (mem_delivered_iff.1 hmem)
  have hsized : ∀ text, text = Answer.emptyInput ∨ text = Answer.internalError →
      1 ≤ text.length ∧ text.length ≤ 4096 := by
    rintro text (rfl | rfl) <;> decide
  exact {
    tried := hrequests.length_eq
    retried := hrequests.length_eq_two_iff.trans (and_iff_right hasks).symm
    requested := fun _ => hrequests.exists_eq_cons
    failed := hrequests.failure_of_getElem?
    atMostOne := length_delivered_le hattempts hearlier
    exactlyOne := length_delivered_eq_one_iff hattempts hearlier
    left := ⟨_, by rw [hattempts, List.getLast?_concat], rfl⟩
    asked := fun t ht => absurd ht (hasks t)
    unasked := fun _ => hcalls
    sized := fun text hmem => hsized text (hsaid text hmem)
    answered := fun t ht => absurd ht (hasks t)
    unanswered := fun _ => hsaid }

end

/-- **Every message gets one reply or leaves the failure of its last attempt.** Whatever the calls
for an answer come to and whichever attempts fail, the handling of a message keeps the contract. -/
theorem handle_keeps_contract (c : Chat) (msg : Message) :
    Contract c msg (c.run msg).1 (c.run msg).2 := by
  cases h : msg.isQuestion with
  | true => exact contract_question h
  | false => exact contract_other h

/-- A command is answered in the second attempt if the first one fails, and with an apology. -/
example :
    delivered (Chat.run
      { world := .always (.error (.unexpected .tooDeep)) (.ok none) 1
        failure := fun n => if n = 0 then some (.broken []) else none }
      { text := some (lit "/start"), caption := none }).2 = [Answer.internalError] := by
  decide

end Bot

end FilmQuery
