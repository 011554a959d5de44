import FilmQuery.Answer

/-!
# Messages of the chat

What a message asks, and how a reply is made to fit into one message: at most 4096 characters, cut
at the end of a line if there is one to cut at, and never empty.
-/

namespace FilmQuery.Bot

/-- A message as the chat delivers it. -/
structure Message where
  text : Option Text
  caption : Option Text
  deriving Repr

/-- What a message says: its text, or else its caption. -/
def Message.content (msg : Message) : Text :=
  ((setText? msg.text).or msg.caption).getD []

/-- Whether a text is a command: a slash comes first. -/
def isCommand (t : Text) : Bool := (t.dropWhile isBlank).head? == some '/'.toNat

/-- Whether a message asks a question. -/
def Message.isQuestion (msg : Message) : Bool :=
  !msg.content.isAllBlank && !isCommand msg.content

/-- The most characters that a message may have. -/
def maxLength : Nat := 4096

/-- What stands before the last line feed of a text. -/
def beforeLastLine? (t : Text) : Option Text :=
  (Text.splitAt? 10 t.reverse).map fun (_, before) => before.reverse

/-- The longest run of whole lines in the first `maxLength` characters, or all of these where a
single line fills them. -/
def cut (t : Text) : Text :=
  let head := t.take maxLength
  match beforeLastLine? head with
  | none | some [] => head
  | some lines => lines

/-- A reply that can be sent. -/
def fit (reply : Text) : Text :=
  match Text.trim isBlank reply with
  | [] => Answer.internalError
  | t => if t.length ≤ maxLength then t else cut t

end FilmQuery.Bot
