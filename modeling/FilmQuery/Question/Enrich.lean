import FilmQuery.Question.Genre
import FilmQuery.Question.Numbers
import FilmQuery.Question.Person
import FilmQuery.Question.Title

/-!
# Completing an intent from the question

Nine slots of an intent can be filled from the user's own words. A slot is filled only while it is
open, so what the model gave, and what an earlier slot took, stands. What a question proposes for a
slot does not depend on the intent.
-/

namespace FilmQuery.Question

/-- The slots that a question can fill, in the order in which they are filled. -/
inductive Slot where
  | title
  | director
  | actor
  | genre
  | ids
  | rating
  | yearFrom
  | topN
  | fields
  deriving DecidableEq, Repr

def Slot.all : List Slot :=
  [title, director, actor, genre, ids, rating, yearFrom, topN, fields]

/-- A slot together with what goes into it. -/
inductive Fact where
  | titleExact (t : Text)
  | director (t : Text)
  | actor (t : Text)
  | genre (t : Text)
  | ids (t : Text)
  | rating (r : Rating)
  | yearFrom (n : Nat)
  | topN (n : Nat)
  | fields (names : List Text)
  deriving Repr

/-- Writes a fact into an intent. -/
def Fact.write (fact : Fact) (i : Intent) : Intent :=
  match fact with
  | titleExact t => { i with filters := { i.filters with titleExact := some t } }
  | director t => { i with filters := { i.filters with director := some t } }
  | actor t => { i with filters := { i.filters with actor := some t } }
  | genre t => { i with filters := { i.filters with genre := some t } }
  | ids t => { i with filters := { i.filters with ids := some t } }
  | rating r => { i with filters := { i.filters with rating := some r } }
  | yearFrom n => { i with filters := { i.filters with yearFrom := .number (.int n) } }
  | topN n => { i with topN := some n }
  | fields names => { i with fields := names }

namespace Slot

/-- Whether a slot may be filled; a title of any kind closes the title slot. -/
def isOpen (slot : Slot) (i : Intent) : Bool :=
  match slot with
  | title => FilmQuery.isOpen i.filters.title && FilmQuery.isOpen i.filters.titleExact
  | director => FilmQuery.isOpen i.filters.director
  | actor => FilmQuery.isOpen i.filters.actor
  | genre => FilmQuery.isOpen i.filters.genre
  | ids => FilmQuery.isOpen i.filters.ids
  | rating => i.filters.rating.isNone
  | yearFrom => i.filters.yearFrom.isUnset
  | topN => i.topN.isNone
  | fields => i.fields.isEmpty

/-- What a question proposes for a slot. -/
def propose (slot : Slot) (t : Text) : Except DigitLimit (Option Fact) :=
  match slot with
  | title => .ok ((title? t).map .titleExact)
  | director => .ok ((person? (lit "director") t).map .director)
  | actor => .ok ((person? (lit "actor") t).map .actor)
  | genre => .ok ((genre? t).map .genre)
  | ids => .ok ((ids? t).map .ids)
  | rating => .ok ((rating? t).map .rating)
  | yearFrom => .ok ((yearFrom? t).map .yearFrom)
  | topN => (topN? t).map (Option.map .topN)
  | fields => .ok (some (.fields Intent.defaultFields))

/-- What a question would write into a slot of an intent; a slot that is not open asks for
nothing. -/
def fact? (slot : Slot) (i : Intent) (t : Text) : Except DigitLimit (Option Fact) :=
  if slot.isOpen i then slot.propose t else .ok none

/-- Fills a slot if it is open and the question has something for it. -/
def fill (slot : Slot) (t : Text) (i : Intent) : Except DigitLimit Intent :=
  (slot.fact? i t).map fun
    | some fact => fact.write i
    | none => i

end Slot

/-- Fills the given slots one after the other. -/
def fillAll (slots : List Slot) (t : Text) (i : Intent) : Except DigitLimit Intent :=
  slots.foldlM (fun i slot => slot.fill t i) i

/-- The intent completed from a question. -/
def enrich (i : Intent) (question : Text) : Except DigitLimit Intent :=
  fillAll Slot.all (Text.trim isBlank question) i

/-- The slots that a question fills, each looked at after the slots before it have been filled. -/
def filledSlots (slots : List Slot) (t : Text) (i : Intent) : Except DigitLimit (List Slot) :=
  match slots with
  | [] => .ok []
  | slot :: rest => do
    let fact ← slot.fact? i t
    match fact with
    | some fact => return slot :: (← filledSlots rest t (fact.write i))
    | none => filledSlots rest t i

end FilmQuery.Question
