import FilmQuery.Intent.Reading
import FilmQuery.Proofs.Json.Extent
import FilmQuery.Proofs.Text
import Mathlib.Data.List.Basic

/-!
# Objects in the middle of prose

A model wraps its object in words. Whatever stands around the text of an object, the scan cuts out
that text and nothing else, and the intent that is read is the intent of that text. The scan knows
nothing of JSON: it counts braces outside quotes, and takes single quotes for quotes as well.
-/

namespace FilmQuery.Intent

open Braces

theorem ofEnvelope_of_bestText {envelope : Json} {p u s : Text} (hp : opening ∉ p)
    (hu : Neutral u) (h : Envelope.bestText envelope = p ++ (opening :: (u ++ [closing])) ++ s)
    (depth : Nat) : ofEnvelope envelope depth = parse (opening :: (u ++ [closing])) depth := by
  have hp' : opening ∉ p.dropWhile isBlank := fun hmem =>
    hp ((List.dropWhile_sublist isBlank).subset hmem)
  have htrim := Text.trim_surrounded (p := isBlank) (a := opening) (b := closing)
    (by decide) (by decide) p u s
  have hfirst := firstObject?_surrounded hp' hu (Text.trimEnd isBlank s)
  rw [ofEnvelope, h, htrim]
  split
  · next hnil => simp at hnil
  · rw [hfirst]

theorem bestText_of_response {fields : List (Text × Json)} {t : Text}
    (h : fields.lookup (lit "response") = some (.string t)) :
    Envelope.bestText (.object fields) = t := by
  have hkeyed : Envelope.keyedText? (.object fields) = some t := by
    simp [Envelope.keyedText?, Envelope.textKeys, Json.field?, h, Json.string?]
  simp [Envelope.bestText, hkeyed]

/-- **The text of an object is cut out whole.** Around the text `o` of an object, a prefix without
an opening brace and any suffix change neither what is cut out nor what is read, whether the
envelope is the whole text or has it as its response. The levels with which `o` is known to be an
object need not be those with which the envelope is read. -/
theorem ofEnvelope_surrounded {depth : Nat} {o p : Text} {entries : List (Text × Json)}
    (ho : Json.decode o depth = .ok (.object entries)) (hopen : o.head? = some opening)
    (hclose : o.getLast? = some closing) (hp : opening ∉ p) (s : Text) (depth' : Nat) :
    firstObject? (p ++ o ++ s) = some o ∧
      ofEnvelope (.string (p ++ o ++ s)) depth' = parse o depth' ∧
      ∀ fields, fields.lookup (lit "response") = some (.string (p ++ o ++ s)) →
        ofEnvelope (.object fields) depth' = parse o depth' := by
  obtain ⟨u, rfl, hu⟩ := Json.exists_braced_of_decode ho hopen hclose
  refine ⟨firstObject?_surrounded hp hu s, ofEnvelope_of_bestText hp hu rfl depth', ?_⟩
  intro fields hfields
  exact ofEnvelope_of_bestText hp hu (bestText_of_response hfields) depth'

/-- An apostrophe and a brace inside a literal, words in front and another object behind. -/
theorem ofEnvelope_surrounded_apostrophe :
    Json.decode (lit "\x7b\"title\": \"it's \x7d\"\x7d") 1 =
        .ok (.object [(lit "title", .string (lit "it's \x7d"))]) ∧
      firstObject? (lit "It's: " ++ lit "\x7b\"title\": \"it's \x7d\"\x7d" ++ lit " or \x7b\x7d") =
        some (lit "\x7b\"title\": \"it's \x7d\"\x7d") ∧
      ∀ depth', ofEnvelope (.string (lit "It's: " ++ lit "\x7b\"title\": \"it's \x7d\"\x7d" ++
          lit " or \x7b\x7d")) depth' = parse (lit "\x7b\"title\": \"it's \x7d\"\x7d") depth' := by
  have ho : Json.decode (lit "\x7b\"title\": \"it's \x7d\"\x7d") 1 =
      .ok (.object [(lit "title", .string (lit "it's \x7d"))]) := by cbv
  have hsurrounded := ofEnvelope_surrounded (p := lit "It's: ") ho (by decide) (by cbv) (by decide)
    (lit " or \x7b\x7d")
  exact ⟨ho, (hsurrounded 0).1, fun depth' => (hsurrounded depth').2.1⟩

end FilmQuery.Intent
