import FilmQuery.Text.Basic

/-!
# UTF-8

A character takes one to four bytes. A lead byte fixes how many follow and in which range the first
of them lies, which excludes overlong forms, surrogates and numbers beyond U+10FFFF. Decoding with
replacement puts U+FFFD for each maximal run of bytes that begins a character and goes no further.
-/

namespace FilmQuery

abbrev Bytes := List UInt8

namespace Utf8

/-- The bytes of one scalar value. -/
def encodePoint (c : CodePoint) : Bytes :=
  if c < 0x80 then [c.toUInt8]
  else if c < 0x800 then [(0xC0 + c / 0x40).toUInt8, (0x80 + c % 0x40).toUInt8]
  else if c < 0x10000 then
    [(0xE0 + c / 0x1000).toUInt8, (0x80 + c / 0x40 % 0x40).toUInt8, (0x80 + c % 0x40).toUInt8]
  else
    [(0xF0 + c / 0x40000).toUInt8, (0x80 + c / 0x1000 % 0x40).toUInt8,
      (0x80 + c / 0x40 % 0x40).toUInt8, (0x80 + c % 0x40).toUInt8]

def encode (t : Text) : Bytes := t.flatMap encodePoint

/-- What a lead byte announces: the bits it carries, how many bytes follow, and the range of the
first of them. -/
structure Lead where
  bits : Nat
  follow : Nat
  low : Nat
  high : Nat

/-- A lead byte of two, three or four bytes. `surrogates` admits the three bytes of a surrogate. -/
def lead? (surrogates : Bool) (b : Nat) : Option Lead :=
  if b < 0xC2 then none
  else if b < 0xE0 then some ⟨b - 0xC0, 1, 0x80, 0xBF⟩
  else if b = 0xE0 then some ⟨0, 2, 0xA0, 0xBF⟩
  else if b = 0xED ∧ ¬surrogates then some ⟨0xD, 2, 0x80, 0x9F⟩
  else if b < 0xF0 then some ⟨b - 0xE0, 2, 0x80, 0xBF⟩
  else if b = 0xF0 then some ⟨0, 3, 0x90, 0xBF⟩
  else if b < 0xF4 then some ⟨b - 0xF0, 3, 0x80, 0xBF⟩
  else if b = 0xF4 then some ⟨4, 3, 0x80, 0x8F⟩
  else none

/-- A character of which some bytes have been read. -/
inductive State where
  | start
  | inside (bits : Nat) (follow : Nat) (low : Nat) (high : Nat)

/-- What one byte does: it ends a character, begins or continues one, or fits nowhere. -/
inductive Step where
  | emit (c : CodePoint)
  | more (s : State)
  | reject

/-- One byte at the start of a character. -/
def first (surrogates : Bool) (b : Nat) : Step :=
  if b < 0x80 then .emit b
  else
    match lead? surrogates b with
    | some l => .more (.inside l.bits l.follow l.low l.high)
    | none => .reject

/-- One byte inside a character. -/
def advance (bits follow low high b : Nat) : Step :=
  if low ≤ b ∧ b ≤ high then
    let bits := bits * 0x40 + (b - 0x80)
    if follow = 1 then .emit bits else .more (.inside bits (follow - 1) 0x80 0xBF)
  else .reject

def replacement : CodePoint := 0xFFFD

/-- Decodes with a replacement for what is no character. A byte that does not continue a character
is looked at again as the start of one. -/
def decodeFrom : State → Bytes → Text
  | .start, [] => []
  | .inside .., [] => [replacement]
  | .start, b :: rest =>
    match first false b.toNat with
    | .emit c => c :: decodeFrom .start rest
    | .more s => decodeFrom s rest
    | .reject => replacement :: decodeFrom .start rest
  | .inside bits follow low high, b :: rest =>
    match advance bits follow low high b.toNat with
    | .emit c => c :: decodeFrom .start rest
    | .more s => decodeFrom s rest
    | .reject =>
      replacement ::
        match first false b.toNat with
        | .emit c => c :: decodeFrom .start rest
        | .more s => decodeFrom s rest
        | .reject => replacement :: decodeFrom .start rest

/-- The text of any bytes, with replacements. -/
def decodeLossy (bs : Bytes) : Text := decodeFrom .start bs

/-- Decodes bytes of which every one belongs to a character or a surrogate. -/
def strictFrom? : State → Bytes → Option Text
  | .start, [] => some []
  | .inside .., [] => none
  | .start, b :: rest =>
    match first true b.toNat with
    | .emit c => (strictFrom? .start rest).map (c :: ·)
    | .more s => strictFrom? s rest
    | .reject => none
  | .inside bits follow low high, b :: rest =>
    match advance bits follow low high b.toNat with
    | .emit c => (strictFrom? .start rest).map (c :: ·)
    | .more s => strictFrom? s rest
    | .reject => none

/-- The text of well-formed bytes, in which surrogates are admitted. -/
def decode? (bs : Bytes) : Option Text := strictFrom? .start bs

end Utf8

end FilmQuery
