import FilmQuery.Bytes.Utf8
import FilmQuery.Json.Decode

/-!
# Bytes of a JSON document

A JSON document may be in UTF-8, UTF-16 or UTF-32. A byte order mark tells which; without one the
zero bytes among the first four do, since a document begins with two ASCII characters. Lone
surrogates are admitted in all three.
-/

namespace FilmQuery

inductive ByteOrder where
  | big
  | little
  deriving DecidableEq, Repr

inductive Encoding where
  | utf8
  | utf16 (order : ByteOrder)
  | utf32 (order : ByteOrder)
  deriving DecidableEq, Repr

namespace Encoding

/-- The encoding of a document and the bytes after its byte order mark. -/
def detect (bs : Bytes) : Encoding × Bytes :=
  match bs with
  | 0x00 :: 0x00 :: 0xFE :: 0xFF :: rest => (.utf32 .big, rest)
  | 0xFF :: 0xFE :: 0x00 :: 0x00 :: rest => (.utf32 .little, rest)
  | 0xFE :: 0xFF :: rest => (.utf16 .big, rest)
  | 0xFF :: 0xFE :: rest => (.utf16 .little, rest)
  | 0xEF :: 0xBB :: 0xBF :: rest => (.utf8, rest)
  | a :: b :: c :: d :: _ =>
    if a = 0 then (if b = 0 then .utf32 .big else .utf16 .big, bs)
    else if b = 0 then (if c = 0 ∧ d = 0 then .utf32 .little else .utf16 .little, bs)
    else (.utf8, bs)
  | [a, b] =>
    if a = 0 then (.utf16 .big, bs) else if b = 0 then (.utf16 .little, bs) else (.utf8, bs)
  | _ => (.utf8, bs)

/-- A number of two bytes. -/
def pair (order : ByteOrder) (a b : UInt8) : Nat :=
  match order with
  | .big => a.toNat * 0x100 + b.toNat
  | .little => b.toNat * 0x100 + a.toNat

/-- The units of UTF-16 text; a byte left over at the end makes it ill-formed. -/
def units? (order : ByteOrder) : Bytes → Option (List Nat)
  | [] => some []
  | [_] => none
  | a :: b :: rest => (units? order rest).map (pair order a b :: ·)

/-- The code points of UTF-16 units. A surrogate without its partner stays as it is. -/
def joinUnits : List Nat → Text
  | [] => []
  | [u] => [u]
  | u :: v :: rest =>
    if Json.isHighSurrogate u && Json.isLowSurrogate v then
      Json.joinSurrogates u v :: joinUnits rest
    else u :: joinUnits (v :: rest)

/-- The code points of UTF-32 text. -/
def wide? (order : ByteOrder) : Bytes → Option Text
  | [] => some []
  | a :: b :: c :: d :: rest =>
    let n :=
      match order with
      | .big => pair .big a b * 0x10000 + pair .big c d
      | .little => pair .little c d * 0x10000 + pair .little a b
    if n < 0x110000 then (wide? order rest).map (n :: ·) else none
  | _ => none

/-- The text of bytes in an encoding, if they are well-formed. -/
def decode? (e : Encoding) (bs : Bytes) : Option Text :=
  match e with
  | utf8 => Utf8.decode? bs
  | utf16 order => (units? order bs).map joinUnits
  | utf32 order => wide? order bs

end Encoding

/-- Why bytes are no JSON document. -/
inductive DocumentError where
  | illFormed
  | digits (limit : DigitLimit)
  | tooDeep
  deriving DecidableEq, Repr

/-- The value of a JSON document in any of the three encodings. -/
def Json.ofBytes (bs : Bytes) (depth : Nat) : Except DocumentError Json :=
  let (encoding, rest) := Encoding.detect bs
  match encoding.decode? rest with
  | none => .error .illFormed
  | some t =>
    match Json.decode t depth with
    | .ok j => .ok j
    | .error (.malformed ..) => .error .illFormed
    | .error (.digits limit) => .error (.digits limit)
    | .error .tooDeep => .error .tooDeep

end FilmQuery
