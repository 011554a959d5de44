import FilmQuery.Text.Digit

/-!
# Addresses of hosts

A host may be given by a number. Version 4 writes four octets in decimal. Version 6 writes eight
groups in hexadecimal; a gap `::` stands for one zero group or more, the last two groups may be
written as an address of version 4, and a zone may follow a percent sign. A form is kept for later
versions. No value is read off an address: what a URL needs is whether a text is one. Main
statements: an octet is the decimal form of a number below 256, and a gap is found exactly in a
text with two colons side by side.
-/

namespace FilmQuery.Address

/-- A number from 0 to 255 in decimal. -/
def isOctet (t : Text) : Bool := (List.range 256).any fun n => Text.ofNat n == t

theorem isOctet_iff {t : Text} : isOctet t = true ↔ ∃ n < 256, Text.ofNat n = t := by
  simp [isOctet]

/-- An address of version 4. -/
def isV4 (t : Text) : Bool :=
  let octets := Text.splitOn '.'.toNat t
  octets.length == 4 && octets.all isOctet

/-- A group of 16 bits: up to four hexadecimal digits. -/
def isGroup (t : Text) : Bool := !t.isEmpty && t.length ≤ 4 && t.all isHexDigit

/-- The groups of one side of a gap; none where nothing is written. -/
def groups (t : Text) : List Text := if t.isEmpty then [] else Text.splitOn ':'.toNat t

/-- Counts an address of version 4 in the last place as two groups. -/
def spread (gs : List Text) : List Text :=
  if gs.getLast?.any isV4 then gs.dropLast ++ [lit "0", lit "0"] else gs

/-- What stands on the two sides of the first gap. -/
def gap? : Text → Option (Text × Text)
  | c :: d :: t =>
    if c = ':'.toNat ∧ d = ':'.toNat then some ([], t)
    else (gap? (d :: t)).map fun (front, back) => (c :: front, back)
  | _ => none

theorem eq_of_gap? {t front back : Text} (h : gap? t = some (front, back)) :
    t = front ++ lit "::" ++ back := by
  fun_induction gap? t generalizing front with
  | case1 c d t hcd =>
    obtain ⟨rfl, rfl⟩ := hcd
    simp only [Option.some.injEq, Prod.mk.injEq] at h
    obtain ⟨rfl, rfl⟩ := h
    rfl
  | case2 c d t _ ih =>
    simp only [Option.map_eq_some_iff, Prod.mk.injEq, Prod.exists] at h
    obtain ⟨a, b, hab, rfl, rfl⟩ := h
    rw [ih hab]
    rfl
  | case3 => simp at h

/-- A gap is found exactly in a text with two colons side by side. -/
theorem gap?_eq_none_iff {t : Text} : gap? t = none ↔ ¬ lit "::" <:+: t := by
  fun_induction gap? t with
  | case1 c d t hcd =>
    obtain ⟨rfl, rfl⟩ := hcd
    simpa using ⟨[], t, rfl⟩
  | case2 c d t hcd ih =>
    have hp : ¬ lit "::" <+: c :: d :: t := by
      rintro ⟨r, hr⟩
      cases hr
      exact hcd ⟨rfl, rfl⟩
    rw [Option.map_eq_none_iff, ih, @List.infix_cons_iff _ _ c, or_iff_right hp]
  | case3 t ht =>
    refine iff_of_true rfl fun hi => ?_
    have hlen : 2 ≤ t.length := hi.length_le
    match t, ht with
    | c :: d :: t, ht => exact ht c d t rfl

/-- An address of version 6 without a zone. -/
def isV6 (t : Text) : Bool :=
  match gap? t with
  | some (front, back) =>
    let gs := groups front ++ spread (groups back)
    gs.length ≤ 7 && gs.all isGroup
  | none =>
    let gs := spread (groups t)
    gs.length == 8 && gs.all isGroup

/-- An address of version 6, with or without a zone. -/
def isZonedV6 (t : Text) : Bool :=
  match Text.splitAt? '%'.toNat t with
  | none => isV6 t
  | some (address, zone) => isV6 address && !zone.isEmpty && !zone.contains '%'.toNat

/-- The form of later versions: the letter `v`, a version in hexadecimal, a point and more. -/
def isLater (t : Text) : Bool :=
  match Text.splitAt? '.'.toNat t with
  | some (c :: version, rest) =>
    c == 'v'.toNat && !version.isEmpty && version.all isHexDigit && !rest.isEmpty
  | _ => false

end FilmQuery.Address
