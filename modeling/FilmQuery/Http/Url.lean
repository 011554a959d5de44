import FilmQuery.Http.Address
import FilmQuery.Text.Blank
import FilmQuery.Text.Quoted

/-!
# URLs

A URL is taken as it may stand in running text: blanks around it, angle brackets and a leading
`URL:` are dropped, and so is an empty fragment. A URL without a scheme is refused. So is one whose
authority, the part after two slashes that names the server, has brackets around anything but an
address of version 6 or later, or holds a character that is a delimiter in another shape.
-/

namespace FilmQuery

/-- Why a URL is refused. -/
inductive UrlError where
  | noScheme (url : Text)
  | strayBracket
  | badLaterAddress
  | bracketedV4
  | notAddress (host : Text)
  | delimiterShape (authority : Text)
  deriving DecidableEq, Repr

def UrlError.message : UrlError → Text
  | noScheme url => lit "unknown url type: " ++ url.quoted
  | strayBracket => lit "Invalid IPv6 URL"
  | badLaterAddress => lit "IPvFuture address is invalid"
  | bracketedV4 => lit "An IPv4 address cannot be in brackets"
  | notAddress host => host.quoted ++ lit " does not appear to be an IPv4 or IPv6 address"
  | delimiterShape authority =>
    lit "netloc '" ++ authority ++ lit "' contains invalid characters under NFKC normalization"

namespace Url

/-- Drops what surrounds a URL in running text. -/
def unwrap (t : Text) : Text :=
  let t := Text.trim isBlank t
  let t :=
    match t with
    | c :: rest =>
      if c = '<'.toNat ∧ t.getLast? = some '>'.toNat then Text.trim isBlank rest.dropLast else t
    | [] => []
  match Text.after? (lit "URL:") t with
  | some rest => Text.trim isBlank rest
  | none => t

/-- Drops an empty fragment: a number sign at the end. -/
def dropEmptyFragment (t : Text) : Text :=
  if t.getLast? = some '#'.toNat then t.dropLast else t

/-- What comes before the fragment, which begins at the last number sign. -/
def withoutFragment (t : Text) : Text :=
  match t.reverse.dropWhile (· != '#'.toNat) with
  | [] => t
  | _ :: rest => rest.reverse

/-- Whether a URL has a scheme: a colon before any slash, with something in front of it. -/
def hasScheme (t : Text) : Bool :=
  let (scheme, rest) := (withoutFragment t).span fun c => c != '/'.toNat && c != ':'.toNat
  !scheme.isEmpty && rest.head? == some ':'.toNat

/-! ## The authority -/

/-- A scheme in plain letters, after which an authority is looked for. -/
def isPlainScheme : Text → Bool
  | [] => false
  | c :: t =>
    let isAlpha c := isUpperAscii c || isLowerAscii c
    isAlpha c && t.all fun c => isAlpha c || isAsciiDigit c || (lit "+-.").contains c

/-- The authority of a URL. Controls and spaces in front are passed over, and so are tabs and ends
of lines anywhere. -/
def authority? (url : Text) : Option Text :=
  let url := (url.dropWhile (· ≤ 0x20)).filter fun c => c != 9 && c != 10 && c != 13
  let rest :=
    match Text.splitAt? ':'.toNat url with
    | some (scheme, rest) => if isPlainScheme scheme then rest else url
    | none => url
  (Text.after? (lit "//") rest).map fun t => t.takeWhile fun c => !(lit "/?#").contains c

/-- The host and the port of an authority, without the user in front of them. -/
def server (authority : Text) : Text := (authority.reverse.takeWhile (· != '@'.toNat)).reverse

/-- The host of a server that has to be in brackets. Nothing may come before them, and only a port
after them; where none is opened, the host ends at the port. -/
def bracketedHost (server : Text) : Except UrlError Text :=
  match Text.splitAt? '['.toNat server with
  | none => .ok (server.takeWhile (· != ':'.toNat))
  | some (_ :: _, _) => .error .strayBracket
  | some ([], inner) =>
    match Text.splitAt? ']'.toNat inner with
    | none => .ok inner
    | some (host, port) =>
      if port.isEmpty || port.head? == some ':'.toNat then .ok host else .error .strayBracket

/-- Refuses a host that brackets may not enclose. -/
def checkBracketed (host : Text) : Except UrlError Unit :=
  if host.head? = some 'v'.toNat then
    if Address.isLater host then .ok () else .error .badLaterAddress
  else if Address.isV4 host then .error .bracketedV4
  else if Address.isZonedV6 host then .ok ()
  else .error (.notAddress host)

/-- Refuses brackets out of place. -/
def checkBrackets (authority : Text) : Except UrlError Unit :=
  match authority.contains '['.toNat, authority.contains ']'.toNat with
  | false, false => .ok ()
  | true, true => do checkBracketed (← bracketedHost (server authority))
  | _, _ => .error .strayBracket

/-- Characters that stand for a text with a delimiter of a URL in it: a slash, a question mark, a
number sign, an at sign or a colon (compatibility decompositions of Unicode 14). -/
def delimiterShapes : List CodePoint := [
  0x2047, 0x2048, 0x2049, 0x2100, 0x2101, 0x2105, 0x2106, 0x2A74, 0xFE13, 0xFE16, 0xFE55, 0xFE56,
  0xFE5F, 0xFE6B, 0xFF03, 0xFF0F, 0xFF1A, 0xFF1F, 0xFF20
]

/-- Refuses an authority in which no server can be told for certain. -/
def checkAuthority (authority : Text) : Except UrlError Unit := do
  checkBrackets authority
  if authority.any delimiterShapes.contains then .error (.delimiterShape authority)

/-- The URL that a request is sent to, or why there is none. Blanks inside, the port and the labels
of the host are not looked at: sending would fail for these, and not before. -/
def resolve (t : Text) : Except UrlError Text := do
  let url := dropEmptyFragment (unwrap t)
  if hasScheme (unwrap t) then
    (authority? url).forM checkAuthority
    return url
  else .error (.noScheme url)

end Url

end FilmQuery
