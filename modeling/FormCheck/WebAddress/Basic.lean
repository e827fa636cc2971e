import FormCheck.WebAddress.Host

/-!
# Web addresses

An absolute web address starts with a scheme and a colon. After two slashes follows an authority:
possibly a user before an at sign, a host, and possibly a port. The schemes of the web always have
an authority, whatever the number of slashes and in whichever direction they lean, and it must have
a host. A file address may have a host. In any other scheme the authority is optional, and so is
its host as long as nothing else depends on it. The rest of an address may be anything.

Blanks and controls around an address do not count, and neither do tabs and line breaks in it.

## Main definitions

* `WebAddress.isValid` : whether a text is an absolute web address.
-/

namespace FormCheck.WebAddress

/-- The kinds of schemes. -/
inductive SchemeKind where
  /-- The schemes of the web, which always have a host. -/
  | web
  /-- The scheme of local files. -/
  | file
  /-- Any other scheme. -/
  | other
  deriving DecidableEq, Repr

/-- The kind of the scheme with the given name in lower case. -/
def SchemeKind.ofName (name : String) : SchemeKind :=
  if ["http", "https", "ws", "wss", "ftp"].contains name then .web
  else if name = "file" then .file
  else .other

/-- The text without controls and spaces at its ends and without tabs and line breaks. -/
def cleaned (s : List Char) : List Char :=
  let isOuter (c : Char) : Bool := c.toNat ≤ 0x20
  let inner := ((s.dropWhile isOuter).reverse.dropWhile isOuter).reverse
  inner.filter fun c => c != '\t' && c != '\n' && c != '\r'

/-- Reads a scheme, which starts with a letter and ends in a colon. Gives its name in lower case and
the rest of the text. -/
def readScheme (s : List Char) : Option (String × List Char) :=
  let name := s.takeWhile fun c => c.isAlphanum || c == '+' || c == '-' || c == '.'
  match name, s.drop name.length with
  | first :: _, ':' :: rest =>
    if first.isAlpha then some (String.ofList (name.map Char.toLower), rest) else none
  | _, _ => none

/-- Whether a character ends the authority of an address. -/
def endsAuthority (kind : SchemeKind) (c : Char) : Bool :=
  c == '/' || c == '?' || c == '#' || (c == '\\' && kind != .other)

/-- Divides the text after the slashes into the user, if there is an at sign, and the rest. Of
several at signs in the authority the last one counts. -/
def splitUser (kind : SchemeKind) (s : List Char) : Option (List Char) × List Char :=
  let authority := s.takeWhile fun c => !endsAuthority kind c
  match authority.reverse.dropWhile (· ≠ '@') with
  | [] => (none, s)
  | _ :: user => (some user.reverse, s.drop (user.length + 1))

/-- The host at the start of a text: up to a colon outside brackets or the end of the authority. -/
def takeHost (kind : SchemeKind) : (inBrackets : Bool) → List Char → List Char
  | _, [] => []
  | inBrackets, c :: rest =>
    if endsAuthority kind c || (c == ':' && !inBrackets) then []
    else c :: takeHost kind (if c = '[' then true else if c = ']' then false else inBrackets) rest

/-- Whether a text starts with a port, possibly an empty one, and then ends or goes on with a
path, a query or a fragment. -/
def portFits (s : List Char) : Bool :=
  let digits := s.takeWhile Char.isDigit
  let after := (s.drop digits.length).head?
  Decimal.natOf digits < 65536 &&
    (after.isNone || after == some '/' || after == some '\\' || after == some '?' ||
      after == some '#')

/-- Whether a text starts with the authority of an address that is not a file address. A user
counts as present if it is more than a lone colon. -/
def authorityFits (kind : SchemeKind) (s : List Char) : Bool :=
  let (user, rest) := splitUser kind s
  let userFits := match user with
    | some [] => !(rest.head?.any (endsAuthority kind))
    | _ => true
  let hasUser := match user with
    | none | some [] | some [':'] => false
    | _ => true
  let host := takeHost kind false rest
  let after := rest.drop host.length
  let hostFits :=
    if host.isEmpty then kind == .other && after.head? != some ':' && !hasUser
    else if kind == .other then Host.isOpaque host
    else Host.isNamed host
  userFits && hostFits &&
    match after with
    | ':' :: port => portFits port
    | _ => true

/-- Whether a text is a letter followed by a colon or a bar, which names a drive. -/
def isDrive : List Char → Bool
  | [letter, mark] => letter.isAlpha && (mark == ':' || mark == '|')
  | _ => false

/-- Whether the part of a file address after its scheme is admissible: what follows two slashes has
to be a host, a drive or nothing. -/
def fileFits : List Char → Bool
  | a :: b :: rest =>
    let isSlash (c : Char) : Bool := c == '/' || c == '\\'
    if isSlash a && isSlash b then
      let host := rest.takeWhile fun c => !endsAuthority .file c
      host.isEmpty || isDrive host || Host.isNamed host
    else true
  | _ => true

/-- Whether a text is an absolute web address. -/
def isValid (s : List Char) : Bool :=
  match readScheme (cleaned s) with
  | none => false
  | some (name, rest) =>
    match SchemeKind.ofName name with
    | .file => fileFits rest
    | .web => authorityFits .web (rest.dropWhile fun c => c == '/' || c == '\\')
    | .other =>
      match rest with
      | '/' :: '/' :: rest => authorityFits .other rest
      | _ => true

end FormCheck.WebAddress
