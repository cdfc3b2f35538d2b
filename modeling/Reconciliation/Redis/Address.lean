import Reconciliation.Redis.Host
import Reconciliation.Text.Bytes

/-!
# Addresses of a key-value server

An address begins with a scheme and a colon. The scheme `redis` names a server over the
network, by its host, perhaps a service number, and the number of a database as its path;
credentials may precede the host. The schemes `unix` and `redis+unix` name a socket by its
path, with the database as a parameter. Encrypted connections are not supported. `accepts`
says which texts are addresses; whether a server can be reached there is another matter.
-/

namespace Reconciliation.Redis.Address

open Text

/-- A text split at the first of some characters, which stays with the second part. -/
def splitAtAny (stops : List Char) (s : List Char) : List Char × List Char :=
  s.span fun c => !stops.contains c

/-- A text without the control characters and spaces at its ends, and without any tabs and line
breaks. -/
def stripped (s : List Char) : List Char :=
  let hidden (c : Char) : Bool := c.toNat ≤ 0x20
  (((s.dropWhile hidden).reverse.dropWhile hidden).reverse).filter fun c =>
    !(c == '\t' || c == '\n' || c == '\r')

/-- The server that an address names between two slashes and the path. -/
structure Server where
  /-- A name, and a password after a colon; empty if there is neither. -/
  credentials : List Char
  /-- The host; empty if none is named. -/
  host : List Char
deriving Repr

/-- The parts of an address. -/
structure Parts where
  scheme : List Char
  /-- The server, if there are two slashes. -/
  server : Option Server
  path : List Char
  query : List Char
deriving Repr

/-- Splits off what stands before the last `@`. A colon alone is as good as nothing, but nothing
at all needs a host to follow. -/
def credentials? (s : List Char) : Option (List Char × List Char) :=
  let place := (s.reverse.takeWhile (· != '@')).reverse
  let before := (s.take (s.length - place.length)).dropLast
  if place.isEmpty ∧ !s.isEmpty ∧ before ≠ [':'] then none
  else some (if before = [':'] then [] else before, place)

/-- Reads a server, and what stands behind its service number. The number takes at most 16 bits and
may be missing, also behind its colon; then a backslash may begin the path. -/
def server? (s : List Char) : Option (Server × List Char) := do
  let (credentials, place) ← credentials? s
  let (host, service) := Host.splitAtColon false place
  let (number, rest) := (service.drop 1).span isDigit
  let sound := Host.isHost host && !(host.isEmpty && !service.isEmpty) &&
    decide (digitsValue 0 number ≤ 65535) && (rest.isEmpty || rest.head? == some '\\')
  if sound then some (⟨credentials, host⟩, if rest.isEmpty then [] else '/' :: rest) else none

/-- The parts of a text that begins with a scheme. -/
def parts? (s : List Char) : Option Parts :=
  match splitAtAny [':'] s with
  | (scheme, ':' :: rest) =>
    let (rest, _) := splitAtAny ['#'] rest
    let (place, query) := splitAtAny ['?'] rest
    let scheme := scheme.map Char.toLower
    match place with
    | '/' :: '/' :: place =>
      let (authority, path) := splitAtAny ['/'] place
      (server? authority).map fun (server, front) =>
        ⟨scheme, some server, front ++ path, query.drop 1⟩
    | _ => some ⟨scheme, none, place, query.drop 1⟩
  | _ => none

/-- Whether a segment of a path is the letter of a drive, which no other segment can remove. -/
def isDrive : List Char → Bool
  | c :: mark :: r =>
    c.isAlpha && (mark == ':' || mark == '|') && (r.isEmpty || r.head? == some '\\')
  | _ => false

/-- Appends a segment to a path, which is held last segment first: one dot stays where it is, two
dots go one segment back. -/
def follow (path : List (List Char)) (segment : List Char) : List (List Char) :=
  match plainDots segment with
  | ['.'] => path
  | ['.', '.'] => if path.head?.any isDrive then path else path.tail
  | _ => segment :: path

/-- A path without dots, and without the slashes at its ends. -/
def bare (path : List Char) : List Char :=
  let segments := ((path.drop 1).splitOnP (· == '/')).foldl follow []
  let whole := List.intercalate ['/'] segments.reverse
  ((whole.dropWhile (· == '/')).reverse.dropWhile (· == '/')).reverse

/-- Whether a text is the number of a database. -/
def isDatabase (s : List Char) : Bool :=
  (readInteger 9223372036854775808 9223372036854775807 s).isOk

/-- Whether name and password are texts once their escapes are read. -/
def areTexts (credentials : List Char) : Bool :=
  let (name, password) := splitAtAny [':'] credentials
  spellsText name && spellsText (password.drop 1)

/-- A name or value of a query, with `+` for a space, as its bytes. -/
def queryBytes (s : List Char) : List UInt8 :=
  percentBytes (s.map fun c => if c = '+' then ' ' else c)

/-- The bytes of the last parameter `db` of a query, if there is one. -/
def databaseParam? (query : List Char) : Option (List UInt8) :=
  let params := (query.splitOnP (· == '&')).map (splitAtAny ['='])
  (params.reverse.find? fun p => queryBytes p.1 == percentBytes ['d', 'b']).map fun p =>
    queryBytes (p.2.drop 1)

/-- Whether a text is an address. -/
def accepts (text : String) : Bool :=
  match parts? (stripped text.toList) with
  | none => false
  | some p =>
    if p.scheme = "redis".toList then
      p.server.any fun s =>
        !s.host.isEmpty && areTexts s.credentials &&
          ((bare p.path).isEmpty || isDatabase (bare p.path))
    else if p.scheme = "unix".toList ∨ p.scheme = "redis+unix".toList then
      p.path.head? == some '/' &&
        (p.server.all fun s => s.host.isEmpty || s.host == "localhost".toList) &&
        (databaseParam? p.query).all fun bytes =>
          isDatabase (bytes.map fun b => Char.ofNat b.toNat)
    else false

end Reconciliation.Redis.Address
