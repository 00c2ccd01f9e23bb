import LanguageClient.Url.Basic
import LanguageClient.Url.Domain
import LanguageClient.Url.Path

/-!
# Reading URLs

`Url.parse?` reads a URL as a browser does: it repairs what it can and brings the URL to its one
form. There is no URL without a scheme. How the rest is read depends on the scheme: files need no
host, the schemes of the web have one whatever number of slashes stands in front of it, and of
others only those with a slash behind the scheme have a path with segments.
-/

namespace LanguageClient.Url

/-- How URLs of a scheme are read. -/
def SchemeKind.ofScheme (scheme : Text) : SchemeKind :=
  if scheme = "file".toList then .file
  else if ["http", "https", "ws", "wss", "ftp"].contains (String.ofList scheme) then .web
  else .other

/-- The number of the service that a scheme stands for unless another one is given. -/
def usualService? (scheme : Text) : Option Nat :=
  match String.ofList scheme with
  | "http" | "ws" => some 80
  | "https" | "wss" => some 443
  | "ftp" => some 21
  | _ => none

/-- A text without blanks and controls at its ends, and without line breaks and tabs. -/
def cleaned (t : Text) : Text :=
  let isBlank (c : Char) := decide (c ≤ ' ')
  let inner := ((t.dropWhile isBlank).reverse.dropWhile isBlank).reverse
  inner.filter fun c => c != '\t' && c != '\n' && c != '\r'

/-- Reads a scheme and the colon behind it. Returns what follows. -/
def scheme? (t : Text) : Option (Text × Text) :=
  let scheme := t.takeWhile (· != ':')
  if scheme.length < t.length && scheme.head?.any (·.isAlpha) &&
      scheme.all fun c => c.isAlphanum || c == '+' || c == '-' || c == '.' then
    some (scheme.map (·.toLower), t.drop (scheme.length + 1))
  else none

/-- Whether a character ends an authority. -/
def SchemeKind.endsAuthority (kind : SchemeKind) (c : Char) : Bool :=
  c == '?' || c == '#' || kind.isSlash c

/-- A user and a password as they are written. An empty password is left out. -/
def writtenCredentials (t : Text) : Text :=
  let user := t.takeWhile (· != ':')
  let password := t.drop (user.length + 1)
  Part.credentials.encode user ++
    (if password.isEmpty then [] else ':' :: Part.credentials.encode password)

/-- Reads the user in front of a host, up to the last at sign. Returns what follows. -/
def credentials? (kind : SchemeKind) (t : Text) : Option (Text × Text) :=
  let authority := t.takeWhile fun c => !kind.endsAuthority c
  let host := (authority.reverse.takeWhile (· != '@')).reverse
  if host.length = authority.length then some ([], t)
  else
    let front := (authority.take (authority.length - host.length)).dropLast
    let rest := t.drop (authority.length - host.length)
    if front.isEmpty && rest.head?.any kind.endsAuthority then none
    else some (writtenCredentials front, rest)

/-- Cuts off a host. A colon ends it, unless it stands in brackets. -/
def hostText (kind : SchemeKind) (isInBrackets : Bool) : Text → Text × Text
  | [] => ([], [])
  | c :: rest =>
    if kind.endsAuthority c || (c == ':' && !isInBrackets) then ([], c :: rest)
    else
      let (host, rest) := hostText kind (c == '[' || (isInBrackets && c != ']')) rest
      (c :: host, rest)

/-- Reads an address in brackets, behind the first one. -/
def bracketed? (t : Text) : Option Host :=
  if t.getLast? = some ']' then (address128? t.dropLast).map .address128 else none

/-- Reads the host of a file or of a URL of the web. -/
def host? : Text → Option Host
  | '[' :: rest => bracketed? rest
  | t => do
    let name ← domain? t
    if endsInNumber name then return .address32 (← address32? name) else return .name name

/-- Reads a host of which nothing else is known. -/
def otherHost? : Text → Option Host
  | '[' :: rest => bracketed? rest
  | t =>
    if t.any fun c => c == '\x00' || " #/:<>?@[\\]^|".contains c then none
    else some (.name (Part.plain.encode t))

/-- Reads the number of a service, if there is one. Returns what follows. -/
def service? (usual : Option Nat) : Text → Option (Option Nat × Text)
  | ':' :: t => do
    let digits := t.takeWhile (·.isDigit)
    let rest := t.drop digits.length
    guard (rest.head?.all fun c => c == '/' || c == '\\' || c == '?' || c == '#')
    let service ← numberOf? 10 digits
    guard (service < UInt16.size)
    return (if digits.isEmpty || some service == usual then none else some service, rest)
  | t => some (none, t)

/-- Reads an authority. Returns what follows. A user or a service needs a host. -/
def authority? (kind : SchemeKind) (usualService : Option Nat) (t : Text) :
    Option (Authority × Text) := do
  let (credentials, t) ← credentials? kind t
  let (text, rest) := hostText kind false t
  let host ← if kind = .other then otherHost? text else host? text
  guard (!text.isEmpty || (credentials.isEmpty && rest.head? != some ':'))
  let (service, rest) ← service? usualService rest
  return (⟨credentials, host, service⟩, rest)

/-- Cuts off a path, which ends in front of a query or a fragment. -/
def pathText (t : Text) : Text × Text := t.span fun c => c != '?' && c != '#'

/-- The text without one slash in front. -/
def withoutSlash (kind : SchemeKind) : Text → Text
  | [] => []
  | c :: rest => if kind.isSlash c then rest else c :: rest

/-- Puts the query and the fragment behind a path. -/
def withQuery (kind : SchemeKind) (u : Url) (t : Text) : Url :=
  let queryPart := if kind = .other then Part.query else Part.webQuery
  let (query, rest) := t.span (· != '#')
  { u with
    query := if query.isEmpty then none else some (queryPart.encode (query.drop 1))
    fragment := if rest.isEmpty then none else some (Part.fragment.encode (rest.drop 1)) }

/-- Reads the path of a URL of the web behind its host. -/
def webUrl (scheme : Text) (authority : Authority) (t : Text) : Url :=
  let (path, rest) := pathText t
  withQuery .web
    { scheme, authority := some authority
      path := .segments (readSegments .web (withoutSlash .web path)) } rest

/-- Reads the path of a URL of another scheme behind its host. There may be no path at all. -/
def otherUrl (scheme : Text) (authority : Authority) (t : Text) : Url :=
  let (path, rest) := pathText t
  let segments := if path.isEmpty then [] else readSegments .other (withoutSlash .other path)
  withQuery .other { scheme, authority := some authority, path := .segments segments } rest

/-- Reads a URL of another scheme without a host. -/
def hostlessUrl (scheme : Text) (t : Text) : Url :=
  let (path, rest) := pathText t
  let path := match path with
    | '/' :: path => .segments (readSegments .other path)
    | path => .plain (Part.plain.encode path)
  withQuery .other { scheme, path } rest

/-- Reads the path of a file. A path that begins with the letter of a drive has no host. -/
def fileUrl (host : Host) (t : Text) : Url :=
  let (path, rest) := pathText t
  let segments := readSegments .file (withoutSlash .file path)
  let host := if segments.head?.any isDrive then .name [] else host
  withQuery .file
    { scheme := "file".toList, authority := some { host }
      path := .segments (withoutLeadingEmpty segments) } rest

/-- Reads the host of a file. This machine is as good as no host. -/
def fileHost? (t : Text) : Option Host :=
  if t.isEmpty then some (.name [])
  else do
    let host ← host? t
    return if host = .name "localhost".toList then .name [] else host

/-- Reads the URL of a file behind the scheme. A host stands behind two slashes. -/
def file? (t : Text) : Option Url :=
  match t with
  | a :: b :: rest =>
    if SchemeKind.file.isSlash a && SchemeKind.file.isSlash b then
      let host := rest.takeWhile fun c => !SchemeKind.file.endsAuthority c
      if isDrive host then some (fileUrl (.name []) rest)
      else do return fileUrl (← fileHost? host) (rest.drop host.length)
    else some (fileUrl (.name []) t)
  | _ => some (fileUrl (.name []) t)

/-- Reads a URL. -/
def parse? (t : Text) : Option Url := do
  let (scheme, rest) ← scheme? (cleaned t)
  match SchemeKind.ofScheme scheme with
  | .file => file? rest
  | .web => do
    let (authority, rest) ←
      authority? .web (usualService? scheme) (rest.dropWhile SchemeKind.web.isSlash)
    return webUrl scheme authority rest
  | .other =>
    match rest with
    | '/' :: '/' :: rest => do
      let (authority, rest) ← authority? .other none rest
      return otherUrl scheme authority rest
    | rest => return hostlessUrl scheme rest

end LanguageClient.Url
