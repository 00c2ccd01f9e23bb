import LanguageClient.Url.Address

/-!
# URLs

A URL names a document. It consists of a scheme, maybe a host, a path, and maybe a query and a
fragment. `Url.toText` writes it in its one form; every part is kept as it is written there.
-/

namespace LanguageClient

/-- The host that a URL names. -/
inductive Host
  /-- A name, which may be empty. -/
  | name (t : Text)
  | address32 (address : Nat)
  | address128 (groups : List Nat)
  deriving DecidableEq, Repr

/-- Where a document is to be found: the host, with the user in front of it and the number of a
service behind it. -/
structure Authority where
  credentials : Text := []
  host : Host
  service : Option Nat := none
  deriving DecidableEq, Repr

/-- The path of a URL: steps down from a root, or a text of which nothing else is known. -/
inductive UrlPath
  | plain (t : Text)
  | segments (list : List Text)
  deriving DecidableEq, Repr

/-- A URL. -/
structure Url where
  scheme : Text
  authority : Option Authority := none
  path : UrlPath
  query : Option Text := none
  fragment : Option Text := none
  deriving DecidableEq, Repr

namespace Host

/-- A host as it is written. -/
def toText : Host → Text
  | name t => t
  | address32 address => Url.writeAddress32 address
  | address128 groups => ['['] ++ Url.writeAddress128 groups ++ [']']

end Host

namespace Authority

/-- An authority as it is written. -/
def toText (a : Authority) : Text :=
  (if a.credentials.isEmpty then [] else a.credentials ++ ['@']) ++ a.host.toText ++
    match a.service with
    | some service => ':' :: Nat.toDigits 10 service
    | none => []

end Authority

namespace UrlPath

/-- A path as it is written: a slash stands in front of each segment. -/
def toText : UrlPath → Text
  | plain t => t
  | segments list => list.flatMap ('/' :: ·)

end UrlPath

namespace Url

/-- What stands between the scheme and the path. Without an authority, a path must not begin like
one. -/
def beforePath (u : Url) : Text :=
  match u.authority with
  | some authority => ['/', '/'] ++ authority.toText
  | none =>
    match u.path with
    | .segments ([] :: _ :: _) => ['/', '.']
    | _ => []

/-- A part behind a mark, if it is there. -/
def marked (mark : Char) : Option Text → Text
  | some t => mark :: t
  | none => []

/-- A URL as it is written. -/
def toText (u : Url) : Text :=
  u.scheme ++ [':'] ++ u.beforePath ++ u.path.toText ++ marked '?' u.query ++ marked '#' u.fragment

end Url

end LanguageClient
