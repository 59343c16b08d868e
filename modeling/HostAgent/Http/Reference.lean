import HostAgent.Url.Parser

/-!
# References

A server that sends a client elsewhere names the place by a reference, which is read strictly:
unlike a URL it may hold no character that ought to be percent encoded.  What it leaves open is
taken from the address it was found at.

* `Reference.parse?` — the parts of a reference.
* `Reference.resolve` — the reference seen from a base.
* `Address` — a scheme, an authority, and what is asked for there.
* `Address.follow?` — the address that a reference leads to.
-/

namespace HostAgent.Http

/-- A reference in its parts, each as it is written. -/
structure Reference where
  scheme : Option (List Char) := none
  authority : Option (List Char) := none
  path : List Char := []
  query : Option (List Char) := none
  deriving DecidableEq, Repr

namespace Reference

/-! ## Characters -/

/-- Characters that stand for themselves everywhere. -/
def isPlain (c : Char) : Bool :=
  c.isAlphanum ||
    ['-', '.', '_', '~', '!', '$', '&', '\'', '(', ')', '*', '+', ',', ';', '='].contains c

/-- Whether a text holds only percent forms and characters that may stand there. -/
def allowed (may : Char → Bool) : List Char → Bool
  | '%' :: a :: b :: r => (Text.Hex.value? a).isSome && (Text.Hex.value? b).isSome && allowed may r
  | '%' :: _ => false
  | c :: r => (isPlain c || may c) && allowed may r
  | [] => true

/-- What may stand in a path beside plain characters. -/
def inPath (c : Char) : Bool :=
  c == ':' || c == '@' || c == '/'

/-- What may stand in a query or fragment beside plain characters. -/
def inQuery (c : Char) : Bool :=
  inPath c || c == '?'

/-- Whether a text is a scheme. -/
def isScheme : List Char → Bool
  | [] => false
  | c :: r => c.isAlpha && r.all fun c => c.isAlphanum || c == '+' || c == '-' || c == '.'

/-- Whether a text is a host, perhaps with a `portNumber`. -/
def isPlace (cs : List Char) : Bool :=
  let portNumber (cs : List Char) := match cs with
    | [] => true
    | ':' :: ds => ds.all Char.isDigit
    | _ => false
  match cs with
  | '[' :: r =>
    (r.takeWhile (· != ']')).all (fun c => c.isAlphanum || c == ':' || c == '.') &&
      (r.dropWhile (· != ']')).head? == some ']' && portNumber (r.dropWhile (· != ']')).tail
  | cs => allowed (fun _ => false) (cs.takeWhile (· != ':')) && portNumber (cs.dropWhile (· != ':'))

/-- Whether a text is an authority. -/
def isAuthority (cs : List Char) : Bool :=
  match Url.splitUser cs with
  | (none, place) => isPlace place
  | (some user, place) => allowed (· == ':') user && isPlace place

/-! ## Reading -/

/-- Splits off a scheme: what precedes the first colon, if the colon precedes all slashes. -/
def splitScheme (cs : List Char) : Option (List Char) × List Char :=
  let front := cs.takeWhile fun c => c != ':' && c != '/'
  match cs.drop front.length with
  | ':' :: rest => (some front, rest)
  | _ => (none, cs)

/-- Splits off an authority: what follows two slashes. -/
def splitAuthority : List Char → Option (List Char) × List Char
  | '/' :: '/' :: r => (some (r.takeWhile (· != '/')), r.dropWhile (· != '/'))
  | cs => (none, cs)

/-- Reads a reference. -/
def parse? (s : String) : Option Reference :=
  let (front, query, fragment) := Url.splitEnd s.toList
  let (scheme, rest) := splitScheme front
  let (authority, path) := splitAuthority rest
  if scheme.all isScheme && authority.all isAuthority && allowed inPath path &&
      query.all (allowed inQuery) && fragment.all (allowed inQuery) then
    some { scheme, authority, path, query }
  else none

/-! ## Resolving -/

/-- A path without dot segments. -/
def withoutDots : List Char → List Char
  | '/' :: r => (Url.resolve .web [] (Url.splitPath .web r)).flatMap ('/' :: ·)
  | cs => cs

/-- The part of a path up to its last slash. -/
def directory (path : List Char) : List Char :=
  (path.reverse.dropWhile (· != '/')).reverse

/-- The path that a relative path leads to from another. -/
def mergePaths (base path : List Char) : List Char :=
  match path with
  | '/' :: _ => withoutDots path
  | _ => withoutDots (if base.isEmpty then '/' :: path else directory base ++ path)

/-- A reference seen from a base. -/
def resolve (r base : Reference) : Reference :=
  if r.scheme.isSome then { r with path := withoutDots r.path }
  else if r.authority.isSome then { r with scheme := base.scheme, path := withoutDots r.path }
  else if r.path.isEmpty then { base with query := r.query.or base.query }
  else { base with path := mergePaths base.path r.path, query := r.query }

end Reference

/-- Where a request goes.  The target holds path and query. -/
structure Address where
  scheme : String
  authority : String
  target : String
  deriving DecidableEq, Repr

namespace Address

/-- The address of a URL. -/
def ofUrl (u : Url) : Address :=
  { scheme := u.scheme, authority := u.hostAndPortNumber, target := u.pathAndQuery }

/-- The text of an address. -/
def text (a : Address) : String :=
  a.scheme ++ "://" ++ a.authority ++ a.target

/-- The address that a reference leads to.  One without an authority leads nowhere. -/
def follow? (a : Address) (location : String) : Option Address := do
  let r ← Reference.parse? location
  let base ← Reference.parse? a.text
  let r := r.resolve base
  match r.scheme, r.authority with
  | some scheme, some (c :: cs) =>
    let path := if r.path.isEmpty then ['/'] else r.path
    let query := r.query.elim [] ('?' :: ·)
    some {
      scheme := String.ofList (scheme.map Char.toLower), authority := String.ofList (c :: cs)
      target := String.ofList (path ++ query) }
  | _, _ => none

end Address

end HostAgent.Http
