import HostAgent.Url.Basic
import HostAgent.Url.DomainName
import HostAgent.Url.Percent

/-!
# Reading URLs

A text is read as a URL the way browsers do: blanks at the ends, tabs and line breaks do not
count, back slashes are slashes where slashes matter, dot segments are resolved, hosts are brought
into their canonical form, and what may not stand somewhere is percent encoded.

* `Host.parse` — a host of a URL of the web; `Host.parsePlain` — of any other.
* `authority` — user, host and `portNumber`.
* `resolve` — the segments of a path with the dot segments resolved.
* `parse` — the whole.
-/

namespace HostAgent.Url

/-! ## Hosts -/

/-- A host between brackets. -/
def Host.parseBracketed (cs : List Char) : Except Fault Host :=
  match cs.reverse with
  | ']' :: inner => ((Ipv6.parse? inner.reverse).map Host.ipv6).elim (.error .ipv6) .ok
  | _ => .error .ipv6

/-- A host of a URL whose scheme knows domain names. -/
def Host.parse (cs : List Char) : Except Fault Host :=
  match cs with
  | '[' :: r => Host.parseBracketed r
  | _ =>
    match (String.fromUTF8? ⟨(Percent.decode cs).toArray⟩).bind (DomainName.ascii? ·.toList) with
    | none => .error .domain
    | some ascii =>
      if ascii.isEmpty then .error .emptyHost
      else if Ipv4.endsInNumber ascii then
        ((Ipv4.parse? ascii).map Host.ipv4).elim (.error .ipv4) .ok
      else .ok (.name (String.ofList ascii))

/-- What may not stand in a host that is no domain name. -/
def forbiddenInHost (c : Char) : Bool :=
  c.val == 0 || c == '\t' || c == '\n' || c == '\r' || c == ' ' || c == '#' || c == '/' ||
    c == ':' || c == '<' || c == '>' || c == '?' || c == '@' || c == '[' || c == '\\' ||
    c == ']' || c == '^' || c == '|'

/-- A host of a URL whose scheme knows nothing of domain names. -/
def Host.parsePlain (cs : List Char) : Except Fault Host :=
  match cs with
  | '[' :: r => Host.parseBracketed r
  | _ =>
    if cs.any forbiddenInHost then .error .domainCharacter
    else .ok (.name (String.ofList (Percent.encode Percent.controls cs)))

/-! ## Authorities -/

/-- Whether a character ends an authority. -/
def endsAuthority (kind : Kind) (c : Char) : Bool :=
  c == '/' || c == '?' || c == '#' || (kind != .other && c == '\\')

/-- Splits at the last at sign: what precedes it, if there is one, and what follows. -/
def splitUser (cs : List Char) : Option (List Char) × List Char :=
  let behind := (cs.reverse.takeWhile (· != '@')).reverse
  if behind.length = cs.length then (none, cs)
  else (some (cs.take (cs.length - behind.length - 1)), behind)

/-- Splits at the first colon outside of brackets. -/
def splitPortNumber : List Char → Bool → List Char × Option (List Char)
  | [], _ => ([], none)
  | c :: r, bracketed =>
    if c = ':' ∧ bracketed = false then ([], some r)
    else
      let bracketed := if c = '[' then true else if c = ']' then false else bracketed
      let (host, portNumber) := splitPortNumber r bracketed
      (c :: host, portNumber)

/-- The number that the digits of a `portNumber` write, unless it exceeds 65535. -/
def portNumber? (ds : List Char) : Option Nat :=
  ds.foldlM (fun n c =>
    let n := 10 * n + (c.toNat - 48)
    if n ≤ 65535 then some n else none) 0

/-- Reads a `portNumber` up to the end or a back slash, which belongs to the path. -/
def readPortNumber (scheme : String) (cs : List Char) : Except Fault (Option Nat × List Char) :=
  let ds := cs.takeWhile Char.isDigit
  let rest := cs.dropWhile Char.isDigit
  match portNumber? ds, rest with
  | none, _ => .error .portNumber
  | some n, rest =>
    if rest.isEmpty || rest.head? == some '\\' then
      .ok (if ds.isEmpty || defaultPortNumber? scheme == some n then none else some n, rest)
    else .error .portNumber

/-- User name and password of a URL. -/
def readUser (cs : List Char) : String × String :=
  let name := cs.takeWhile (· != ':')
  let encode (cs : List Char) := String.ofList (Percent.encode Percent.inUserInfo cs)
  (encode name, encode (cs.drop (name.length + 1)))

/-- Reads what follows two slashes: the URL so far, and where its path begins. -/
def authority (scheme : String) (kind : Kind) (cs : List Char) :
    Except Fault (Url × List Char) := do
  let part := cs.takeWhile (!endsAuthority kind ·)
  let rest := cs.dropWhile (!endsAuthority kind ·)
  let (user, place) := splitUser part
  -- an at sign with nothing around it
  if user == some [] && place.isEmpty && !rest.isEmpty then throw .emptyHost
  let (name, password) := readUser (user.getD [])
  let (host, written) := splitPortNumber place false
  if kind == .web && host.isEmpty then throw .emptyHost
  let parsed ← if kind == .other then Host.parsePlain host else Host.parse host
  if host.isEmpty && written.isSome then throw .emptyHost
  let (portNumber, left) ← match written with
    | some cs => readPortNumber scheme cs
    | none => .ok (none, [])
  if host.isEmpty && !(name.isEmpty && password.isEmpty) then throw .emptyHost
  return ({ scheme, username := name, password, host := some parsed, portNumber,
            path := .segments [] }, left ++ rest)

/-! ## Paths -/

/-- A segment that stands for its own place. -/
def isDot (s : List Char) : Bool :=
  s == ['.'] || s.map Char.toLower == ['%', '2', 'e']

/-- A segment that stands for the place above. -/
def isDotDot (s : List Char) : Bool :=
  let s := s.map Char.toLower
  s == ['.', '.'] || s == ['%', '2', 'e', '.'] || s == ['.', '%', '2', 'e'] ||
    s == ['%', '2', 'e', '%', '2', 'e']

/-- A letter that names a drive, with its colon or a bar in its place. -/
def isDrive (s : List Char) : Bool :=
  match s with
  | [c, m] => c.isAlpha && (m == ':' || m == '|')
  | _ => false

/-- A drive as it is kept: with a colon. -/
def isNormalDrive (s : List Char) : Bool :=
  match s with
  | [c, ':'] => c.isAlpha
  | _ => false

/-- The path without its last segment.  The drive of a file stays. -/
def shorten (kind : Kind) (rev : List (List Char)) : List (List Char) :=
  match rev with
  | [] => []
  | [s] => if kind == .file && isNormalDrive s then [s] else []
  | _ :: r => r

/-- Resolves dot segments; what is done comes last first. -/
def resolve (kind : Kind) : List (List Char) → List (List Char) → List (List Char)
  | rev, [] => rev.reverse
  | rev, s :: rest =>
    if isDotDot s then
      let up := shorten kind rev
      resolve kind (if rest.isEmpty then [] :: up else up) rest
    else if isDot s then resolve kind (if rest.isEmpty then [] :: rev else rev) rest
    else
      let s := if kind == .file && rev.isEmpty && isDrive s then s.take 1 ++ [':'] else s
      resolve kind (s :: rev) rest

/-- The parts of a path between its slashes. -/
def splitPath (kind : Kind) (cs : List Char) : List (List Char) :=
  (cs.splitOnP fun c => c == '/' || (kind != .other && c == '\\'))

/-- The segments of a path whose leading slash has been read. -/
def segments (kind : Kind) (cs : List Char) : List (List Char) :=
  let parts := resolve kind [] (splitPath kind cs)
  let parts := if kind == .file then
      match parts.dropWhile List.isEmpty with
      | [] => [[]]
      | ps => ps
    else parts
  parts.map (Percent.encode Percent.inPath)

/-- The path that starts here. -/
def hierarchical (kind : Kind) (cs : List Char) : Path :=
  let body := match cs with
    | '/' :: r => r
    | '\\' :: r => if kind == .other then cs else r
    | cs => cs
  if kind == .other && cs.isEmpty then .segments []
  else .segments ((segments kind body).map String.ofList)

/-! ## The whole -/

/-- The scheme and what follows its colon. -/
def scheme? (cs : List Char) : Option (String × List Char) :=
  let ok (c : Char) := c.isAlphanum || c == '+' || c == '-' || c == '.'
  match cs with
  | [] => none
  | c :: _ =>
    match cs.dropWhile ok with
    | ':' :: rest =>
      if c.isAlpha then some (String.ofList ((cs.takeWhile ok).map Char.toLower), rest) else none
    | _ => none

/-- Splits off the fragment and the query. -/
def splitEnd (cs : List Char) : List Char × Option (List Char) × Option (List Char) :=
  let front := cs.takeWhile (· != '#')
  let fragment := (cs.dropWhile (· != '#')).tail?
  let path := front.takeWhile (· != '?')
  (path, (front.dropWhile (· != '?')).tail?, fragment)

/-- A URL with its query and fragment. -/
def withEnd (kind : Kind) (u : Url) (query fragment : Option (List Char)) : Url :=
  let inQuery := if kind == .other then Percent.inQuery else Percent.inWebQuery
  { u with
    query := query.map fun q => String.ofList (Percent.encode inQuery q)
    fragment := fragment.map fun f => String.ofList (Percent.encode Percent.inFragment f) }

/-- A file.  Its host is left out if it is this one, or if the path names a drive. -/
def file (cs : List Char) : Except Fault Url := do
  let slash (c : Char) := c == '/' || c == '\\'
  match cs with
  | a :: b :: r =>
    if slash a && slash b then
      let host := r.takeWhile (!slash ·)
      let rest := r.dropWhile (!slash ·)
      if isDrive host then return here (.file) r
      else
        let parsed ← if host.isEmpty then pure (Host.name "") else Host.parse host
        let parsed := if parsed == .name "localhost" then Host.name "" else parsed
        let drive := match splitPath .file (rest.drop 1) with
          | s :: _ => isDrive s
          | [] => false
        return {
          scheme := "file", path := hierarchical .file rest
          host := some (if drive then .name "" else parsed) }
    else return here .file cs
  | cs => return here .file cs
where
  /-- A file of this host. -/
  here (kind : Kind) (cs : List Char) : Url :=
    { scheme := "file", host := some (.name ""), path := hierarchical kind cs }

/-- Reads what follows the colon of a scheme, without query and fragment. -/
def afterScheme (scheme : String) (kind : Kind) (cs : List Char) : Except Fault Url :=
  let slash (c : Char) := c == '/' || (kind != .other && c == '\\')
  match kind with
  | .web => do
    let (u, rest) ← authority scheme kind (cs.dropWhile slash)
    return { u with path := hierarchical kind rest }
  | .file => file cs
  | .other =>
    match cs with
    | '/' :: '/' :: r => do
      let (u, rest) ← authority scheme kind r
      return { u with path := hierarchical kind rest }
    | '/' :: _ => .ok { scheme, path := hierarchical kind cs }
    | _ => .ok { scheme, path := .plain (String.ofList (Percent.encode Percent.controls cs)) }

/-- The characters of a text that count. -/
def relevant (s : String) : List Char :=
  let edge (c : Char) := c.val ≤ 0x20
  let inner := ((s.toList.dropWhile edge).reverse.dropWhile edge).reverse
  inner.filter fun c => c != '\t' && c != '\n' && c != '\r'

/-- Reads a URL. -/
def parse (s : String) : Except Fault Url :=
  match scheme? (relevant s) with
  | none => .error .noBase
  | some (scheme, rest) => do
    let k := kind scheme
    let (front, query, fragment) := splitEnd rest
    let u ← afterScheme scheme k front
    return withEnd k u query fragment

end HostAgent.Url
