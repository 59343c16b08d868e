import HostAgent.Unicode.Mapping
import HostAgent.Unicode.Normal
import HostAgent.Unicode.Script
import HostAgent.Url.Punycode

/-!
# Domain names

The ASCII form of a domain name: every character is mapped, the whole is brought into the composed
normal form, and each label that is not ASCII is written in punycode behind the mark `xn--`.

A label is valid if it starts with no mark, holds only characters that the mapping keeps, puts
joiners only where they matter, and, if letters that run from right to left occur anywhere in the
name, keeps to one direction.

* `ascii?` — the ASCII form, if all labels are valid and nothing in it would end a host.
-/

namespace HostAgent.Url.DomainName

open Unicode

/-- The characters of a name with each one treated; `none` if one is refused. -/
def mapChars? : List Char → Option (List Char)
  | [] => some []
  | c :: r =>
    match treatment c with
    | .keep => (mapChars? r).map (c :: ·)
    | .drop => mapChars? r
    | .replace cs => (mapChars? r).map (cs ++ ·)
    | .refuse => none

/-- The parts of a text between full stops. -/
def splitAtDots (cs : List Char) : List (List Char) :=
  cs.splitOn '.'

/-- Whether the letters around a joiner would connect without it: on one side a letter that joins
forward, on the other one that joins backward, with nothing but transparent characters between. -/
def connects (before after : List Char) : Bool :=
  let skip (cs : List Char) := cs.dropWhile fun c => joining c == .transparent
  let forward := match skip before with
    | c :: _ => joining c == .left || joining c == .both
    | [] => false
  let backward := match skip after with
    | c :: _ => joining c == .right || joining c == .both
    | [] => false
  forward && backward

/-- Whether each joiner of a label matters; what comes before is given in reverse. -/
def joinersOk : List Char → List Char → Bool
  | _, [] => true
  | before, c :: after =>
    let virama := match before with
      | d :: _ => combiningClass d == 9
      | [] => false
    (if c = '\u200c' then virama || connects before after
      else if c = '\u200d' then virama
      else true) && joinersOk (c :: before) after

/-- Whether a character makes a name one of two directions. -/
def runsLeft (c : Char) : Bool :=
  match direction c with
  | .right | .arabicLetter | .arabicNumber => true
  | _ => false

/-- Whether a label keeps to one direction. -/
def oneDirection (label : List Char) : Bool :=
  match label with
  | [] => true
  | first :: _ =>
    let last := ((label.reverse.dropWhile fun c => direction c == .nonspacing).head?).map direction
    let has (d : Direction) := label.any fun c => direction c == d
    let neutral (d : Direction) : Bool :=
      d == .europeanNumber || d == .europeanSeparator || d == .commonSeparator ||
        d == .europeanTerminator || d == .otherNeutral || d == .boundaryNeutral || d == .nonspacing
    match direction first with
    | .right | .arabicLetter =>
      (label.all fun c => neutral (direction c) || runsLeft c) &&
        (last == some .right || last == some .arabicLetter || last == some .europeanNumber ||
          last == some .arabicNumber) &&
        !(has .europeanNumber && has .arabicNumber)
    | .left =>
      (label.all fun c => neutral (direction c) || direction c == .left) &&
        (last == some .left || last == some .europeanNumber)
    | _ => false

/-- Whether a label is valid by itself. -/
def validLabel (label : List Char) : Bool :=
  (match label with
    | [] => true
    | c :: _ => !marks.contains c) &&
    (label.all fun c => treatment c == .keep) && joinersOk [] label

/-- The label that an ASCII or mapped label stands for, if it is valid by itself.  What is written
in punycode must need it, and must be in the normal form. -/
def readLabel? (label : List Char) : Option (List Char) :=
  match label with
  | 'x' :: 'n' :: '-' :: '-' :: code => do
    let decoded ← Punycode.decode? code
    if decoded.all (·.val < 0x80) || normal decoded != decoded || !validLabel decoded then none
    else some decoded
  | _ => if validLabel label then some label else none

/-- The ASCII form of a label. -/
def writeLabel (label : List Char) : List Char :=
  if label.all (·.val < 0x80) then label else ['x', 'n', '-', '-'] ++ Punycode.encode label

/-- The characters that would end a host or be taken for something else in it. -/
def forbidden (c : Char) : Bool :=
  c.val ≤ 0x20 || c.val == 0x7F || c == '#' || c == '%' || c == '/' || c == ':' || c == '<' ||
    c == '>' || c == '?' || c == '@' || c == '[' || c == '\\' || c == ']' || c == '^' || c == '|'

/-- The ASCII form of a domain name. -/
def ascii? (name : List Char) : Option (List Char) := do
  let mapped ← mapChars? name
  let labels ← (splitAtDots (normal mapped)).mapM readLabel?
  if labels.any (·.any runsLeft) && !labels.all oneDirection then none
  else
    let out := ['.'].intercalate (labels.map writeLabel)
    if out.any forbidden then none else some out

end HostAgent.Url.DomainName
