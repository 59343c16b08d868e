import HostAgent.Json.Numeral
import HostAgent.Text.Hex

/-!
# Tokens of JSON

A JSON text is cut into tokens character by character.  `Scan` is what the scanner knows between
two characters and `Scan.step?` what one character does to it, so a scan of `a ++ b` is a scan of
`a` continued by a scan of `b`.

The body of a text is only checked for the shape of its escapes; whether they stand for
characters is decided by whoever wants to know the text.
-/

namespace HostAgent.Json

/-- A token.  The body of a text is kept as it is written. -/
inductive Token where
  | openRecord
  | closeRecord
  | openList
  | closeList
  | colon
  | comma
  | null
  | bool (b : Bool)
  | number (n : Numeral)
  | text (body : List Char)
  deriving DecidableEq, Repr

/-- White space of JSON. -/
def isSpace (c : Char) : Bool :=
  c == ' ' || c == '\n' || c == '\r' || c == '\t'

/-- The characters of numbers and words. -/
def isLexemeChar (c : Char) : Bool :=
  c.isAlphanum || c == '-' || c == '+' || c == '.'

/-- A number or one of the three words. -/
def Token.ofLexeme? (cs : List Char) : Option Token :=
  if cs = ['n', 'u', 'l', 'l'] then some .null
  else if cs = ['t', 'r', 'u', 'e'] then some (.bool true)
  else if cs = ['f', 'a', 'l', 's', 'e'] then some (.bool false)
  else (Numeral.ofLexeme? cs).map .number

/-- A token of a single character. -/
def Token.ofMark? (c : Char) : Option Token :=
  match c with
  | '{' => some .openRecord
  | '}' => some .closeRecord
  | '[' => some .openList
  | ']' => some .closeList
  | ':' => some .colon
  | ',' => some .comma
  | _ => none

namespace Token

/-- What the scanner is in the middle of; characters of the current token come last first. -/
inductive Inside where
  | nothing
  | lexeme (seen : List Char)
  | text (seen : List Char)
  | escape (seen : List Char)
  | digits (left : Nat) (seen : List Char)
  deriving DecidableEq, Repr

/-- The tokens so far, last first, and the token in progress. -/
structure Scan where
  done : List Token := []
  inside : Inside := .nothing
  deriving DecidableEq, Repr

namespace Scan

/-- A character outside of any token. -/
def start? (done : List Token) (c : Char) : Option Scan :=
  if isSpace c then some ⟨done, .nothing⟩
  else if c = '"' then some ⟨done, .text []⟩
  else if isLexemeChar c then some ⟨done, .lexeme [c]⟩
  else (ofMark? c).map fun t => ⟨t :: done, .nothing⟩

/-- The letters that may follow a backslash, apart from `u`. -/
def isEscapeLetter (c : Char) : Bool :=
  c == '"' || c == '\\' || c == '/' || c == 'b' || c == 'f' || c == 'n' || c == 'r' || c == 't'

/-- What one character does. -/
def step? (s : Scan) (c : Char) : Option Scan :=
  match s.inside with
  | .nothing => start? s.done c
  | .lexeme seen =>
    if isLexemeChar c then some ⟨s.done, .lexeme (c :: seen)⟩
    else do
      let t ← ofLexeme? seen.reverse
      start? (t :: s.done) c
  | .text seen =>
    if c = '"' then some ⟨.text seen.reverse :: s.done, .nothing⟩
    else if c = '\\' then some ⟨s.done, .escape (c :: seen)⟩
    else if c.val < 0x20 then none
    else some ⟨s.done, .text (c :: seen)⟩
  | .escape seen =>
    if c = 'u' then some ⟨s.done, .digits 3 (c :: seen)⟩
    else if isEscapeLetter c then some ⟨s.done, .text (c :: seen)⟩
    else none
  | .digits left seen =>
    if (Text.Hex.value? c).isNone then none
    else match left with
      | 0 => some ⟨s.done, .text (c :: seen)⟩
      | k + 1 => some ⟨s.done, .digits k (c :: seen)⟩

/-- All tokens, first first, unless one is unfinished. -/
def finish? (s : Scan) : Option (List Token) :=
  match s.inside with
  | .nothing => some s.done.reverse
  | .lexeme seen => (ofLexeme? seen.reverse).map fun t => (t :: s.done).reverse
  | _ => none

end Scan

/-- The tokens of a text. -/
def scan? (cs : List Char) : Option (List Token) := do
  let s ← cs.foldlM Scan.step? {}
  s.finish?

end Token

end HostAgent.Json
