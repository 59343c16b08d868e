import HostAgent.Shell.Printf
import HostAgent.Shell.Syntax
import HostAgent.Text.Utf8

/-!
# Tokens

A script is cut into words, operators and redirections.  Quotes, backslashes and expansions keep
together what would be cut otherwise.

* `enclosed` — the text up to the bracket that closes.
* `pieces` — the pieces of a word, of a quotation or of a document.
* `Token.ofChars` — the tokens of a script.  A fault ends them, so that the commands before it can
  still be carried out.
-/

namespace HostAgent.Shell

/-- A token. -/
inductive Token where
  | word (w : Word)
  | operator (s : String)
  | redirect (channel : Option Nat) (operator : String)
  | fault (f : Fault)
  deriving DecidableEq, Repr, Inhabited

/-- The text up to the bracket that closes, which is left out, and what follows.  Brackets nest;
within quotes and behind backslashes they do not count. -/
def enclosed (opening closing : Char) :
    Nat → Option Char → List Char → Option (List Char × List Char)
  | _, _, [] => none
  | depth, quote, '\\' :: c :: r =>
    if quote = some '\'' then
      -- the backslash is a character like any other
      if c = '\'' then (enclosed opening closing depth none r).map fun (a, b) => ('\\' :: c :: a, b)
      else (enclosed opening closing depth quote r).map fun (a, b) => ('\\' :: c :: a, b)
    else (enclosed opening closing depth quote r).map fun (a, b) => ('\\' :: c :: a, b)
  | depth, some q, c :: r =>
    let quote := if c = q then none else some q
    (enclosed opening closing depth quote r).map fun (a, b) => (c :: a, b)
  | depth, none, c :: r =>
    let go (depth : Nat) (quote : Option Char) :=
      (enclosed opening closing depth quote r).map fun (a, b) => (c :: a, b)
    if c = '\'' ∨ c = '"' then go depth (some c)
    else if c = closing then
      match depth with
      | 0 => some ([], r)
      | depth + 1 => go depth none
    else if c = opening then go (depth + 1) none
    else go depth none

/-- The text up to the next back quote, and what follows; backslashes before back quotes, dollars
and backslashes are dropped. -/
def backQuoted : List Char → Option (List Char × List Char)
  | [] => none
  | '\\' :: c :: r =>
    (backQuoted r).map fun (a, b) =>
      (if c = '\\' ∨ c = '$' ∨ c = '\x60' then c :: a else '\\' :: c :: a, b)
  | c :: r => if c = '\x60' then some ([], r) else (backQuoted r).map fun (a, b) => (c :: a, b)

/-- Whether a character may stand in a name. -/
def inName (c : Char) : Bool :=
  c.isAlphanum || c == '_'

/-- Whether a character may begin a name. -/
def beginsName (c : Char) : Bool :=
  c.isAlpha || c == '_'

/-- Whether a character is a parameter of its own. -/
def isSpecial (c : Char) : Bool :=
  c.isDigit || ['?', '$', '#', '@', '*', '!', '-'].contains c

/-- The name of a parameter at the beginning of a text, and what follows. -/
def parameterName (cs : List Char) : List Char × List Char :=
  match cs with
  | [] => ([], [])
  | c :: r =>
    if beginsName c then (cs.takeWhile inName, cs.dropWhile inName)
    else if c.isDigit then (cs.takeWhile Char.isDigit, cs.dropWhile Char.isDigit)
    else if isSpecial c then ([c], r)
    else ([], cs)

/-- The operator of a parameter expansion, and what follows. -/
def operatorOf (cs : List Char) : String × List Char :=
  match cs with
  | ':' :: '-' :: r => (":-", r)
  | ':' :: '=' :: r => (":=", r)
  | ':' :: '+' :: r => (":+", r)
  | ':' :: '?' :: r => (":?", r)
  | '-' :: r => ("-", r)
  | '=' :: r => ("=", r)
  | '+' :: r => ("+", r)
  | '?' :: r => ("?", r)
  | '#' :: '#' :: r => ("##", r)
  | '#' :: r => ("#", r)
  | '%' :: '%' :: r => ("%%", r)
  | '%' :: r => ("%", r)
  | r => ("", r)

/-- What stands between braces behind a dollar. -/
def braced (quoted : Bool) (cs : List Char) : Except Fault Part :=
  match cs with
  | '#' :: c :: r =>
    let (name, rest) := parameterName (c :: r)
    if name.isEmpty || !rest.isEmpty then .error .badSubstitution
    else .ok (.param quoted (String.ofList name) "length" [])
  | cs =>
    let (name, rest) := parameterName cs
    let (op, argument) := operatorOf rest
    if name.isEmpty then .error .badSubstitution
    else
      let op := if op.isEmpty && !argument.isEmpty then "other" else op
      .ok (.param quoted (String.ofList name) op argument)

/-- The text of a quotation behind a dollar, in which escapes count, and what follows. -/
def escapedQuote? (cs : List Char) : Option (List Char × List Char) :=
  match cs with
  | [] => none
  | '\\' :: c :: r => (escapedQuote? r).map fun (a, b) => ('\\' :: c :: a, b)
  | c :: r => if c = '\'' then some ([], r) else (escapedQuote? r).map fun (a, b) => (c :: a, b)

/-- The text that escapes write. -/
def unescaped (cs : List Char) : List Char :=
  let (bs, _) := Printf.escaped { extended := true } (cs.length + 1) cs
  (Text.Utf8.lossy bs).toList.filter fun c => c != '\x00'

/-- What stands behind a dollar, and what follows. -/
def dollar (extended quoted : Bool) (cs : List Char) : Except Fault (Part × List Char) :=
  match cs with
  | '\'' :: r =>
    match if extended && !quoted then escapedQuote? r else none with
    | some (inner, rest) => .ok (.text true (unescaped inner), rest)
    | none => .ok (.text quoted ['$'], cs)
  | '\x7b' :: r =>
    match enclosed '\x7b' '\x7d' 0 none r with
    | none => .error (.unterminated '\x7d')
    | some (inner, rest) => (braced quoted inner).map (·, rest)
  | '(' :: r =>
    match enclosed '(' ')' 0 none r with
    | none => .error (.endOfFile (some ")"))
    | some (inner, rest) =>
      match inner, inner.getLast? with
      | '(' :: more, some ')' => .ok (.sum quoted more.dropLast, rest)
      | _, _ => .ok (.output quoted inner, rest)
  | cs =>
    let (name, rest) := parameterName (match cs with
      | c :: _ => if c.isDigit then cs.take 1 else cs
      | [] => [])
    match cs, name with
    | _, [] => .ok (.text quoted ['$'], cs)
    | d :: more, [_] =>
      if d.isDigit then .ok (.param quoted (String.ofList name) "" [], more)
      else .ok (.param quoted (String.ofList name) "" [], rest)
    | _, _ => .ok (.param quoted (String.ofList name) "" [], rest)

/-- Whether a character ends a word. -/
def endsWord (c : Char) : Bool :=
  [' ', '\t', '\n', ';', '&', '|', '<', '>', '(', ')'].contains c

/-- Where a text stands: outside of quotes, between double quotes, in a document, or in an expansion
between double quotes. -/
inductive Context where
  | bare
  | quoted
  | document
  | argument
  deriving DecidableEq, Repr

/-- Puts a piece before others; texts of one kind are joined. -/
def joinPart (p : Part) (ps : List Part) : List Part :=
  match p, ps with
  | .text q cs, .text q' cs' :: rest => if q = q' then .text q (cs ++ cs') :: rest else p :: ps
  | _, _ => p :: ps

/-- The pieces up to the end of a word, of a quotation or of a document, and what follows.  Every
piece takes at least one character. -/
def pieces (extended : Bool) : Nat → Context → List Char → Except Fault (List Part × List Char)
  | 0, _, cs => .ok ([], cs)
  | fuel + 1, k, cs =>
    let quoted := decide (k ≠ .bare)
    let before (p : Part) (rest : List Char) : Except Fault (List Part × List Char) :=
      (pieces extended fuel k rest).map fun (ps, r) => (joinPart p ps, r)
    match cs with
    | [] => if k = .quoted then .error (.unterminated '"') else .ok ([], [])
    | '\\' :: '\n' :: r => pieces extended fuel k r
    | '\\' :: c :: r =>
      let kept := c = '$' ∨ c = '\x60' ∨ c = '\\' ∨ (c = '"' ∧ k ≠ .document)
      if quoted ∧ ¬kept then before (.text true ['\\', c]) r else before (.text true [c]) r
    | '"' :: r =>
      match k with
      | .quoted => .ok ([], r)
      | .document => before (.text true ['"']) r
      | .argument => pieces extended fuel k r
      | .bare =>
        match pieces extended fuel .quoted r with
        | .error f => .error f
        | .ok (inner, rest) =>
          (pieces extended fuel k rest).map fun (ps, r) => (.text true [] :: inner ++ ps, r)
    | '$' :: r =>
      match dollar extended quoted r with
      | .error f => .error f
      | .ok (p, rest) => before p rest
    | c :: r =>
      if c = '\'' ∧ k = .bare then
        match r.dropWhile (· != '\'') with
        | [] => .error (.unterminated '\'')
        | _ :: rest => before (.text true (r.takeWhile (· != '\''))) rest
      else if c = '\x60' then
        match backQuoted r with
        | none => .error (.endOfFile (some "\x60"))
        | some (inner, rest) => before (.output quoted inner) rest
      else if k = .bare ∧ endsWord c then .ok ([], cs)
      else before (.text quoted [c]) r

/-- The pieces of a document, or of the argument of an expansion. -/
def piecesOf (extended : Bool) (k : Context) (cs : List Char) : Except Fault Word :=
  (pieces extended (cs.length + 1) k cs).map (·.1)

/-- An operator at the beginning of a text, and what follows. -/
def operator? (cs : List Char) : Option (String × List Char) :=
  match cs with
  | '&' :: '&' :: r => some ("&&", r)
  | '|' :: '|' :: r => some ("||", r)
  | ';' :: ';' :: r => some (";;", r)
  | ';' :: r => some (";", r)
  | '&' :: r => some ("&", r)
  | '|' :: r => some ("|", r)
  | '(' :: r => some ("(", r)
  | ')' :: r => some (")", r)
  | '\n' :: r => some ("\n", r)
  | _ => none

/-- The sign of a redirection at the beginning of a text, and what follows. -/
def redirection? (cs : List Char) : Option (String × List Char) :=
  match cs with
  | '>' :: '>' :: r => some (">>", r)
  | '>' :: '&' :: r => some (">&", r)
  | '>' :: '|' :: r => some (">", r)
  | '>' :: r => some (">", r)
  | '<' :: '<' :: '-' :: r => some ("<<-", r)
  | '<' :: '<' :: r => some ("<<", r)
  | '<' :: '&' :: r => some ("<&", r)
  | '<' :: '>' :: r => some ("<", r)
  | '<' :: r => some ("<", r)
  | _ => none

/-- The lines of a document up to its delimiter, and what follows.  Leading tabs may not count. -/
def documentLines (stripped : Bool) (delimiter : List Char) :
    List (List Char) → List Char × List (List Char)
  | [] => ([], [])
  | l :: ls =>
    let l := if stripped then l.dropWhile (· == '\t') else l
    if l = delimiter then ([], ls)
    else
      let (body, rest) := documentLines stripped delimiter ls
      (l ++ '\n' :: body, rest)

/-- Splits a document off: its delimiter stands at the beginning of the text, its lines after the
line that is under way. -/
def document (extended stripped : Bool) (cs : List Char) : Except Fault (Word × List Char) :=
  match pieces extended (cs.length + 1) .bare (cs.dropWhile (· == ' ')) with
  | .error f => .error f
  | .ok (w, rest) =>
    let literal := w.all fun
      | .text quoted _ => !quoted
      | _ => true
    let delimiter := w.flatMap fun
      | .text _ cs => cs
      | _ => []
    let line := rest.takeWhile (· != '\n')
    let lines := ((rest.dropWhile (· != '\n')).drop 1).splitOn '\n'
    let (body, after) := documentLines stripped delimiter lines
    let left := line ++ '\n' :: List.intercalate ['\n'] after
    if literal then (piecesOf extended .document body).map (·, left)
    else .ok ([.text true body], left)

namespace Token

/-- The words that a line feed ends, as the text of a document. -/
def hereWord (w : Word) : Word :=
  w ++ [.text true ['\n']]

/-- The tokens of a text.  Every token takes at least one character. -/
def scan (extended : Bool) : Nat → List Char → List Token
  | 0, _ => []
  | fuel + 1, cs =>
    match cs with
    | [] => []
    | ' ' :: r | '\t' :: r | '\\' :: '\n' :: r => scan extended fuel r
    | '#' :: r => scan extended fuel (r.dropWhile (· != '\n'))
    | cs =>
      let digits := cs.takeWhile Char.isDigit
      let redirected (channel : Option Nat) (rest : List Char) : Option (List Token) :=
        match extended, rest with
        | true, '<' :: '<' :: '<' :: r =>
          match pieces extended (r.length + 1) .bare (r.dropWhile (· == ' ')) with
          | .error f => some [.fault f]
          | .ok (w, r) =>
            some (.redirect channel "<<" :: .word (hereWord w) :: scan extended fuel r)
        | true, '&' :: '>' :: r => some (.redirect none "&>" :: scan extended fuel r)
        | true, '|' :: '&' :: r =>
          some (.redirect (some 2) ">&" :: .word [.text false ['1']] :: .operator "|" ::
            scan extended fuel r)
        | _, rest => (redirection? rest).map fun (op, r) =>
          if op = "<<" ∨ op = "<<-" then
            match document extended (op = "<<-") r with
            | .error f => [.fault f]
            | .ok (w, r) => .redirect channel "<<" :: .word w :: scan extended fuel r
          else .redirect channel op :: scan extended fuel r
      let number := if digits.isEmpty then none else (String.ofList digits).toNat?
      match redirected number (cs.drop digits.length) with
      | some ts => ts
      | none =>
        let sum? := match extended, cs with
          | true, '(' :: '(' :: r => enclosed '(' ')' 0 none r
          | _, _ => none
        match sum? with
        | some (inner, ')' :: r) =>
          .word [.text false "let".toList] :: .word [.text true inner] :: scan extended fuel r
        | _ =>
        match operator? cs with
        | some (op, r) => .operator op :: scan extended fuel r
        | none =>
          match pieces extended (cs.length + 1) .bare cs with
          | .error f => [.fault f]
          | .ok (w, r) => if r.length < cs.length then .word w :: scan extended fuel r else []

/-- The tokens with signs as words within the brackets of a condition, and with the brackets of a
function that is announced by a word. -/
def settled (inCondition : Bool) : List Token → List Token
  | [] => []
  | .word w :: rest =>
    match plain? w, inCondition with
    | some "[[", _ => .word w :: settled true rest
    | some "]]", true => .word w :: settled false rest
    | some "function", false =>
      match rest with
      | .word name :: .operator "(" :: r => .word name :: .operator "(" :: settled false r
      | .word name :: r => .word name :: .operator "(" :: .operator ")" :: settled false r
      | rest => .word w :: settled false rest
    | _, _ => .word w :: settled inCondition rest
  | .operator s :: rest =>
    (if inCondition && s != ";" && s != "\n" then .word [.text true s.toList] else .operator s) ::
      settled (inCondition && s != ";" && s != "\n") rest
  | .redirect c s :: rest =>
    (if inCondition then .word [.text true s.toList] else .redirect c s) :: settled inCondition rest
  | t :: rest => t :: settled inCondition rest

/-- The tokens of a script.  The text of a document is moved ahead of the rest of its line, which
may take it past a line that ends without an end. -/
def ofChars (extended : Bool) (cs : List Char) : List Token :=
  let ts := scan extended (2 * cs.length + 2) cs
  if extended then settled false ts else ts

end Token

end HostAgent.Shell
