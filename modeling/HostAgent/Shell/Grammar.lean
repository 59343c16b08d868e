import HostAgent.Shell.Token

/-!
# The grammar of scripts

Tokens are put together into commands, pipelines, lists and compound commands.

* `Fault.message` — the wording of a fault.
* `line?` — the commands of the next line, and the tokens after it.  A script is carried out line
  by line, so a fault does not keep the lines before it from being carried out.
-/

namespace HostAgent.Shell

/-- The wording of a fault. -/
def Fault.message : Fault → String
  | .unterminated q =>
    if q = '\x7d' then "Syntax error: Missing '\x7d'"
    else "Syntax error: Unterminated quoted string"
  | .unexpected t => "Syntax error: " ++ t ++ " unexpected"
  | .endOfFile none => "Syntax error: end of file unexpected"
  | .endOfFile (some e) =>
    if e = "\x60" then "Syntax error: EOF in backquote substitution"
    else "Syntax error: end of file unexpected (expecting \"" ++ e ++ "\")"
  | .badSubstitution => "Bad substitution"

/-- The wording of a fault, as the extended shell puts it. -/
def Fault.extendedMessage : Fault → String
  | .unterminated q =>
    "line 1: unexpected EOF while looking for matching \x60" ++ String.ofList [q] ++ "'"
  | .unexpected t => "line 1: syntax error near unexpected token \x60" ++
      String.ofList (t.toList.filter (· != '"')) ++ "'"
  | .endOfFile (some "\x60") => "line 1: unexpected EOF while looking for matching \x60\x60'"
  | .endOfFile _ => "line 2: syntax error: unexpected end of file"
  | .badSubstitution => "line 1: bad substitution"

/-- The words that stand for the structure of a script where a command may begin. -/
def reserved : List String :=
  ["if", "then", "elif", "else", "fi", "while", "until", "for", "do", "done", "case", "esac",
    "\x7b", "\x7d", "!"]

/-- The words that end a list of commands. -/
def closers : List String :=
  ["then", "elif", "else", "fi", "do", "done", "esac", "\x7d"]

/-- A word without quotes and expansions at the beginning. -/
def leading? : List Token → Option String
  | .word w :: _ => plain? w
  | _ => none

/-- The fault of a token that may not stand where it stands. -/
def refuse : List Token → Fault
  | [] => .endOfFile none
  | .word w :: _ =>
    match plain? w with
    | some s => .unexpected (if reserved.contains s then "\"" ++ s ++ "\"" else "word")
    | none => .unexpected "word"
  | .operator s :: _ => .unexpected (if s = "\n" then "newline" else "\"" ++ s ++ "\"")
  | .redirect .. :: _ => .unexpected "redirection"
  | .fault f :: _ => f

/-- The tokens without line ends at the beginning. -/
def skipLines : List Token → List Token
  | .operator "\n" :: r => skipLines r
  | ts => ts

/-- The tokens behind a word that has to stand at the beginning. -/
def expect (s : String) (ts : List Token) : Except Fault (List Token) :=
  match ts with
  | [] => .error (.endOfFile (some s))
  | t :: r => if leading? [t] = some s then .ok r else .error (refuse ts)

/-- The direction of a redirection, and its channel if none is given. -/
def directionOf : String → Direction × Nat
  | ">" => (.output, 1)
  | ">>" => (.append, 1)
  | ">&" => (.copy, 1)
  | "<&" => (.copy, 0)
  | "<<" => (.document, 0)
  | _ => (.input, 0)

/-- What a sign and the word behind it redirect. -/
def redirectsOf (channel : Option Nat) (op : String) (w : Word) : List Redirect :=
  if op = "&>" then [⟨1, .output, w⟩, ⟨2, .copy, [.text false ['1']]⟩]
  else
    let (direction, standard) := directionOf op
    [⟨channel.getD standard, direction, w⟩]

/-- The redirections at the beginning, and what follows. -/
def redirects : List Token → Except Fault (List Redirect × List Token)
  | .redirect channel op :: .word w :: r =>
    (redirects r).map fun (rs, rest) => (redirectsOf channel op w ++ rs, rest)
  | .redirect _ _ :: r => .error (refuse r)
  | ts => .ok ([], ts)

/-- The name and the value of an assignment. -/
def assignment? (w : Word) : Option (String × Word) :=
  match w with
  | .text false cs :: rest =>
    let name := cs.takeWhile inName
    match cs.drop name.length with
    | '=' :: value =>
      if (name.head?.map beginsName).getD false then
        let parts := if value.isEmpty then rest else .text false value :: rest
        some (String.ofList name, parts)
      else none
    | _ => none
  | _ => none

/-- A simple command: assignments, then words, with redirections anywhere. -/
def simple (begun : Bool) : List Token →
    Except Fault ((List (String × Word) × List Word × List Redirect) × List Token)
  | .redirect channel op :: .word w :: r =>
    (simple begun r).map fun ((as, ws, rs), rest) =>
      ((as, ws, redirectsOf channel op w ++ rs), rest)
  | .redirect _ _ :: r => .error (refuse r)
  | .word w :: r =>
    match if begun then none else assignment? w with
    | some a => (simple false r).map fun ((as, ws, rs), rest) => ((a :: as, ws, rs), rest)
    | none => (simple true r).map fun ((as, ws, rs), rest) => ((as, w :: ws, rs), rest)
  | ts => .ok (([], [], []), ts)

/-- The words up to the end of a line. -/
def wordsUntilEnd : List Token → List Word × List Token
  | .word w :: r =>
    let (ws, rest) := wordsUntilEnd r
    (w :: ws, rest)
  | ts => ([], ts)

/-- The patterns of an arm, up to the bracket behind them. -/
def patterns : List Token → Except Fault (List Word × List Token)
  | .word w :: .operator ")" :: r => .ok ([w], r)
  | .word w :: .operator "|" :: r => (patterns r).map fun (ws, rest) => (w :: ws, rest)
  | .word _ :: r => .error (refuse r)
  | ts => .error (refuse ts)

/-- Whether a list of commands ends here. -/
def atEnd (ts : List Token) : Bool :=
  match ts with
  | [] => true
  | .operator s :: _ => s == ")" || s == ";;"
  | _ => (leading? ts).any closers.contains

mutual

/-- Commands up to a closing word or bracket; between them stand line ends or semicolons. -/
def list : Nat → List Token → Except Fault (Script × List Token)
  | 0, ts => .error (refuse ts)
  | fuel + 1, ts =>
    let ts := skipLines ts
    if atEnd ts then .ok (.nothing, ts)
    else do
      let (a, ts) ← chain fuel ts
      let more (a : Script) (ts : List Token) : Except Fault (Script × List Token) := do
        let (b, ts) ← list fuel ts
        return (.sequence a b, ts)
      match ts with
      | .operator "&" :: r => more (.background a) r
      | .operator ";" :: r | .operator "\n" :: r => more a r
      | ts => return (a, ts)

/-- Pipelines joined by signs that look at the outcome. -/
def chain : Nat → List Token → Except Fault (Script × List Token)
  | 0, ts => .error (refuse ts)
  | fuel + 1, ts => do
    let (a, ts) ← pipeline fuel ts
    chainFrom fuel a ts

/-- The pipelines that follow one. -/
def chainFrom : Nat → Script → List Token → Except Fault (Script × List Token)
  | 0, _, ts => .error (refuse ts)
  | fuel + 1, a, ts =>
    match ts with
    | .operator "&&" :: r => do
      let (b, ts) ← pipeline fuel (skipLines r)
      chainFrom fuel (.both a b) ts
    | .operator "||" :: r => do
      let (b, ts) ← pipeline fuel (skipLines r)
      chainFrom fuel (.either a b) ts
    | ts => .ok (a, ts)

/-- Commands, each reading what the one before it writes. -/
def pipeline : Nat → List Token → Except Fault (Script × List Token)
  | 0, ts => .error (refuse ts)
  | fuel + 1, ts => do
    let negated := leading? ts = some "!"
    let (cs, rest) ← stages fuel (if negated then ts.drop 1 else ts)
    match cs with
    | [c] => return (if negated then .piped true [c] else c, rest)
    | cs => return (.piped negated cs, rest)

/-- The commands of a pipeline. -/
def stages : Nat → List Token → Except Fault (List Script × List Token)
  | 0, ts => .error (refuse ts)
  | fuel + 1, ts => do
    let (a, ts) ← command fuel ts
    match ts with
    | .operator "|" :: r => do
      let (more, ts) ← stages fuel (skipLines r)
      return (a :: more, ts)
    | ts => return ([a], ts)

/-- One command. -/
def command : Nat → List Token → Except Fault (Script × List Token)
  | 0, ts => .error (refuse ts)
  | fuel + 1, ts =>
    match ts with
    | .operator "(" :: r => do
      let (body, r) ← list fuel r
      match r with
      | .operator ")" :: r => do
        let (rs, r) ← redirects r
        return (.subshell body rs, r)
      | [] => throw (.endOfFile (some ")"))
      | r => throw (refuse r)
    | .word w :: .operator "(" :: .operator ")" :: r => do
      let (body, r) ← command fuel (skipLines r)
      match plain? w with
      | some name => return (.function name body, r)
      | none => throw (refuse ts)
    | .word w :: r =>
      match plain? w with
      | some "\x7b" => do
        let (body, r) ← list fuel r
        let (rs, r) ← redirects (← expect "\x7d" r)
        return (.group body rs, r)
      | some "if" => choice fuel r
      | some "while" => cycle fuel false r
      | some "until" => cycle fuel true r
      | some "for" => each fuel r
      | some "case" => select fuel r
      | some s =>
        if closers.contains s then .error (refuse ts) else simpleCommand ts
      | none => simpleCommand ts
    | .redirect _ _ :: _ => simpleCommand ts
    | ts => .error (refuse ts)

/-- A simple command as a script. -/
def simpleCommand (ts : List Token) : Except Fault (Script × List Token) :=
  (simple false ts).map fun ((as, ws, rs), rest) => (.simple as ws rs, rest)

/-- What follows the word that asks. -/
def choice : Nat → List Token → Except Fault (Script × List Token)
  | 0, ts => .error (refuse ts)
  | fuel + 1, ts => do
    let (condition, ts) ← list fuel ts
    let (yes, ts) ← list fuel (← expect "then" ts)
    match leading? ts with
    | some "elif" => do
      let (no, ts) ← choice fuel (ts.drop 1)
      return (.choice condition yes no [], ts)
    | some "else" => do
      let (no, ts) ← list fuel (ts.drop 1)
      let (rs, ts) ← redirects (← expect "fi" ts)
      return (.choice condition yes no rs, ts)
    | _ => do
      let (rs, ts) ← redirects (← expect "fi" ts)
      return (.choice condition yes .nothing rs, ts)

/-- What follows the word that repeats. -/
def cycle : Nat → Bool → List Token → Except Fault (Script × List Token)
  | 0, _, ts => .error (refuse ts)
  | fuel + 1, untilTrue, ts => do
    let (condition, ts) ← list fuel ts
    let (body, ts) ← list fuel (← expect "do" ts)
    let (rs, ts) ← redirects (← expect "done" ts)
    return (.loop untilTrue condition body rs, ts)

/-- What follows the word that goes through words. -/
def each : Nat → List Token → Except Fault (Script × List Token)
  | 0, ts => .error (refuse ts)
  | fuel + 1, ts =>
    match leading? ts with
    | none => .error (refuse ts)
    | some name => do
      let ts := skipLines (ts.drop 1)
      let (words, ts) :=
        if leading? ts = some "in" then
          let (ws, ts) := wordsUntilEnd (ts.drop 1)
          (some ws, ts)
        else (none, ts)
      let ts := match ts with
        | .operator ";" :: r => r
        | ts => ts
      let (body, ts) ← list fuel (← expect "do" (skipLines ts))
      let (rs, ts) ← redirects (← expect "done" ts)
      return (.each name words body rs, ts)

/-- What follows the word that compares with patterns. -/
def select : Nat → List Token → Except Fault (Script × List Token)
  | 0, ts => .error (refuse ts)
  | fuel + 1, ts =>
    match ts with
    | .word w :: r => do
      let (as, r) ← arms fuel (skipLines (← expect "in" (skipLines r)))
      let (rs, r) ← redirects r
      return (.select w as rs, r)
    | ts => .error (refuse ts)

/-- The arms up to the closing word. -/
def arms : Nat → List Token → Except Fault (List (List Word × Script) × List Token)
  | 0, ts => .error (refuse ts)
  | fuel + 1, ts =>
    let ts := skipLines ts
    if leading? ts = some "esac" then .ok ([], ts.drop 1)
    else do
      let (ps, ts) ← patterns (match ts with
        | .operator "(" :: r => r
        | ts => ts)
      let (body, ts) ← list fuel ts
      match ts with
      | .operator ";;" :: r => do
        let (more, ts) ← arms fuel r
        return ((ps, body) :: more, ts)
      | ts => do
        let ts ← expect "esac" ts
        return ([(ps, body)], ts)

end

/-- A measure of what is left to be read. -/
def budget (ts : List Token) : Nat :=
  8 * ts.length + 8

/-- The commands up to the end of a line, and the tokens after it. -/
def lineFrom : Nat → List Token → Except Fault (Script × List Token)
  | 0, ts => .error (refuse ts)
  | fuel + 1, ts => do
    match ts with
    | [] => return (.nothing, [])
    | .operator "\n" :: r => return (.nothing, r)
    | ts =>
      let (a, rest) ← chain (budget ts) ts
      let more (a : Script) (ts : List Token) : Except Fault (Script × List Token) := do
        let (b, ts) ← lineFrom fuel ts
        return (.sequence a b, ts)
      match rest with
      | .operator "&" :: r => more (.background a) r
      | .operator ";" :: r => more a r
      | .operator "\n" :: r => return (a, r)
      | [] => return (a, [])
      | rest => throw (refuse rest)

/-- The commands of the next line; `none` if there is none. -/
def line? (ts : List Token) : Option (Except Fault (Script × List Token)) :=
  match skipLines ts with
  | [] => none
  | ts => some (lineFrom (ts.length + 1) ts)

end HostAgent.Shell
