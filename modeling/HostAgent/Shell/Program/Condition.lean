import HostAgent.Shell.Program.Basic

/-!
# Conditions

Conditions on texts, numbers and files, as words write them.  A joint binds alternatives more
loosely than requirements, and a word that could be an operator is a text where no operand follows.

* `Condition.holds` — whether the words hold, or what is wrong with them.
-/

namespace HostAgent.Shell.Program.Condition

/-- Operators before one operand. -/
def isUnary (w : String) : Bool :=
  ["-r", "-w", "-x", "-e", "-f", "-d", "-c", "-b", "-p", "-u", "-g", "-k", "-s", "-t", "-z", "-n",
    "-h", "-L", "-O", "-G", "-S"].contains w

/-- Operators between two operands. -/
def isBinary (s : Surroundings) (w : String) : Bool :=
  ["=", "!=", "<", ">", "-eq", "-ne", "-gt", "-ge", "-lt", "-le", "-nt", "-ot", "-ef"].contains w ||
    (s.extended && w == "==")

/-- What a word is where it stands. -/
inductive Role where
  | nothing
  | unary
  | binary
  | negation
  | both
  | either
  | opening
  | closing
  | operand
  deriving DecidableEq, Repr

/-- Whether an operator before one operand is a text: nothing follows it, or an operator between
two operands does. -/
def standsAlone (s : Surroundings) : List String → Bool
  | [] => true
  | [_] => false
  | a :: _ => isBinary s a

/-- What the first word is. -/
def role (s : Surroundings) : List String → Role
  | [] => .nothing
  | w :: rest =>
    if isUnary w then if standsAlone s rest then .operand else .unary
    else if isBinary s w then .binary
    else match w with
      | "!" => .negation
      | "-a" => .both
      | "-o" => .either
      | "(" => if rest.isEmpty then .operand else .opening
      | ")" => .closing
      | _ => .operand

/-- The integer that a word writes, between blanks. -/
def number (w : String) : Except String Int :=
  let cs := ((w.toList.dropWhile (·.isWhitespace)).reverse.dropWhile (·.isWhitespace)).reverse
  let (negative, ds) := match cs with
    | '-' :: ds => (true, ds)
    | '+' :: ds => (false, ds)
    | ds => (false, ds)
  let n := Printf.natOf ds
  if ds.isEmpty || !ds.all Char.isDigit || n > 9223372036854775807 then
    .error ("Illegal number: " ++ w)
  else .ok (if negative then -(n : Int) else n)

/-- A condition on one operand. -/
def unary (s : Surroundings) (op a : String) : Bool :=
  match op with
  | "-n" => !a.isEmpty
  | "-z" => a.isEmpty
  | "-e" | "-r" | "-w" => (s.files a).isSome || s.directories a
  | "-f" => (s.files a).isSome && !"/dev/".isPrefixOf a
  | "-c" => (s.files a).isSome && "/dev/".isPrefixOf a
  | "-d" | "-x" => s.directories a
  | "-s" => s.directories a || ((s.files a).map fun f => !f.bytes.isEmpty).getD false
  | _ => false

/-- A condition on two operands. -/
def binary (a op b : String) : Except String Bool := do
  match op with
  | "=" | "==" => pure (a == b)
  | "!=" => pure (a != b)
  | "<" => pure (decide (a < b))
  | ">" => pure (decide (b < a))
  | "-nt" | "-ot" | "-ef" => pure false
  | op =>
    let m ← number a
    let n ← number b
    pure (match op with
      | "-eq" => m == n
      | "-ne" => m != n
      | "-lt" => decide (m < n)
      | "-le" => decide (m ≤ n)
      | "-gt" => decide (n < m)
      | _ => decide (n ≤ m))

/-- The complaint about an operator without its operand. -/
def lacking (op : String) : Except String (Bool × List String) :=
  .error (op ++ ": argument expected")

mutual

/-- Alternatives.  What is left begins with the last word that was read. -/
def alternatives (s : Surroundings) : Nat → List String → Except String (Bool × List String)
  | 0, ws => .ok (false, ws)
  | fuel + 1, ws => do
    let (a, ws) ← requirements s fuel ws
    if role s ws.tail = .either then
      let (b, ws) ← alternatives s fuel ws.tail.tail
      pure (a || b, ws)
    else pure (a, ws)

/-- Requirements. -/
def requirements (s : Surroundings) : Nat → List String → Except String (Bool × List String)
  | 0, ws => .ok (false, ws)
  | fuel + 1, ws => do
    let (a, ws) ← negated s fuel ws
    if role s ws.tail = .both then
      let (b, ws) ← requirements s fuel ws.tail.tail
      pure (a && b, ws)
    else pure (a, ws)

/-- A condition that may be negated. -/
def negated (s : Surroundings) : Nat → List String → Except String (Bool × List String)
  | 0, ws => .ok (false, ws)
  | fuel + 1, ws =>
    if role s ws = .negation then
      if ws.tail.isEmpty then .ok (true, ws)
      else do
        let (a, ws) ← negated s fuel ws.tail
        pure (!a, ws)
    else simple s fuel (role s ws) ws

/-- A condition without joints, whose first word has a role. -/
def simple (s : Surroundings) : Nat → Role → List String → Except String (Bool × List String)
  | 0, _, ws => .ok (false, ws)
  | fuel + 1, first, ws =>
    match first, ws with
    | .nothing, ws => .ok (false, ws)
    | _, [] => .ok (false, [])
    | .opening, _ :: ws =>
      if role s ws = .closing then .ok (false, ws)
      else do
        let (a, ws) ← alternatives s fuel ws
        if role s ws.tail = .closing then pure (a, ws.tail) else throw "closing paren expected"
    | .unary, op :: rest =>
      match rest with
      | [] => lacking op
      | a :: _ => .ok (unary s op a, rest)
    | _, a :: rest =>
      if role s rest = .binary then
        match rest with
        | op :: b :: more => do pure (← binary a op b, b :: more)
        | op :: _ => lacking op
        | [] => .ok (!a.isEmpty, ws)
      else .ok (!a.isEmpty, ws)

end

/-- Whether words hold; words that are left over are a fault. -/
def whole (s : Surroundings) (first : Option Role) (ws : List String) : Except String Bool := do
  let fuel := 4 * ws.length + 4
  let (holds, left) ← match first with
    | some r => simple s fuel r ws
    | none => alternatives s fuel ws
  if left.length > 1 then throw (left.headD "" ++ ": unexpected operator") else pure holds

/-- Whether words hold, or what is wrong with them.  Three words with an operator in the middle are
always taken as such. -/
def holds (s : Surroundings) (ws : List String) : Except String Bool :=
  match ws with
  | [_, op, _] => if isBinary s op then whole s (some .operand) ws else general s ws
  | ws => general s ws
where
  /-- Whether words hold that may stand in brackets or be negated as a whole. -/
  general (s : Surroundings) (ws : List String) : Except String Bool :=
    match ws with
    | ["(", a, ")"] => .ok (!a.isEmpty)
    | ["!", a, op, b] =>
      if isBinary s op then (whole s (some .operand) [a, op, b]).map not else whole s none ws
    | ws => whole s none ws

end HostAgent.Shell.Program.Condition
