/-!
# Sums

The value of an arithmetic expression: signed integers of 64 bits, variables, signs, the four
operations, remainders, powers, bits, comparisons and their joining, a choice, and brackets.

* `eval?` — the value of an expression.
* `assignment?` — an assignment, taken apart.
-/

namespace HostAgent.Shell.Arithmetic

/-- A token of an expression. -/
inductive Token where
  | number (n : Int)
  | name (s : String)
  | sign (s : String)
  deriving DecidableEq, Repr

/-- The number that digits write; hexadecimal and octal ones are marked at the beginning. -/
def numberOf (cs : List Char) : Int :=
  let value (c : Char) : Nat :=
    if c.isDigit then c.toNat - 48 else if c.val ≥ 97 then c.toNat - 87 else c.toNat - 55
  let read (base : Nat) (cs : List Char) : Int :=
    Int.ofNat (cs.foldl (fun n c => base * n + value c) 0)
  match cs with
  | '0' :: 'x' :: r | '0' :: 'X' :: r => read 16 r
  | '0' :: r => read 8 r
  | cs => read 10 cs

/-- The tokens of an expression. -/
def tokens : Nat → List Char → List Token
  | 0, _ => []
  | fuel + 1, cs =>
    match cs with
    | [] => []
    | ' ' :: r | '\t' :: r | '\n' :: r => tokens fuel r
    | '=' :: '=' :: r => .sign "==" :: tokens fuel r
    | '!' :: '=' :: r => .sign "!=" :: tokens fuel r
    | '<' :: '=' :: r => .sign "<=" :: tokens fuel r
    | '>' :: '=' :: r => .sign ">=" :: tokens fuel r
    | '<' :: '<' :: r => .sign "<<" :: tokens fuel r
    | '>' :: '>' :: r => .sign ">>" :: tokens fuel r
    | '*' :: '*' :: r => .sign "**" :: tokens fuel r
    | '&' :: '&' :: r => .sign "&&" :: tokens fuel r
    | '|' :: '|' :: r => .sign "||" :: tokens fuel r
    | c :: r =>
      if c.isDigit then
        .number (numberOf (cs.takeWhile Char.isAlphanum)) ::
          tokens fuel (cs.dropWhile Char.isAlphanum)
      else if c.isAlpha || c == '_' then
        let word (c : Char) := c.isAlphanum || c == '_'
        .name (String.ofList (cs.takeWhile word)) :: tokens fuel (cs.dropWhile word)
      else .sign (String.ofList [c]) :: tokens fuel r

/-- The binding strength of an operation. -/
def strength? (s : String) : Option Nat :=
  match s with
  | "||" => some 1
  | "&&" => some 2
  | "|" => some 3
  | "^" => some 4
  | "&" => some 5
  | "==" | "!=" => some 6
  | "<" | ">" | "<=" | ">=" => some 7
  | "<<" | ">>" => some 8
  | "+" | "-" => some 9
  | "*" | "/" | "%" => some 10
  | "**" => some 11
  | _ => none

/-- An integer as a register of 64 bits holds it. -/
def wrapped (n : Int) : Int :=
  (BitVec.ofInt 64 n).toInt

/-- An operation; there is no quotient by zero. -/
def compute? (s : String) (a b : Int) : Option Int :=
  let truth (b : Bool) : Int := if b then 1 else 0
  let bits (f : BitVec 64 → BitVec 64 → BitVec 64) : Option Int :=
    some (f (BitVec.ofInt 64 a) (BitVec.ofInt 64 b)).toInt
  match s with
  | "|" => bits (· ||| ·)
  | "&" => bits (· &&& ·)
  | "^" => bits (· ^^^ ·)
  | "<<" => bits fun m n => m <<< (n.toNat % 64)
  | ">>" => bits fun m n => m.sshiftRight (n.toNat % 64)
  | "**" => if b < 0 then none else some (wrapped (Int.pow a (b.toNat % 4096)))
  | "||" => some (truth (a != 0 || b != 0))
  | "&&" => some (truth (a != 0 && b != 0))
  | "==" => some (truth (a == b))
  | "!=" => some (truth (a != b))
  | "<" => some (truth (a < b))
  | ">" => some (truth (b < a))
  | "<=" => some (truth (a ≤ b))
  | ">=" => some (truth (b ≤ a))
  | "+" => some (wrapped (a + b))
  | "-" => some (wrapped (a - b))
  | "*" => some (wrapped (a * b))
  | "/" => if b = 0 then none else some (a.tdiv b)
  | "%" => if b = 0 then none else some (a.tmod b)
  | _ => none

mutual

/-- The value of operations that bind at least so strongly, and what follows. -/
def value? (lookUp : String → Int) : Nat → Nat → List Token → Option (Int × List Token)
  | 0, _, _ => none
  | fuel + 1, least, ts => do
    let (a, ts) ← operand? lookUp fuel ts
    valueFrom? lookUp fuel least a ts

/-- The operations that follow a value. -/
def valueFrom? (lookUp : String → Int) :
    Nat → Nat → Int → List Token → Option (Int × List Token)
  | 0, _, _, _ => none
  | fuel + 1, least, a, ts =>
    match ts with
    | .sign "?" :: r =>
      if least > 0 then some (a, ts)
      else do
        let (b, r) ← value? lookUp fuel 0 r
        match r with
        | .sign ":" :: r => do
          let (c, r) ← value? lookUp fuel 0 r
          some (if a = 0 then c else b, r)
        | _ => none
    | .sign s :: r =>
      match strength? s with
      | some n =>
        if n < least then some (a, ts)
        else do
          let (b, r) ← value? lookUp fuel (n + 1) r
          let c ← compute? s a b
          valueFrom? lookUp fuel least c r
      | none => some (a, ts)
    | ts => some (a, ts)

/-- A number, a variable, a bracket, or one of them behind a sign. -/
def operand? (lookUp : String → Int) : Nat → List Token → Option (Int × List Token)
  | 0, _ => none
  | fuel + 1, ts =>
    match ts with
    | .number n :: r => some (n, r)
    | .name s :: r => some (lookUp s, r)
    | .sign "-" :: r => (operand? lookUp fuel r).map fun (n, r) => (-n, r)
    | .sign "+" :: r => operand? lookUp fuel r
    | .sign "~" :: r => (operand? lookUp fuel r).map fun (n, r) => (-n - 1, r)
    | .sign "!" :: r => (operand? lookUp fuel r).map fun (n, r) => (if n = 0 then 1 else 0, r)
    | .sign "(" :: r => do
      let (n, r) ← value? lookUp fuel 0 r
      match r with
      | .sign ")" :: r => some (n, r)
      | _ => none
    | _ => none

end

/-- The value of an expression; an empty one is zero. -/
def eval? (lookUp : String → Int) (cs : List Char) : Option Int :=
  match tokens (cs.length + 1) cs with
  | [] => some 0
  | ts =>
    match value? lookUp (4 * ts.length + 4) 0 ts with
    | some (n, []) => some n
    | _ => none

/-- The variable and the new value of an assignment, as a text. -/
def assignment? (cs : List Char) : Option (String × List Char) :=
  let cs := cs.dropWhile (· == ' ')
  let word (c : Char) := c.isAlphanum || c == '_'
  let name := cs.takeWhile word
  let blank := (cs.drop name.length).dropWhile (· == ' ')
  if name.isEmpty || (name.head?.map Char.isDigit).getD false then none
  else
    let joint (op : List Char) (r : List Char) : Option (String × List Char) :=
      some (String.ofList name, name ++ op ++ '(' :: r ++ [')'])
    match blank with
    | '=' :: '=' :: _ => none
    | '=' :: r => some (String.ofList name, r)
    | '<' :: '<' :: '=' :: r => joint ['<', '<'] r
    | '>' :: '>' :: '=' :: r => joint ['>', '>'] r
    | c :: '=' :: r => if "+-*/%&|^".toList.contains c then joint [c] r else none
    | _ => none

end HostAgent.Shell.Arithmetic
