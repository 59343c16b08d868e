import HostAgent.Shell.Program.Options

/-!
# Expressions in arguments

Sums, products and comparisons, each operator and operand an argument of its own.
-/

namespace HostAgent.Shell.Program.Expression

/-- The integer that a text writes. -/
def integer? (s : String) : Option Int :=
  let read? (ds : List Char) : Option Nat :=
    if ds.isEmpty || !ds.all Char.isDigit then none else some (Printf.natOf ds)
  match s.toList with
  | '-' :: ds => (read? ds).map fun n => -(n : Int)
  | ds => (read? ds).map fun n => (n : Int)

/-- The operators, the loosest first. -/
def levels : List (List String) :=
  [["|"], ["&"], ["<", "<=", "=", "==", "!=", ">=", ">"], ["+", "-"], ["*", "/", "%"]]

/-- Whether a text counts as false. -/
def isFalse (s : String) : Bool :=
  s.isEmpty || integer? s == some 0

/-- The value of an operator. -/
def operate (op a b : String) : Except String String :=
  let arithmetic (f : Int → Int → Int) : Except String String :=
    match integer? a, integer? b with
    | some m, some n =>
      if n = 0 ∧ (op = "/" ∨ op = "%") then .error "division by zero" else .ok (toString (f m n))
    | _, _ => .error "non-integer argument"
  let compare (onNumbers : Int → Int → Bool) (onTexts : String → String → Bool) :
      Except String String :=
    let holds := match integer? a, integer? b with
      | some m, some n => onNumbers m n
      | _, _ => onTexts a b
    .ok (if holds then "1" else "0")
  match op with
  | "+" => arithmetic (· + ·)
  | "-" => arithmetic (· - ·)
  | "*" => arithmetic (· * ·)
  | "/" => arithmetic Int.tdiv
  | "%" => arithmetic Int.tmod
  | "<" => compare (fun m n => decide (m < n)) (fun a b => decide (a < b))
  | "<=" => compare (fun m n => decide (m ≤ n)) (fun a b => !decide (b < a))
  | "=" | "==" => compare (· == ·) (· == ·)
  | "!=" => compare (· != ·) (· != ·)
  | ">=" => compare (fun m n => decide (n ≤ m)) (fun a b => !decide (a < b))
  | ">" => compare (fun m n => decide (n < m)) (fun a b => decide (b < a))
  | "|" => .ok (if !isFalse a then a else if !isFalse b then b else "0")
  | _ => .ok (if isFalse a || isFalse b then "0" else a)

mutual

/-- The value at the beginning of arguments, for operators that bind at least so tightly, and what
is left. -/
def value : Nat → List (List String) → List String → Except String (String × List String)
  | 0, _, _ => .error "syntax error"
  | fuel + 1, [], ws =>
    match ws with
    | [] => .error "syntax error"
    | "(" :: ws => do
      match ← value fuel levels ws with
      | (a, ")" :: ws) => pure (a, ws)
      | _ => throw "syntax error: expecting ')'"
    | "length" :: a :: ws => .ok (toString a.length, ws)
    | a :: ws => .ok (a, ws)
  | fuel + 1, ops :: more, ws => do
    let (a, ws) ← value fuel more ws
    further fuel ops more a ws

/-- The value with further operands of the same operators. -/
def further : Nat → List String → List (List String) → String → List String →
    Except String (String × List String)
  | 0, _, _, _, _ => .error "syntax error"
  | fuel + 1, ops, more, a, ws =>
    match ws with
    | [] => .ok (a, [])
    | op :: rest =>
      if !ops.contains op then .ok (a, ws)
      else if rest.isEmpty then .error ("syntax error: missing argument after '" ++ op ++ "'")
      else do
        let (b, rest) ← value fuel more rest
        further fuel ops more (← operate op a b) rest

end

/-- Writes the value of its arguments; it fails if that counts as false. -/
def run (args : List String) : Outcome :=
  match args with
  | [] => misused "expr" 2 "missing operand"
  | args =>
    match value (10 * args.length + 10) levels args with
    | .error e => fails 2 ("expr: " ++ e ++ "\n")
    | .ok (_, a :: _) => fails 2 ("expr: syntax error: unexpected argument '" ++ a ++ "'\n")
    | .ok (v, []) => { writes (Printf.bytes (v ++ "\n")) with status := if isFalse v then 1 else 0 }

end HostAgent.Shell.Program.Expression
