import HostAgent.Text.Hex

/-!
# Quoted texts of TOML

Texts between double quotes know escapes, texts between single quotes do not.  Either kind may
stand between three quotes and then run over several lines.

* `line?` — a text within one line, behind its first quote.
* `block?` — a text of several lines, behind its three quotes.
* `quoted?` — whichever begins here.
-/

namespace HostAgent.Toml

/-- What may stand in a line: anything but control characters, of which the tab is none. -/
def isLineChar (c : Char) : Bool :=
  c == '\t' || (c.val ≥ 0x20 && c.val != 0x7F)

/-- The character of a number of hexadecimal digits, if it is one. -/
def scalarValue? (digits : List Char) : Option Char := do
  let n ← digits.foldlM (fun n c => (Text.Hex.value? c).map (16 * n + ·)) 0
  if n < 0xD800 ∨ (0xDFFF < n ∧ n < 0x110000) then some (Char.ofNat n) else none

/-- The character of an escape, by the letter behind the backslash. -/
def escape? (c : Char) : Option Char :=
  match c with
  | 'b' => some '\x08'
  | 't' => some '\t'
  | 'n' => some '\n'
  | 'f' => some '\x0c'
  | 'r' => some '\r'
  | '"' => some '"'
  | '\\' => some '\\'
  | _ => none

/-- A text within one line, up to its closing quote; what is read comes last first. -/
def line? (quote : Char) (rev : List Char) (cs : List Char) : Option (List Char × List Char) :=
  match cs with
  | [] => none
  | '\\' :: 'u' :: a :: b :: c :: d :: r =>
    if quote = '"' then
      match scalarValue? [a, b, c, d] with
      | some x => line? quote (x :: rev) r
      | none => none
    else line? quote ('\\' :: rev) ('u' :: a :: b :: c :: d :: r)
  | '\\' :: 'U' :: a :: b :: c :: d :: e :: f :: g :: h :: r =>
    if quote = '"' then
      match scalarValue? [a, b, c, d, e, f, g, h] with
      | some x => line? quote (x :: rev) r
      | none => none
    else line? quote ('\\' :: rev) ('U' :: a :: b :: c :: d :: e :: f :: g :: h :: r)
  | c :: r =>
    if c = quote then some (rev.reverse, r)
    else if c = '\\' ∧ quote = '"' then
      match r with
      | e :: r =>
        match escape? e with
        | some x => line? quote (x :: rev) r
        | none => none
      | [] => none
    else if isLineChar c then line? quote (c :: rev) r
    else none
termination_by cs.length

/-- What follows blanks and line breaks. -/
def skipLines : List Char → List Char
  | ' ' :: r => skipLines r
  | '\t' :: r => skipLines r
  | '\n' :: r => skipLines r
  | '\x0d' :: '\n' :: r => skipLines r
  | cs => cs

/-- Skipping adds nothing. -/
theorem length_skipLines (cs : List Char) : (skipLines cs).length ≤ cs.length := by
  fun_induction skipLines cs <;> simp_all <;> omega

/-- Whether only blanks stand before the next line break, which is there. -/
def blankToEnd : List Char → Bool
  | ' ' :: r => blankToEnd r
  | '\t' :: r => blankToEnd r
  | '\n' :: _ => true
  | '\x0d' :: '\n' :: _ => true
  | _ => false

/-- A text of several lines, up to its closing quotes; what is read comes last first.  Up to two
quotes may stand directly before the closing ones. -/
def block? (quote : Char) (rev : List Char) (cs : List Char) : Option (List Char × List Char) :=
  match cs with
  | [] => none
  | '\\' :: 'u' :: a :: b :: c :: d :: r =>
    if quote = '"' then
      match scalarValue? [a, b, c, d] with
      | some x => block? quote (x :: rev) r
      | none => none
    else block? quote ('\\' :: rev) ('u' :: a :: b :: c :: d :: r)
  | '\\' :: 'U' :: a :: b :: c :: d :: e :: f :: g :: h :: r =>
    if quote = '"' then
      match scalarValue? [a, b, c, d, e, f, g, h] with
      | some x => block? quote (x :: rev) r
      | none => none
    else block? quote ('\\' :: rev) ('U' :: a :: b :: c :: d :: e :: f :: g :: h :: r)
  | '\x0d' :: '\n' :: r => block? quote ('\n' :: rev) r
  | c :: r =>
    if c = quote then
      let more := (r.takeWhile (· == quote)).length
      if more ≥ 4 then some (quote :: quote :: rev |>.reverse, r.drop 4)
      else if more ≥ 2 then some ((List.replicate (more - 2) quote ++ rev).reverse, r.drop more)
      else block? quote (c :: rev) r
    else if c = '\\' ∧ quote = '"' then
      if blankToEnd r then block? quote rev (skipLines r)
      else match r with
        | e :: r =>
          match escape? e with
          | some x => block? quote (x :: rev) r
          | none => none
        | [] => none
    else if c = '\n' ∨ isLineChar c then block? quote (c :: rev) r
    else none
termination_by cs.length
decreasing_by
  all_goals simp_wf
  all_goals try omega
  all_goals
    have := length_skipLines r
    omega

/-- The text without a line break at its start. -/
def dropFirstBreak : List Char → List Char
  | '\n' :: r => r
  | '\x0d' :: '\n' :: r => r
  | cs => cs

/-- A text in quotes, and what follows. -/
def quoted? (cs : List Char) : Option (List Char × List Char) :=
  match cs with
  | '"' :: '"' :: '"' :: r => block? '"' [] (dropFirstBreak r)
  | '\'' :: '\'' :: '\'' :: r => block? '\'' [] (dropFirstBreak r)
  | '"' :: r => line? '"' [] r
  | '\'' :: r => line? '\'' [] r
  | _ => none

end HostAgent.Toml
