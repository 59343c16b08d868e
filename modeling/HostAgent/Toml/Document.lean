import HostAgent.Toml.Quoted
import HostAgent.Toml.Scalar
import HostAgent.Toml.Tree

/-!
# TOML documents

Lines of keys and values under headers of tables, with comments between them.

* `value?` — a value: text, scalar, list, or table in braces.
* `key?` — a key of one or more parts.
* `parse?` — a whole document.

Lists and tables in braces nest less than eighty deep, and a key has less than eighty parts.
-/

namespace HostAgent.Toml

/-- What nests, or follows in a key, stays below this number. -/
def depthLimit : Nat := 80

/-- Blanks within a line. -/
def skipBlanks (cs : List Char) : List Char :=
  cs.dropWhile fun c => c == ' ' || c == '\t'

/-- The rest of a comment, up to the end of its line; `none` if it holds a control character. -/
def skipComment? : List Char → Option (List Char)
  | [] => some []
  | '\n' :: r => some ('\n' :: r)
  | '\x0d' :: '\n' :: r => some ('\n' :: r)
  | c :: r => if isLineChar c then skipComment? r else none

/-- Blanks, line breaks and comments, at most so many of them. -/
def skipGaps? : Nat → List Char → Option (List Char)
  | 0, _ => none
  | fuel + 1, cs =>
    match skipBlanks cs with
    | '\n' :: r => skipGaps? fuel r
    | '\x0d' :: '\n' :: r => skipGaps? fuel r
    | '#' :: r => (skipComment? r).bind (skipGaps? fuel)
    | cs => some cs

/-- What may stand in a key without quotes. -/
def isKeyChar (c : Char) : Bool :=
  c.isAlphanum || c == '_' || c == '-'

/-- One part of a key. -/
def keyPart? (cs : List Char) : Option (String × List Char) :=
  match cs with
  | '"' :: r => (line? '"' [] r).map fun (k, r) => (String.ofList k, r)
  | '\'' :: r => (line? '\'' [] r).map fun (k, r) => (String.ofList k, r)
  | _ =>
    let k := cs.takeWhile isKeyChar
    if k.isEmpty then none else some (String.ofList k, cs.dropWhile isKeyChar)

/-- A key of at most so many parts, with the blanks around it. -/
def key? : Nat → List Char → Option (List String × List Char)
  | 0, _ => none
  | fuel + 1, cs => do
    let (part, r) ← keyPart? (skipBlanks cs)
    match skipBlanks r with
    | '.' :: r => do
      let (parts, r) ← key? fuel r
      some (part :: parts, r)
    | r => some ([part], r)

/-- What may stand in a scalar. -/
def isScalarChar (c : Char) : Bool :=
  c.isAlphanum || c == '_' || c == '-' || c == '+' || c == '.' || c == ':'

/-- The run of characters of a scalar.  A blank between a date and a time belongs to it. -/
def scalarRun (cs : List Char) : List Char × List Char :=
  let run := cs.takeWhile isScalarChar
  let rest := cs.dropWhile isScalarChar
  match date? run, rest with
  | some [], ' ' :: r =>
    match r with
    | c :: _ =>
      if c.isDigit then (run ++ ' ' :: r.takeWhile isScalarChar, r.dropWhile isScalarChar)
      else (run, rest)
    | [] => (run, rest)
  | _, _ => (run, rest)

mutual

/-- A value, and what follows.  The first number bounds the steps, the second the depth. -/
def value? : Nat → Nat → List Char → Option (Datum × List Char)
  | 0, _, _ => none
  | fuel + 1, depth, cs =>
    match cs with
    | '[' :: r =>
      match depth with
      | 0 => none
      | depth + 1 => items? fuel depth [] r
    | '\x7b' :: r =>
      match depth with
      | 0 => none
      | depth + 1 =>
        match skipBlanks r with
        | '\x7d' :: r => some (.record [], r)
        | r => members? fuel depth .empty r
    | '"' :: _ => (quoted? cs).map fun (s, r) => (.text (String.ofList s), r)
    | '\'' :: _ => (quoted? cs).map fun (s, r) => (.text (String.ofList s), r)
    | cs =>
      let (run, r) := scalarRun cs
      (scalar? run).map fun d => (d, r)

/-- The items of a list up to its bracket; what is read comes last first. -/
def items? : Nat → Nat → List Datum → List Char → Option (Datum × List Char)
  | 0, _, _, _ => none
  | fuel + 1, depth, rev, cs =>
    match skipGaps? fuel cs with
    | none => none
    | some (']' :: r) => some (.list rev.reverse, r)
    | some cs =>
      match value? fuel depth cs with
      | none => none
      | some (d, r) =>
        match skipGaps? fuel r with
        | some (',' :: r) => items? fuel depth (d :: rev) r
        | some (']' :: r) => some (.list (d :: rev).reverse, r)
        | _ => none

/-- The members of a table in braces up to its brace. -/
def members? : Nat → Nat → Node → List Char → Option (Datum × List Char)
  | 0, _, _, _ => none
  | fuel + 1, depth, table, cs =>
    match key? (depthLimit - 1) cs with
    | some (path, '=' :: r) =>
      match value? fuel depth (skipBlanks r) with
      | none => none
      | some (d, r) =>
        match table.insert path.dropLast (path.getLastD "") d with
        | none => none
        | some table =>
          match skipBlanks r with
          | ',' :: r => members? fuel depth table r
          | '\x7d' :: r => some (table.datum, r)
          | _ => none
    | _ => none

end

/-- The end of a line: blanks, perhaps a comment, and a line break or the end of the text. -/
def endOfLine? (cs : List Char) : Option (List Char) := do
  let cs ← match skipBlanks cs with
    | '#' :: r => skipComment? r
    | cs => some cs
  match cs with
  | [] => some []
  | '\n' :: r => some r
  | '\x0d' :: '\n' :: r => some r
  | _ => none

/-- A header, behind its brackets: the path it opens, and what follows the closing ones. -/
def header? (close : List Char) (cs : List Char) : Option (List String × List Char) := do
  let (path, r) ← key? (depthLimit - 1) cs
  if close.isPrefixOf r then some (path, r.drop close.length) else none

/-- The lines of a document: `place` is the path of the table that the last header opened. -/
def lines? (bound : Nat) : Nat → Node → List String → List Char → Option Node
  | 0, _, _, _ => none
  | fuel + 1, root, place, cs =>
    match skipBlanks cs with
    | [] => some root
    | '\n' :: r => lines? bound fuel root place r
    | '\x0d' :: '\n' :: r => lines? bound fuel root place r
    | '#' :: r =>
      match skipComment? r with
      | some r => lines? bound fuel root place r
      | none => none
    | '[' :: '[' :: r =>
      match header? [']', ']'] r with
      | none => none
      | some (path, r) =>
        match root.openItem path.dropLast (path.getLastD ""), endOfLine? r with
        | some root, some r => lines? bound fuel root path r
        | _, _ => none
    | '[' :: r =>
      match header? [']'] r with
      | none => none
      | some (path, r) =>
        match root.openTable path.dropLast (path.getLastD ""), endOfLine? r with
        | some root, some r => lines? bound fuel root path r
        | _, _ => none
    | cs =>
      match key? (depthLimit - 1) cs with
      | some (path, '=' :: r) =>
        match value? bound (depthLimit - 1) (skipBlanks r) with
        | none => none
        | some (d, r) =>
          let add := Node.insert path.dropLast (path.getLastD "") d
          match Node.within false add place root, endOfLine? r with
          | some root, some r => lines? bound fuel root place r
          | _, _ => none
      | _ => none

/-- Reads a document.  A byte order mark at its start does not count.  Each step takes a character,
so the length of the text bounds their number. -/
def parse? (s : String) : Option Datum := do
  let cs := s.toList
  let cs := if cs.head? = some '\ufeff' then cs.tail else cs
  let root ← lines? (2 * cs.length + 2) (cs.length + 1) .empty [] cs
  some root.datum

end HostAgent.Toml
