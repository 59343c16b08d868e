import HostAgent.Decimal.Shortest
import HostAgent.Word

/-!
# Formatted output

Texts with escapes, and formats with places for arguments.  Escapes may write single bytes, so the
outcome is bytes.

* `escaped` — the bytes of a text with escapes, and whether one of them ends all output.
* `format` — the bytes of a format for arguments, which is used again while arguments are left, and
  what is wrong with arguments that should be numbers.
-/

namespace HostAgent.Shell.Printf

/-- The bytes of a character. -/
def utf8 (c : Char) : List UInt8 :=
  String.utf8EncodeChar c

/-- The bytes of a text. -/
def bytes (s : String) : List UInt8 :=
  s.toUTF8.data.toList

/-- Whether a character is an octal digit. -/
def isOctal (c : Char) : Bool :=
  '0' ≤ c && c ≤ '7'

/-- The value of a hexadecimal digit. -/
def hexValue (c : Char) : Nat :=
  if c.isDigit then c.toNat - 48 else c.toLower.toNat - 87

/-- Whether a character is a hexadecimal digit. -/
def isHex (c : Char) : Bool :=
  c.isDigit || ('a' ≤ c.toLower && c.toLower ≤ 'f')

/-- The escapes that stand for one character. -/
def simple? (c : Char) : Option UInt8 :=
  match c with
  | 'a' => some 7
  | 'b' => some 8
  | 't' => some 9
  | 'n' => some 10
  | 'v' => some 11
  | 'f' => some 12
  | 'r' => some 13
  | '\\' => some 92
  | _ => none

/-- How escapes are read: which digits write a byte, and what else is known. -/
structure Style where
  /-- Octal digits stand behind a zero only. -/
  zeroFirst : Bool := false
  /-- Hexadecimal digits behind an x write a byte, and `e` the escape character. -/
  extended : Bool := false

/-- The bytes up to an escape that ends all output, and whether there is one. -/
def escaped (style : Style) : Nat → List Char → List UInt8 × Bool
  | 0, _ => ([], false)
  | fuel + 1, cs =>
    let add (bs : List UInt8) (r : List Char) : List UInt8 × Bool :=
      let (more, stop) := escaped style fuel r
      (bs ++ more, stop)
    match cs with
    | [] => ([], false)
    | '\\' :: 'c' :: r => if style.zeroFirst || style.extended then ([], true) else add [92, 99] r
    | '\\' :: c :: r =>
      match simple? c with
      | some b => add [b] r
      | none =>
        let digits := if style.zeroFirst then
            if c = '0' then some ((r.take 3).takeWhile isOctal, r) else none
          else if isOctal c then some (((c :: r).take 3).takeWhile isOctal, c :: r) else none
        match digits with
        | some (ds, source) =>
          let n := ds.foldl (fun n d => 8 * n + (d.toNat - 48)) 0
          add [UInt8.ofNat n] (source.drop ds.length)
        | none =>
          if style.extended && c = 'e' then add [27] r
          else if style.extended && c = '"' then add [34] r
          else if style.extended && c = 'x' && (r.head?.map isHex).getD false then
            let ds := (r.take 2).takeWhile isHex
            add [UInt8.ofNat (ds.foldl (fun n d => 16 * n + hexValue d) 0)] (r.drop ds.length)
          else add (92 :: utf8 c) r
    | c :: r => add (utf8 c) r

/-- A piece of a format. -/
inductive Piece where
  | bytes (bs : List UInt8)
  | field (flags : List Char) (width : Nat) (precision : Option Nat) (conversion : Char)
  | stop
  deriving DecidableEq, Repr

/-- The number that digits write. -/
def natOf (ds : List Char) : Nat :=
  ds.foldl (fun n d => 10 * n + (d.toNat - 48)) 0

/-- The pieces of a format. -/
def pieces (style : Style) : Nat → List Char → List Piece
  | 0, _ => []
  | fuel + 1, cs =>
    match cs with
    | [] => []
    | '%' :: '%' :: r => .bytes [37] :: pieces style fuel r
    | '%' :: r =>
      let flag (c : Char) := c == '-' || c == '+' || c == ' ' || c == '0' || c == '#'
      let flags := r.takeWhile flag
      let r := r.drop flags.length
      let width := r.takeWhile Char.isDigit
      let r := r.drop width.length
      let (precision, r) := match r with
        | '.' :: more => (some (natOf (more.takeWhile Char.isDigit)), more.dropWhile Char.isDigit)
        | r => (none, r)
      match r with
      | c :: r => .field flags (natOf width) precision c :: pieces style fuel r
      | [] => [.bytes [37]]
    | cs =>
      let plain := cs.takeWhile (· != '%')
      let (bs, stop) := escaped style (plain.length + 1) plain
      if stop then [.bytes bs, .stop] else .bytes bs :: pieces style fuel (cs.drop plain.length)

/-- A text filled up to a width. -/
def fill (flags : List Char) (width : Nat) (bs : List UInt8) : List UInt8 :=
  let pad := List.replicate (width - bs.length) 32
  if flags.contains '-' then bs ++ pad else pad ++ bs

/-- The integer that an argument writes. -/
def intOf (s : String) : Int :=
  let unsigned (cs : List Char) : Nat :=
    match cs with
    | '0' :: 'x' :: r => (r.takeWhile isHex).foldl (fun n d => 16 * n + hexValue d) 0
    | '0' :: r => (r.takeWhile isOctal).foldl (fun n d => 8 * n + (d.toNat - 48)) 0
    | cs => natOf (cs.takeWhile Char.isDigit)
  match s.toList with
  | '-' :: r => -Int.ofNat (unsigned r)
  | '+' :: r => Int.ofNat (unsigned r)
  | '\'' :: c :: _ | '"' :: c :: _ => c.toNat
  | cs => Int.ofNat (unsigned cs)

/-- Digits of a number in a base. -/
def digitsIn (base n : Nat) : List Char :=
  Nat.toDigits base n

/-- The text of an integer in a field. -/
def integer (flags : List Char) (width : Nat) (precision : Option Nat) (conversion : Char)
    (n : Int) : List UInt8 :=
  let digits := match conversion with
    | 'x' => digitsIn 16 (if n < 0 then (n + Word.size64).toNat else n.toNat)
    | 'X' => (digitsIn 16 (if n < 0 then (n + Word.size64).toNat else n.toNat)).map Char.toUpper
    | 'o' => digitsIn 8 (if n < 0 then (n + Word.size64).toNat else n.toNat)
    | 'u' => digitsIn 10 (if n < 0 then (n + Word.size64).toNat else n.toNat)
    | _ => digitsIn 10 n.natAbs
  let signed := conversion == 'd' || conversion == 'i'
  let sign := if signed && n < 0 then ['-'] else if signed && flags.contains '+' then ['+'] else []
  let digits := List.replicate (precision.getD 0 - digits.length) '0' ++ digits
  let zeros := if flags.contains '0' && precision.isNone && !flags.contains '-' then
      List.replicate (width - sign.length - digits.length) '0' else []
  fill flags width (bytes (String.ofList (sign ++ zeros ++ digits)))

/-- What is wrong with an argument that should be a number. -/
inductive Fault where
  | notNumber (arg : String)
  | trailing (arg : String)
  deriving DecidableEq, Repr

/-- What is wrong with an argument that should be an integer.  An empty one counts as zero. -/
def intFault? (s : String) : Option Fault :=
  let rest (cs : List Char) : Option Fault :=
    let left := match cs with
      | '0' :: 'x' :: r => r.dropWhile isHex
      | '0' :: r => r.dropWhile isOctal
      | cs => cs.dropWhile Char.isDigit
    if left.isEmpty then none
    else if left.length = cs.length then some (.notNumber s) else some (.trailing s)
  match s.toList with
  | [] => none
  | '-' :: r | '+' :: r => if r.isEmpty then some (.notNumber s) else rest r
  | '\'' :: _ | '"' :: _ => none
  | cs => rest cs

/-- The double that an argument writes with digits, a point and a power, and what is left of it. -/
def doubleOf (s : String) : Float × List Char :=
  let (negative, cs) := match s.toList with
    | '-' :: r => (true, r)
    | '+' :: r => (false, r)
    | cs => (false, cs)
  let whole := cs.takeWhile Char.isDigit
  let (fraction, left) := match cs.drop whole.length with
    | '.' :: r => (r.takeWhile Char.isDigit, r.dropWhile Char.isDigit)
    | r => ([], r)
  let x := Float.ofScientific (natOf (whole ++ fraction)) true fraction.length
  (if negative then -x else x, left)

/-- A quotient to the nearest integer; a half goes to the even neighbour. -/
def rounded (numerator denominator : Nat) : Nat :=
  let n := numerator / denominator
  let twice := 2 * (numerator % denominator)
  if twice < denominator || (twice = denominator && n % 2 = 0) then n else n + 1

/-- The text of a double with so many places. -/
def fixed (flags : List Char) (width places : Nat) (x : Float) : List UInt8 :=
  let d := Decimal.Dyadic.ofBits x.toBits
  let n := rounded (d.m * Nat.pow 2 d.q.toNat * Nat.pow 10 places) (Nat.pow 2 (-d.q).toNat)
  let digits := (toString n).toList
  let digits := List.replicate (places + 1 - digits.length) '0' ++ digits
  let whole := digits.take (digits.length - places)
  let text := if places = 0 then whole else whole ++ '.' :: digits.drop (digits.length - places)
  let sign :=
    if x.toBits.toNat ≥ Word.half64 then ['-'] else if flags.contains '+' then ['+'] else []
  let zeros := if flags.contains '0' && !flags.contains '-' then
      List.replicate (width - sign.length - text.length) '0' else []
  fill flags width (bytes (String.ofList (sign ++ zeros ++ text)))

/-- What comes of a format: bytes, arguments that are left, whether all output ends, and faults. -/
structure Rendering where
  bytes : List UInt8 := []
  left : List String := []
  stop : Bool := false
  faults : List Fault := []
  deriving DecidableEq, Repr

/-- What comes of one field for an argument. -/
def field (style : Style) (flags : List Char) (width : Nat) (precision : Option Nat)
    (conversion : Char) (arg : String) : Rendering :=
  let cut (bs : List UInt8) := match precision with
    | some n => bs.take n
    | none => bs
  match conversion with
  | 's' => { bytes := fill flags width (cut (bytes arg)) }
  | 'b' =>
    let (bs, stop) := escaped { style with zeroFirst := true } (arg.length + 1) arg.toList
    { bytes := fill flags width (cut bs), stop }
  | 'c' => { bytes := fill flags width ((arg.toList.take 1).flatMap utf8) }
  | 'd' | 'i' | 'u' | 'x' | 'X' | 'o' =>
    { bytes := integer flags width precision conversion (intOf arg)
      faults := (intFault? arg).toList }
  | 'f' | 'F' =>
    let (x, left) := doubleOf arg
    { bytes := fixed flags width (precision.getD 6) x
      faults := if left.isEmpty then []
        else if left.length = arg.length then [.notNumber arg] else [.trailing arg] }
  | c => { bytes := 37 :: utf8 c }

/-- What comes of pieces for arguments. -/
def apply (style : Style) : List Piece → List String → Rendering
  | [], args => { left := args }
  | .stop :: _, args => { left := args, stop := true }
  | .bytes bs :: ps, args =>
    let more := apply style ps args
    { more with bytes := bs ++ more.bytes }
  | .field flags width precision conversion :: ps, args =>
    let here := field style flags width precision conversion (args.headD "")
    if here.stop then here
    else
      let more := apply style ps args.tail
      { more with bytes := here.bytes ++ more.bytes, faults := here.faults ++ more.faults }

/-- What comes of pieces that are used again while arguments are left. -/
def repeated (style : Style) (ps : List Piece) : Nat → List String → Rendering
  | 0, args => apply style ps args
  | fuel + 1, args =>
    let here := apply style ps args
    if here.stop || here.left.isEmpty || here.left.length = args.length then here
    else
      let more := repeated style ps fuel here.left
      { more with bytes := here.bytes ++ more.bytes, faults := here.faults ++ more.faults }

/-- What comes of a format for arguments. -/
def format (extended : Bool) (form : String) (args : List String) : Rendering :=
  let style : Style := { extended }
  repeated style (pieces style (form.length + 1) form.toList) args.length args

/-- The bytes of a text with the escapes that an echo knows, and whether all output ends. -/
def echoed (extended : Bool) (s : String) : List UInt8 × Bool :=
  escaped { zeroFirst := true, extended } (s.length + 1) s.toList

end HostAgent.Shell.Printf
