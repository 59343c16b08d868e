import HostAgent.Json.Escaped
import HostAgent.Json.Token

/-!
# Raw JSON

The tree of a JSON text whose texts and numbers have been checked for their shape only.  A reader
that skips a member has thereby checked as much of it as it will ever check; a reader that wants
a member decodes it with `Raw.text?`, `Raw.datum?` or `Raw.members?`.

* `Raw.ofTokens?` — builds the tree with an explicit stack, so that any depth of nesting is read.
* `Raw.fields?` — the members that a reader asks for, from a record or from a list that gives
  them in order.
-/

namespace HostAgent.Json

/-- A JSON value with undecoded texts. -/
inductive Raw where
  | null
  | bool (b : Bool)
  | number (n : Numeral)
  | text (body : List Char)
  | list (items : List Raw)
  | record (members : List (List Char × Raw))
  deriving Inhabited

namespace Raw

/-- A list or record that is not yet closed; what it holds comes last first. -/
inductive Frame where
  | list (items : List Raw)
  | record (members : List (List Char × Raw))
  | member (members : List (List Char × Raw)) (key : List Char)

/-- What may come next. -/
inductive Expecting where
  | value
  | firstItem
  | firstKey
  | key
  | colon
  | after (v : Raw)

/-- The open frames, innermost first, and what may come next. -/
structure Builder where
  frames : List Frame := []
  expecting : Expecting := .value

namespace Builder

/-- A token that begins a value. -/
def begin? (frames : List Frame) : Token → Option Builder
  | .null => some ⟨frames, .after .null⟩
  | .bool b => some ⟨frames, .after (.bool b)⟩
  | .number n => some ⟨frames, .after (.number n)⟩
  | .text body => some ⟨frames, .after (.text body)⟩
  | .openList => some ⟨.list [] :: frames, .firstItem⟩
  | .openRecord => some ⟨.record [] :: frames, .firstKey⟩
  | _ => none

/-- What one token does. -/
def step? (b : Builder) (t : Token) : Option Builder :=
  match b.expecting, t, b.frames with
  | .value, t, frames => begin? frames t
  | .firstItem, .closeList, .list _ :: frames => some ⟨frames, .after (.list [])⟩
  | .firstItem, t, frames => begin? frames t
  | .firstKey, .closeRecord, .record _ :: frames => some ⟨frames, .after (.record [])⟩
  | .firstKey, .text key, .record ms :: frames => some ⟨.member ms key :: frames, .colon⟩
  | .key, .text key, .record ms :: frames => some ⟨.member ms key :: frames, .colon⟩
  | .colon, .colon, frames => some ⟨frames, .value⟩
  | .after v, .comma, .list vs :: frames => some ⟨.list (v :: vs) :: frames, .value⟩
  | .after v, .closeList, .list vs :: frames =>
    some ⟨frames, .after (.list (v :: vs).reverse)⟩
  | .after v, .comma, .member ms key :: frames =>
    some ⟨.record ((key, v) :: ms) :: frames, .key⟩
  | .after v, .closeRecord, .member ms key :: frames =>
    some ⟨frames, .after (.record ((key, v) :: ms).reverse)⟩
  | _, _, _ => none

/-- The value, if it is complete. -/
def finish? (b : Builder) : Option Raw :=
  match b.frames, b.expecting with
  | [], .after v => some v
  | _, _ => none

end Builder

/-- The value that a list of tokens writes. -/
def ofTokens? (ts : List Token) : Option Raw := do
  let b ← ts.foldlM Builder.step? {}
  b.finish?

/-- Reads one value, with white space around it. -/
def parse? (s : String) : Option Raw := do
  let ts ← Token.scan? s.toList
  ofTokens? ts

/-- A text, decoded. -/
def text? : Raw → Option String
  | .text body => (Escaped.decode? body).map String.ofList
  | _ => none

/-- The members of a record under their decoded keys. -/
def members? : Raw → Option (List (String × Raw))
  | .record ms => ms.mapM fun (key, v) => (Escaped.decode? key).map fun k => (String.ofList k, v)
  | _ => none

/-- The values of the named members, `none` for an absent one.  A record gives each name at most
once, among any others; a list gives them in the order of the names and may stop early. -/
def fields? (names : List String) : Raw → Option (List (Option Raw))
  | .list items =>
    if items.length ≤ names.length then
      some (items.map some ++ List.replicate (names.length - items.length) none)
    else none
  | .record ms => do
    let ms ← members? (.record ms)
    names.mapM fun name =>
      match ms.filter (·.1 == name) with
      | [] => some none
      | [(_, v)] => some (some v)
      | _ => none
  | _ => none

mutual

/-- The value with every text and number understood. -/
def datum? : Raw → Option Datum
  | .null => some .null
  | .bool b => some (.bool b)
  | .number n => n.datum?
  | .text body => (Escaped.decode? body).map fun cs => .text (String.ofList cs)
  | .list items => (dataOf? items).map .list
  | .record ms => (membersOf? ms).map .record

/-- The values of all items. -/
def dataOf? : List Raw → Option (List Datum)
  | [] => some []
  | v :: vs => do
    let d ← datum? v
    let ds ← dataOf? vs
    pure (d :: ds)

/-- The values of all members. -/
def membersOf? : List (List Char × Raw) → Option (List (String × Datum))
  | [] => some []
  | (key, v) :: ms => do
    let k ← Escaped.decode? key
    let d ← datum? v
    let ds ← membersOf? ms
    pure ((String.ofList k, d) :: ds)

end

end Raw

/-- Reads one JSON value with every text and number understood. -/
def parse? (s : String) : Option Datum := do
  let r ← Raw.parse? s
  r.datum?

end HostAgent.Json
