/-!
# Fields

What expansion makes of a word: pieces, some of which are split into fields.

* `Piece` — a piece of an expanded word.
* `fieldsOf` — the fields of pieces; `textOf`, `patternOf` — their text, and the text as a pattern.
-/

namespace HostAgent.Shell

/-- A piece of an expanded word.  Loose text is split into fields, and a boundary splits fields. -/
inductive Piece where
  | text (quoted : Bool) (s : String)
  | loose (s : String)
  | boundary
  deriving DecidableEq, Repr

/-- The fields of pieces, for a set of separators; the last field is the one under way. -/
def fieldsOf (isSeparator : Char → Bool) :
    List Piece → Option (List Char) → List String
  | [], none => []
  | [], some cs => [String.ofList cs.reverse]
  | .text q s :: ps, current =>
    let cs := s.toList.reverse ++ current.getD []
    fieldsOf isSeparator ps (if !q && s.isEmpty then current else some cs)
  | .boundary :: ps, none => fieldsOf isSeparator ps none
  | .boundary :: ps, some cs => String.ofList cs.reverse :: fieldsOf isSeparator ps none
  | .loose s :: ps, current =>
    let rec go : List Char → Option (List Char) → List String × Option (List Char)
      | [], current => ([], current)
      | c :: cs, current =>
        if isSeparator c then
          let (more, last) := go cs none
          (match current with
            | some w => (String.ofList w.reverse :: more, last)
            | none => (more, last))
        else go cs (some (c :: current.getD []))
    let (done, current) := go s.toList current
    done ++ fieldsOf isSeparator ps current

/-- The text of pieces, without splitting. -/
def textOf (ps : List Piece) : String :=
  String.join (ps.map fun
    | .text _ s => s
    | .loose s => s
    | .boundary => " ")

/-- The text of pieces as a pattern, in which quoted characters stand for themselves. -/
def patternOf (ps : List Piece) : List Char :=
  ps.flatMap fun
    | .text true s => s.toList.flatMap fun c => ['\\', c]
    | .text false s => s.toList
    | .loose s => s.toList
    | .boundary => [' ']

end HostAgent.Shell
