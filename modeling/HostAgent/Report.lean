/-!
# Reports of failure

What is printed when the agent cannot do what it was told: what it could not do, and why, from the
nearest cause to the farthest.
-/

namespace HostAgent

/-- A failure: what could not be done, and the causes. -/
structure Report where
  context : String
  causes : List String := []
  deriving DecidableEq, Repr

namespace Report

/-- A text behind a mark; its further lines are indented as far. -/
def indented (mark : String) (text : String) : String :=
  let margin := String.ofList (List.replicate mark.length ' ')
  mark ++ ("\n" ++ margin).intercalate ((text.toList.splitOn '\n').map String.ofList)

/-- The mark before a cause: its number, if there are several. -/
def mark (several : Bool) (n : Nat) : String :=
  if several then
    let digits := toString n
    String.ofList (List.replicate (5 - digits.length) ' ') ++ digits ++ ": "
  else "    "

/-- The text of a report. -/
def text (r : Report) : String :=
  let several := r.causes.length > 1
  let causes := r.causes.mapIdx fun n c => "\n" ++ indented (mark several n) c
  "Error: " ++ r.context ++
    (if r.causes.isEmpty then "" else "\n\nCaused by:" ++ String.join causes) ++ "\n"

end Report

end HostAgent
