import HostAgent.Shell.Pattern
import HostAgent.Shell.Program.Condition

/-!
# Double brackets

Conditions that the extended shell reads itself: texts are compared with patterns, and the joints
are those of commands.
-/

namespace HostAgent.Shell

/-- The parts of a list between the places where a word stands. -/
def splitAtWord (word : String) (ws : List String) : List (List String) :=
  ws.splitOnP (· == word)

/-- Whether a condition without joints holds, in which words are compared with patterns. -/
def simplyHolds (s : Surroundings) (ws : List String) : Except String Bool :=
  match ws with
  | [a, "==", b] | [a, "=", b] => .ok (Pattern.isMatch b.toList a.toList)
  | [a, "!=", b] => .ok (!Pattern.isMatch b.toList a.toList)
  | [a, "=~", b] => .ok ((Regex.read b.toList).find? a.toList).isSome
  | "!" :: ws => (Program.Condition.holds s ws).map not
  | ws => Program.Condition.holds s ws

/-- Whether a condition with joints holds: one of several, each of which consists of several that
all have to hold. -/
def conditionHolds (s : Surroundings) (ws : List String) : Except String Bool := do
  let parts ← (splitAtWord "||" ws).mapM fun one => do
    let all ← (splitAtWord "&&" one).mapM (simplyHolds s)
    pure (all.all id)
  pure (parts.any id)

end HostAgent.Shell
