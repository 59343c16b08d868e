/-!
# Scripts

The words and commands that a shell script consists of.

* `Part`, `Word` — text, and places that stand for text; quoted ones are not split into fields.
* `Redirect` — where a channel of a command leads.
* `Script` — commands and how they are put together.
-/

namespace HostAgent.Shell

/-- A piece of a word.  What stands inside of an expansion is kept as it is written. -/
inductive Part where
  | text (quoted : Bool) (chars : List Char)
  | param (quoted : Bool) (name : String) (operator : String) (argument : List Char)
  | output (quoted : Bool) (source : List Char)
  | sum (quoted : Bool) (source : List Char)
  deriving DecidableEq, Repr, Inhabited

/-- A word: its pieces, in order. -/
abbrev Word := List Part

/-- The text of a word without quotes and expansions, if it is that. -/
def plain? : Word → Option String
  | [.text false cs] => some (String.ofList cs)
  | _ => none

/-- What is done with a channel. -/
inductive Direction where
  | input
  | output
  | append
  | copy
  | document
  deriving DecidableEq, Repr, Inhabited

/-- A redirection of a channel to a file or to another channel. -/
structure Redirect where
  channel : Nat
  direction : Direction
  target : Word
  deriving DecidableEq, Repr, Inhabited

/-- A script. -/
inductive Script where
  | nothing
  | simple (assigned : List (String × Word)) (words : List Word) (redirects : List Redirect)
  | piped (negated : Bool) (stages : List Script)
  | both (a b : Script)
  | either (a b : Script)
  | sequence (a b : Script)
  | background (a : Script)
  | subshell (a : Script) (redirects : List Redirect)
  | group (a : Script) (redirects : List Redirect)
  | choice (condition thenDo elseDo : Script) (redirects : List Redirect)
  | loop (untilTrue : Bool) (condition body : Script) (redirects : List Redirect)
  | each (name : String) (words : Option (List Word)) (body : Script) (redirects : List Redirect)
  | select (word : Word) (arms : List (List Word × Script)) (redirects : List Redirect)
  | function (name : String) (body : Script)
  deriving Inhabited

/-- The redirections of a whole command. -/
def Script.redirects : Script → List Redirect
  | .simple _ _ rs | .subshell _ rs | .group _ rs | .choice _ _ _ rs | .loop _ _ _ rs
  | .each _ _ _ rs | .select _ _ rs => rs
  | _ => []

/-- Whether both outputs of a command lead elsewhere. -/
def Script.isDetached (s : Script) : Bool :=
  s.redirects.any (·.channel == 1) && s.redirects.any (·.channel == 2)

/-- Why a text is no script. -/
inductive Fault where
  | unterminated (quote : Char)
  | unexpected (token : String)
  | endOfFile (expected : Option String)
  | badSubstitution
  deriving DecidableEq, Repr

end HostAgent.Shell
