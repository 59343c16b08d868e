/-!
# Refusals

Why the machine refuses to read a file or to start a program, and what its libraries say when they
fail.
-/

namespace HostAgent

/-- Why the machine refuses something. -/
inductive Refusal where
  | absent
  | tooMuch
  | denied
  | notDirectory
  | directory
  | nameTooLong
  | zeroByte
  | notText
  deriving DecidableEq, Repr

/-- The wording of a refusal. -/
def Refusal.message : Refusal → String
  | .absent => "No such file or directory (os error 2)"
  | .tooMuch => "Argument list too long (os error 7)"
  | .denied => "Permission denied (os error 13)"
  | .notDirectory => "Not a directory (os error 20)"
  | .directory => "Is a directory (os error 21)"
  | .nameTooLong => "File name too long (os error 36)"
  | .zeroByte => "nul byte found in provided data"
  | .notText => "stream did not contain valid UTF-8"

/-- What a library says of its failure, and of the causes of that from the nearest to the
farthest. -/
structure Complaint where
  text : String
  causes : List String := []
  deriving DecidableEq, Repr

end HostAgent
