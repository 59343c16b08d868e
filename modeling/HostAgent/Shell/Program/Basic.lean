import HostAgent.Dictionary
import HostAgent.Shell.Stream
import HostAgent.Text.Utf8
import HostAgent.Shell.Printf

/-!
# What programs do

* `Outcome` — what a program does: output, a complaint, a status, and time.
* `Surroundings` — what it may look at.
* `Program.filter`, `Program.complete` — programs that treat files, or else their input.
-/

namespace HostAgent.Shell

/-- What a program does.  Time is in milliseconds. -/
structure Outcome where
  out : Stream := {}
  complaint : String := ""
  status : Nat := 0
  left : Stream := {}
  millis : Nat := 0
  deriving Inhabited

/-- What a program may look at. -/
structure Surroundings where
  extended : Bool := false
  exported : Dictionary := .empty
  files : String → Option Stream := fun _ => none
  directories : String → Bool := fun _ => false

/-- More milliseconds than anybody waits for. -/
def forever : Nat := 1000000000000000

namespace Program

/-- The outcome that only writes bytes. -/
def writes (bs : List UInt8) : Outcome :=
  { out := { bytes := bs } }

/-- The outcome that complains. -/
def fails (status : Nat) (complaint : String) : Outcome :=
  { complaint, status }

/-! ## Input -/

/-- The inputs that arguments name, and the complaints about those that cannot be read. -/
def inputs (s : Surroundings) (name : String) (input : Stream) :
    List String → List (String × Stream) × String
  | [] => ([], "")
  | a :: rest =>
    let (more, complaint) := inputs s name input rest
    if a = "-" then ((a, input) :: more, complaint)
    else match s.files a with
      | some f => ((a, f) :: more, complaint)
      | none =>
        let why := if s.directories a then ": Is a directory\n" else ": No such file or directory\n"
        (more, name ++ ": " ++ a ++ why ++ complaint)

/-- A program that treats what it reads from files, or else from its input, as one stream. -/
def filter (s : Surroundings) (name : String) (files : List String) (input : Stream)
    (f : Stream → Outcome) : Outcome :=
  let (ins, complaint) := inputs s name input (if files.isEmpty then ["-"] else files)
  let o := f ((ins.map (·.2)).foldl Stream.append {})
  if complaint.isEmpty then o else { o with complaint := complaint ++ o.complaint, status := 1 }

/-- A program that has to read all of its input. -/
def complete (f : List UInt8 → List UInt8) (s : Stream) : Outcome :=
  if s.isEndless then { millis := forever } else writes (f s.bytes)

/-- The first so many lines. -/
def firstLines (n : Nat) (s : Stream) : List UInt8 :=
  let enough := s.take (s.bytes.length + s.cycle.length * (n + 1))
  let rec go : Nat → List UInt8 → List UInt8
    | 0, _ => []
    | _, [] => []
    | n + 1, b :: bs => b :: go (if b = 10 then n else n + 1) bs
  go n enough

/-! ## Lines -/

/-- The characters of a line. -/
def charsOf (line : List UInt8) : List Char :=
  (Text.Utf8.lossy line).toList

/-- The bytes of characters. -/
def bytesOf (cs : List Char) : List UInt8 :=
  cs.flatMap Printf.utf8

end Program

end HostAgent.Shell
