/-!
# Streams

What programs read and write: bytes, and perhaps a block of bytes that follows them over and over
without an end.
-/

namespace HostAgent.Shell

/-- Bytes, and a block that is repeated after them; an empty block is the end. -/
structure Stream where
  bytes : List UInt8 := []
  cycle : List UInt8 := []
  deriving DecidableEq, Repr, Inhabited

namespace Stream

/-- The bytes of a text. -/
def ofText (s : String) : Stream :=
  { bytes := s.toUTF8.data.toList }

/-- Whether there is no end. -/
def isEndless (s : Stream) : Bool :=
  !s.cycle.isEmpty

/-- One stream after another; an endless one is followed by nothing. -/
def append (a b : Stream) : Stream :=
  if a.isEndless then a else { bytes := a.bytes ++ b.bytes, cycle := b.cycle }

/-- The first so many bytes of a block that is repeated. -/
def repeated (block : List UInt8) (n : Nat) : List UInt8 :=
  if block.isEmpty then []
  else (((List.replicate (n / block.length + 1) block).flatten).take n)

/-- The first so many bytes. -/
def take (s : Stream) (n : Nat) : List UInt8 :=
  s.bytes.take n ++ repeated s.cycle (n - s.bytes.length)

/-- The stream with each byte changed by itself. -/
def mapBytes (s : Stream) (f : UInt8 → List UInt8) : Stream :=
  { bytes := s.bytes.flatMap f, cycle := s.cycle.flatMap f }

end Stream

/-- The lines of bytes, each without its end; a last line that is not ended counts. -/
def linesOf (bytes : List UInt8) : List (List UInt8) :=
  match bytes.splitOnP (· == 10) with
  | [] => []
  | parts => if parts.getLast? == some [] then parts.dropLast else parts

/-- Lines, each with an end. -/
def unlines (lines : List (List UInt8)) : List UInt8 :=
  lines.flatMap (· ++ [10])

end HostAgent.Shell
