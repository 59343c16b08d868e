import HostAgent.Word

/-!
# Lengths and points of time

* `Span` — a length of time in nanoseconds, bounded as a register of 64-bit seconds and of
  nanoseconds below a second bounds it.  Doubling stops at the bound.
* `Span.text` — the text of a span in its largest unit that is not a fraction of one.
* `Span.after`, `Span.between` — spans and points of time.
* `Span.alarm` — when an alarm rings that is set for a span.
-/

namespace HostAgent

/-- A length of time. -/
structure Span where
  nanos : Nat
  nanos_le : nanos ≤ 18446744073709551615999999999 := by decide
  deriving DecidableEq, Repr

namespace Span

/-- The longest span, in nanoseconds. -/
def limit : Nat := 18446744073709551615999999999

/-- So many nanoseconds, or the longest span. -/
def ofNanos (n : Nat) : Span :=
  ⟨min n limit, Nat.min_le_right n limit⟩

/-- So many seconds, or the longest span. -/
def seconds (n : Nat) : Span :=
  ofNanos (n * 1000000000)

/-- So many milliseconds, or the longest span. -/
def millis (n : Nat) : Span :=
  ofNanos (n * 1000000)

instance : LE Span := ⟨fun a b => a.nanos ≤ b.nanos⟩

instance : LT Span := ⟨fun a b => a.nanos < b.nanos⟩

instance (a b : Span) : Decidable (a ≤ b) :=
  inferInstanceAs (Decidable (a.nanos ≤ b.nanos))

instance (a b : Span) : Decidable (a < b) :=
  inferInstanceAs (Decidable (a.nanos < b.nanos))

instance : Min Span := ⟨fun a b => if a ≤ b then a else b⟩

instance : Max Span := ⟨fun a b => if a ≤ b then b else a⟩

/-- Twice the span, or the longest one. -/
def double (s : Span) : Span :=
  ofNanos (2 * s.nanos)

/-- The whole seconds of a span. -/
def wholeSeconds (s : Span) : Nat :=
  s.nanos / 1000000000

/-- The nanoseconds of a span beyond its whole seconds. -/
def subsecond (s : Span) : Nat :=
  s.nanos % 1000000000

/-- The span in seconds: the whole ones plus the fraction. -/
def toSeconds (s : Span) : Float :=
  (UInt64.ofNat s.wholeSeconds).toFloat + (UInt64.ofNat s.subsecond).toFloat / 1e9

/-- The milliseconds that cover the span. -/
def ceilMillis (s : Span) : Nat :=
  (s.nanos + 999999) / 1000000

/-- A fraction below one in so many digits, without the zeros at its end. -/
def fractionText (width n : Nat) : String :=
  let digits := (toString n).toList
  let padded := List.replicate (width - digits.length) '0' ++ digits
  let kept := (padded.reverse.dropWhile (· == '0')).reverse
  if kept.isEmpty then "" else String.ofList ('.' :: kept)

/-- The span in seconds, milliseconds, microseconds or nanoseconds, whichever is the largest unit
of which there is at least one. -/
def text (s : Span) : String :=
  let n := s.nanos
  if n ≥ 1000000000 then toString (n / 1000000000) ++ fractionText 9 (n % 1000000000) ++ "s"
  else if n ≥ 1000000 then toString (n / 1000000) ++ fractionText 6 (n % 1000000) ++ "ms"
  else if n ≥ 1000 then toString (n / 1000) ++ fractionText 3 (n % 1000) ++ "µs"
  else toString n ++ "ns"

end Span

/-!
## Points of time

A point of time is an integer: whole milliseconds from the start of the run, negative before it.
Finer ones are not told apart, due times and deadlines included.  A timer does not tell them apart
either: it rings at the first whole millisecond that is not before its time.  Spans do have
nanoseconds; it is alarms that are rounded.  The clock has no end.
-/

/-- The first point of time that is the span or more after another one. -/
def Span.after (s : Span) (t : Int) : Int :=
  t + s.ceilMillis

/-- The longest time that the clock sets an alarm for; longer ones are cut to thirty years. -/
def Span.alarmLimit : Nat := Word.half64 * 1000

/-- When an alarm rings that is set now. -/
def Span.alarm (s : Span) (now : Int) : Int :=
  if s.ceilMillis < alarmLimit then s.after now
  else (Span.seconds (86400 * 365 * 30)).after now

/-- How long one point of time is after another; nothing if it is before. -/
def Span.between (earlier later : Int) : Span :=
  Span.millis (later - earlier).toNat

end HostAgent
