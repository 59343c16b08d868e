/-!
# Signals

Their names and numbers, and what is said of a program that one of them has ended.
-/

namespace HostAgent.Shell

/-- The names of signals and their numbers. -/
def signals : List (String × Nat) :=
  [("EXIT", 0), ("HUP", 1), ("INT", 2), ("QUIT", 3), ("ILL", 4), ("TRAP", 5), ("ABRT", 6),
    ("BUS", 7), ("FPE", 8), ("KILL", 9), ("USR1", 10), ("SEGV", 11), ("USR2", 12), ("PIPE", 13),
    ("ALRM", 14), ("TERM", 15), ("CHLD", 17), ("CONT", 18), ("STOP", 19), ("TSTP", 20),
    ("TTIN", 21), ("TTOU", 22), ("URG", 23), ("XCPU", 24), ("XFSZ", 25), ("VTALRM", 26),
    ("PROF", 27), ("WINCH", 28), ("IO", 29), ("PWR", 30), ("SYS", 31)]

/-- The number of a signal. -/
def signalNumber? (s : String) : Option Nat :=
  let name := if s.startsWith "SIG" then (s.drop 3).toString else s
  (signals.lookup name).or s.toNat?

/-- The name of a signal. -/
def signalName? (n : Nat) : Option String :=
  if n = 0 then none else (signals.find? (·.2 == n)).map (·.1)

/-- What the shell says of a program that a signal has ended. -/
def signalText : Nat → String
  | 1 => "Hangup\n"
  | 3 => "Quit\n"
  | 4 => "Illegal instruction\n"
  | 6 => "Aborted\n"
  | 9 => "Killed\n"
  | 10 => "User defined signal 1\n"
  | 11 => "Segmentation fault\n"
  | 12 => "User defined signal 2\n"
  | 14 => "Alarm clock\n"
  | 15 => "Terminated\n"
  | _ => ""

end HostAgent.Shell
