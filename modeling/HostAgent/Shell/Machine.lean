/-!
# The machine

What lies on the machine that commands are carried out on, so far as commands can tell: places,
files that are no programs, and programs.

* `directories`, `plainFiles` — places and files by their paths.
* `programs` — the programs, which lie in the usual places.
-/

namespace HostAgent.Shell.Machine

/-- The places that exist. -/
def directories : List String :=
  ["/", "/bin", "/dev", "/etc", "/home", "/opt", "/proc", "/root", "/sbin", "/sys", "/tmp", "/usr",
    "/usr/bin", "/usr/lib", "/usr/local", "/usr/local/bin", "/usr/sbin", "/usr/share", "/var",
    "/var/log", "/var/tmp", ".", ".."]

/-- Files that are no programs. -/
def plainFiles : List String :=
  ["/dev/null", "/dev/zero", "/dev/full", "/etc/passwd", "/etc/hosts", "/etc/group"]

/-- The programs that lie in the usual places. -/
def programs : List String :=
  ["true", "false", "echo", "printf", "cat", "head", "tail", "tr", "sed", "grep", "wc", "sort",
    "uniq", "rev", "cut", "seq", "sleep", "yes", "basename", "dirname", "printenv", "test", "[",
    "env", "tee", "sh", "dash", "bash", "expr", "uname", "whoami", "id", "tty", "pwd", "ls", "rm",
    "mkdir", "touch", "date", "timeout", "nohup", "nice"]

/-- A path without strokes at its end; the root keeps its own. -/
def trimmed (path : String) : String :=
  match path.toList.reverse.dropWhile (· == '/') with
  | [] => path.take 1 |>.toString
  | cs => String.ofList cs.reverse

/-- Whether a path is a directory. -/
def isDirectory (path : String) : Bool :=
  directories.contains (trimmed path)

end HostAgent.Shell.Machine
