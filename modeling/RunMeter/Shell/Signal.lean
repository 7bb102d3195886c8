/-!
# Signals

The signals by number and name, and how the end of a process by one of them is announced.
-/

set_option autoImplicit false

namespace RunMeter.Shell.Signal

/-- The signals with names of their own, and how the end by one of them is announced. -/
def named : List (Nat × String × String) :=
  [(1, "HUP", "Hangup"), (2, "INT", ""), (3, "QUIT", "Quit"), (4, "ILL", "Illegal instruction"),
    (5, "TRAP", "Trace/breakpoint trap"), (6, "ABRT", "Aborted"), (7, "BUS", "Bus error"),
    (8, "FPE", "Floating point exception"), (9, "KILL", "Killed"),
    (10, "USR1", "User defined signal 1"), (11, "SEGV", "Segmentation fault"),
    (12, "USR2", "User defined signal 2"), (13, "PIPE", ""), (14, "ALRM", "Alarm clock"),
    (15, "TERM", "Terminated"), (16, "16", "Stack fault"), (17, "CHLD", ""), (18, "CONT", ""),
    (19, "STOP", ""), (20, "TSTP", ""), (21, "TTIN", ""), (22, "TTOU", ""), (23, "URG", ""),
    (24, "XCPU", "CPU time limit exceeded"), (25, "XFSZ", "File size limit exceeded"),
    (26, "VTALRM", "Virtual timer expired"), (27, "PROF", "Profiling timer expired"),
    (28, "WINCH", ""), (29, "IO", "I/O possible"), (30, "PWR", "Power failure"),
    (31, "SYS", "Bad system call")]

/-- The largest signal. -/
def last : Nat := 64

/-- The signals that do nothing unless they are caught. -/
def harmless : List Nat := [17, 18, 23, 28]

/-- The signals that hold a process until it is told to go on. -/
def holding : List Nat := [19, 20, 21, 22]

/-- The name of a signal. Zero stands for the end of a script. -/
def name (signal : Nat) : String :=
  match named.lookup signal with
  | some (name, _) => name
  | none =>
    if signal = 0 then "EXIT"
    else if signal = 34 then "RTMIN"
    else if 35 ≤ signal ∧ signal < 50 then "RTMIN+" ++ toString (signal - 34)
    else if 50 ≤ signal ∧ signal < last then "RTMAX-" ++ toString (last - signal)
    else if signal = last then "RTMAX"
    else toString signal

/-- The number of a signal, given by number or by a name from that of `least` on. -/
def ofText? (least : Nat) (text : String) : Option Nat :=
  if !text.isEmpty && text.toList.all Char.isDigit then text.toNat?.filter (· ≤ last)
  else
    let raised := text.map Char.toUpper
    (List.range' least (last + 1 - least)).find? fun n => name n == raised

/-- How the end by a signal is announced, unless it is no news. -/
def announcement? (signal : Nat) : Option String :=
  match named.lookup signal with
  | some (_, "") => none
  | some (_, text) => some text
  | none => if signal > 31 then some ("Real-time signal " ++ toString (signal - 34)) else none

end RunMeter.Shell.Signal
