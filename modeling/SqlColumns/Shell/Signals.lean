import SqlColumns.Shell.Numeral

/-!
# Signals

The signals that processes send each other: their numbers, their names, and what is said of a
process that one of them has ended.
-/

set_option autoImplicit false

namespace SqlColumns.Shell

/-- Signals with a name, and what is said of a process that one of them ends. -/
def signals : List (Nat × String × String) :=
  [(1, "HUP", "Hangup"), (2, "INT", ""), (3, "QUIT", "Quit"), (4, "ILL", "Illegal instruction"),
    (5, "TRAP", "Trace/breakpoint trap"), (6, "ABRT", "Aborted"), (7, "BUS", "Bus error"),
    (8, "FPE", "Floating point exception"), (9, "KILL", "Killed"),
    (10, "USR1", "User defined signal 1"),
    (11, "SEGV", "Segmentation fault"), (12, "USR2", "User defined signal 2"), (13, "PIPE", ""),
    (14, "ALRM", "Alarm clock"), (15, "TERM", "Terminated"), (16, "STKFLT", "Stack fault"),
    (17, "CHLD", "Child exited"), (18, "CONT", "Continued"), (19, "STOP", "Stopped (signal)"),
    (20, "TSTP", "Stopped"), (21, "TTIN", "Stopped (tty input)"),
    (22, "TTOU", "Stopped (tty output)"),
    (23, "URG", "Urgent I/O condition"), (24, "XCPU", "CPU time limit exceeded"),
    (25, "XFSZ", "File size limit exceeded"), (26, "VTALRM", "Virtual timer expired"),
    (27, "PROF", "Profiling timer expired"), (28, "WINCH", "Window changed"),
    (29, "IO", "I/O possible"),
    (30, "PWR", "Power failure"), (31, "SYS", "Bad system call")]

/-- The number of the signal that a word names, or zero for the end of a script. -/
def signalNumber? (word : String) : Option Nat :=
  match count? word with
  | some number => if number ≤ 64 then some number else none
  | none =>
      let name := word.toUpper
      if name = "EXIT" then some 0
      else (signals.find? fun one => one.2.1 == name).map (·.1)

def signalName (number : Nat) : String :=
  if number = 0 then "EXIT"
  else ((signals.find? fun one => one.1 == number).map (·.2.1)).getD (inBase 10 number)

/-- What is said of a process that a signal has ended, if that is anything. -/
def signalDeath? (number : Nat) : Option String :=
  (signals.find? fun one => one.1 == number).map (·.2.2)

end SqlColumns.Shell
