/-! The signals of a machine, by number and by name. -/
namespace ToolHost.Signal

/-- The names of the signals, from the first one on. -/
def names : List String :=
  ["HUP", "INT", "QUIT", "ILL", "TRAP", "ABRT", "BUS", "FPE", "KILL", "USR1", "SEGV", "USR2",
    "PIPE", "ALRM", "TERM", "STKFLT", "CHLD", "CONT", "STOP", "TSTP", "TTIN", "TTOU", "URG", "XCPU",
    "XFSZ", "VTALRM", "PROF", "WINCH", "IO", "PWR", "SYS"]

/-- The number of the last signal. -/
def last : Nat := 64

/-- The name of a signal; those that have no name of their own are counted from both ends. -/
def name (signal : Nat) : String :=
  match signal, names[signal - 1]? with
  | 0, _ => "EXIT"
  | _, some name => name
  | _, none =>
    if signal < 34 then s!"{signal}"
    else if signal = 34 then "RTMIN"
    else if signal < 50 then s!"RTMIN+{signal - 34}"
    else if signal < last then s!"RTMAX-{last - signal}"
    else "RTMAX"

/-- The signal with a name. -/
def ofName? (text : String) : Option Nat :=
  ((List.range (last + 1)).tail).find? fun signal => name signal = text.toUpper

/-- The signal with a number or a name. -/
def ofText? (text : String) : Option Nat :=
  match text.toNat? with
  | some n => if n ≤ last then some n else none
  | none => ofName? text

/-- The signal that only asks whether there is a program, and those that do nothing unless the program
wants to notice them. Among them are those that would stop a program that a terminal controls. -/
def harmless : List Nat := [0, 17, 18, 20, 21, 22, 23, 28]

/-- The signal that no program can keep off. -/
def kill : Nat := 9

def terminate : Nat := 15

/-- The signal that lets a stopped program go on. -/
def goOn : Nat := 18

/-- The signal that stops a program, whether it wants that or not. -/
def stop : Nat := 19

/-- What is said of a program that a signal has ended. -/
def describe (signal : Nat) : String :=
  match signal with
  | 1 => "Hangup"
  | 2 => "Interrupt"
  | 3 => "Quit"
  | 4 => "Illegal instruction"
  | 5 => "Trace/breakpoint trap"
  | 6 => "Aborted"
  | 7 => "Bus error"
  | 8 => "Floating point exception"
  | 9 => "Killed"
  | 10 => "User defined signal 1"
  | 11 => "Segmentation fault"
  | 12 => "User defined signal 2"
  | 13 => "Broken pipe"
  | 14 => "Alarm clock"
  | 15 => "Terminated"
  | 16 => "Stack fault"
  | 24 => "CPU time limit exceeded"
  | 25 => "File size limit exceeded"
  | 26 => "Virtual timer expired"
  | 27 => "Profiling timer expired"
  | 29 => "I/O possible"
  | 30 => "Power failure"
  | 31 => "Bad system call"
  | n => if n < 34 then s!"Unknown signal {n}" else s!"Real-time signal {n - 34}"

end ToolHost.Signal
