import BuoyGateway.Decimal.Numeral

/-!
# Signals

The signals by their numbers: how they are called, what they do to a process that does not expect
them, and what is said about a process that one of them has ended.
-/

namespace BuoyGateway.Shell.Signal

/-- The signals that have names of their own, and under number zero the end of a process. -/
def named : List String :=
  ["EXIT", "HUP", "INT", "QUIT", "ILL", "TRAP", "ABRT", "BUS", "FPE", "KILL", "USR1", "SEGV",
   "USR2", "PIPE", "ALRM", "TERM", "16", "CHLD", "CONT", "STOP", "TSTP", "TTIN", "TTOU", "URG",
   "XCPU", "XFSZ", "VTALRM", "PROF", "WINCH", "IO", "PWR", "SYS", "32", "33"]

def count : Nat := 65

def numeral (n : Nat) : String := String.ofList (Decimal.digits n)

/-- How a signal is called. The last thirty are counted from both ends. -/
def name (n : Nat) : String :=
  match named[n]? with
  | some s => s
  | none =>
    if n = 34 then "RTMIN"
    else if n < 50 then "RTMIN+" ++ numeral (n - 34)
    else if n < 64 then "RTMAX-" ++ numeral (64 - n)
    else "RTMAX"

def ofText? (least : Nat) (s : String) : Option Nat :=
  let upper := String.ofList (s.toList.map Char.toUpper)
  if s != "" && s.toList.all Char.isDigit then
    let n := Decimal.ofDigits s.toList
    if n < count then some n else none
  else ((List.range count).drop least).find? (fun n => name n == upper)

def obituary (n : Nat) : String :=
  match n with
  | 1 => "Hangup"
  | 2 => "Interrupt"
  | 3 => "Quit"
  | 4 => "Illegal instruction"
  | 5 => "Trace/breakpoint trap"
  | 6 => "Aborted"
  | 7 => "Bus error"
  | 8 => "Floating point exception"
  | 9 => "Killed"
  | 10 => "User defined signal 1"
  | 11 => "Segmentation fault"
  | 12 => "User defined signal 2"
  | 13 => "Broken pipe"
  | 14 => "Alarm clock"
  | 15 => "Terminated"
  | 16 => "Stack fault"
  | 24 => "CPU time limit exceeded"
  | 25 => "File size limit exceeded"
  | 26 => "Virtual timer expired"
  | 27 => "Profiling timer expired"
  | 29 => "I/O possible"
  | 30 => "Power failure"
  | 31 => "Bad system call"
  | n => if 34 ≤ n then "Real-time signal " ++ numeral (n - 34) else "Unknown signal " ++ numeral n

def isTold (n : Nat) : Bool := n != 2 && n != 13

/-- A process that does not expect the signal goes on as if nothing had come. -/
def isUnnoticed (n : Nat) : Bool := n ∈ [0, 17, 18, 19, 20, 21, 22, 23, 28]

def isFinal (n : Nat) : Bool := n = 9 || n = 19

/-- The signal that ends a process which does not come to an end: it has used up its time. -/
def watchdog : Nat := 24

def brokenPipe : Nat := 13

/-- The signal for a process that asks for a number that is none. -/
def arithmeticFault : Nat := 8

end BuoyGateway.Shell.Signal
