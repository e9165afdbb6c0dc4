/-! # Notices

What the library reports beside its results: a line of text and how grave it is. Operations hand
notices out in the order in which they arise; the caller decides which of them to show.
-/

namespace Chip8

/-- How grave a notice is, from least to most. -/
inductive Severity where
  | debug
  | info
  | warning
  | error
deriving DecidableEq, Repr

/-- The position of a severity in the order from least to most grave. -/
def Severity.rank : Severity → Nat
  | .debug => 0
  | .info => 1
  | .warning => 2
  | .error => 3

def Severity.name : Severity → String
  | .debug => "DEBUG"
  | .info => "INFO"
  | .warning => "WARNING"
  | .error => "ERROR"

/-- One line of the report on what happened. -/
structure Notice where
  severity : Severity
  text : String
deriving DecidableEq, Repr

def Notice.line (notice : Notice) : String := s!"{notice.severity.name}:root:{notice.text}"

/-- The notices that are at least as grave as a threshold, in their order. -/
def Notice.atLeast (threshold : Severity) (notices : List Notice) : List Notice :=
  notices.filter fun notice => threshold.rank ≤ notice.severity.rank

end Chip8
