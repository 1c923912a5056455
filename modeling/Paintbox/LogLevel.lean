/-!
# Log levels

Callers choose how much is logged on a scale from 0 (nothing) to 6 (all).

* `LogLevel` — the seven steps; a number off the scale means `info`.
* `LogFilter` — the six severities that a log can be cut off at.
* `LogLevel.filter` — where each step cuts off.
-/

namespace Paintbox

/-- Where a log is cut off. -/
inductive LogFilter where
  | off
  | error
  | warn
  | info
  | debug
  | trace
deriving DecidableEq

def LogFilter.label : LogFilter → String
  | off => "OFF"
  | error => "ERROR"
  | warn => "WARN"
  | info => "INFO"
  | debug => "DEBUG"
  | trace => "TRACE"

/-- How much is logged. -/
inductive LogLevel where
  | nothing
  | user
  | error
  | warning
  | info
  | debug
  | all
deriving DecidableEq

namespace LogLevel

/-- The level of a number; a number off the scale is `info`. -/
def ofInt : Int → LogLevel
  | 0 => nothing
  | 1 => user
  | 2 => error
  | 3 => warning
  | 4 => info
  | 5 => debug
  | 6 => all
  | _ => info

def toInt : LogLevel → Int
  | nothing => 0
  | user => 1
  | error => 2
  | warning => 3
  | info => 4
  | debug => 5
  | all => 6

@[simp] theorem ofInt_toInt (l : LogLevel) : ofInt l.toInt = l := by
  cases l <;> rfl

def label : LogLevel → String
  | nothing => "Nothing"
  | user => "User"
  | error => "Error"
  | warning => "Warning"
  | info => "Info"
  | debug => "Debug"
  | all => "All"

/-- Where a level cuts off the log.  What is addressed to the user is logged as an error. -/
def filter : LogLevel → LogFilter
  | nothing => .off
  | user => .error
  | error => .error
  | warning => .warn
  | info => .info
  | debug => .debug
  | all => .trace

end LogLevel

end Paintbox
