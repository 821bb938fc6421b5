set_option autoImplicit false

/-!
# Log events

What the library reports about itself while it runs: a level, the part that speaks, and
a message. A step that logs returns its events, oldest first.
-/

namespace ModHost

inductive LogLevel where
  | trace | debug | info | warn | error
deriving DecidableEq, Repr, Inhabited

namespace LogLevel

def label : LogLevel → String
  | trace => "TRACE"
  | debug => "DEBUG"
  | info => "INFO"
  | warn => "WARN"
  | error => "ERROR"

/-- How much is let through: an event passes a threshold of at least its own number. -/
def verbosity : LogLevel → Nat
  | error => 1
  | warn => 2
  | info => 3
  | debug => 4
  | trace => 5

end LogLevel

structure LogEvent where
  level : LogLevel
  target : String
  message : String
deriving DecidableEq, Repr, Inhabited

namespace LogEvent

/-- Speaker of everything that concerns scripts. -/
def scripting : String := "scripting"

def debug (message : String) : LogEvent := ⟨.debug, scripting, message⟩
def info (message : String) : LogEvent := ⟨.info, scripting, message⟩
def warn (message : String) : LogEvent := ⟨.warn, scripting, message⟩
def error (message : String) : LogEvent := ⟨.error, scripting, message⟩

end LogEvent

end ModHost
