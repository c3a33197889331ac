/-!
# Log records

What a run has to say beside its result is returned with it, oldest record first.
-/

namespace PatternLint

inductive LogLevel
  | debug
  | warning
  | error
  deriving DecidableEq, Repr

namespace LogLevel

def name : LogLevel → String
  | .debug => "DEBUG"
  | .warning => "WARNING"
  | .error => "ERROR"

end LogLevel

structure LogRecord where
  level : LogLevel
  message : String
  deriving DecidableEq, Repr

/-- A result together with the records written on the way to it. -/
structure Logged (α : Type) where
  value : α
  log : List LogRecord

end PatternLint
