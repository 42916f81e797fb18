/-!
# Log records

What the library reports while it works, and the rule by which a process comes to have one
receiver for it.
-/

namespace QueryPolicy

/-- How important a log record is. -/
inductive LogLevel
  | debug | info
  deriving DecidableEq

/-- The name of a level. -/
def LogLevel.name : LogLevel → String
  | .debug => "DEBUG"
  | .info => "INFO"

/-- One line of the log. -/
structure LogRecord where
  level : LogLevel
  text : String
  deriving DecidableEq

/-- Level and text, separated by a space. -/
def LogRecord.render (r : LogRecord) : String := r.level.name ++ " " ++ r.text

namespace Logging

/-- A request to install a receiver: the ordinary one, which answers whether it was installed, or
the one for captured test output, which gives no answer. -/
inductive Request
  | install | installForTests
  deriving DecidableEq

/-- The answer to a request. A receiver is installed only if there is none. -/
def answer (installed : Bool) : Request → Option Bool
  | .install => some (!installed)
  | .installForTests => none

/-- The answers to a series of requests. From the first one on, a receiver is installed. -/
def answers : (installed : Bool) → List Request → List (Option Bool)
  | _, [] => []
  | installed, r :: rs => answer installed r :: answers true rs

end Logging

end QueryPolicy
