/-!
# Levels of messages

A message has a level, and those below the level that is asked for are dropped.
-/

namespace Likeness

/-- How much a message matters. -/
inductive Level where
  | trace
  | debug
  | info
  | success
  | warning
  | error
  | critical
  deriving Repr, DecidableEq

namespace Level

/-- The rank of a level. -/
def rank : Level → Nat
  | trace => 5
  | debug => 10
  | info => 20
  | success => 25
  | warning => 30
  | error => 40
  | critical => 50

/-- The name of a level. -/
def name : Level → String
  | trace => "TRACE"
  | debug => "DEBUG"
  | info => "INFO"
  | success => "SUCCESS"
  | warning => "WARNING"
  | error => "ERROR"
  | critical => "CRITICAL"

/-- All levels. -/
def all : List Level := [trace, debug, info, success, warning, error, critical]

/-- The level of a name. -/
def ofName? (name : String) : Option Level := all.find? fun l => l.name = name

end Level

end Likeness
