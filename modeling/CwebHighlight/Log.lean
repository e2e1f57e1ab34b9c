/-!
# Log entries

What the scanner and the server report while they work: a level, a message and named fields in
the order in which they were given.
-/

namespace CwebHighlight

inductive Level where
  | trace
  | debug
  | info
  | warn
  deriving DecidableEq, Repr

def Level.name : Level → String
  | .trace => "TRACE"
  | .debug => "DEBUG"
  | .info => "INFO"
  | .warn => "WARN"

structure LogEntry where
  level : Level
  message : String
  fields : List (String × String)
  deriving DecidableEq, Repr

end CwebHighlight
