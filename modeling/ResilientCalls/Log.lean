import ResilientCalls.Json.Value

namespace ResilientCalls

inductive Level where
  | debug
  | info
  | warning
  | error
  deriving DecidableEq

def Level.name : Level → String
  | .debug => "debug"
  | .info => "info"
  | .warning => "warning"
  | .error => "error"

/-- An event with the values that describe it. -/
structure LogRecord where
  level : Level
  event : String
  fields : List (String × Json)

def LogRecord.toJson (r : LogRecord) : Json :=
  .object (("level", .text r.level.name) :: ("event", .text r.event) :: r.fields)

end ResilientCalls
