import VisualNovel.Table

/-!
Log records and where they go.

A record has a level, a scope and a message. Every listener sees every record; the sink sees the
records from a threshold on. Without a sink of its own a router writes lines to the console, on a
channel that depends on the level.
-/

namespace VisualNovel

/-- How grave a record is. -/
inductive LogLevel where
  | debug | info | warn | error
  deriving DecidableEq, Repr, Inhabited

/-- The name of a level. -/
def LogLevel.name : LogLevel → Text
  | .debug => "debug"
  | .info => "info"
  | .warn => "warn"
  | .error => "error"

/-- The name of a level in capitals. -/
def LogLevel.tag : LogLevel → Text
  | .debug => "DEBUG"
  | .info => "INFO"
  | .warn => "WARN"
  | .error => "ERROR"

/-- The level with a name. -/
def LogLevel.ofName? (name : Text) : Option LogLevel :=
  [LogLevel.debug, .info, .warn, .error].find? fun level => level.name = name

/-- The rank of a level; a graver level has a higher one. -/
def LogLevel.rank : LogLevel → Nat
  | .debug => 10
  | .info => 20
  | .warn => 30
  | .error => 40

/-- One log record. -/
structure LogRecord where
  level : LogLevel
  scope : Text
  message : Text
  deriving DecidableEq, Repr, Inhabited

/-- The line that the console shows for a record. -/
def LogRecord.line (r : LogRecord) : Text :=
  Text.ofString "[" ++ r.level.tag ++ Text.ofString "] " ++ r.scope ++ Text.ofString ": " ++
    r.message

/-- The channels of the console. -/
inductive ConsoleChannel where
  | log | warn | error
  deriving DecidableEq, Repr, Inhabited

/-- The channel for a level. -/
def ConsoleChannel.ofLevel : LogLevel → ConsoleChannel
  | .error => .error
  | .warn => .warn
  | _ => .log

/-- One delivery of a record. -/
inductive Delivery where
  | listener (name : Text) (record : LogRecord)
  | sink (name : Text) (record : LogRecord)
  | console (channel : ConsoleChannel) (line : Text)
  deriving Repr

/-- The sink by name, none for the console; the threshold; and the listeners in the order in which
they came. -/
structure LogRouter where
  sink : Option Text := none
  threshold : LogLevel := .warn
  listeners : List Text := []
  deriving Repr

namespace LogRouter

/-- Adds a listener, once. -/
def listen (r : LogRouter) (name : Text) : LogRouter :=
  if name ∈ r.listeners then r else { r with listeners := r.listeners ++ [name] }

/-- Removes a listener. -/
def unlisten (r : LogRouter) (name : Text) : LogRouter :=
  { r with listeners := r.listeners.filter (· ≠ name) }

/-- The deliveries of a record: first to the listeners, then to the sink if the level is grave
enough. -/
def deliver (r : LogRouter) (record : LogRecord) : List Delivery :=
  let heard := r.listeners.map fun name => Delivery.listener name record
  if r.threshold.rank ≤ record.level.rank then
    heard ++ [match r.sink with
      | some name => Delivery.sink name record
      | none => Delivery.console (.ofLevel record.level) record.line]
  else heard

end LogRouter
end VisualNovel
