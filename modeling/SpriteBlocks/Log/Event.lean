/-!
# Log events

A run tells what happens as a sequence of events, each with a level and a
message.
-/
namespace SpriteBlocks

inductive LogLevel where
  | info
  | warning
  | error
  | execution
  | success
  | connection
deriving DecidableEq, Inhabited

namespace LogLevel

def all : List LogLevel := [info, warning, error, execution, success, connection]

def name : LogLevel → String
  | info => "info"
  | warning => "warning"
  | error => "error"
  | execution => "execution"
  | success => "success"
  | connection => "connection"

def ofName? (s : String) : Option LogLevel := all.find? fun l => l.name = s

end LogLevel

structure LogEvent where
  level : LogLevel
  message : String
deriving DecidableEq, Inhabited

namespace LogEvent

def shown (e : LogEvent) : String := "[" ++ e.level.name ++ "] " ++ e.message

end LogEvent

/-- The events of a log in the order in which they happened. -/
abbrev Log := List LogEvent

namespace Log

def messages (log : Log) : List String := log.map LogEvent.message

def messagesAt (level : LogLevel) (log : Log) : List String :=
  messages (log.filter fun e => e.level = level)

def count (level : LogLevel) (log : Log) : Nat :=
  (log.filter fun e => e.level = level).length

end Log
end SpriteBlocks
