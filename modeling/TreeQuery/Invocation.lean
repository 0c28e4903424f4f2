import TreeQuery.Path.Descent

/-!
# Invocations

An invocation is what a command line asks for: a command with its operands and options, how much is to
be logged, and whether to use colors.
-/

namespace TreeQuery

/-- Whether to use colors. -/
inductive ColorChoice where
  /-- Colors on a terminal only. -/
  | auto
  | always
  | never
  deriving DecidableEq, Repr, Inhabited

/-- Whether colors are wanted, where `auto` goes by whether a terminal is written to. -/
def ColorChoice.wanted (onTerminal : Bool) : ColorChoice → Bool
  | auto => onTerminal
  | always => true
  | never => false

/-- The least severe messages that are logged. -/
inductive LogLevel where
  | warn
  | debug
  | trace
  deriving DecidableEq, Repr

namespace LogLevel

/-- The level for a number of requests to log more. -/
def ofVerbosity : Nat → LogLevel
  | 0 => warn
  | 1 => debug
  | _ => trace

/-- The name of a level. -/
def name : LogLevel → Text
  | warn => "warn".toList
  | debug => "debug".toList
  | trace => "trace".toList

end LogLevel

/-- What to look for and where. -/
structure Query where
  /-- The file that holds the snapshot; `-` is standard input. -/
  source : Text
  path : Text
  fuel : Fuel := .standard
  deriving DecidableEq, Repr

/-- What to do. -/
inductive Command where
  /-- Show all nodes that a path finds. -/
  | eval (query : Query) (json : Bool)
  /-- Show the only node that a path finds. -/
  | single (query : Query) (kind : Text) (json : Bool)
  /-- Show a locator of each node that a path finds. -/
  | locate (query : Query) (params : List Text)
  /-- Show the parameters of all nodes that a path finds. -/
  | params (query : Query) (json : Bool)
  /-- Show a pattern that spells a text. -/
  | quote (text : Text)
  /-- Show a whole tree. -/
  | tree (source : Text)
  deriving DecidableEq, Repr

/-- A command with the options that all commands share. -/
structure Invocation where
  command : Command
  /-- How often more logging was asked for. -/
  verbosity : Nat := 0
  color : ColorChoice := .auto
  deriving DecidableEq, Repr

/-- The level at which an invocation logs. -/
def Invocation.logLevel (invocation : Invocation) : LogLevel := .ofVerbosity invocation.verbosity

end TreeQuery
