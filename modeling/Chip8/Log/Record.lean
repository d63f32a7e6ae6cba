/-
Chip8.Log.Record — what the program says while it runs.

A record is a level and a line of text. Records are collected as data in
the order in which they arise; who prints them, and from which level on,
is decided outside.
-/

namespace Chip8.Log

/-- The weight of a record, from the lightest up. -/
inductive Level where
  | debug | info | warning | error
deriving DecidableEq, Repr

def Level.name : Level → String
  | .debug => "DEBUG"
  | .info => "INFO"
  | .warning => "WARNING"
  | .error => "ERROR"

/-- One thing said. -/
structure Record where
  level : Level
  text : String
deriving DecidableEq, Repr

/-- A record for those who look for faults in the program itself. -/
def debug (text : String) : Record := ⟨.debug, text⟩

/-- A record of the normal course of things. -/
def info (text : String) : Record := ⟨.info, text⟩

/-- A record of something odd that does not stop the work. -/
def warning (text : String) : Record := ⟨.warning, text⟩

def error (text : String) : Record := ⟨.error, text⟩

end Chip8.Log
