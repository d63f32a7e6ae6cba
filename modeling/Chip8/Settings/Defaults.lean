/-
Chip8.Settings.Defaults — the settings that hold without a file.
-/
import Chip8.Settings.Value

namespace Chip8.Settings

/-- The names of the sixteen keys of the keypad. -/
def hexKeys : List String :=
  ["0", "1", "2", "3", "4", "5", "6", "7", "8", "9", "A", "B", "C", "D", "E", "F"]

/-- The physical key for each key of the keypad. -/
def defaultKeyboard : List (String × String) :=
  [("0", "X"), ("1", "2"), ("2", "3"), ("3", "4"), ("4", "W"), ("5", "E"), ("6", "R"), ("7", "A"),
    ("8", "S"), ("9", "D"), ("A", "Z"), ("B", "C"), ("C", "5"), ("D", "T"), ("E", "F"), ("F", "V")]

def defaults : Table :=
  [ ("general", .table [("scale", .int 20), ("cpu_hz", .int 500), ("timer_hz", .int 60)]),
    ("audio", .table [("enable", .bool true), ("frequency", .int 440), ("amplitude", .int 128)]),
    ("keyboard", .table (defaultKeyboard.map fun (k, name) => (k, .text name))) ]

end Chip8.Settings
