/-
Chip8.Keypad.KeyName — names of physical keys.

A key is named by its character or by a word such as `SPACE`. Blanks
around the name do not count, nor does upper or lower case, and `ENTER`
is another name of `RETURN`. `codes` is the table of key codes: single
letters are listed in lower case, words in upper case.
-/
import Chip8.Text.Blank
import Chip8.Text.Case

namespace Chip8.KeyName

def codes : List (String × Nat) :=
  [
    ("0", 48), ("1", 49), ("2", 50), ("3", 51), ("4", 52), ("5", 53), ("6", 54), ("7", 55),
    ("8", 56), ("9", 57), ("AC_BACK", 1073742094), ("AMPERSAND", 38), ("ASTERISK", 42), ("AT", 64),
    ("BACKQUOTE", 96), ("BACKSLASH", 92), ("BACKSPACE", 8), ("BREAK", 1073741896),
    ("CAPSLOCK", 1073741881), ("CARET", 94), ("CLEAR", 1073741980), ("COLON", 58), ("COMMA", 44),
    ("CURRENCYSUBUNIT", 1073742005), ("CURRENCYUNIT", 1073742004), ("DELETE", 127), ("DOLLAR", 36),
    ("DOWN", 1073741905), ("END", 1073741901), ("EQUALS", 61), ("ESCAPE", 27), ("EURO", 1073742004),
    ("EXCLAIM", 33), ("F1", 1073741882), ("F10", 1073741891), ("F11", 1073741892),
    ("F12", 1073741893), ("F13", 1073741928), ("F14", 1073741929), ("F15", 1073741930),
    ("F2", 1073741883), ("F3", 1073741884), ("F4", 1073741885), ("F5", 1073741886),
    ("F6", 1073741887), ("F7", 1073741888), ("F8", 1073741889), ("F9", 1073741890), ("GREATER", 62),
    ("HASH", 35), ("HELP", 1073741941), ("HOME", 1073741898), ("INSERT", 1073741897),
    ("KP0", 1073741922), ("KP1", 1073741913), ("KP2", 1073741914), ("KP3", 1073741915),
    ("KP4", 1073741916), ("KP5", 1073741917), ("KP6", 1073741918), ("KP7", 1073741919),
    ("KP8", 1073741920), ("KP9", 1073741921), ("KP_0", 1073741922), ("KP_1", 1073741913),
    ("KP_2", 1073741914), ("KP_3", 1073741915), ("KP_4", 1073741916), ("KP_5", 1073741917),
    ("KP_6", 1073741918), ("KP_7", 1073741919), ("KP_8", 1073741920), ("KP_9", 1073741921),
    ("KP_DIVIDE", 1073741908), ("KP_ENTER", 1073741912), ("KP_EQUALS", 1073741927),
    ("KP_MINUS", 1073741910), ("KP_MULTIPLY", 1073741909), ("KP_PERIOD", 1073741923),
    ("KP_PLUS", 1073741911), ("LALT", 1073742050), ("LCTRL", 1073742048), ("LEFT", 1073741904),
    ("LEFTBRACKET", 91), ("LEFTPAREN", 40), ("LESS", 60), ("LGUI", 1073742051),
    ("LMETA", 1073742051), ("LSHIFT", 1073742049), ("LSUPER", 1073742051), ("MENU", 1073741942),
    ("MINUS", 45), ("MODE", 1073742081), ("NUMLOCK", 1073741907), ("NUMLOCKCLEAR", 1073741907),
    ("PAGEDOWN", 1073741902), ("PAGEUP", 1073741899), ("PAUSE", 1073741896), ("PERCENT", 37),
    ("PERIOD", 46), ("PLUS", 43), ("POWER", 1073741926), ("PRINT", 1073741894),
    ("PRINTSCREEN", 1073741894), ("QUESTION", 63), ("QUOTE", 39), ("QUOTEDBL", 34),
    ("RALT", 1073742054), ("RCTRL", 1073742052), ("RETURN", 13), ("RGUI", 1073742055),
    ("RIGHT", 1073741903), ("RIGHTBRACKET", 93), ("RIGHTPAREN", 41), ("RMETA", 1073742055),
    ("RSHIFT", 1073742053), ("RSUPER", 1073742055), ("SCROLLLOCK", 1073741895),
    ("SCROLLOCK", 1073741895), ("SEMICOLON", 59), ("SLASH", 47), ("SPACE", 32),
    ("SYSREQ", 1073741978), ("TAB", 9), ("UNDERSCORE", 95), ("UNKNOWN", 0), ("UP", 1073741906),
    ("a", 97), ("b", 98), ("c", 99), ("d", 100), ("e", 101), ("f", 102), ("g", 103), ("h", 104),
    ("i", 105), ("j", 106), ("k", 107), ("l", 108), ("m", 109), ("n", 110), ("o", 111), ("p", 112),
    ("q", 113), ("r", 114), ("s", 115), ("t", 116), ("u", 117), ("v", 118), ("w", 119), ("x", 120),
    ("y", 121), ("z", 122) ]

/-- The name of a key in the form in which the table lists it. -/
def normalised (name : String) : String :=
  let trimmed := String.ofList (Text.Blank.trim name.toList)
  let word := if Text.Case.upper trimmed = "ENTER" then "RETURN" else trimmed
  match word.toList with
  | [c] => String.ofList (Text.Case.lowerChar c)
  | _ => Text.Case.upper word

/-- The code of the key with a given name. -/
def code? (name : String) : Option Nat := codes.lookup (normalised name)

/-- The code of the key that ends the program. -/
def escape : Int := 27

end Chip8.KeyName
