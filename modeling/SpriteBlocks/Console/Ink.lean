/-!
# Ink

Text on a terminal may be coloured, bold, italic or dim by escape sequences
around it. Without colours every text is written as it is.
-/
namespace SpriteBlocks.Console

inductive Color where
  | red
  | green
  | yellow
  | blue
  | brightRed
  | brightGreen
  | brightYellow
  | brightBlue
  | brightMagenta
  | brightCyan
deriving DecidableEq, Inhabited

def Color.code : Color → Nat
  | red => 31
  | green => 32
  | yellow => 33
  | blue => 34
  | brightRed => 91
  | brightGreen => 92
  | brightYellow => 93
  | brightBlue => 94
  | brightMagenta => 95
  | brightCyan => 96

def escapeSequence (code : Nat) : String := "\x1b[" ++ toString code ++ "m"

structure Ink where
  colors : Bool := false
deriving DecidableEq, Inhabited

namespace Ink

/-- The text between two escape sequences, or as it is. -/
def surround (ink : Ink) (start stop : Nat) (text : String) : String :=
  if ink.colors then escapeSequence start ++ text ++ escapeSequence stop else text

/-- The text in a colour; behind it the default colour returns. -/
def paint (ink : Ink) (color : Color) (text : String) : String := ink.surround color.code 39 text

/-- The text in a colour; behind it every style ends. -/
def paintAlone (ink : Ink) (color : Color) (text : String) : String :=
  ink.surround color.code 0 text

def bold (ink : Ink) (text : String) : String := ink.surround 1 0 text

def dim (ink : Ink) (text : String) : String := ink.surround 2 0 text

def italic (ink : Ink) (text : String) : String := ink.surround 3 0 text

end Ink
end SpriteBlocks.Console
