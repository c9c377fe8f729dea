import SpriteBlocks.Decimal.Written
import SpriteBlocks.Toml.Node
import SpriteBlocks.Toml.Strings

/-!
# Values on one line

The written form of a value inside a message. A string takes the first of the
four string forms that holds it without escapes; if there is none it takes a
basic form with escapes.
-/
namespace SpriteBlocks.Toml

/-- Whether a basic string needs a numbered or named escape for the character. -/
def isControl (c : Char) : Bool := c ≠ '\n' && !isStringChar c

/-- The longest run of a character in a text; `run` of them stand before it. -/
def longestRun (c : Char) (run : Nat) : List Char → Nat
  | [] => run
  | d :: ds => if d = c then longestRun c (run + 1) ds else max run (longestRun c 0 ds)

def hexDigit (n : Nat) : Char := (Nat.digitChar n).toUpper

/-- The written form of a character of a basic string, or nothing if it stands
for itself. -/
def basicEscape? (lines : Bool) (c : Char) : Option (List Char) :=
  match c with
  | '\x08' => some ['\\', 'b']
  | '\t' => some ['\\', 't']
  | '\n' => if lines then none else some ['\\', 'n']
  | '\x0c' => some ['\\', 'f']
  | '\r' => some ['\\', 'r']
  | '\\' => some ['\\', '\\']
  | _ =>
    if isControl c then
      some ['\\', 'u', '0', '0', hexDigit (c.toNat / 16), hexDigit (c.toNat % 16)]
    else none

/-- The inside of a basic string. Of quotes in a row, no more than `quotes`
stand for themselves; `run` of them are written already. -/
def basicChars (lines : Bool) (quotes run : Nat) : List Char → List Char
  | [] => []
  | c :: cs =>
    if c = '"' then
      if run < quotes then c :: basicChars lines quotes (run + 1) cs
      else '\\' :: c :: basicChars lines quotes 0 cs
    else
      match basicEscape? lines c with
      | some escaped => escaped ++ basicChars lines quotes 0 cs
      | none => c :: basicChars lines quotes 0 cs

/-- The string between delimiters of one or three characters. A text of several
lines starts on a line of its own behind three. -/
def delimited (quote : Char) (long : Bool) (lines : Bool) (inside : List Char) : String :=
  let mark := List.replicate (if long then 3 else 1) quote
  String.ofList (mark ++ (if long && lines then ['\n'] else []) ++ inside ++ mark)

def inlineString (s : String) : String :=
  let cs := s.toList
  let controls := cs.any isControl
  let escapes := controls || cs.contains '\\'
  let lines := cs.contains '\n'
  let double := longestRun '"' 0 cs
  let single := longestRun '\'' 0 cs
  if !escapes && double = 0 && !lines then delimited '"' false lines (basicChars lines 0 0 cs)
  else if !controls && single = 0 && !lines then delimited '\'' false lines cs
  else if !escapes && double ≤ 2 then delimited '"' true lines (basicChars true 2 0 cs)
  else if !controls && single ≤ 2 then delimited '\'' true lines cs
  else if lines then delimited '"' true lines (basicChars true 2 0 cs)
  else delimited '"' false lines (basicChars false 0 0 cs)

def isBareKey (s : String) : Bool :=
  !s.isEmpty && s.toList.all fun c => c.isAlphanum || c = '_' || c = '-'

/-- The written form of a key, on one line in every case. -/
def inlineKey (s : String) : String :=
  let cs := s.toList
  let controls := cs.any isControl || cs.contains '\n'
  if isBareKey s then s
  else if !controls && !cs.contains '\\' && !cs.contains '"' then
    delimited '"' false false (basicChars false 0 0 cs)
  else if !controls && !cs.contains '\'' then delimited '\'' false false cs
  else delimited '"' false false (basicChars false 0 0 cs)

def inlineFloat (x : Float) : String :=
  if x.isNaN then "nan" else Decimal.write Decimal.pointed x

namespace Node

mutual
def inline : Node → String
  | string _ text => inlineString text
  | integer _ value => toString value
  | float _ value => inlineFloat value
  | boolean _ value => toString value
  | moment _ text => text
  | array _ items => "[" ++ ", ".intercalate (inlineItems items) ++ "]"
  | table _ entries =>
    if entries.isEmpty then "\x7b\x7d"
    else "\x7b " ++ ", ".intercalate (inlineEntries entries) ++ " \x7d"

def inlineItems : List Node → List String
  | [] => []
  | n :: ns => n.inline :: inlineItems ns

def inlineEntries : List (Key × Node) → List String
  | [] => []
  | (key, node) :: rest => (inlineKey key.name ++ " = " ++ node.inline) :: inlineEntries rest
end

end Node
end SpriteBlocks.Toml
