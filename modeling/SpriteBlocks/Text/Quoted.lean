import SpriteBlocks.Text.Hidden

/-!
# Quoted texts

A quoted text stands between double quotes. Quotes, backslashes and the usual
controls have short escapes, and a hidden character is written as the
hexadecimal number of its code point in braces.
-/
namespace SpriteBlocks.Text

def escape (c : Char) : List Char :=
  match c with
  | '\x00' => ['\\', '0']
  | '\t' => ['\\', 't']
  | '\r' => ['\\', 'r']
  | '\n' => ['\\', 'n']
  | '"' => ['\\', '"']
  | '\\' => ['\\', '\\']
  | _ =>
    if isHidden c then ['\\', 'u', '\x7b'] ++ Nat.toDigits 16 c.toNat ++ ['\x7d'] else [c]

def quoted (s : String) : String :=
  String.ofList ('"' :: s.toList.flatMap escape ++ ['"'])

end SpriteBlocks.Text
