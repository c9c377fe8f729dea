import SpriteBlocks.Toml.Cursor

/-!
# TOML strings

Basic strings stand between double quotes and know escapes; literal strings
stand between single quotes and know none. Three quotes open a form that may
run over several lines, whose first line end does not count.
-/
namespace SpriteBlocks.Toml

def isStringChar (c : Char) : Bool := c = '\t' || (0x20 ≤ c.toNat && c.toNat ≠ 0x7f)

def hexValue? (c : Char) : Option Nat :=
  if c.isDigit then some (c.toNat - '0'.toNat)
  else if 'a' ≤ c && c ≤ 'f' then some (c.toNat - 'a'.toNat + 10)
  else if 'A' ≤ c && c ≤ 'F' then some (c.toNat - 'A'.toNat + 10)
  else none

def hexDigits? (cs : List Char) : Option Nat :=
  cs.foldl (fun n? c => do return 16 * (← n?) + (← hexValue? c)) (some 0)

/-- The character with a number of exactly so many hexadecimal digits. -/
def numberedChar? (digits : Nat) (c : Cursor) : Option (Char × Cursor) := do
  let ds := c.rest.take digits
  if ds.length ≠ digits then none
  else
    let n ← hexDigits? ds
    if n.isValidChar then some (Char.ofNat n, c.skipMany digits) else none

def escape? (c : Cursor) : Option (Char × Cursor) :=
  match c.rest with
  | 'b' :: _ => some ('\x08', c.skip)
  | 't' :: _ => some ('\t', c.skip)
  | 'n' :: _ => some ('\n', c.skip)
  | 'f' :: _ => some ('\x0c', c.skip)
  | 'r' :: _ => some ('\r', c.skip)
  | '"' :: _ => some ('"', c.skip)
  | '\\' :: _ => some ('\\', c.skip)
  | 'u' :: _ => numberedChar? 4 c.skip
  | 'U' :: _ => numberedChar? 8 c.skip
  | _ => none

/-- A string on one line up to its quote; escapes count only in basic strings. -/
def oneLine (quote : Char) : Nat → List Char → Cursor → Option (String × Cursor)
  | 0, _, _ => none
  | fuel + 1, read, c =>
    match c.rest with
    | [] => none
    | d :: _ =>
      if d = quote then some (String.ofList read.reverse, c.skip)
      else if d = '\\' ∧ quote = '"' then
        match escape? c.skip with
        | some (e, next) => oneLine quote fuel (e :: read) next
        | none => none
      else if isStringChar d then oneLine quote fuel (d :: read) c.skip
      else none

/-- The cursor after the blanks and line ends that an escaped line end skips. -/
def skipToText : Nat → Cursor → Cursor
  | 0, c => c
  | fuel + 1, c =>
    let c := c.skipBlanks
    match c.lineEnd? with
    | some next => skipToText fuel next
    | none => c

/-- A string over several lines up to its three quotes, before which one or two
more quotes may stand. -/
def manyLines (quote : Char) : Nat → List Char → Cursor → Option (String × Cursor)
  | 0, _, _ => none
  | fuel + 1, read, c =>
    match c.rest with
    | [] => none
    | d :: ds =>
      if d = quote then
        let quotes := min (c.rest.takeWhile (· = quote)).length 5
        if 3 ≤ quotes then
          some (String.ofList (List.replicate (quotes - 3) quote ++ read).reverse,
            c.skipMany quotes)
        else manyLines quote fuel (quote :: read) c.skip
      else if d = '\\' ∧ quote = '"' then
        match c.skip.skipBlanks.lineEnd? with
        | some next => manyLines quote fuel read (skipToText (ds.length + 1) next)
        | none =>
          match escape? c.skip with
          | some (e, next) => manyLines quote fuel (e :: read) next
          | none => none
      else
        match c.lineEnd? with
        | some next => manyLines quote fuel ('\n' :: read) next
        | none => if isStringChar d then manyLines quote fuel (d :: read) c.skip else none

def shortString? (c : Cursor) : Option (String × Cursor) :=
  match c.rest with
  | '"' :: _ => oneLine '"' c.rest.length [] c.skip
  | '\'' :: _ => oneLine '\'' c.rest.length [] c.skip
  | _ => none

def string? (c : Cursor) : Option (String × Cursor) :=
  match c.rest with
  | '"' :: '"' :: '"' :: _ => long '"' (c.skipMany 3)
  | '\'' :: '\'' :: '\'' :: _ => long '\'' (c.skipMany 3)
  | _ => shortString? c
where
  long (quote : Char) (c : Cursor) : Option (String × Cursor) :=
    manyLines quote (c.rest.length + 1) [] (c.lineEnd?.getD c)

def isBareKeyChar (c : Char) : Bool :=
  ('a' ≤ c && c ≤ 'z') || ('A' ≤ c && c ≤ 'Z') || c.isDigit || c = '-' || c = '_'

def simpleKey? (c : Cursor) : Option (Key × Cursor) :=
  match shortString? c with
  | some (name, next) => some (⟨name, some (c.spanTo next)⟩, next)
  | none =>
    let (name, next) := c.takeWhile isBareKeyChar
    if name.isEmpty then none
    else some (⟨String.ofList name, some (c.spanTo next)⟩, next)

def dottedKeys? : Nat → Cursor → Option (List Key × Cursor)
  | 0, _ => none
  | fuel + 1, c => do
    let (key, c) ← simpleKey? c.skipBlanks
    let c := c.skipBlanks
    match c.expect '.' with
    | none => some ([key], c)
    | some next =>
      let (keys, c) ← dottedKeys? fuel next
      some (key :: keys, c)

/-- The number of keys in a path and of values open at once stays below this. -/
def nestingLimit : Nat := 80

def keyPath? (c : Cursor) : Option (List Key × Cursor) := do
  let (keys, c) ← dottedKeys? (c.rest.length + 1) c
  if keys.length < nestingLimit then some (keys, c) else none

end SpriteBlocks.Toml
