import SpriteBlocks.Decimal.Numeral
import SpriteBlocks.Toml.Cursor

/-!
# TOML numbers, dates and times

Whole numbers have 64 bits and a sign; single underscores may stand between
digits. Dates and times are checked against the calendar and kept in one
written form.
-/
namespace SpriteBlocks.Toml

/-- Digits with single underscores between them, as digits alone. -/
def digitRun? (isDigit : Char → Bool) : Nat → Cursor → Option (List Char × Cursor)
  | 0, _ => none
  | fuel + 1, c =>
    match c.rest with
    | [] => none
    | d :: _ =>
      if isDigit d then
        match c.skip.rest with
        | '_' :: _ => (digitRun? isDigit fuel c.skip.skip).map fun (ds, c) => (d :: ds, c)
        | e :: _ =>
          if isDigit e then (digitRun? isDigit fuel c.skip).map fun (ds, c) => (d :: ds, c)
          else some ([d], c.skip)
        | [] => some ([d], c.skip)
      else none

def decimalRun? (c : Cursor) : Option (List Char × Cursor) :=
  digitRun? Char.isDigit (c.rest.length + 1) c

/-- A decimal number in front of a point or an exponent: a lone digit, or digits
that do not start with a zero. -/
def wholeDigits? (c : Cursor) : Option (List Char × Cursor) :=
  match c.rest with
  | '0' :: _ => some (['0'], c.skip)
  | _ => decimalRun? c

/-- A whole number if it has a place in 64 bits. -/
def inRange? (n : Int) : Option Int :=
  if Int64.minValue.toInt ≤ n ∧ n ≤ Int64.maxValue.toInt then some n else none

/-- A number in a base given by a letter after a zero. -/
def basedInteger? (c : Cursor) : Option (Int × Cursor) :=
  match c.rest with
  | '0' :: 'x' :: _ => read 16 (fun d => (digit? d).isSome) c
  | '0' :: 'o' :: _ => read 8 (fun d => '0' ≤ d && d ≤ '7') c
  | '0' :: 'b' :: _ => read 2 (fun d => d = '0' || d = '1') c
  | _ => none
where
  digit? (d : Char) : Option Nat :=
    if d.isDigit then some (d.toNat - '0'.toNat)
    else if 'a' ≤ d && d ≤ 'f' then some (d.toNat - 'a'.toNat + 10)
    else if 'A' ≤ d && d ≤ 'F' then some (d.toNat - 'A'.toNat + 10)
    else none
  read (base : Nat) (isDigit : Char → Bool) (c : Cursor) : Option (Int × Cursor) := do
    let (ds, c) ← digitRun? isDigit (c.rest.length + 1) c.skip.skip
    let n ← inRange? (ds.foldl (fun n d => base * n + (digit? d).getD 0) 0 : Nat)
    some (n, c)

def exponentPart? (c : Cursor) : Option (Option (Int × Cursor)) :=
  match c.rest with
  | d :: _ =>
    if d = 'e' ∨ d = 'E' then do
      let (negative, rest) := Decimal.takeSign c.skip.rest
      let c := if rest.length = c.skip.rest.length then c.skip else c.skip.skip
      let (ds, c) ← decimalRun? c
      let n : Int := Decimal.digitsValue ds
      some (some (if negative then -n else n, c))
    else some none
  | [] => some none

/-- A number in decimal notation. Only positive numbers may not be too large. -/
def decimalNumber? (c : Cursor) : Option (Node × Cursor) := do
  let start := c
  let (negative, _) := Decimal.takeSign c.rest
  let c := if (c.expect '-').isSome || (c.expect '+').isSome then c.skip else c
  match c.rest with
  | 'i' :: 'n' :: 'f' :: _ =>
    let c := c.skipMany 3
    some (.float (some (start.spanTo c)) (Decimal.negateIf negative Decimal.infinity), c)
  | 'n' :: 'a' :: 'n' :: _ =>
    let c := c.skipMany 3
    some (.float (some (start.spanTo c)) Decimal.notANumber, c)
  | _ =>
    let (whole, c) ← wholeDigits? c
    let (fraction, c) ← match c.expect '.' with
      | some next => decimalRun? next
      | none => some ([], c)
    match ← exponentPart? c with
    | none =>
      if fraction.isEmpty then
        let n : Int := Decimal.digitsValue whole
        let n ← inRange? (if negative then -n else n)
        some (.integer (some (start.spanTo c)) n, c)
      else finish start negative whole fraction 0 c
    | some (e, c) => finish start negative whole fraction e c
where
  finish (start : Cursor) (negative : Bool) (whole fraction : List Char) (e : Int) (c : Cursor) :
      Option (Node × Cursor) :=
    let x := Decimal.nearest (Decimal.digitsValue (whole ++ fraction)) (e - fraction.length)
    if x.isInf && !negative then none
    else some (.float (some (start.spanTo c)) (Decimal.negateIf negative x), c)

def fixedDigits? (count : Nat) (c : Cursor) : Option (Nat × Cursor) :=
  let ds := c.rest.take count
  if ds.length = count && ds.all Char.isDigit then
    some (Decimal.digitsValue ds, c.skipMany count)
  else none

def isLeapYear (year : Nat) : Bool := year % 4 = 0 && (year % 100 ≠ 0 || year % 400 = 0)

def daysInMonth (year month : Nat) : Nat :=
  if month = 2 then if isLeapYear year then 29 else 28
  else if month = 4 || month = 6 || month = 9 || month = 11 then 30
  else 31

def zeroPadded (width n : Nat) : String :=
  let ds := Nat.toDigits 10 n
  String.ofList (List.replicate (width - ds.length) '0' ++ ds)

/-- A date that the calendar has. -/
def date? (c : Cursor) : Option (String × Cursor) := do
  let (year, c) ← fixedDigits? 4 c
  let (month, c) ← fixedDigits? 2 (← c.expect '-')
  let (day, c) ← fixedDigits? 2 (← c.expect '-')
  if 1 ≤ month ∧ month ≤ 12 ∧ 1 ≤ day ∧ day ≤ daysInMonth year month then
    some (zeroPadded 4 year ++ "-" ++ zeroPadded 2 month ++ "-" ++ zeroPadded 2 day, c)
  else none

/-- The digits of a fraction of a second, cut after nine and without zeros at
the end. -/
def secondFraction (ds : List Char) : String :=
  let kept := ((ds.take 9).reverse.dropWhile (· = '0')).reverse
  if kept.isEmpty then "" else String.ofList ('.' :: kept)

/-- A time of the day; a minute may have a leap second. -/
def time? (c : Cursor) : Option (String × Cursor) := do
  let (hour, c) ← fixedDigits? 2 c
  let (minute, c) ← fixedDigits? 2 (← c.expect ':')
  let (second, c) ← fixedDigits? 2 (← c.expect ':')
  if hour ≤ 23 ∧ minute ≤ 59 ∧ second ≤ 60 then
    let text := zeroPadded 2 hour ++ ":" ++ zeroPadded 2 minute ++ ":" ++ zeroPadded 2 second
    match c.expect '.' with
    | none => some (text, c)
    | some next =>
      let (ds, c) := next.takeWhile Char.isDigit
      if ds.isEmpty then none else some (text ++ secondFraction ds, c)
  else none

/-- The distance to universal time, if one stands here. -/
def zone? (c : Cursor) : Option (String × Cursor) :=
  match c.rest with
  | d :: _ =>
    if d = 'Z' ∨ d = 'z' then some ("Z", c.skip)
    else if d = '+' ∨ d = '-' then do
      let (hour, c) ← fixedDigits? 2 c.skip
      let (minute, c) ← fixedDigits? 2 (← c.expect ':')
      if hour ≤ 23 ∧ minute ≤ 59 then
        let sign := if d = '-' ∧ hour * 60 + minute ≠ 0 then "-" else "+"
        some (sign ++ zeroPadded 2 hour ++ ":" ++ zeroPadded 2 minute, c)
      else none
    else some ("", c)
  | [] => some ("", c)

/-- A date, a time or both, if one starts here. -/
def moment? (c : Cursor) : Option (Node × Cursor) :=
  match date? c with
  | none => (time? c).map fun (t, next) => (.moment (some (c.spanTo next)) t, next)
  | some (d, afterDate) =>
    match afterDate.rest with
    | s :: _ =>
      if s = 'T' ∨ s = 't' ∨ s = ' ' then
        match time? afterDate.skip with
        | none => some (.moment (some (c.spanTo afterDate)) d, afterDate)
        | some (t, afterTime) =>
          (zone? afterTime).map fun (z, next) =>
            (.moment (some (c.spanTo next)) (d ++ "T" ++ t ++ z), next)
      else some (.moment (some (c.spanTo afterDate)) d, afterDate)
    | [] => some (.moment (some (c.spanTo afterDate)) d, afterDate)

/-- A number, a date or a time, whichever starts here. -/
def number? (c : Cursor) : Option (Node × Cursor) :=
  match moment? c with
  | some r => some r
  | none =>
    match basedInteger? c with
    | some (n, next) => some (.integer (some (c.spanTo next)) n, next)
    | none => decimalNumber? c

end SpriteBlocks.Toml
