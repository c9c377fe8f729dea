import SpriteBlocks.Text.Blank
import SpriteBlocks.Text.Lines

/-!
# Fences

A scenario file opens with a fence, a line of three dashes; the expectations
stand between it and the next fence, and everything behind that is the script.
-/
namespace SpriteBlocks.Scenario

/-- Whether a line is three dashes, but for blanks behind them. -/
def isFence (line : List Char) : Bool := Text.trimEndChars line = ['-', '-', '-']

inductive FenceError where
  | noOpening
  | notClosed
deriving DecidableEq, Inhabited

def FenceError.message : FenceError → String
  | noOpening => "the first line must be `---`"
  | notClosed => "expectations are not closed by a `---` line"

structure Parts where
  opening : List Char
  expectations : List Char
  closing : List Char
  script : List Char
deriving DecidableEq, Inhabited

/-- The characters behind a byte order mark. -/
def dropMark : List Char → List Char
  | [] => []
  | c :: cs => if c = '\ufeff' then cs else c :: cs

def splitLines : List (List Char) → Except FenceError Parts
  | [] => .error .notClosed
  | opening :: rest =>
    if isFence opening then
      match rest.dropWhile fun l => !isFence l with
      | [] => .error .notClosed
      | closing :: script =>
        .ok { opening, expectations := (rest.takeWhile fun l => !isFence l).flatten, closing,
              script := script.flatten }
    else .error .noOpening

def split (content : List Char) : Except FenceError Parts :=
  splitLines (Text.cutLines (dropMark content))

end SpriteBlocks.Scenario
