import SpriteBlocks.CommandLine.Program

/-!
# The outer layer

Reads what the path of a command leads to, and writes the answer: lines to their
streams, pauses as sleep. A run that goes on for ever is answered in longer and
longer parts, of which each begins with the one before.
-/
namespace SpriteBlocks.CommandLine
open Console

/-- The number of an error, which may be given as its negative. -/
def errorNumber (code : UInt32) : UInt32 := if code < 0x80000000 then code else 0 - code

def fileErrorOf : IO.Error → FileError
  | .noFileOrDirectory .. => .notFound
  | .inappropriateType _ code _ => if errorNumber code = 20 then .notAFolder else .isFolder
  | .permissionDenied _ code details =>
    .other (details.capitalize ++ " (os error " ++ toString (errorNumber code) ++ ")")
  | e => .other e.toString

def readFile (path : String) : IO FileContent := do
  try
    return contentOfBytes (← IO.FS.readBinFile (System.mkFilePath [path]))
  catch e =>
    return .error (fileErrorOf e)

/-- What a path leads to, with everything below it. -/
partial def readTree (path : String) : IO FileTree := do
  let place := System.mkFilePath [path]
  if ← place.isDir then
    let inner ← (← place.readDir).toList.mapM fun e => do
      return (e.fileName, ← readTree (Path.join path e.fileName))
    return .folder (inner.foldl (fun known e => FileTree.putEntry e.1 e.2 known) [])
  else return .file (← readFile path)

def lookAt (path : String) : IO (Except FileError FileTree) := do
  if ← (System.mkFilePath [path]).pathExists then return .ok (← readTree path)
  else return (← readFile path).map fun text => .file (.ok text)

def detectColors : IO Bool := do
  if (← IO.getEnv "NO_COLOR").isSome then return false
  if (← IO.getEnv "FORCE_COLOR").isSome then return true
  (← IO.getStderr).isTty

def randomSeed : IO UInt64 := do
  let bytes ← IO.getRandomBytes 8
  return bytes.foldl (fun seed b => seed * 256 + b.toUInt64) 0

/-- Sleep for a time of any length, in whole milliseconds rounded up. -/
partial def sleepFor (milliseconds : Nat) : IO Unit := do
  if milliseconds < 1000000 then IO.sleep milliseconds.toUInt32
  else
    IO.sleep 1000000
    sleepFor (milliseconds - 1000000)

def timeSince (start : Nat) : IO String := do
  let passed := (← IO.monoMsNow) - start
  let digits := toString (passed % 1000)
  let zeros := String.ofList (List.replicate (3 - digits.length) '0')
  return toString (passed / 1000) ++ "." ++ zeros ++ digits ++ "s"

def write (ink : Ink) (start : Nat) : Output → IO Unit
  | .out line => do
    let out ← IO.getStdout
    out.putStrLn line
    out.flush
  | .pause duration => sleepFor (Timer.ceiling duration.nanos / Duration.perMillisecond)
  | step => do (← IO.getStderr).putStr (step.errText ink (← timeSince start))

/-- Write the answer of an invocation behind the steps already written. -/
partial def writeAnswer (i : Invocation) (s : Surroundings) (found : Except FileError FileTree)
    (start written : Nat) : IO UInt32 := do
  let answer := i.answer s found
  for step in answer.output.drop written do
    write (i.manners.manner s.colors).ink start step
  if answer.unfinished then
    writeAnswer i { s with roundLimit := 2 * s.roundLimit } found start answer.output.length
  else return UInt32.ofNat answer.code

def writeLines (lines : List String) (toError : Bool) : IO Unit := do
  for line in lines do
    if toError then IO.eprintln line else IO.println line

end SpriteBlocks.CommandLine

open SpriteBlocks.CommandLine in
def main (args : List String) : IO UInt32 := do
  match readLine args with
  | .done i =>
    let found ← lookAt i.command.path
    let s : Surroundings :=
      { colors := ← detectColors, seed := ← randomSeed, roundLimit := 16 }
    writeAnswer i s found (← IO.monoMsNow) 0
  | .help => writeLines usage false; return 0
  | .version => writeLines [version] false; return 0
  | .wrong => writeLines usage true; return 2
