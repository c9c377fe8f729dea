import SpriteBlocks.CommandLine.Arguments

/-!
# Commands

The program runs a script or tries scenarios. A line whose first argument that
is no option names no command is a line of the command `run`.
-/
namespace SpriteBlocks.CommandLine

/-- The options of both commands. -/
structure Manners where
  noColor : Bool := false
  verbose : Bool := false
deriving DecidableEq, Inhabited

structure RunOptions where
  file : String := ""
  check : Bool := false
  dump : Bool := false
  listBlocks : Bool := false
  quiet : Bool := false
  /-- Run on virtual time. -/
  instant : Bool := false
  seed : Option UInt64 := none
  /-- Press stop after so many milliseconds. -/
  stopAfter : Option UInt64 := none
deriving DecidableEq, Inhabited

structure TestOptions where
  path : String := ""
  categories : List String := []
  listCategories : Bool := false
deriving DecidableEq, Inhabited

inductive Command where
  | run (options : RunOptions)
  | test (options : TestOptions)
deriving DecidableEq, Inhabited

def Command.path : Command → String
  | run options => options.file
  | test options => options.path

structure Invocation where
  manners : Manners
  command : Command
deriving DecidableEq, Inhabited

/-- A line under way: the manners, the options, and the argument that is no
option. -/
structure Draft (ω : Type) where
  manners : Manners := {}
  options : ω
  operand : Option String := none

def switch {σ : Type} (isOn : σ → Bool) (turnOn : σ → σ) : Action σ :=
  .flag fun s => if isOn s then none else some (turnOn s)

/-- The digits of a number of 64 bits, which may have a plus sign. -/
def wordOf? (text : String) : Option UInt64 :=
  let digits :=
    match text.toList with
    | '+' :: cs => cs
    | cs => cs
  if digits.isEmpty || !digits.all Char.isDigit then none
  else
    let n := digits.foldl (fun n c => 10 * n + (c.toNat - '0'.toNat)) 0
    if n < UInt64.size then some (UInt64.ofNat n) else none

def wordOption {σ : Type} (get : σ → Option UInt64) (put : UInt64 → σ → σ) : Action σ :=
  .value fun text s => if (get s).isSome then none else (wordOf? text).map fun w => put w s

def mannerRules (ω : Type) : List (Rule (Draft ω)) :=
  [{ long := "no-color",
     action := switch (fun d => d.manners.noColor)
       fun d => { d with manners := { d.manners with noColor := true } } },
    { long := "verbose", short := some 'v',
      action := switch (fun d => d.manners.verbose)
        fun d => { d with manners := { d.manners with verbose := true } } },
    { long := "help", short := some 'h', action := .help }]

def runSwitch (long : String) (short : Option Char) (isOn : RunOptions → Bool)
    (turnOn : RunOptions → RunOptions) : Rule (Draft RunOptions) :=
  { long, short,
    action := switch (fun d => isOn d.options) fun d => { d with options := turnOn d.options } }

def runWord (long : String) (get : RunOptions → Option UInt64)
    (put : UInt64 → RunOptions → RunOptions) : Rule (Draft RunOptions) :=
  { long,
    action := wordOption (fun d => get d.options)
      fun w d => { d with options := put w d.options } }

def runRules : List (Rule (Draft RunOptions)) :=
  mannerRules RunOptions ++
    [runSwitch "check" none (fun o => o.check) fun o => { o with check := true },
      runSwitch "dump" none (fun o => o.dump) fun o => { o with dump := true },
      runSwitch "list-blocks" none (fun o => o.listBlocks) fun o => { o with listBlocks := true },
      runSwitch "quiet" (some 'q') (fun o => o.quiet) fun o => { o with quiet := true },
      runSwitch "instant" none (fun o => o.instant) fun o => { o with instant := true },
      runWord "seed" (fun o => o.seed) fun w o => { o with seed := some w },
      runWord "stop-after" (fun o => o.stopAfter) fun w o => { o with stopAfter := some w }]

def testRules : List (Rule (Draft TestOptions)) :=
  mannerRules TestOptions ++
    [{ long := "category", short := some 'c',
       action := .value fun name d =>
         some { d with
           options := { d.options with categories := d.options.categories ++ [name] } } },
      { long := "list-categories",
        action := switch (fun d => d.options.listCategories)
          fun d => { d with options := { d.options with listCategories := true } } }]

/-- Both commands take exactly one argument that is no option. -/
def takeOperand {ω : Type} (arg : String) (d : Draft ω) : Option (Draft ω) :=
  if d.operand.isSome then none else some { d with operand := some arg }

def leadingRules : List (Rule (Draft Unit)) :=
  mannerRules Unit ++ [{ long := "version", short := some 'V', action := .version }]

def Manners.both (a b : Manners) : Manners :=
  ⟨a.noColor || b.noColor, a.verbose || b.verbose⟩

def commandNames : List String := ["run", "test", "help"]

def isDashed (arg : String) : Bool := arg.toList.head? = some '-'

def readCommand (leading : Manners) (name : String) (args : List String) : Reading Invocation :=
  if name = "run" then
    (readArguments runRules takeOperand args { options := {} }).andThen fun d =>
      .ofOption (d.operand.map fun file =>
        ⟨leading.both d.manners, .run { d.options with file }⟩)
  else if name = "test" then
    (readArguments testRules takeOperand args { options := {} }).andThen fun d =>
      .ofOption (d.operand.map fun path =>
        ⟨leading.both d.manners, .test { d.options with path }⟩)
  else
    match args with
    | [] => .help
    | [topic] => if topic ∈ commandNames then .help else .wrong
    | _ => .wrong

def readLine (args : List String) : Reading Invocation :=
  let leading := args.takeWhile isDashed
  let line := (readArguments leadingRules (fun _ _ => none) leading { options := () })
  match args.dropWhile isDashed with
  | [] => line.andThen fun _ => .wrong
  | name :: rest =>
    line.andThen fun d =>
      if leading.contains "--" then .wrong
      else if name ∈ commandNames then readCommand d.manners name rest
      else readCommand d.manners "run" (name :: rest)

end SpriteBlocks.CommandLine
