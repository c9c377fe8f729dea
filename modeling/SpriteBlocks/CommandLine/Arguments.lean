/-!
# Arguments

Arguments are read from left to right against a list of rules. A long option
stands behind two dashes and may have its value behind an equals sign; short
options may share one dash, and the last of them may have its value attached.
Everything behind `--` is no option. The first argument that fits no rule makes
the whole line wrong.
-/
namespace SpriteBlocks.CommandLine

/-- What an option does to what has been read so far; nothing comes back if it
may not stand here. -/
inductive Action (σ : Type) where
  | flag (set : σ → Option σ)
  | value (set : String → σ → Option σ)
  /-- Reading ends with a request for help or for the version. -/
  | help
  | version

structure Rule (σ : Type) where
  long : String
  short : Option Char := none
  action : Action σ

inductive Reading (σ : Type) where
  | done (result : σ)
  | help
  | version
  | wrong
deriving Inhabited

namespace Reading

def ofOption {σ : Type} : Option σ → Reading σ
  | some s => done s
  | none => wrong

def andThen {σ τ : Type} (f : σ → Reading τ) : Reading σ → Reading τ
  | done s => f s
  | help => help
  | version => version
  | wrong => wrong

end Reading

inductive Form where
  /-- Everything behind is no option. -/
  | rest
  | long (name : String) (value : Option String)
  | short (letters : List Char)
  | plain
deriving DecidableEq, Inhabited

def cutAtEquals (cs : List Char) : List Char × Option (List Char) :=
  match cs.dropWhile (· ≠ '=') with
  | [] => (cs, none)
  | _ :: value => (cs.takeWhile (· ≠ '='), some value)

/-- The form of an argument. One dash alone is no option. -/
def form (arg : String) : Form :=
  match arg.toList with
  | ['-', '-'] => .rest
  | '-' :: '-' :: cs =>
    let (name, value) := cutAtEquals cs
    .long (String.ofList name) (value.map String.ofList)
  | ['-'] => .plain
  | '-' :: letters => .short letters
  | _ => .plain

/-- What is left to do behind an option. -/
inductive Step (σ : Type) where
  | go (result : σ)
  /-- The next argument is the value of the option. -/
  | needsValue (set : String → Option σ)
  | help
  | version
  | wrong

def longStep {σ : Type} (rules : List (Rule σ)) (name : String) (value : Option String) (s : σ) :
    Step σ :=
  match rules.find? fun r => r.long = name with
  | none => .wrong
  | some r =>
    match r.action, value with
    | .flag set, none => (set s).elim .wrong .go
    | .value set, some v => (set v s).elim .wrong .go
    | .value set, none => .needsValue fun v => set v s
    | .help, none => .help
    | .version, none => .version
    | _, some _ => .wrong

def shortStep {σ : Type} (rules : List (Rule σ)) : List Char → σ → Step σ
  | [], s => .go s
  | c :: cs, s =>
    match rules.find? fun r => r.short = some c with
    | none => .wrong
    | some r =>
      match r.action with
      | .flag set =>
        match set s with
        | some s => shortStep rules cs s
        | none => .wrong
      | .value set =>
        match cs with
        | [] => .needsValue fun v => set v s
        | '=' :: v => (set (String.ofList v) s).elim .wrong .go
        | v => (set (String.ofList v) s).elim .wrong .go
      | .help => .help
      | .version => .version

def readPlain {σ : Type} (plain : String → σ → Option σ) : List String → σ → Reading σ
  | [], s => .done s
  | arg :: args, s =>
    match plain arg s with
    | some s => readPlain plain args s
    | none => .wrong

/-- Read all arguments; `plain` takes those that are no options. -/
def readArguments {σ : Type} (rules : List (Rule σ)) (plain : String → σ → Option σ) :
    List String → σ → Reading σ
  | [], s => .done s
  | arg :: args, s =>
    let step :=
      match form arg with
      | .long name value => longStep rules name value s
      | .short letters => shortStep rules letters s
      | _ => (plain arg s).elim .wrong .go
    if form arg = .rest then readPlain plain args s
    else
      match step with
      | .go s => readArguments rules plain args s
      | .needsValue set =>
        match args with
        | [] => .wrong
        | v :: args =>
          if form v = .plain then
            match set v with
            | some s => readArguments rules plain args s
            | none => .wrong
          else .wrong
      | .help => .help
      | .version => .version
      | .wrong => .wrong

end SpriteBlocks.CommandLine
