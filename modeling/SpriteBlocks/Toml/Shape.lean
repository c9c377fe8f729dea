import SpriteBlocks.Decimal.Written
import SpriteBlocks.Text.Quoted
import SpriteBlocks.Toml.Node

/-!
# The shape of a value

A document may be well formed and still not say what its reader wants. A shape
error names the problem, the place and the keys that lead to it. The readers
here take a node as a text, a number, a list or a record, and fail at the first
problem in the order of the document.
-/
namespace SpriteBlocks.Toml

inductive ShapeProblem where
  | unknownField (name : String) (fields : List String)
  | missingField (name : String)
  | wrongType (found wanted : String)
  | outOfRange (value : Int) (wanted : String)
  | unknownVariant (name : String) (variants : List String)
  /-- A list stands for a record and ends before a field that must be given. -/
  | tooShort (length : Nat) (record : String) (fields : Nat)
  | notFinite (x : Float)
  /-- A choice is given as something other than a text or a table. -/
  | notAChoice
  /-- A choice is given as a table that does not have exactly one entry. -/
  | entryCount (several : Bool)
  /-- A choice is given as an entry with a value that is not empty. -/
  | payload (node : String) (isEmptyable : Bool)
deriving DecidableEq, Inhabited

def ticked (s : String) : String := "`" ++ s ++ "`"

def expectedNames : List String → String
  | [] => "there are no fields"
  | [a] => "expected " ++ ticked a
  | [a, b] => "expected " ++ ticked a ++ " or " ++ ticked b
  | names => "expected one of " ++ ", ".intercalate (names.map ticked)

namespace ShapeProblem

def message : ShapeProblem → String
  | unknownField name fields => "unknown field " ++ ticked name ++ ", " ++ expectedNames fields
  | missingField name => "missing field " ++ ticked name
  | wrongType found wanted => "invalid type: " ++ found ++ ", expected " ++ wanted
  | outOfRange value wanted =>
    "invalid value: integer " ++ ticked (toString value) ++ ", expected " ++ wanted
  | unknownVariant name variants =>
    "unknown variant " ++ ticked name ++ ", " ++ expectedNames variants
  | tooShort length record fields =>
    "invalid length " ++ toString length ++ ", expected struct " ++ record ++ " with " ++
      toString fields ++ (if fields = 1 then " element" else " elements")
  | notFinite x => "expected a finite number, found " ++ Decimal.write Decimal.plain x
  | notAChoice => "wanted string or table"
  | entryCount several =>
    "wanted exactly 1 element, " ++ (if several then "more than 1 element" else "found 0 elements")
  | payload node isEmptyable =>
    if isEmptyable then "expected empty " ++ node else "expected table, found " ++ node

end ShapeProblem

/-- A problem with its place, and the keys of the tables around it. -/
structure ShapeError where
  problem : ShapeProblem
  span : Option Span := none
  path : List String := []
deriving DecidableEq, Inhabited

namespace ShapeError

def message (e : ShapeError) : String := e.problem.message

/-- The error with a place, if it has none of its own. -/
def within (span : Option Span) (e : ShapeError) : ShapeError := { e with span := e.span.or span }

/-- The error of a value as an error of the entry that holds it. -/
def inEntry (key : Key) (node : Node) (e : ShapeError) : ShapeError :=
  { e.within (node.span.or key.span) with path := key.name :: e.path }

/-- The message, and the keys that lead to a problem without a place. -/
def described (e : ShapeError) : String :=
  e.message ++ "\n" ++
    (if e.path.isEmpty then "" else "in " ++ ticked (".".intercalate e.path) ++ "\n")

end ShapeError

abbrev Reading (α : Type) := Except ShapeError α

/-- The only key of a moment that is read as a table. -/
def momentKey : String := "$__toml_private_datetime"

namespace Node

def found : Node → String
  | string _ text => "string " ++ Text.quoted text
  | integer _ value => "integer " ++ ticked (toString value)
  | float _ value => "floating point " ++ ticked (Decimal.write Decimal.pointed value)
  | boolean _ value => "boolean " ++ ticked (toString value)
  | array .. => "sequence"
  | moment .. | table .. => "map"

def refuse {α : Type} (node : Node) (problem : ShapeProblem) : Reading α :=
  .error { problem, span := node.span }

def mismatch {α : Type} (node : Node) (wanted : String) : Reading α :=
  node.refuse (.wrongType node.found wanted)

def readText : Node → Reading String
  | string _ text => .ok text
  | node => node.mismatch "a string"

def readBoolean : Node → Reading Bool
  | boolean _ value => .ok value
  | node => node.mismatch "a boolean"

/-- A number; a whole one counts as the nearest number of fractional type. -/
def readFloat : Node → Reading Float
  | float _ value => .ok value
  | integer _ value => .ok (Float.ofInt value)
  | node => node.mismatch "f64"

def readFinite (node : Node) : Reading Float :=
  match node.readFloat with
  | .ok x => if x.isFinite then .ok x else .error { problem := .notFinite x }
  | .error e => .error e

/-- A whole number from zero up to but not including a bound. -/
def readNatural (bound : Nat) (wanted : String) : Node → Reading Nat
  | integer span value =>
    if 0 ≤ value ∧ value < bound then .ok value.toNat
    else (integer span value).refuse (.outOfRange value wanted)
  | node => node.mismatch wanted

def readUInt64 (node : Node) : Reading UInt64 :=
  (node.readNatural UInt64.size "u64").map UInt64.ofNat

def readUInt32 (node : Node) : Reading UInt32 :=
  (node.readNatural UInt32.size "u32").map UInt32.ofNat

def readCount (node : Node) : Reading Nat := node.readNatural UInt64.size "usize"

def readItems {α : Type} (read : Node → Reading α) : Node → Reading (List α)
  | array span items => (items.mapM read).mapError (ShapeError.within span)
  | node => node.mismatch "a sequence"

/-- A value together with its place. Only tables that the document implies have
no place; the reader then meets their first key. -/
def readLocated {α : Type} (read : Node → Reading α) (node : Node) : Reading (Located α) :=
  match node.span with
  | some span => (read node).map fun value => ⟨value, span⟩
  | none =>
    match node with
    | table _ ((key, _) :: _) =>
      .error { problem := .wrongType ("string " ++ Text.quoted key.name) "a borrowed string",
               span := key.span }
    | node => node.mismatch "a spanned value"

def entries? : Node → Option (List (Key × Node))
  | table _ entries => some entries
  | moment _ text => some [(⟨momentKey, none⟩, string none text)]
  | _ => none

def readEntries {α : Type} (read : Node → Reading α) (node : Node) :
    Reading (List (String × α)) :=
  match node.entries? with
  | some entries =>
    (entries.mapM fun e =>
      ((read e.2).mapError (ShapeError.inEntry e.1 e.2)).map fun a => (e.1.name, a)).mapError
        (ShapeError.within node.span)
  | none => node.mismatch "a map"

def readNothing : Node → Reading Unit
  | table span entries =>
    if entries.isEmpty then .ok () else (table span entries).refuse (.payload "table" true)
  | array span items =>
    if items.isEmpty then .ok () else (array span items).refuse (.payload "array" true)
  | node => node.refuse (.payload node.kind false)

def chosen {α : Type} (choices : List (String × α)) (name : String) : Reading α :=
  match choices.lookup name with
  | some a => .ok a
  | none => .error { problem := .unknownVariant name (choices.map (·.1)) }

/-- A choice by its name, or by a table whose only key is its name. -/
def readChoice {α : Type} (choices : List (String × α)) (node : Node) : Reading α :=
  match node with
  | string span name => (chosen choices name).mapError (ShapeError.within span)
  | table _ [(key, value)] =>
    ((chosen choices key.name).mapError (ShapeError.within key.span)).bind fun a =>
      (value.readNothing.map fun _ => a).mapError (ShapeError.within node.span)
  | table _ entries => node.refuse (.entryCount (!entries.isEmpty))
  | node => node.refuse .notAChoice

end Node

inductive Presence where
  | optional
  /-- A table may leave the field out; a list in place of a table may not. -/
  | optionalByName
  | required
deriving DecidableEq, Inhabited

structure Field (ρ : Type) where
  name : String
  presence : Presence
  read : Node → ρ → Reading ρ

/-- How a record is read: its fields in the order of their declaration, and the
record in which no field has been given. -/
structure RecordShape (ρ : Type) where
  name : String
  fields : List (Field ρ)
  start : ρ

namespace RecordShape
variable {ρ : Type}

def field {α : Type} (name : String) (presence : Presence) (read : Node → Reading α)
    (put : α → ρ → ρ) : Field ρ :=
  ⟨name, presence, fun node r => (read node).map fun a => put a r⟩

def names (s : RecordShape ρ) : List String := s.fields.map Field.name

def readEntry (s : RecordShape ρ) (r : ρ) (e : Key × Node) : Reading ρ :=
  match s.fields.find? fun f => f.name = e.1.name with
  | some f => (f.read e.2 r).mapError (ShapeError.inEntry e.1 e.2)
  | none => .error { problem := .unknownField e.1.name s.names, span := e.1.span }

/-- The first required field that is not among the entries. -/
def missing? (s : RecordShape ρ) (entries : List (Key × Node)) : Option (Field ρ) :=
  s.fields.find? fun f => f.presence = .required && !entries.any fun e => e.1.name = f.name

def readTable (s : RecordShape ρ) (entries : List (Key × Node)) : Reading ρ :=
  (entries.foldlM s.readEntry s.start).bind fun r =>
    match s.missing? entries with
    | some f => .error { problem := .missingField f.name }
    | none => .ok r

/-- The record of a list of values, each for the field at its place. -/
def readList (s : RecordShape ρ) : Nat → List (Field ρ) → List Node → ρ → Reading ρ
  | _, [], _, r => .ok r
  | i, f :: fs, node :: nodes, r => (f.read node r).bind (s.readList (i + 1) fs nodes)
  | i, f :: fs, [], r =>
    if f.presence = .optional then s.readList (i + 1) fs [] r
    else .error { problem := .tooShort i s.name s.fields.length }

def read (s : RecordShape ρ) (node : Node) : Reading ρ :=
  match node with
  | .array span items => (s.readList 0 s.fields items s.start).mapError (ShapeError.within span)
  | node =>
    match node.entries? with
    | some entries => (s.readTable entries).mapError (ShapeError.within node.span)
    | none => node.mismatch ("struct " ++ s.name)

end RecordShape
end SpriteBlocks.Toml
