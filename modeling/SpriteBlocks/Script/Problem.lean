import SpriteBlocks.Block.Condition
import SpriteBlocks.Script.Diagnostic
import SpriteBlocks.Toml.Inline
import SpriteBlocks.Toml.Shape
import SpriteBlocks.Workspace.Basic

/-!
# Problems of a script

A problem is a cause, and a finding a problem at its place. Some problems only
warn: the script loads all the same. `Finding.diagnostic` gives a finding its
words.
-/
namespace SpriteBlocks.Script
open Toml

inductive Problem where
  | shape (problem : ShapeProblem)
  | tolerance (found : Node)
  | unknownOpcode (tag : String)
  | cannotContain (opcode : Opcode)
  /-- The workspace refuses a block or a connection. -/
  | refused (error : WorkspaceError)
  | duplicateLabel (label : String)
  | unknownCondition (text : String)
  | unusableParameter (name : String) (found : Node)
  | noSuchLabel (label : String)
  | tooFar (source target : String) (tolerance : Float)
  | cycle (source target : String)
  | selfConnection (source : String)
  | insideContainer (label : String)
deriving Inhabited

namespace Problem

def severity : Problem → Severity
  | unknownOpcode _ | unknownCondition _ | unusableParameter .. | tooFar .. => .warning
  | _ => .error

def message : Problem → String
  | shape problem => problem.message
  | tolerance found =>
    ticked "tolerance" ++ " must be a non-negative number, found " ++ found.inline
  | unknownOpcode tag => "unknown block type " ++ ticked tag
  | cannotContain opcode => ticked opcode.tag ++ " blocks cannot contain other blocks"
  | refused error => error.message
  | duplicateLabel label => "duplicate label " ++ ticked label
  | unknownCondition text => "unknown condition " ++ ticked text
  | unusableParameter name found =>
    "parameter " ++ ticked name ++ " must be a number or text, found " ++ found.kind
  | noSuchLabel label => "no block labelled " ++ ticked label
  | tooFar source target _ =>
    ticked target ++ " is too far from " ++ ticked source ++ " to connect"
  | cycle source target =>
    "connecting " ++ ticked source ++ " -> " ++ ticked target ++ " would form a cycle"
  | selfConnection source => ticked source ++ " cannot follow itself"
  | insideContainer label => ticked label ++ " is inside a container and cannot be chained"

def notes : Problem → List String
  | tolerance _ => ["tolerance is the snap distance in pixels (default 20)"]
  | unknownOpcode _ =>
    ["the block is kept and reported when the program runs",
      "known blocks: " ++ ", ".intercalate (Opcode.palette.map Opcode.tag)]
  | cannotContain _ => ["only repeat, forever and if take children"]
  | unknownCondition _ =>
    ["expected one of " ++ ", ".intercalate (Condition.menu.map Condition.choice) ++
      "; it will be treated as " ++ ticked "always"]
  | unusableParameter .. => ["the block's default is used instead"]
  | tooFar _ _ limit =>
    ["snap tolerance is " ++ Decimal.write Decimal.plain limit ++ " px"]
  | _ => []

/-- The caption of the other place that the problem has to do with. -/
def caption : Problem → String
  | duplicateLabel _ => "first used here"
  | tooFar .. => "chain ends here"
  | _ => "connecting from here"

end Problem

/-- A problem at its place, with the other place it has to do with. -/
structure Finding where
  problem : Problem
  span : Span
  related : Option Span := none
deriving Inhabited

namespace Finding

def severity (f : Finding) : Severity := f.problem.severity

def message (f : Finding) : String := f.problem.message

def diagnostic (f : Finding) : Diagnostic where
  severity := f.severity
  message := f.message
  span := f.span
  related := f.related.toList.map fun span => (span, f.problem.caption)
  notes := f.problem.notes

end Finding
end SpriteBlocks.Script
