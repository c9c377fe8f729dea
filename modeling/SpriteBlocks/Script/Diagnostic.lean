import SpriteBlocks.Text.Lines
import SpriteBlocks.Toml.Node

/-!
# Diagnostics

A diagnostic is a message about a place in a source, with captions at other
places and notes below.
-/
namespace SpriteBlocks.Script
open Toml

inductive Severity where
  | error
  | warning
deriving DecidableEq, Inhabited

def Severity.name : Severity → String
  | error => "error"
  | warning => "warning"

structure Diagnostic where
  severity : Severity
  message : String
  span : Span
  /-- Other places, each with a caption. -/
  related : List (Span × String) := []
  notes : List String := []
deriving DecidableEq, Inhabited

structure Mark where
  /-- Whether the message is about this place. -/
  primary : Bool
  file : Nat
  span : Span
  caption : String
deriving DecidableEq, Inhabited

namespace Diagnostic

def isWarning (d : Diagnostic) : Bool := d.severity = .warning

/-- The line of the source on which the place starts, from one. A place behind
the end counts as the end. -/
def line (source : String) (d : Diagnostic) : Nat := Text.lineOfByte d.span.start source.toList

/-- The marked places: the one that the message is about comes first. -/
def marks (file : Nat) (d : Diagnostic) : List Mark :=
  ⟨true, file, d.span, ""⟩ :: d.related.map fun r => ⟨false, file, r.1, r.2⟩

def heading (d : Diagnostic) : String := d.severity.name ++ ": " ++ d.message

end Diagnostic
end SpriteBlocks.Script
