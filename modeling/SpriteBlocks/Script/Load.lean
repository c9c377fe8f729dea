import SpriteBlocks.Script.Assembly
import SpriteBlocks.Text.Search
import SpriteBlocks.Toml.Document

/-!
# Loading a script

A script is a document that holds the blocks of a program. Warnings never stop
loading and any error does. The tolerance is taken out of the settings; what
else stands there is left to the host.
-/
namespace SpriteBlocks

/-- A loaded workspace, and what the host needs beside it. -/
structure Script where
  workspace : Workspace
  /-- The settings other than the tolerance. -/
  settings : SortedMap String Toml.Node
  /-- The block of each label, and where the label stands. -/
  labels : SortedMap String (Toml.Located BlockId)
  /-- What the workspace told while it was assembled. -/
  events : Log
  warnings : List Script.Finding
deriving Inhabited

namespace Script
open Toml

inductive Failure where
  /-- The text is no document at all. -/
  | malformed
  | findings (errors : List Finding)
deriving Inhabited

structure Loading where
  notes : List Note := []
  result : Except Failure Script

/-- The first place of a text in a source; the start if there is none. -/
def locate (source needle : String) : Span :=
  match Text.firstByte needle.toList 0 source.toList with
  | some start => ⟨start, start + Text.byteLength needle.toList⟩
  | none => ⟨0, 0⟩

/-- The tolerance in the settings, or the value that is none. -/
def tolerance (settings : SortedMap String Node) : Except Node (Option Float) :=
  match settings.get? "tolerance" with
  | none => .ok none
  | some (.integer s n) => if 0 ≤ n then .ok (some (Float.ofInt n)) else .error (.integer s n)
  | some (.float s x) => if x.isFinite && 0.0 ≤ x then .ok (some x) else .error (.float s x)
  | some other => .error other

/-- The script of an assembly, unless a mistake was found. -/
def ofAssembly (settings : SortedMap String Node) (a : Assembly) : Except Failure Script :=
  if a.errors.isEmpty then
    let (workspace, events) := a.workspace.takeEvents
    .ok { workspace, settings, labels := a.labels, events, warnings := a.warnings }
  else .error (.findings a.errors)

/-- Load what a script file says. The source only tells where the tolerance
stands. -/
def assemble (source : String) (f : File) : Loading :=
  match tolerance f.settings with
  | .error found =>
    { result := .error (.findings
        [{ problem := .tolerance found, span := locate source "tolerance" }]) }
  | .ok t =>
    let a := Assembly.ofFile t f
    { notes := a.notes, result := ofAssembly (f.settings.erase "tolerance") a }

def load (source : String) : Loading :=
  match root? source with
  | none => { result := .error .malformed }
  | some root =>
    match File.ofNode root with
    | .error e =>
      { result := .error (.findings
          [{ problem := .shape e.problem, span := e.span.getD ⟨0, 0⟩ }]) }
    | .ok f => assemble source f

end Script
end SpriteBlocks
