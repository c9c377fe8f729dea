import SpriteBlocks.Block.Condition
import SpriteBlocks.Block.Id
import SpriteBlocks.Block.Opcode
import SpriteBlocks.Block.Parameters
import SpriteBlocks.Block.Tree
import SpriteBlocks.Chain.Proximity
import SpriteBlocks.Chain.Registry
import SpriteBlocks.CommandLine.Arguments
import SpriteBlocks.CommandLine.Command
import SpriteBlocks.CommandLine.Dump
import SpriteBlocks.CommandLine.Listing
import SpriteBlocks.CommandLine.Program
import SpriteBlocks.Console.Ink
import SpriteBlocks.Console.Output
import SpriteBlocks.Console.Panel
import SpriteBlocks.Console.Trace
import SpriteBlocks.Decimal.Binary
import SpriteBlocks.Decimal.Numeral
import SpriteBlocks.Decimal.Shortest
import SpriteBlocks.Decimal.Written
import SpriteBlocks.Duration
import SpriteBlocks.Files.Path
import SpriteBlocks.Files.Tree
import SpriteBlocks.Log.Event
import SpriteBlocks.Main
import SpriteBlocks.Random.Keystream
import SpriteBlocks.Random.Source
import SpriteBlocks.Run.Clock
import SpriteBlocks.Run.Control
import SpriteBlocks.Run.Effect
import SpriteBlocks.Run.Interpreter
import SpriteBlocks.Run.Session
import SpriteBlocks.Run.Settings
import SpriteBlocks.Run.SettingsTable
import SpriteBlocks.Run.World
import SpriteBlocks.Scenario.Category
import SpriteBlocks.Scenario.Check
import SpriteBlocks.Scenario.Expectations
import SpriteBlocks.Scenario.Fences
import SpriteBlocks.Scenario.Report
import SpriteBlocks.Scenario.Trial
import SpriteBlocks.Script.Assembly
import SpriteBlocks.Script.Diagnostic
import SpriteBlocks.Script.Entry
import SpriteBlocks.Script.Load
import SpriteBlocks.Script.Problem
import SpriteBlocks.SortedMap
import SpriteBlocks.Stage.Sprite
import SpriteBlocks.Text.Blank
import SpriteBlocks.Text.Hidden
import SpriteBlocks.Text.Lines
import SpriteBlocks.Text.Padded
import SpriteBlocks.Text.Quoted
import SpriteBlocks.Text.Search
import SpriteBlocks.Toml.Cursor
import SpriteBlocks.Toml.Document
import SpriteBlocks.Toml.Draft
import SpriteBlocks.Toml.Excerpt
import SpriteBlocks.Toml.Inline
import SpriteBlocks.Toml.Node
import SpriteBlocks.Toml.Numbers
import SpriteBlocks.Toml.Shape
import SpriteBlocks.Toml.Strings
import SpriteBlocks.Workspace.Basic
import SpriteBlocks.Workspace.Edit
import SpriteBlocks.Proofs.Chain.Sound
import SpriteBlocks.Proofs.Chain.Entry
import SpriteBlocks.Proofs.Block.Nodes
import SpriteBlocks.Proofs.Block.Surgery
import SpriteBlocks.Proofs.Workspace.Coherence
import SpriteBlocks.Proofs.Workspace.History
import SpriteBlocks.Proofs.Workspace.Chains
import SpriteBlocks.Proofs.Run.Steps
import SpriteBlocks.Proofs.Run.Lockstep
import SpriteBlocks.Proofs.Run.Termination
import SpriteBlocks.Proofs.Run.Cancellation
import SpriteBlocks.Proofs.Run.Deadline
import SpriteBlocks.Proofs.Block.Copies
import SpriteBlocks.Proofs.Block.Faces
import SpriteBlocks.Proofs.Chain.History
import SpriteBlocks.Proofs.Workspace.Refusal
import SpriteBlocks.Proofs.Run.Lines
import SpriteBlocks.Proofs.Run.Playback
import SpriteBlocks.Proofs.Workspace.Conservation
import SpriteBlocks.Proofs.Stage.Bounds
import SpriteBlocks.Proofs.Run.OnStage
import SpriteBlocks.Proofs.Run.Sharing
import SpriteBlocks.Proofs.Workspace.Grafts
import SpriteBlocks.Proofs.Script.Entries
import SpriteBlocks.Proofs.Script.Building
import SpriteBlocks.Proofs.Script.Faithful
import SpriteBlocks.Proofs.Script.Joining
import SpriteBlocks.Proofs.Chain.Rewiring
import SpriteBlocks.Proofs.Run.Dispatch
import SpriteBlocks.Proofs.Run.Frames
import SpriteBlocks.Proofs.Run.Sleeps
import SpriteBlocks.Proofs.Run.Draws
import SpriteBlocks.Proofs.Run.Reseeding
import SpriteBlocks.Proofs.Scenario.Verdict
import SpriteBlocks.Proofs.Chain.Splicing
import SpriteBlocks.Proofs.Chain.Exhaustion
import SpriteBlocks.Proofs.Run.Unrolling
import SpriteBlocks.Proofs.Run.Anonymity
import SpriteBlocks.Proofs.Decimal.Truncation
import SpriteBlocks.Proofs.Run.Touches
import SpriteBlocks.Proofs.Scenario.Occurrences
import SpriteBlocks.Proofs.Run.Readings
import SpriteBlocks.Proofs.Run.Overdue
import SpriteBlocks.Proofs.Run.Rounds
import SpriteBlocks.Proofs.Run.Timeline
import SpriteBlocks.Proofs.Run.Animation
import SpriteBlocks.Proofs.Text.Cutting
import SpriteBlocks.Proofs.Scenario.Splitting
import SpriteBlocks.Proofs.Scenario.Closeness
import SpriteBlocks.Proofs.Script.Placement
import SpriteBlocks.Proofs.Text.ByteOrder
import SpriteBlocks.Proofs.Script.Warnings
import SpriteBlocks.Proofs.Script.Labels
import SpriteBlocks.Proofs.Block.Taking
import SpriteBlocks.Proofs.Workspace.Announcements
import SpriteBlocks.Proofs.Text.Pieces
import SpriteBlocks.Proofs.Scenario.Folders
import SpriteBlocks.Proofs.Text.SingleLine
import SpriteBlocks.Proofs.Console.Reading
import SpriteBlocks.Proofs.Run.Wording
import SpriteBlocks.Proofs.Script.Panel
