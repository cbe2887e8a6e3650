import PageSketch.Main
import PageSketch.World
import PageSketch.Command.Run
import PageSketch.Session.Episode
import PageSketch.Chat.Exchange
import PageSketch.Files.Tree
import PageSketch.Generation.Basic
import PageSketch.Markup.Source
import PageSketch.Settings.Store
import PageSketch.Sketch.Writer
import PageSketch.Proofs.Json.Value
import PageSketch.Proofs.Json.Grammar
import PageSketch.Proofs.Json.Tokens
import PageSketch.Proofs.Json.Soundness
import PageSketch.Proofs.Json.Completeness
import PageSketch.Proofs.Json.Document
import PageSketch.Proofs.Sketch.Decoding
import PageSketch.Proofs.Sketch.Shape
import PageSketch.Proofs.Reply.Classification
import PageSketch.Proofs.Json.Record
import PageSketch.Proofs.Sketch.Reading
import PageSketch.Proofs.Sketch.Sorting
import PageSketch.Proofs.Text.Blank
import PageSketch.Proofs.Reply.Paths
import PageSketch.Proofs.Json.Integers
import PageSketch.Proofs.Json.Writing
import PageSketch.Proofs.Sketch.Writing
import PageSketch.Proofs.Sketch.RoundTrip
import PageSketch.Proofs.Json.Within
import PageSketch.Proofs.Sketch.Within
import PageSketch.Proofs.Reply.Saved
import PageSketch.Proofs.Json.Respelling
import PageSketch.Proofs.Reply.Fences
import PageSketch.Proofs.Sketch.Numbers
import PageSketch.Proofs.Session.Traffic
import PageSketch.Proofs.Session.SingleFlight
import PageSketch.Proofs.Session.History
import PageSketch.Proofs.Session.Episodes
import PageSketch.Proofs.Check.Paths
import PageSketch.Proofs.Check.Located
import PageSketch.Proofs.Check.Violations
import PageSketch.Proofs.Markup.Breaks
import PageSketch.Proofs.Text.Pieces
import PageSketch.Proofs.Markup.Lines
import PageSketch.Proofs.Markup.Reading
import PageSketch.Proofs.Markup.Structure
import PageSketch.Proofs.Number.Shortest
import PageSketch.Proofs.Json.NumberTexts
import PageSketch.Proofs.Markup.Expression
import PageSketch.Proofs.Markup.Attributes
import PageSketch.Proofs.Markup.References
import PageSketch.Proofs.Markup.Imports
import PageSketch.Proofs.Text.Uppercase
import PageSketch.Proofs.Text.Lines
import PageSketch.Proofs.Markup.Identifiers
import PageSketch.Proofs.Markup.Script
import PageSketch.Proofs.Markup.Declarations
import PageSketch.Proofs.Generation.Questions
import PageSketch.Proofs.Generation.Stages
import PageSketch.Proofs.Generation.Decision
import PageSketch.Proofs.Generation.Modes
import PageSketch.Proofs.Number.Rounding
import PageSketch.Proofs.Json.Range
import PageSketch.Proofs.Chat.Request
import PageSketch.Proofs.Chat.Exchange
import PageSketch.Proofs.Files.Saving
import PageSketch.Proofs.Command.Steps
import PageSketch.Proofs.Command.Effects
import PageSketch.Proofs.Settings.Text
import PageSketch.Proofs.Command.Keys
import PageSketch.Proofs.Command.Settings
import PageSketch.Proofs.Sketch.Levels
import PageSketch.Proofs.Sketch.Stack
import PageSketch.Proofs.Reply.Depth
import PageSketch.Proofs.Reply.Stripping
import PageSketch.Proofs.Markup.Indentation
import PageSketch.Proofs.Json.Quantities
import PageSketch.Proofs.Sketch.Widths
import PageSketch.Proofs.Sketch.Pruning
import PageSketch.Proofs.Reply.Pruning
import PageSketch.Proofs.Check.Spots
import PageSketch.Proofs.Command.Secrecy
import PageSketch.Proofs.Files.Ways
import PageSketch.Proofs.Command.Independence
import PageSketch.Proofs.Text.Ranges
import PageSketch.Proofs.Text.IdentifierNames
import PageSketch.Proofs.Markup.Keys
import PageSketch.Proofs.Text.Raising
import PageSketch.Proofs.Markup.Words
import PageSketch.Proofs.Check.Totals
