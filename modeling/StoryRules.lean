import StoryRules.Amount
import StoryRules.Channel
import StoryRules.Channel.Script
import StoryRules.Channel.Session
import StoryRules.CommandLine
import StoryRules.CommandLine.Arguments
import StoryRules.CommandLine.Path
import StoryRules.Config
import StoryRules.Datum
import StoryRules.Datum.Display
import StoryRules.Datum.Plain
import StoryRules.Decimal.Binary
import StoryRules.Decimal.Numeral
import StoryRules.Decimal.Shortest
import StoryRules.Draw
import StoryRules.Effect
import StoryRules.Effect.Apply
import StoryRules.Effect.Document
import StoryRules.Engine
import StoryRules.Engine.Audience
import StoryRules.Engine.Choices
import StoryRules.Engine.Entry
import StoryRules.Engine.Game
import StoryRules.Engine.Moves
import StoryRules.Engine.Operations
import StoryRules.Engine.Puzzles
import StoryRules.Event
import StoryRules.Fault
import StoryRules.Feed
import StoryRules.Json.Escape
import StoryRules.Json.Printer
import StoryRules.Json.Reader
import StoryRules.Log
import StoryRules.Main
import StoryRules.Media
import StoryRules.Number
import StoryRules.Pattern
import StoryRules.Pattern.CharSet
import StoryRules.Pattern.Cursor
import StoryRules.Pattern.Escape
import StoryRules.Pattern.Matcher
import StoryRules.Pattern.Problem
import StoryRules.Pattern.Reader
import StoryRules.Pattern.Tree
import StoryRules.Patterns
import StoryRules.Proofs.Amount
import StoryRules.Proofs.Amount.Clashes
import StoryRules.Proofs.Amount.Values
import StoryRules.Proofs.Channel
import StoryRules.Proofs.Channel.Order
import StoryRules.Proofs.CommandLine
import StoryRules.Proofs.Datum
import StoryRules.Proofs.Decimal.Conversion
import StoryRules.Proofs.Decimal.Quotient
import StoryRules.Proofs.Decimal.Rounding
import StoryRules.Proofs.Decimal.Shortest
import StoryRules.Proofs.Decimal.Whole
import StoryRules.Proofs.Draw
import StoryRules.Proofs.Draw.Nothing
import StoryRules.Proofs.Draw.Proportion
import StoryRules.Proofs.Effect.Accounts
import StoryRules.Proofs.Effect.Attempts
import StoryRules.Proofs.Effect.Cells
import StoryRules.Proofs.Effect.Chances
import StoryRules.Proofs.Effect.Document
import StoryRules.Proofs.Effect.Footprint
import StoryRules.Proofs.Effect.Independent
import StoryRules.Proofs.Effect.Journal
import StoryRules.Proofs.Effect.Keeps
import StoryRules.Proofs.Effect.Latest
import StoryRules.Proofs.Effect.Performs
import StoryRules.Proofs.Effect.Stops
import StoryRules.Proofs.Effect.Succeeds
import StoryRules.Proofs.Effect.Trace
import StoryRules.Proofs.Effect.Walk
import StoryRules.Proofs.Engine.Alike
import StoryRules.Proofs.Engine.Attempt
import StoryRules.Proofs.Engine.Catalog
import StoryRules.Proofs.Engine.Chain
import StoryRules.Proofs.Engine.Choices
import StoryRules.Proofs.Engine.Clock
import StoryRules.Proofs.Engine.Currencies
import StoryRules.Proofs.Engine.Entry
import StoryRules.Proofs.Engine.Gate
import StoryRules.Proofs.Engine.Hints
import StoryRules.Proofs.Engine.InPlay
import StoryRules.Proofs.Engine.Invariant
import StoryRules.Proofs.Engine.Judge
import StoryRules.Proofs.Engine.Mirror
import StoryRules.Proofs.Engine.Operations
import StoryRules.Proofs.Engine.Outcomes
import StoryRules.Proofs.Engine.Progress
import StoryRules.Proofs.Engine.Protocol
import StoryRules.Proofs.Engine.Redirects
import StoryRules.Proofs.Engine.Referenced
import StoryRules.Proofs.Engine.References
import StoryRules.Proofs.Engine.Reload
import StoryRules.Proofs.Engine.Returns
import StoryRules.Proofs.Engine.Savable
import StoryRules.Proofs.Engine.Succeeds
import StoryRules.Proofs.Engine.Transition
import StoryRules.Proofs.Engine.Words
import StoryRules.Proofs.Floating
import StoryRules.Proofs.Json.Digits
import StoryRules.Proofs.Json.Escape
import StoryRules.Proofs.Json.Numeral
import StoryRules.Proofs.Json.RoundTrip
import StoryRules.Proofs.Nesting
import StoryRules.Proofs.Number
import StoryRules.Proofs.Puzzle.Document
import StoryRules.Proofs.Puzzle.Fraction
import StoryRules.Proofs.Puzzle.Marks
import StoryRules.Proofs.Puzzle.Override
import StoryRules.Proofs.Puzzle.Score
import StoryRules.Proofs.Puzzle.Selection
import StoryRules.Proofs.Puzzle.Total
import StoryRules.Proofs.Puzzle.Variant
import StoryRules.Proofs.Rational
import StoryRules.Proofs.Requirement
import StoryRules.Proofs.Requirement.Document
import StoryRules.Proofs.Requirement.Evaluate
import StoryRules.Proofs.Requirement.Forms
import StoryRules.Proofs.Requirement.Influence
import StoryRules.Proofs.Requirement.Journal
import StoryRules.Proofs.Requirement.Meaning
import StoryRules.Proofs.Requirement.Normal
import StoryRules.Proofs.Requirement.Reached
import StoryRules.Proofs.Schema
import StoryRules.Proofs.Schema.Codec
import StoryRules.Proofs.Schema.Reports
import StoryRules.Proofs.State
import StoryRules.Proofs.State.Check
import StoryRules.Proofs.State.Given
import StoryRules.Proofs.State.Kept
import StoryRules.Proofs.State.Merge
import StoryRules.Proofs.State.Snapshot
import StoryRules.Proofs.State.Timeless
import StoryRules.Proofs.State.Updates
import StoryRules.Proofs.State.Written
import StoryRules.Proofs.Step
import StoryRules.Proofs.Story
import StoryRules.Proofs.Story.Decoding
import StoryRules.Proofs.Story.Document
import StoryRules.Proofs.Story.Load
import StoryRules.Proofs.Story.Read
import StoryRules.Proofs.Story.Reports
import StoryRules.Proofs.Table
import StoryRules.Proofs.Table.Overlay
import StoryRules.Proofs.Validation.Circles
import StoryRules.Proofs.Validation.Coverage
import StoryRules.Proofs.Validation.Decides
import StoryRules.Proofs.Validation.Ends
import StoryRules.Proofs.Validation.Loot
import StoryRules.Proofs.Validation.Meets
import StoryRules.Proofs.Validation.Redirects
import StoryRules.Proofs.Validation.Resolves
import StoryRules.Proofs.Validation.Sound
import StoryRules.Proofs.Validation.Warnings
import StoryRules.Proofs.Validation.WellFormed
import StoryRules.Puzzle
import StoryRules.Puzzle.Document
import StoryRules.Puzzle.Score
import StoryRules.Requirement
import StoryRules.Requirement.Document
import StoryRules.Requirement.Evaluate
import StoryRules.Schema.Problem
import StoryRules.Schema.Reader
import StoryRules.State
import StoryRules.State.Check
import StoryRules.State.Merge
import StoryRules.State.Snapshot
import StoryRules.Story
import StoryRules.Story.Document
import StoryRules.Story.Load
import StoryRules.Story.Metadata
import StoryRules.Table
import StoryRules.Text.Accent
import StoryRules.Text.Alphanumeric
import StoryRules.Text.Blank
import StoryRules.Text.Case
import StoryRules.Text.Digit
import StoryRules.Text.Identifier
import StoryRules.Text.Normalize
import StoryRules.Text.Printable
import StoryRules.Text.Quoted
import StoryRules.Text.Span
import StoryRules.Text.Variants
import StoryRules.Unchecked
import StoryRules.Validation
import StoryRules.Validation.Flaw
import StoryRules.Validation.Redirects
import StoryRules.Validation.References
import StoryRules.Weighted
