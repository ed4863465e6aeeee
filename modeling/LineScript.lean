import LineScript.Arithmetic
import LineScript.Bindings
import LineScript.CommandLine.Arguments
import LineScript.CommandLine.Invocation
import LineScript.CommandLine.Usage
import LineScript.Files.Basic
import LineScript.Files.Directory
import LineScript.Files.Path
import LineScript.Json.Basic
import LineScript.Json.Printer
import LineScript.Listing
import LineScript.Machine.Basic
import LineScript.Machine.Console
import LineScript.Machine.Fault
import LineScript.Machine.Handlers
import LineScript.Machine.Journal
import LineScript.Machine.Phase
import LineScript.Machine.State
import LineScript.Machine.Work
import LineScript.Main
import LineScript.Mishap
import LineScript.Program
import LineScript.Proofs.CommandLine.Arguments
import LineScript.Proofs.CommandLine.Containment
import LineScript.Proofs.CommandLine.Modes
import LineScript.Proofs.CommandLine.Streams
import LineScript.Proofs.Journal.Course
import LineScript.Proofs.Journal.Numbering
import LineScript.Proofs.Journal.Pictures
import LineScript.Proofs.Journal.Trace
import LineScript.Proofs.Journal.Turns
import LineScript.Proofs.Json.Grammar
import LineScript.Proofs.Json.Numbers
import LineScript.Proofs.Json.RoundTrip
import LineScript.Proofs.Json.Texts
import LineScript.Proofs.Listing.Arrangement
import LineScript.Proofs.Listing.Characters
import LineScript.Proofs.Listing.Checks
import LineScript.Proofs.Listing.RoundTrip
import LineScript.Proofs.Listing.Values
import LineScript.Proofs.Machine.Alphabet
import LineScript.Proofs.Machine.Atomicity
import LineScript.Proofs.Machine.Blame
import LineScript.Proofs.Machine.Calculation
import LineScript.Proofs.Machine.Causality
import LineScript.Proofs.Machine.Dispatching
import LineScript.Proofs.Machine.Effects
import LineScript.Proofs.Machine.Exchange
import LineScript.Proofs.Machine.Forward
import LineScript.Proofs.Machine.Frame
import LineScript.Proofs.Machine.Growth
import LineScript.Proofs.Machine.InternalErrors
import LineScript.Proofs.Machine.Invariants
import LineScript.Proofs.Machine.LeadingWords
import LineScript.Proofs.Machine.LineFeeds
import LineScript.Proofs.Machine.Location
import LineScript.Proofs.Machine.Lockstep
import LineScript.Proofs.Machine.Operands
import LineScript.Proofs.Machine.Plan
import LineScript.Proofs.Machine.Position
import LineScript.Proofs.Machine.Resumption
import LineScript.Proofs.Machine.Snapshots
import LineScript.Proofs.Machine.Stack
import LineScript.Proofs.Machine.Steps
import LineScript.Proofs.Machine.Troubles
import LineScript.Proofs.Machine.Unmentioned
import LineScript.Proofs.Machine.Work
import LineScript.Proofs.Reference.Operations
import LineScript.Proofs.Reference.Refinement
import LineScript.Proofs.Reference.Semantics
import LineScript.Proofs.Reference.Sheet
import LineScript.Proofs.Report.Decoding
import LineScript.Proofs.Report.Entries
import LineScript.Proofs.Report.Limit
import LineScript.Proofs.Report.Template
import LineScript.Proofs.Report.Traceback
import LineScript.Proofs.Results
import LineScript.Proofs.Segment.Contents
import LineScript.Proofs.Segment.Enclosure
import LineScript.Proofs.Segment.Grammar
import LineScript.Proofs.Segment.Layout
import LineScript.Proofs.Segment.Outcome
import LineScript.Proofs.Statement.Forms
import LineScript.Proofs.Statement.Grammar
import LineScript.Proofs.Statement.Reading
import LineScript.Proofs.Text.Breaks
import LineScript.Proofs.Text.Classes
import LineScript.Proofs.Text.Encoding
import LineScript.Proofs.Text.Expressions
import LineScript.Proofs.Text.Lines
import LineScript.Proofs.Text.Numerals
import LineScript.Proofs.Text.Occurrences
import LineScript.Proofs.Text.OneLine
import LineScript.Proofs.Text.Positional
import LineScript.Proofs.Text.Search
import LineScript.Proofs.Text.Spans
import LineScript.Proofs.Value.Canonical
import LineScript.Proofs.Value.Integers
import LineScript.Proofs.Value.Operands
import LineScript.Report
import LineScript.Segment.Condition
import LineScript.Segment.Frame
import LineScript.Segment.Line
import LineScript.Segment.Load
import LineScript.Segment.LoadError
import LineScript.Statement.Basic
import LineScript.Statement.Parser
import LineScript.Text.Blank
import LineScript.Text.Case
import LineScript.Text.CaseRanges
import LineScript.Text.Digit
import LineScript.Text.DigitLimit
import LineScript.Text.Lines
import LineScript.Text.Quoted
import LineScript.Text.RangeTable
import LineScript.Text.Search
import LineScript.Text.UnprintableRanges
import LineScript.Text.Utf8
import LineScript.Text.Word
import LineScript.Text.WordRanges
import LineScript.Value
