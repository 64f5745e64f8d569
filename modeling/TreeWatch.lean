import TreeWatch.Main
import TreeWatch.Client.Timeline
import TreeWatch.Console
import TreeWatch.Demo
import TreeWatch.Ledger
import TreeWatch.Proofs.Operations
import TreeWatch.Proofs.Run
import TreeWatch.Proofs.Pending
import TreeWatch.Proofs.Json.Reading
import TreeWatch.Proofs.Markers
import TreeWatch.Proofs.Compaction
import TreeWatch.Proofs.Json.Quoting
import TreeWatch.Proofs.Json.Integers
import TreeWatch.Proofs.Json.Members
import TreeWatch.Proofs.Tables
import TreeWatch.Proofs.Wire
import TreeWatch.Proofs.Silence
import TreeWatch.Proofs.Resync
import TreeWatch.Proofs.Streaming
import TreeWatch.Proofs.Json.Cutting
import TreeWatch.Proofs.Boundaries
import TreeWatch.Proofs.Paints
import TreeWatch.Proofs.Repeats
import TreeWatch.Proofs.Rounds
import TreeWatch.Proofs.Failures
import TreeWatch.Proofs.Banner
import TreeWatch.Proofs.Columns
import TreeWatch.Proofs.Completion
import TreeWatch.Proofs.Lifetime
import TreeWatch.Proofs.Publishing
import TreeWatch.Proofs.Buffering
import TreeWatch.Proofs.Json.Objects
import TreeWatch.Proofs.Parsing
import TreeWatch.Proofs.Position
import TreeWatch.Proofs.Deadline
import TreeWatch.Proofs.DemoFeed
import TreeWatch.Proofs.Describing
import TreeWatch.Proofs.Text.Words
import TreeWatch.Proofs.Stopping
import TreeWatch.Proofs.Drawings
import TreeWatch.Proofs.Escaping
import TreeWatch.Proofs.Tails
import TreeWatch.Proofs.Printing
import TreeWatch.Proofs.Strips
import TreeWatch.Proofs.Json.Shapes
import TreeWatch.Proofs.Messages
import TreeWatch.Proofs.Rows
import TreeWatch.Proofs.Pacing
