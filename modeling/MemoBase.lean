import MemoBase.CommandLine.Run
import MemoBase.Desk.Basic
import MemoBase.Filter.Change
import MemoBase.Filter.Shelf
import MemoBase.Main
import MemoBase.Memo.Identity
import MemoBase.Proofs.Command.Reloaded
import MemoBase.Proofs.Query.Reading
import MemoBase.Proofs.Sheet.Concatenation
import MemoBase.Proofs.Sheet.Rereading
import MemoBase.Proofs.Sheet.Growth
import MemoBase.Proofs.Desk.Sharing
import MemoBase.Proofs.Command.Lookup
import MemoBase.Proofs.Command.Stored
import MemoBase.Proofs.Number.Order
import MemoBase.Proofs.Number.Notation
import MemoBase.Proofs.Filter.Coercion
import MemoBase.Proofs.Filter.Conjunction
import MemoBase.Proofs.Query.Comparison
import MemoBase.Proofs.Query.Composition
import MemoBase.Proofs.Text.Segments
import MemoBase.Proofs.Sheet.Shorthand
import MemoBase.Proofs.Sheet.Layout
import MemoBase.Proofs.Query.Position
import MemoBase.Proofs.Query.Partition
import MemoBase.Proofs.Command.Filling
import MemoBase.Proofs.Number.Significance
import MemoBase.Proofs.Number.Grid
import MemoBase.Proofs.Number.Interval
import MemoBase.Proofs.Number.Fewest
import MemoBase.Proofs.Command.Narrowing
import MemoBase.Proofs.Command.Listing
import MemoBase.Proofs.Filter.Equality
import MemoBase.Proofs.CommandLine.Run
import MemoBase.Proofs.Toml.Document
import MemoBase.Proofs.Files.Path
import MemoBase.Proofs.Text.Pattern
import MemoBase.Proofs.Sheet.Pattern
import MemoBase.Desk.Scan
import MemoBase.Proofs.Desk.Scan
import MemoBase.Proofs.Desk.Target
