import ShardStore.Bounded
import ShardStore.CommandLine.Options
import ShardStore.CommandLine.Similarity
import ShardStore.Config.Basic
import ShardStore.Config.Decode
import ShardStore.Config.Decoder
import ShardStore.Config.Encode
import ShardStore.Config.Fault
import ShardStore.Config.Load
import ShardStore.Counted.Basic
import ShardStore.Counted.Report
import ShardStore.Counted.Run
import ShardStore.Counted.Sharded
import ShardStore.Counted.Writer
import ShardStore.Deque
import ShardStore.Document.Cursor
import ShardStore.Document.Layout
import ShardStore.Document.Name
import ShardStore.Document.Node
import ShardStore.Document.Scalar.Block
import ShardStore.Document.Scalar.Folding
import ShardStore.Document.Scalar.Plain
import ShardStore.Document.Scalar.Quoted
import ShardStore.Document.Token
import ShardStore.Document.Tree
import ShardStore.Error
import ShardStore.Files
import ShardStore.Hash.Basic
import ShardStore.Hash.Digest
import ShardStore.Hash.Text
import ShardStore.KeySet
import ShardStore.Log.Directive
import ShardStore.Log.Event
import ShardStore.Log.FieldValue
import ShardStore.Log.Filter
import ShardStore.Log.Render
import ShardStore.Main
import ShardStore.Memory
import ShardStore.Number.Decimal
import ShardStore.Number.Integer
import ShardStore.Pattern.Check
import ShardStore.Pattern.Escape
import ShardStore.Pattern.Reader
import ShardStore.Pattern.Switches
import ShardStore.Pattern.Token
import ShardStore.Program
import ShardStore.Proofs.Bounded.Batch
import ShardStore.Proofs.Bounded.Limit
import ShardStore.Proofs.Bounded.Unbounded
import ShardStore.Proofs.Config.RoundTrip
import ShardStore.Proofs.Config.Sizes
import ShardStore.Proofs.Construction
import ShardStore.Proofs.Counted.Agreement
import ShardStore.Proofs.Counted.Interchange
import ShardStore.Proofs.Counted.Placement
import ShardStore.Proofs.Counted.Shards
import ShardStore.Proofs.Counted.Turns
import ShardStore.Proofs.Deque.Order
import ShardStore.Proofs.Error
import ShardStore.Proofs.Hash.Reading
import ShardStore.Proofs.Hash.Text
import ShardStore.Proofs.Interchange
import ShardStore.Proofs.KeySet.Agreement
import ShardStore.Proofs.Making
import ShardStore.Proofs.Refusal
import ShardStore.Proofs.Reordering
import ShardStore.Proofs.Sharded.Agreement
import ShardStore.Proofs.Sharded.ByNumber
import ShardStore.Proofs.Sharded.Contents
import ShardStore.Proofs.Sharded.Flatten
import ShardStore.Proofs.Sharded.Interchange
import ShardStore.Proofs.Sharded.Isolation
import ShardStore.Proofs.Sharded.Misplaced
import ShardStore.Proofs.Sharded.Placement
import ShardStore.Proofs.Sharded.Refusal
import ShardStore.Proofs.Sharded.Removal
import ShardStore.Proofs.Sharded.Slots
import ShardStore.Proofs.Sharded.Step
import ShardStore.Proofs.Sharded.Walk
import ShardStore.Proofs.Store.Batch
import ShardStore.Proofs.Store.Cell
import ShardStore.Proofs.Store.History
import ShardStore.Proofs.Store.Interchange
import ShardStore.Proofs.Store.Refusal
import ShardStore.Proofs.Store.Run
import ShardStore.Proofs.Table.Listing
import ShardStore.Proofs.Table.Order
import ShardStore.Proofs.Undo
import ShardStore.Proofs.Visitor
import ShardStore.Proofs.Workload.Chunks
import ShardStore.Proofs.Workload.SingleWriter
import ShardStore.Proofs.Workload.Split
import ShardStore.Routing
import ShardStore.Sharded.Basic
import ShardStore.Sharded.Report
import ShardStore.Slot
import ShardStore.Store.Basic
import ShardStore.Store.Transactional
import ShardStore.Table.Basic
import ShardStore.Table.EntryList
import ShardStore.Table.HashTable
import ShardStore.Table.Lawful
import ShardStore.Table.SlotTable
import ShardStore.Table.Slots
import ShardStore.Text.Alphanumeric
import ShardStore.Text.Digits
import ShardStore.Text.Escape
import ShardStore.Text.Quoted
import ShardStore.Text.Runs
import ShardStore.Text.Spaces
import ShardStore.Text.Terminal
import ShardStore.Text.Unprintable
import ShardStore.Walk
import ShardStore.Workload
