import LogViewer.Command.Run
import LogViewer.Command.Screen
import LogViewer.Main
import LogViewer.Message.Highlight
import LogViewer.Proofs.Corpus.Loading
import LogViewer.Proofs.Document.Numbering
import LogViewer.Proofs.Query.Meaning
import LogViewer.Proofs.Viewer.Search
import LogViewer.Query.Terms
import LogViewer.Proofs.Document.GraphNumbering
import LogViewer.Proofs.Document.Steps
import LogViewer.Proofs.Corpus.Visit
import LogViewer.Proofs.Corpus.Conservation
import LogViewer.Proofs.Corpus.Accounting
import LogViewer.Proofs.Corpus.Order
import LogViewer.Proofs.Query.Terms
import LogViewer.Proofs.Viewer.Cycle
import LogViewer.Proofs.Viewer.Independence
import LogViewer.Proofs.Corpus.Chunks
import LogViewer.Proofs.Corpus.Fields
import LogViewer.Proofs.Command.Export
import LogViewer.Proofs.Command.Timeline
import LogViewer.Proofs.Query.Stack
import LogViewer.Proofs.Query.Quoted
import LogViewer.Proofs.Viewer.Range
import LogViewer.Proofs.Track.Viewport
import LogViewer.Proofs.Track.Center
import LogViewer.Proofs.Track.Separation
import LogViewer.Proofs.Track.Tight
import LogViewer.Proofs.Track.Scroll
import LogViewer.Proofs.Line.Dating
import LogViewer.Proofs.Line.Spaced
import LogViewer.Proofs.Corpus.Hits
import LogViewer.Proofs.Calendar.Canonical
import LogViewer.Proofs.Calendar.ReadBack
import LogViewer.Proofs.Corpus.Slices
import LogViewer.Proofs.Record.Category
import LogViewer.Proofs.Record.Search
import LogViewer.Proofs.Message.Pointing
import LogViewer.Proofs.Message.Nested
import LogViewer.Proofs.Record.Growth
import LogViewer.Proofs.Query.Leaves
import LogViewer.Proofs.Corpus.Paths
import LogViewer.Proofs.Json.Expanded
import LogViewer.Proofs.Track.Appending
import LogViewer.Proofs.Track.Positions
import LogViewer.Proofs.Corpus.Summary
import LogViewer.Proofs.Command.Encodings
