import LineRules.CallLog
import LineRules.Command
import LineRules.Main
import LineRules.Proofs.Compose.Calls
import LineRules.Proofs.Compose.Grammar
import LineRules.Proofs.Recorder.Acceptance
import LineRules.Proofs.Recorder.Invariant
import LineRules.Proofs.Recorder.Refusals
import LineRules.Proofs.Recorder.Replay
import LineRules.Proofs.Recorder.Tolerance
import LineRules.Proofs.Session.Independence
import LineRules.Proofs.Session.Stopping
import LineRules.Proofs.Tracker.Visits
import LineRules.Proofs.Recorder.FieldPaths
import LineRules.Proofs.Compose.Duplicates
import LineRules.Proofs.Compose.FirstOffence
import LineRules.Proofs.Text.Digits
import LineRules.Proofs.Text.Quoting
import LineRules.Proofs.Listing
import LineRules.Proofs.Json.Tokens
import LineRules.Proofs.Json.RoundTrip
import LineRules.Proofs.Document.RoundTrip
import LineRules.Proofs.Text.Spans
import LineRules.Proofs.Naming.Words
import LineRules.Proofs.Naming.Snake
import LineRules.Proofs.Naming.Camel
import LineRules.Proofs.Naming.Policies
import LineRules.Proofs.Command.Agreement
import LineRules.Proofs.Listing.Layout
import LineRules.Proofs.Document.Invariance
import LineRules.Proofs.Compose.Bookkeeping
import LineRules.Proofs.Path.Segments
import LineRules.Proofs.Naming.Boundaries
