import LanguageClient.Json.Write
import LanguageClient.Main
import LanguageClient.Proofs.Completion.Typing
import LanguageClient.Proofs.Folding.Applying
import LanguageClient.Proofs.Folding.Overlap
import LanguageClient.Proofs.Folding.Clearing
import LanguageClient.Proofs.Folding.Repetition
import LanguageClient.Proofs.Folding.Sessions
import LanguageClient.Proofs.Folding.StampGate
import LanguageClient.Session.Broadcast
import LanguageClient.Snippet.Tree
import LanguageClient.Proofs.Edit.Atomicity
import LanguageClient.Proofs.Completion.Staleness
import LanguageClient.Proofs.Snippet.Reader
import LanguageClient.Proofs.Snippet.RoundTrip
import LanguageClient.Proofs.Server.Sending
import LanguageClient.Proofs.Completion.Gathering
import LanguageClient.Proofs.Completion.Timing
import LanguageClient.Proofs.Folding.Entries
import LanguageClient.Session.AnnotatedDocument
import LanguageClient.Proofs.Folding.Continuations
import LanguageClient.Proofs.Folding.Tracking
import LanguageClient.Proofs.Folding.Uninstalling
import LanguageClient.Proofs.Server.Lifecycle
import LanguageClient.Proofs.Document.Positions
import LanguageClient.Proofs.Folding.LineEdits
import LanguageClient.Proofs.Completion.Independence
import LanguageClient.Proofs.Folding.NonCrossing
import LanguageClient.Proofs.Folding.Survivors
import LanguageClient.Proofs.Folding.Frame
import LanguageClient.Proofs.Completion.Offering
import LanguageClient.Proofs.Completion.CanonicalOrder
import LanguageClient.Proofs.Completion.Matching
import LanguageClient.Proofs.Completion.Styling
import LanguageClient.Proofs.Snippet.Course
import LanguageClient.Proofs.Completion.RangeOrder
import LanguageClient.Proofs.Completion.Committing
import LanguageClient.Proofs.Snippet.Malformed
import LanguageClient.Proofs.Folding.Command
import LanguageClient.Proofs.Document.LinePartition
