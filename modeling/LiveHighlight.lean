import LiveHighlight.Main
import LiveHighlight.Proofs.Daemon.Reopening
import LiveHighlight.Proofs.Daemon.Simulated
import LiveHighlight.Proofs.Session.Cancellation
import LiveHighlight.Proofs.Session.Custody
import LiveHighlight.Proofs.Session.Retries
import LiveHighlight.Proofs.Session.Scene
import LiveHighlight.Proofs.Span.Composition
import LiveHighlight.Rehearsal.LayerScript
import LiveHighlight.Rehearsal.MountScript
import LiveHighlight.Proofs.Annotation.Ranking
import LiveHighlight.Proofs.Editor.Announcements
import LiveHighlight.Proofs.Files.Contents
import LiveHighlight.Proofs.Mounts.Frame
import LiveHighlight.Proofs.Files.Lines
import LiveHighlight.Proofs.Span.Characters
import LiveHighlight.Proofs.Annotation.Comments
import LiveHighlight.Proofs.Mounts.Scripts
import LiveHighlight.Proofs.Mounts.Course
import LiveHighlight.Proofs.Mounts.Completion
import LiveHighlight.Proofs.Editor.Failures
import LiveHighlight.Proofs.Retry.Doubling
import LiveHighlight.Proofs.Span.Coverage
import LiveHighlight.Proofs.Span.Sequences
import LiveHighlight.Proofs.Retry.Ceilings
import LiveHighlight.Proofs.Burst.Alternation
import LiveHighlight.Proofs.Burst.Coalescing
import LiveHighlight.Proofs.Styles.Applying
import LiveHighlight.Proofs.Style.Sheets
import LiveHighlight.Proofs.Language.Commands
import LiveHighlight.Proofs.Language.Lines
import LiveHighlight.Proofs.Language.Additions
import LiveHighlight.Proofs.Language.Registrations
import LiveHighlight.Proofs.Editor.ControlLines
import LiveHighlight.Proofs.Editor.Streams
import LiveHighlight.Proofs.Daemon.Reconnects
import LiveHighlight.Proofs.Session.LayerUse
import LiveHighlight.Proofs.Span.Rearrangement
import LiveHighlight.Proofs.Span.Encoding
import LiveHighlight.Proofs.Annotation.Overrides
import LiveHighlight.Proofs.Span.Traversal
import LiveHighlight.Proofs.Editor.FirstLines
import LiveHighlight.Proofs.Session.Joining
